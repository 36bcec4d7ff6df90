import AvantimePlatform.Documents.MetadataWrites

/-!
# New records in the metadata table

`withProcessingDefaults` of `document-repositories.ts`, `create` of
`PostgreSQLDocumentMetadataRepository`, and the lookups of live and of deleted records.
A record that `create` has taken is one the reader accepts.
-/

namespace AvantimePlatform.Documents.Record

open AvantimePlatform.Checked AvantimePlatform.Text

/-! ## The defaults -/

/-- `CreateDocumentMetadata`: `none` is a member that is left out. -/
structure CreateDocumentMetadata where
  id : String
  status : DocumentProcessingStatus
  originalName : String
  storedName : String
  mimeType : String
  size : JsNumber
  checksum : String
  createdAt : String
  updatedAt : String
  processingAttempts : Option JsNumber := none
  lastErrorCode : Option (Option String) := none
  lastErrorMessage : Option (Option String) := none
  processingStartedAt : Option (Option String) := none
  processingCompletedAt : Option (Option String) := none
  nextRetryAt : Option (Option String) := none
  quarantinedAt : Option (Option String) := none
  workerId : Option (Option String) := none
  workerVersion : Option (Option String) := none
  deploymentGeneration : Option (Option String) := none
  processingFencingToken : Option JsNumber := none
  workerHeartbeatAt : Option (Option String) := none
  processingLeaseUntil : Option (Option String) := none
  pages : Option (Option JsNumber) := none
  textLength : Option (Option JsNumber) := none
  chunksCount : Option (Option JsNumber) := none
  detectedDocumentType : Option DocumentType := none
  detectedMimeType : Option (Option String) := none
  detectionConfidence : Option (Option JsNumber) := none
  textExtractionMethod : Option DocumentTextExtractionMethod := none
  ocrStatus : Option DocumentOcrStatus := none
  ocrProvider : Option (Option String) := none
  ocrLanguage : Option (Option String) := none
  ocrStartedAt : Option (Option String) := none
  ocrCompletedAt : Option (Option String) := none
  pageCount : Option (Option JsNumber) := none
  extractedCharacterCount : Option (Option JsNumber) := none
  requiresManualReview : Option Bool := none
  intelligenceVersion : Option String := none
  embeddingStatus : Option DocumentEmbeddingStatus := none
  embeddingModel : Option (Option String) := none
  embeddingDimensions : Option (Option JsNumber) := none
  embeddingVersion : Option (Option String) := none
  embeddedAt : Option (Option String) := none
  embeddingAttempts : Option JsNumber := none
  lastEmbeddingErrorCode : Option (Option String) := none
  embeddingContentHash : Option (Option String) := none
  embeddingWorkerId : Option (Option String) := none
  embeddingWorkerVersion : Option (Option String) := none
  embeddingDeploymentGeneration : Option (Option String) := none
  embeddingFencingToken : Option JsNumber := none
  embeddingHeartbeatAt : Option (Option String) := none
  embeddingLeaseUntil : Option (Option String) := none
deriving DecidableEq

/-- `withProcessingDefaults`. -/
def withProcessingDefaults (metadata : CreateDocumentMetadata) (tenant : DocumentTenantContext) :
    DocumentMetadata :=
  let intelligence := defaultDocumentIntelligenceMetadata
  { id := metadata.id
    companyId := tenant.companyId
    uploadedBy := tenant.userId
    status := metadata.status
    originalName := metadata.originalName
    storedName := metadata.storedName
    mimeType := metadata.mimeType
    size := metadata.size
    checksum := metadata.checksum
    createdAt := metadata.createdAt
    updatedAt := metadata.updatedAt
    deletedAt := none
    processingAttempts := metadata.processingAttempts.getD (.finite 0)
    lastErrorCode := metadata.lastErrorCode.join
    lastErrorMessage := metadata.lastErrorMessage.join
    processingStartedAt := metadata.processingStartedAt.join
    processingCompletedAt := metadata.processingCompletedAt.join
    nextRetryAt := metadata.nextRetryAt.join
    quarantinedAt := metadata.quarantinedAt.join
    workerId := metadata.workerId.join
    workerVersion := some metadata.workerVersion.join
    deploymentGeneration := some metadata.deploymentGeneration.join
    processingFencingToken := some (metadata.processingFencingToken.getD (.finite 0))
    workerHeartbeatAt := some metadata.workerHeartbeatAt.join
    processingLeaseUntil := some metadata.processingLeaseUntil.join
    pages := metadata.pages.join
    textLength := metadata.textLength.join
    chunksCount := metadata.chunksCount.join
    detectedDocumentType := metadata.detectedDocumentType.getD intelligence.detectedDocumentType
    detectedMimeType := metadata.detectedMimeType.join.or intelligence.detectedMimeType
    detectionConfidence := metadata.detectionConfidence.join.or intelligence.detectionConfidence
    textExtractionMethod := metadata.textExtractionMethod.getD intelligence.textExtractionMethod
    ocrStatus := metadata.ocrStatus.getD intelligence.ocrStatus
    ocrProvider := metadata.ocrProvider.join.or intelligence.ocrProvider
    ocrLanguage := metadata.ocrLanguage.join.or intelligence.ocrLanguage
    ocrStartedAt := metadata.ocrStartedAt.join.or intelligence.ocrStartedAt
    ocrCompletedAt := metadata.ocrCompletedAt.join.or intelligence.ocrCompletedAt
    pageCount := metadata.pageCount.join.or intelligence.pageCount
    extractedCharacterCount :=
      metadata.extractedCharacterCount.join.or intelligence.extractedCharacterCount
    requiresManualReview := metadata.requiresManualReview.getD intelligence.requiresManualReview
    intelligenceVersion := metadata.intelligenceVersion.getD intelligence.intelligenceVersion
    embeddingStatus := metadata.embeddingStatus.getD .pending
    embeddingModel := metadata.embeddingModel.join
    embeddingDimensions := metadata.embeddingDimensions.join
    embeddingVersion := metadata.embeddingVersion.join
    embeddedAt := metadata.embeddedAt.join
    embeddingAttempts := metadata.embeddingAttempts.getD (.finite 0)
    lastEmbeddingErrorCode := metadata.lastEmbeddingErrorCode.join
    embeddingContentHash := metadata.embeddingContentHash.join
    embeddingWorkerId := some metadata.embeddingWorkerId.join
    embeddingWorkerVersion := some metadata.embeddingWorkerVersion.join
    embeddingDeploymentGeneration := some metadata.embeddingDeploymentGeneration.join
    embeddingFencingToken := some (metadata.embeddingFencingToken.getD (.finite 0))
    embeddingHeartbeatAt := some metadata.embeddingHeartbeatAt.join
    embeddingLeaseUntil := some metadata.embeddingLeaseUntil.join }

/-! ## The insert -/

section Insert

variable {Instant : Type}

/-- `value ? parseDocumentDate(value) : null`, of a date that has been checked. -/
def dateCell (runtime : DateRuntime Instant) (value : Option String) : Option Instant :=
  value.bind runtime.parse

/-- The `data` of the insert, of a record that has been checked. -/
def insertedRow (runtime : DateRuntime Instant) (document : DocumentMetadata)
    (createdAt updatedAt : Instant) : DatabaseDocumentRecord Instant where
  id := document.id
  companyId := document.companyId
  uploadedBy := document.uploadedBy
  status := document.status
  createdAt := createdAt
  updatedAt := updatedAt
  deletedAt := none
  originalName := document.originalName
  storedName := document.storedName
  mimeType := document.mimeType
  size := document.size
  checksum := document.checksum
  processingAttempts := document.processingAttempts
  lastErrorCode := document.lastErrorCode
  lastErrorMessage := document.lastErrorMessage
  processingStartedAt := dateCell runtime document.processingStartedAt
  processingCompletedAt := dateCell runtime document.processingCompletedAt
  nextRetryAt := dateCell runtime document.nextRetryAt
  quarantinedAt := dateCell runtime document.quarantinedAt
  workerId := document.workerId
  workerVersion := document.workerVersion.join
  deploymentGeneration := document.deploymentGeneration.join
  processingFencingToken := document.processingFencingToken.getD (.finite 0)
  workerHeartbeatAt := dateCell runtime document.workerHeartbeatAt.join
  processingLeaseUntil := dateCell runtime document.processingLeaseUntil.join
  pages := document.pages
  textLength := document.textLength
  chunksCount := document.chunksCount
  detectedDocumentType := document.detectedDocumentType
  detectedMimeType := document.detectedMimeType
  detectionConfidence := document.detectionConfidence
  textExtractionMethod := document.textExtractionMethod
  ocrStatus := document.ocrStatus
  ocrProvider := document.ocrProvider
  ocrLanguage := document.ocrLanguage
  ocrStartedAt := dateCell runtime document.ocrStartedAt
  ocrCompletedAt := dateCell runtime document.ocrCompletedAt
  pageCount := document.pageCount
  extractedCharacterCount := document.extractedCharacterCount
  requiresManualReview := document.requiresManualReview
  intelligenceVersion := document.intelligenceVersion
  embeddingStatus := document.embeddingStatus
  embeddingModel := document.embeddingModel
  embeddingDimensions := document.embeddingDimensions
  embeddingVersion := document.embeddingVersion
  embeddedAt := dateCell runtime document.embeddedAt
  embeddingAttempts := document.embeddingAttempts
  lastEmbeddingErrorCode := document.lastEmbeddingErrorCode
  embeddingContentHash := document.embeddingContentHash
  embeddingWorkerId := document.embeddingWorkerId.join
  embeddingWorkerVersion := document.embeddingWorkerVersion.join
  embeddingDeploymentGeneration := document.embeddingDeploymentGeneration.join
  embeddingFencingToken := document.embeddingFencingToken.getD (.finite 0)
  embeddingHeartbeatAt := dateCell runtime document.embeddingHeartbeatAt.join
  embeddingLeaseUntil := dateCell runtime document.embeddingLeaseUntil.join

namespace DatabaseDocumentRecord

/-- The texts of a row. -/
def texts (row : DatabaseDocumentRecord Instant) : List (Option String) :=
  [row.id, row.companyId, row.uploadedBy, row.originalName, row.storedName, row.mimeType,
   row.checksum, row.lastErrorCode, row.lastErrorMessage, row.workerId, row.workerVersion,
   row.deploymentGeneration, row.detectedMimeType, row.ocrProvider, row.ocrLanguage,
   row.intelligenceVersion, row.embeddingModel, row.embeddingVersion, row.lastEmbeddingErrorCode,
   row.embeddingContentHash, row.embeddingWorkerId, row.embeddingWorkerVersion,
   row.embeddingDeploymentGeneration]

/-- Its integers. -/
def integers (row : DatabaseDocumentRecord Instant) : List (Option JsNumber) :=
  [row.size, row.processingAttempts, row.processingFencingToken, row.pages, row.textLength,
   row.chunksCount, row.pageCount, row.extractedCharacterCount, row.embeddingDimensions,
   row.embeddingAttempts, row.embeddingFencingToken]

/-- Its dates. -/
def timestamps (row : DatabaseDocumentRecord Instant) : List (Option Instant) :=
  [row.createdAt, row.updatedAt, row.deletedAt, row.processingStartedAt,
   row.processingCompletedAt, row.nextRetryAt, row.quarantinedAt, row.workerHeartbeatAt,
   row.processingLeaseUntil, row.ocrStartedAt, row.ocrCompletedAt, row.embeddedAt,
   row.embeddingHeartbeatAt, row.embeddingLeaseUntil]

/-- The client takes the values of an insert. -/
def binds (runtime : DateRuntime Instant) (row : DatabaseDocumentRecord Instant) : Bool :=
  row.texts.all (·.all isText) && row.integers.all (·.all isInteger32) &&
    row.detectionConfidence.all JsNumber.isFinite &&
    row.timestamps.all (·.all runtime.isTimestamp)

end DatabaseDocumentRecord

namespace DocumentMetadataTable

/-- The message of an insert that the client or the table refuses. -/
def insertRefused : String := "Invalid invocation of documentMetadata.create()."

/-- The insert. -/
def insert (table : DocumentMetadataTable Instant) (row : DatabaseDocumentRecord Instant) :
    Except String (DocumentMetadataTable Instant) :=
  if h : KeyedList.find documentKey (documentKey row) table.rows = none ∧
      row.MeetsConstraints then
    .ok
      { rows := table.rows ++ [row]
        keys := KeyedList.distinct_append_new table.keys h.1
        constraints := by
          intro other hother
          rcases List.mem_append.mp hother with hold | hnew
          · exact table.constraints other hold
          · rw [List.mem_singleton.mp hnew]
            exact h.2 }
  else .error insertRefused

theorem insert_eq_ok {table : DocumentMetadataTable Instant} {row : DatabaseDocumentRecord Instant}
    (h : KeyedList.find documentKey (documentKey row) table.rows = none ∧ row.MeetsConstraints) :
    ∃ written, table.insert row = .ok written ∧ written.rows = table.rows ++ [row] := by
  unfold insert
  rw [dif_pos h]
  exact ⟨_, rfl, rfl⟩

end DocumentMetadataTable

namespace PostgreSQLDocumentMetadataRepository

/-- The row that `create` makes, after its checks. -/
def createdRow (runtime : DateRuntime Instant) (tenant : DocumentTenantContext)
    (metadata : CreateDocumentMetadata) : Except String (DatabaseDocumentRecord Instant) := do
  assertDocumentTenantContext tenant
  let document := withProcessingDefaults metadata tenant
  document.validate runtime.dates
  match runtime.parse document.createdAt, runtime.parse document.updatedAt with
  | some createdAt, some updatedAt => return insertedRow runtime document createdAt updatedAt
  | _, _ => .error "createdAt must be a valid date."

/-- `create`. -/
def create (runtime : DateRuntime Instant) (table : DocumentMetadataTable Instant)
    (tenant : DocumentTenantContext) (metadata : CreateDocumentMetadata) :
    Except String DocumentMetadata × DocumentMetadataTable Instant :=
  match createdRow runtime tenant metadata with
  | .error e => (.error e, table)
  | .ok row =>
    if row.binds runtime = false then (.error DocumentMetadataTable.insertRefused, table)
    else
      match table.insert row with
      | .error e => (.error e, table)
      | .ok written => (mapDatabaseDocument runtime row, written)

/-- `findDeletedById`. -/
def findDeletedById (runtime : DateRuntime Instant) (table : DocumentMetadataTable Instant)
    (tenant : DocumentTenantContext) (documentId : String) :
    Except String (Option DocumentMetadata) := do
  assertDocumentTenantContext tenant
  assertSafeDocumentSegment documentId "document id"
  match table.rows.find? fun row =>
    row.companyId == tenant.companyId && row.id == documentId && row.deletedAt.isSome with
  | none => return none
  | some row => return some (← mapDatabaseDocument runtime row)

/-! ## What is accepted -/

variable {runtime : DateRuntime Instant} {table : DocumentMetadataTable Instant}
  {tenant : DocumentTenantContext} {metadata : CreateDocumentMetadata}
  {row : DatabaseDocumentRecord Instant} {document : DocumentMetadata}

/-- The reader accepts the row of a record that has been checked. -/
theorem readable_insertedRow {createdAt updatedAt : Instant}
    (hvalid : document.validate runtime.dates = .ok ()) (hlive : document.status ≠ .deleted) :
    Readable runtime (insertedRow runtime document createdAt updatedAt) := by
  obtain ⟨h, -⟩ := validate_eq_ok.mp hvalid
  have hzero : (JsNumber.finite 0).isSafeInteger = true ∧
      (JsNumber.finite 0).isNonNegative = true := by decide
  have hcounter (value : Option JsNumber)
      (hvalue : ∀ n ∈ value, n.isSafeInteger = true ∧ n.isNonNegative = true) :
      ∀ n ∈ some (value.getD (.finite 0)), n.isSafeInteger = true ∧ n.isNonNegative = true := by
    intro n hn
    rw [← Option.some.inj hn]
    cases value with
    | none => exact hzero
    | some value => exact hvalue value rfl
  have hattempts : isCounter document.embeddingAttempts = true := by
    unfold isCounter
    rw [h.embeddingAttempts.1, h.embeddingAttempts.2]
    rfl
  have hstatus : decide (document.status = .deleted) = isSet none := by
    simp [isSet, hlive]
  rw [readable_iff]
  exact {
    id := h.id
    companyId := h.companyId
    uploadedBy := h.uploadedBy
    storedName := h.storedName
    checksum := h.checksum
    originalName := h.originalName
    mimeType := h.mimeType
    size := h.size
    processingAttempts := h.processingAttempts
    lastErrorCode := h.lastErrorCode
    lastErrorMessage := h.lastErrorMessage
    workerId := h.workerId
    workerVersion := h.workerVersion
    deploymentGeneration := h.deploymentGeneration
    processingFencingToken := hcounter _ h.processingFencingToken
    embeddingWorkerId := h.embeddingWorkerId
    embeddingWorkerVersion := h.embeddingWorkerVersion
    embeddingDeploymentGeneration := h.embeddingDeploymentGeneration
    embeddingFencingToken := hcounter _ h.embeddingFencingToken
    deleted := hstatus
    detectionConfidence := h.detectionConfidence
    pageCount := h.pageCount
    extractedCharacterCount := h.extractedCharacterCount
    intelligenceVersion := h.intelligenceVersion
    embeddingDimensions := h.embeddingDimensions
    embeddingAttempts := by
      have hsame : (documentOf runtime
          (insertedRow runtime document createdAt updatedAt)).embeddingAttempts =
            document.embeddingAttempts := if_pos hattempts
      rw [hsame]
      exact h.embeddingAttempts
    lastEmbeddingErrorCode := h.lastEmbeddingErrorCode
    embeddingContentHash := h.embeddingContentHash }

/-- What a created row is. -/
theorem createdRow_eq_ok (h : createdRow runtime tenant metadata = .ok row) :
    assertDocumentTenantContext tenant = .ok () ∧
      (withProcessingDefaults metadata tenant).validate runtime.dates = .ok () ∧
      ∃ createdAt updatedAt, runtime.parse metadata.createdAt = some createdAt ∧
        runtime.parse metadata.updatedAt = some updatedAt ∧
        row = insertedRow runtime (withProcessingDefaults metadata tenant) createdAt updatedAt := by
  unfold createdRow at h
  dsimp only at h
  rw [seq_eq_ok, seq_eq_ok] at h
  obtain ⟨htenant, hvalid, hrow⟩ := h
  refine ⟨htenant, hvalid, ?_⟩
  split at hrow
  · next createdAt updatedAt hcreated hupdated =>
      exact ⟨createdAt, updatedAt, hcreated, hupdated, (Except.ok.inj hrow).symm⟩
  · cases hrow

theorem readable_of_createdRow (h : createdRow runtime tenant metadata = .ok row) :
    Readable runtime row := by
  obtain ⟨-, hvalid, createdAt, updatedAt, -, -, rfl⟩ := createdRow_eq_ok h
  apply readable_insertedRow hvalid
  intro hdeleted
  have hset := (validate_eq_ok.mp hvalid).1.deleted
  rw [decide_eq_true hdeleted] at hset
  cases hset

theorem documentKey_of_createdRow (h : createdRow runtime tenant metadata = .ok row) :
    documentKey row = (tenant.companyId, metadata.id) := by
  obtain ⟨-, -, createdAt, updatedAt, -, -, rfl⟩ := createdRow_eq_ok h
  rfl

/-- The record passes the checks of `create`, and the client and the table take its row. -/
def Creatable (runtime : DateRuntime Instant) (tenant : DocumentTenantContext)
    (metadata : CreateDocumentMetadata) : Prop :=
  ∃ row, createdRow runtime tenant metadata = .ok row ∧ row.binds runtime = true ∧
    row.MeetsConstraints

instance (runtime : DateRuntime Instant) (tenant : DocumentTenantContext)
    (metadata : CreateDocumentMetadata) : Decidable (Creatable runtime tenant metadata) :=
  match h : createdRow runtime tenant metadata with
  | .error _ => isFalse fun ⟨row, hrow, _⟩ => by
      rw [h] at hrow
      cases hrow
  | .ok row =>
    decidable_of_iff (row.binds runtime = true ∧ row.MeetsConstraints)
      ⟨fun hrow => ⟨row, h, hrow⟩, fun ⟨other, hother, hrow⟩ => by
        rw [h] at hother
        rw [Except.ok.inj hother]
        exact hrow⟩

/-- A record under a new key is created when it can be. -/
theorem create_of_creatable (hrow : createdRow runtime tenant metadata = .ok row)
    (hbinds : row.binds runtime = true) (hmeets : row.MeetsConstraints)
    (hnew : KeyedList.find documentKey (tenant.companyId, metadata.id) table.rows = none) :
    ∃ written, written.rows = table.rows ++ [row] ∧
      create runtime table tenant metadata = (.ok (documentOf runtime row), written) := by
  have hkey := documentKey_of_createdRow hrow
  have hinsert : KeyedList.find documentKey (documentKey row) table.rows = none ∧
      row.MeetsConstraints := ⟨by rw [hkey]; exact hnew, hmeets⟩
  obtain ⟨written, hwritten, hrows⟩ := DocumentMetadataTable.insert_eq_ok hinsert
  refine ⟨written, hrows, ?_⟩
  unfold create
  rw [hrow]
  dsimp only
  rw [if_neg (by rw [hbinds]; exact Bool.noConfusion), hwritten]
  dsimp only
  rw [mapDatabaseDocument_of_readable (readable_of_createdRow hrow)]

/-- `create` refuses and leaves the table as it is, or it appends the row of a record whose key
was free. -/
theorem create_cases (runtime : DateRuntime Instant) (table : DocumentMetadataTable Instant)
    (tenant : DocumentTenantContext) (metadata : CreateDocumentMetadata) :
    (∃ e, create runtime table tenant metadata = (.error e, table)) ∨
      ∃ row written, createdRow runtime tenant metadata = .ok row ∧
        KeyedList.find documentKey (tenant.companyId, metadata.id) table.rows = none ∧
        written.rows = table.rows ++ [row] ∧
        create runtime table tenant metadata = (.ok (documentOf runtime row), written) := by
  cases hrow : createdRow runtime tenant metadata with
  | error e =>
      left
      unfold create
      rw [hrow]
      exact ⟨e, rfl⟩
  | ok row =>
      by_cases hinsert : row.binds runtime = true ∧ row.MeetsConstraints ∧
          KeyedList.find documentKey (tenant.companyId, metadata.id) table.rows = none
      · obtain ⟨hbinds, hmeets, hnew⟩ := hinsert
        obtain ⟨written, hrows, hcreate⟩ := create_of_creatable hrow hbinds hmeets hnew
        exact .inr ⟨row, written, rfl, hnew, hrows, hcreate⟩
      · left
        unfold create
        rw [hrow]
        dsimp only
        by_cases hbinds : row.binds runtime = true
        · have hkey : documentKey row = (tenant.companyId, metadata.id) :=
            documentKey_of_createdRow hrow
          have hmeets : ¬(KeyedList.find documentKey (documentKey row) table.rows = none ∧
              row.MeetsConstraints) := by
            rw [hkey]
            exact fun h => hinsert ⟨hbinds, h.2, h.1⟩
          rw [if_neg (by rw [hbinds]; exact Bool.noConfusion)]
          unfold DocumentMetadataTable.insert
          rw [dif_neg hmeets]
          exact ⟨_, rfl⟩
        · rw [if_pos (Bool.eq_false_iff.mpr hbinds)]
          exact ⟨_, rfl⟩

end PostgreSQLDocumentMetadataRepository

end Insert

end AvantimePlatform.Documents.Record
