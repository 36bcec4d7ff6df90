import AvantimePlatform.Documents.PostgreSQLMetadata

/-!
# Writes of part of a record

`update`, `transitionStatus` and `updateEmbeddingFenced` on both repositories of
document metadata.  `LocalDocumentMetadataRepository` checks the merged record before
it stores it.  `PostgreSQLDocumentMetadataRepository` stores what changed and checks
the record when it reads it back: a member that only `validateDocumentMetadata` looks at
is in the table by then, the call throws, and no later read of the record succeeds.

`metadata_write_sound_iff` says for which calls nothing of this can be seen: those whose
merged record passes the check exactly when the database takes the changes.
-/

namespace AvantimePlatform.Documents.Record

open AvantimePlatform.Checked AvantimePlatform.Text

/-! ## The local repository -/

/-- `{ ...document, ...changes }`, with the members that no change reaches. -/
def DocumentMetadata.merge (document : DocumentMetadata) (changes : UpdateDocumentMetadata)
    (tenant : DocumentTenantContext) (now : String) : DocumentMetadata :=
  { document with
    companyId := tenant.companyId
    updatedAt := now
    originalName := changes.originalName.getD document.originalName
    storedName := changes.storedName.getD document.storedName
    mimeType := changes.mimeType.getD document.mimeType
    size := changes.size.getD document.size
    checksum := changes.checksum.getD document.checksum
    processingAttempts := changes.processingAttempts.getD document.processingAttempts
    lastErrorCode := changes.lastErrorCode.getD document.lastErrorCode
    lastErrorMessage := changes.lastErrorMessage.getD document.lastErrorMessage
    processingStartedAt := changes.processingStartedAt.getD document.processingStartedAt
    processingCompletedAt := changes.processingCompletedAt.getD document.processingCompletedAt
    nextRetryAt := changes.nextRetryAt.getD document.nextRetryAt
    quarantinedAt := changes.quarantinedAt.getD document.quarantinedAt
    workerId := changes.workerId.getD document.workerId
    workerVersion := changes.workerVersion.or document.workerVersion
    deploymentGeneration := changes.deploymentGeneration.or document.deploymentGeneration
    processingFencingToken := changes.processingFencingToken.or document.processingFencingToken
    workerHeartbeatAt := changes.workerHeartbeatAt.or document.workerHeartbeatAt
    processingLeaseUntil := changes.processingLeaseUntil.or document.processingLeaseUntil
    pages := changes.pages.getD document.pages
    textLength := changes.textLength.getD document.textLength
    chunksCount := changes.chunksCount.getD document.chunksCount
    detectedDocumentType := changes.detectedDocumentType.getD document.detectedDocumentType
    detectedMimeType := changes.detectedMimeType.getD document.detectedMimeType
    detectionConfidence := changes.detectionConfidence.getD document.detectionConfidence
    textExtractionMethod := changes.textExtractionMethod.getD document.textExtractionMethod
    ocrStatus := changes.ocrStatus.getD document.ocrStatus
    ocrProvider := changes.ocrProvider.getD document.ocrProvider
    ocrLanguage := changes.ocrLanguage.getD document.ocrLanguage
    ocrStartedAt := changes.ocrStartedAt.getD document.ocrStartedAt
    ocrCompletedAt := changes.ocrCompletedAt.getD document.ocrCompletedAt
    pageCount := changes.pageCount.getD document.pageCount
    extractedCharacterCount := changes.extractedCharacterCount.getD document.extractedCharacterCount
    requiresManualReview := changes.requiresManualReview.getD document.requiresManualReview
    intelligenceVersion := changes.intelligenceVersion.getD document.intelligenceVersion
    embeddingStatus := changes.embeddingStatus.getD document.embeddingStatus
    embeddingModel := changes.embeddingModel.getD document.embeddingModel
    embeddingDimensions := changes.embeddingDimensions.getD document.embeddingDimensions
    embeddingVersion := changes.embeddingVersion.getD document.embeddingVersion
    embeddedAt := changes.embeddedAt.getD document.embeddedAt
    embeddingAttempts := changes.embeddingAttempts.getD document.embeddingAttempts
    lastEmbeddingErrorCode := changes.lastEmbeddingErrorCode.getD document.lastEmbeddingErrorCode
    embeddingContentHash := changes.embeddingContentHash.getD document.embeddingContentHash
    embeddingWorkerId := changes.embeddingWorkerId.or document.embeddingWorkerId
    embeddingWorkerVersion := changes.embeddingWorkerVersion.or document.embeddingWorkerVersion
    embeddingDeploymentGeneration := changes.embeddingDeploymentGeneration.or document.embeddingDeploymentGeneration
    embeddingFencingToken := changes.embeddingFencingToken.or document.embeddingFencingToken
    embeddingHeartbeatAt := changes.embeddingHeartbeatAt.or document.embeddingHeartbeatAt
    embeddingLeaseUntil := changes.embeddingLeaseUntil.or document.embeddingLeaseUntil }

namespace LocalDocumentMetadataRepository

/-- `item.id === documentId && !item.deletedAt`. -/
def isLive (documentId : String) (item : DocumentMetadata) : Bool :=
  item.id == documentId && !isSet item.deletedAt

/-- The check of the merged record, and its write in the place of the old one. -/
def store (dates : DateParser) (files : MetadataFiles) (tenant : DocumentTenantContext)
    (documents : List DocumentMetadata) (index : Nat) (updated : DocumentMetadata) :
    Except String (Option DocumentMetadata) × MetadataFiles :=
  match updated.validate dates with
  | .error e => (.error e, files)
  | .ok () => (.ok (some updated), write files tenant (documents.set index updated))

/-- `findById`. -/
def findById (persistLegacyOnRead : Bool) (files : MetadataFiles) (tenant : DocumentTenantContext)
    (documentId : String) : Except String (Option DocumentMetadata) × MetadataFiles :=
  match assertDocumentTenantContext tenant with
  | .error e => (.error e, files)
  | .ok () =>
    let (documents, files) := read persistLegacyOnRead files tenant
    (.ok (documents.find? (isLive documentId)), files)

/-- `update`. -/
def update (dates : DateParser) (persistLegacyOnRead : Bool) (now : String)
    (files : MetadataFiles) (tenant : DocumentTenantContext) (documentId : String)
    (changes : UpdateDocumentMetadata) :
    Except String (Option DocumentMetadata) × MetadataFiles :=
  match assertDocumentTenantContext tenant with
  | .error e => (.error e, files)
  | .ok () =>
    let (documents, files) := read persistLegacyOnRead files tenant
    match documents.find? (isLive documentId) with
    | none => (.ok none, files)
    | some document =>
      store dates files tenant documents (documents.findIdx (isLive documentId))
        (document.merge changes tenant now)

/-- The item that `transitionStatus` looks for. -/
def isExpected (documentId : String) (expectedStatuses : List DocumentProcessingStatus)
    (leaseGuard : Option DocumentLeaseGuard) (item : DocumentMetadata) : Bool :=
  isLive documentId item && expectedStatuses.contains item.status &&
    leaseGuard.all fun guard => item.workerId == some guard.workerId &&
      item.processingFencingToken.getD (.ofInt 0) == guard.fencingToken

/-- The checks of the arguments of `transitionStatus`. -/
def assertTransition (tenant : DocumentTenantContext) (documentId : String)
    (expectedStatuses : List DocumentProcessingStatus) (nextStatus : DocumentProcessingStatus) :
    Except String Unit := do
  assertDocumentTenantContext tenant
  assertSafeDocumentSegment documentId "document id"
  expectedStatuses.forM (assertDocumentStatusTransition · nextStatus)

/-- `transitionStatus`. -/
def transitionStatus (dates : DateParser) (persistLegacyOnRead : Bool) (now : String)
    (files : MetadataFiles) (tenant : DocumentTenantContext) (documentId : String)
    (expectedStatuses : List DocumentProcessingStatus) (nextStatus : DocumentProcessingStatus)
    (changes : UpdateDocumentMetadata) (leaseGuard : Option DocumentLeaseGuard) :
    Except String (Option DocumentMetadata) × MetadataFiles :=
  match assertTransition tenant documentId expectedStatuses nextStatus with
  | .error e => (.error e, files)
  | .ok () =>
    let (documents, files) := read persistLegacyOnRead files tenant
    match documents.find? (isExpected documentId expectedStatuses leaseGuard) with
    | none => (.ok none, files)
    | some document =>
      match assertDocumentStatusTransition document.status nextStatus with
      | .error e => (.error e, files)
      | .ok () =>
        store dates files tenant documents
          (documents.findIdx (isExpected documentId expectedStatuses leaseGuard))
          { document.merge changes tenant now with status := nextStatus }

/-- `updateEmbeddingFenced`. -/
def updateEmbeddingFenced (dates : DateParser) (persistLegacyOnRead : Bool) (now : String)
    (files : MetadataFiles) (tenant : DocumentTenantContext) (documentId : String)
    (changes : UpdateDocumentMetadata) (leaseGuard : DocumentLeaseGuard) :
    Except String (Option DocumentMetadata) × MetadataFiles :=
  match findById persistLegacyOnRead files tenant documentId with
  | (.error e, files) => (.error e, files)
  | (.ok none, files) => (.ok none, files)
  | (.ok (some current), files) =>
    if current.embeddingWorkerId.join = some leaseGuard.workerId ∧
        current.embeddingFencingToken.getD (.ofInt 0) = leaseGuard.fencingToken then
      update dates persistLegacyOnRead now files tenant documentId changes
    else (.ok none, files)

end LocalDocumentMetadataRepository

/-! ## A call of either -/

/-- A write of part of a record. -/
inductive MetadataWrite where
  | update (changes : UpdateDocumentMetadata)
  | transitionStatus (expectedStatuses : List DocumentProcessingStatus)
      (nextStatus : DocumentProcessingStatus) (changes : UpdateDocumentMetadata)
      (leaseGuard : Option DocumentLeaseGuard)
  | updateEmbeddingFenced (changes : UpdateDocumentMetadata) (leaseGuard : DocumentLeaseGuard)

namespace MetadataWrite

variable {Instant : Type}

/-- The call of the local repository. -/
def onFiles (dates : DateParser) (persistLegacyOnRead : Bool) (now : String)
    (files : MetadataFiles) (tenant : DocumentTenantContext) (documentId : String) :
    MetadataWrite → Except String (Option DocumentMetadata) × MetadataFiles
  | update changes =>
    LocalDocumentMetadataRepository.update dates persistLegacyOnRead now files tenant documentId
      changes
  | transitionStatus expectedStatuses nextStatus changes leaseGuard =>
    LocalDocumentMetadataRepository.transitionStatus dates persistLegacyOnRead now files tenant
      documentId expectedStatuses nextStatus changes leaseGuard
  | updateEmbeddingFenced changes leaseGuard =>
    LocalDocumentMetadataRepository.updateEmbeddingFenced dates persistLegacyOnRead now files
      tenant documentId changes leaseGuard

/-- The call of the PostgreSQL repository. -/
def onTable (runtime : DateRuntime Instant) (now : Instant)
    (table : DocumentMetadataTable Instant) (tenant : DocumentTenantContext)
    (documentId : String) :
    MetadataWrite → Except String (Option DocumentMetadata) × DocumentMetadataTable Instant
  | update changes =>
    PostgreSQLDocumentMetadataRepository.update runtime now table tenant documentId changes
  | transitionStatus expectedStatuses nextStatus changes leaseGuard =>
    PostgreSQLDocumentMetadataRepository.transitionStatus runtime now table tenant documentId
      expectedStatuses nextStatus changes leaseGuard
  | updateEmbeddingFenced changes leaseGuard =>
    PostgreSQLDocumentMetadataRepository.updateEmbeddingFenced runtime now table tenant documentId
      changes leaseGuard

/-- The checks that both repositories make of the arguments. -/
def assertArguments (tenant : DocumentTenantContext) : MetadataWrite → Except String Unit
  | update _ => assertDocumentTenantContext tenant
  | transitionStatus expectedStatuses nextStatus _ _ => do
    assertDocumentTenantContext tenant
    expectedStatuses.forM (assertDocumentStatusTransition · nextStatus)
  | updateEmbeddingFenced _ _ => assertDocumentTenantContext tenant

/-- The columns that the call sets, if the checks of the method pass. -/
def data (runtime : DateRuntime Instant) (now : Instant) (tenant : DocumentTenantContext)
    (documentId : String) : MetadataWrite → Except String (DocumentMetadataData Instant)
  | update changes =>
    PostgreSQLDocumentMetadataRepository.updateData runtime now tenant documentId changes
  | transitionStatus expectedStatuses nextStatus changes _ =>
    PostgreSQLDocumentMetadataRepository.transitionData runtime now tenant documentId
      expectedStatuses nextStatus changes
  | updateEmbeddingFenced changes _ =>
    PostgreSQLDocumentMetadataRepository.embeddingData runtime now tenant changes

def leaseGuard : MetadataWrite → Option DocumentLeaseGuard
  | update _ => none
  | transitionStatus _ _ _ leaseGuard => leaseGuard
  | updateEmbeddingFenced _ leaseGuard => some leaseGuard

/-- The call's own condition on the row. -/
def condition : MetadataWrite → DatabaseDocumentRecord Instant → Bool
  | update _ => fun _ => true
  | transitionStatus expectedStatuses _ _ leaseGuard =>
    PostgreSQLDocumentMetadataRepository.isExpected expectedStatuses leaseGuard
  | updateEmbeddingFenced _ leaseGuard =>
    PostgreSQLDocumentMetadataRepository.isEmbeddedBy leaseGuard

/-- The record that the local repository stores. -/
def merged (tenant : DocumentTenantContext) (now : String) (document : DocumentMetadata) :
    MetadataWrite → DocumentMetadata
  | update changes => document.merge changes tenant now
  | transitionStatus _ nextStatus changes _ =>
    { document.merge changes tenant now with status := nextStatus }
  | updateEmbeddingFenced changes _ => document.merge changes tenant now

/-- The method's checks pass, and the client takes the values. -/
def Binds (runtime : DateRuntime Instant) (now : Instant) (tenant : DocumentTenantContext)
    (documentId : String) (call : MetadataWrite) : Prop :=
  ∃ data, call.data runtime now tenant documentId = .ok data ∧
    data.binds runtime documentId call.leaseGuard = true

/-- In addition the table takes the row. -/
def Fits (runtime : DateRuntime Instant) (now : Instant) (tenant : DocumentTenantContext)
    (documentId : String) (row : DatabaseDocumentRecord Instant) (call : MetadataWrite) : Prop :=
  ∃ data, call.data runtime now tenant documentId = .ok data ∧
    data.binds runtime documentId call.leaseGuard = true ∧ (row.set data).MeetsConstraints

theorem onTable_eq (runtime : DateRuntime Instant) (now : Instant)
    (table : DocumentMetadataTable Instant) (tenant : DocumentTenantContext)
    (documentId : String) (call : MetadataWrite) :
    call.onTable runtime now table tenant documentId =
      match call.data runtime now tenant documentId with
      | .error e => (.error e, table)
      | .ok data =>
        PostgreSQLDocumentMetadataRepository.write runtime table tenant documentId call.condition
          call.leaseGuard data := by
  cases call with
  | update changes => rfl
  | transitionStatus expectedStatuses nextStatus changes leaseGuard => rfl
  | updateEmbeddingFenced changes leaseGuard => rfl

/-! ## What the checks look at -/

end MetadataWrite

/-- The checks of a record that are not about dates. -/
structure MembersPass (document : DocumentMetadata) : Prop where
  id : isSafeDocumentSegment document.id = true
  companyId : isSafeDocumentSegment document.companyId = true
  uploadedBy : isSafeDocumentSegment document.uploadedBy = true
  storedName : isSafeDocumentSegment document.storedName = true
  checksum : isSha256Hex document.checksum = true
  originalName : trim document.originalName ≠ "" ∧ utf16Length document.originalName ≤ 500
  mimeType : trim document.mimeType ≠ "" ∧ utf16Length document.mimeType ≤ 255
  size : document.size.isSafeInteger = true ∧ document.size.isNonNegative = true
  processingAttempts : document.processingAttempts.isSafeInteger = true ∧
    document.processingAttempts.isNonNegative = true
  lastErrorCode : ∀ code ∈ document.lastErrorCode, code ≠ "" → isErrorCode code = true
  lastErrorMessage : ∀ message ∈ document.lastErrorMessage, message ≠ "" →
    utf16Length message ≤ 500
  workerId : ∀ worker ∈ document.workerId, worker ≠ "" → isSafeDocumentSegment worker = true
  workerVersion : ∀ version ∈ document.workerVersion.join, version ≠ "" →
    isSafeDocumentSegment version = true
  deploymentGeneration : ∀ generation ∈ document.deploymentGeneration.join, generation ≠ "" →
    isSafeDocumentSegment generation = true
  processingFencingToken : ∀ n ∈ document.processingFencingToken,
    n.isSafeInteger = true ∧ n.isNonNegative = true
  embeddingWorkerId : ∀ worker ∈ document.embeddingWorkerId.join, worker ≠ "" →
    isSafeDocumentSegment worker = true
  embeddingWorkerVersion : ∀ version ∈ document.embeddingWorkerVersion.join, version ≠ "" →
    isSafeDocumentSegment version = true
  embeddingDeploymentGeneration : ∀ generation ∈ document.embeddingDeploymentGeneration.join,
    generation ≠ "" → isSafeDocumentSegment generation = true
  embeddingFencingToken : ∀ n ∈ document.embeddingFencingToken,
    n.isSafeInteger = true ∧ n.isNonNegative = true
  deleted : decide (document.status = .deleted) = isSet document.deletedAt
  detectionConfidence : document.detectionConfidence.all JsNumber.isUnit = true
  pageCount : ∀ n ∈ document.pageCount, n.isSafeInteger = true ∧ n.isNonNegative = true
  extractedCharacterCount : ∀ n ∈ document.extractedCharacterCount,
    n.isSafeInteger = true ∧ n.isNonNegative = true
  intelligenceVersion : trim document.intelligenceVersion ≠ "" ∧
    utf16Length document.intelligenceVersion ≤ 100
  embeddingDimensions : document.embeddingDimensions.all (fun dimensions =>
    dimensions.isSafeInteger && dimensions.isPositive) = true
  embeddingAttempts : document.embeddingAttempts.isSafeInteger = true ∧
    document.embeddingAttempts.isNonNegative = true
  lastEmbeddingErrorCode : ∀ code ∈ document.lastEmbeddingErrorCode, code ≠ "" →
    isErrorCode code = true
  embeddingContentHash : ∀ hash ∈ document.embeddingContentHash, hash ≠ "" →
    isSha256Hex hash = true

/-- The dates of a record that may be `null`. -/
def DocumentMetadata.setDates (document : DocumentMetadata) : List (Option String) :=
  [document.workerHeartbeatAt.join, document.processingLeaseUntil.join,
   document.embeddingHeartbeatAt.join, document.embeddingLeaseUntil.join,
   document.processingStartedAt, document.processingCompletedAt, document.nextRetryAt,
   document.quarantinedAt, document.deletedAt, document.ocrStartedAt, document.ocrCompletedAt,
   document.embeddedAt]

/-- The checks of the dates. -/
structure DatesPass (dates : DateParser) (document : DocumentMetadata) : Prop where
  createdAt : dates.isDate document.createdAt = true
  updatedAt : dates.isDate document.updatedAt = true
  others : ∀ entry ∈ document.setDates, ∀ value ∈ entry, value ≠ "" → dates.isDate value = true

/-- `validateDocumentMetadata`, taken apart. -/
theorem validate_eq_ok {dates : DateParser} {document : DocumentMetadata} :
    document.validate dates = .ok () ↔ MembersPass document ∧ DatesPass dates document := by
  unfold DocumentMetadata.validate
  simp only [seq_eq_ok, DocumentMetadata.validateIdentity, DocumentMetadata.validateProcessing,
    DocumentMetadata.validateEmbeddingWorker, DocumentMetadata.validateTimes,
    DocumentMetadata.validateIntelligence, DocumentMetadata.validateEmbedding,
    assertSafeDocumentSegment_eq_ok, require_eq_ok, requireCounter_eq_ok,
    requireOptionalCounter_eq_ok, whenSet_eq_ok, parseDocumentDate_eq_ok]
  constructor
  · rintro ⟨⟨i1, i2, i3, i4, i5, i6, i7, i8⟩, ⟨p1, p2, p3, p4, p5, p6, p7, p8, p9, p10, p11⟩,
      ⟨w1, w2, w3, w4, w5, w6⟩, ⟨t1, t2, t3, t4, t5, t6⟩, ⟨n1, n2, n3, n4, n5, n6⟩,
      e1, e2, e3, e4, e5⟩
    refine ⟨⟨i1, i2, i3, i4, i5, i6, i7, i8, p3, p4, p5, p6, p7, p8, p9, w1, w2, w3, w4, t6, n1,
      n2, n3, n6, e1, e2, e3, e4⟩, p1, p2, ?_⟩
    simp only [DocumentMetadata.setDates, List.forall_mem_cons]
    exact ⟨p10, p11, w5, w6, t1, t2, t3, t4, t5, n4, n5, e5, fun _ h => absurd h List.not_mem_nil⟩
  · rintro ⟨⟨i1, i2, i3, i4, i5, i6, i7, i8, p3, p4, p5, p6, p7, p8, p9, w1, w2, w3, w4, t6, n1,
      n2, n3, n6, e1, e2, e3, e4⟩, p1, p2, hdates⟩
    simp only [DocumentMetadata.setDates, List.forall_mem_cons] at hdates
    obtain ⟨p10, p11, w5, w6, t1, t2, t3, t4, t5, n4, n5, e5, -⟩ := hdates
    exact ⟨⟨i1, i2, i3, i4, i5, i6, i7, i8⟩, ⟨p1, p2, p3, p4, p5, p6, p7, p8, p9, p10, p11⟩,
      ⟨w1, w2, w3, w4, w5, w6⟩, ⟨t1, t2, t3, t4, t5, t6⟩, ⟨n1, n2, n3, n4, n5, n6⟩,
      e1, e2, e3, e4, e5⟩

section Rows

variable {Instant : Type} {runtime : DateRuntime Instant} {row : DatabaseDocumentRecord Instant}

theorem isDate_toISOString (runtime : DateRuntime Instant) (t : Instant) :
    runtime.dates.isDate (runtime.toISOString t) = true := by
  show (runtime.parse (runtime.toISOString t)).isSome = true
  rw [runtime.parse_toISOString]
  rfl

/-- The dates of a row are dates. -/
theorem datesPass_documentOf : DatesPass runtime.dates (documentOf runtime row) where
  createdAt := isDate_toISOString runtime row.createdAt
  updatedAt := isDate_toISOString runtime row.updatedAt
  others := by
    have hcolumn : ∀ date : Option Instant, ∀ value ∈ date.map runtime.toISOString, value ≠ "" →
        runtime.dates.isDate value = true := by
      intro date value hvalue _
      obtain ⟨t, -, rfl⟩ := Option.mem_map.mp hvalue
      exact isDate_toISOString runtime t
    simp only [DocumentMetadata.setDates, List.forall_mem_cons]
    exact ⟨hcolumn _, hcolumn _, hcolumn _, hcolumn _, hcolumn _, hcolumn _, hcolumn _, hcolumn _,
      hcolumn _, hcolumn _, hcolumn _, hcolumn _, fun _ h => absurd h List.not_mem_nil⟩

theorem readable_iff : Readable runtime row ↔ MembersPass (documentOf runtime row) := by
  unfold Readable
  rw [validate_eq_ok]
  exact and_iff_left datesPass_documentOf

/-! ## What a write leaves readable -/

variable {tenant : DocumentTenantContext} {documentId : String} {now : Instant} {time : String}
  {data base : DocumentMetadataData Instant} {changes : UpdateDocumentMetadata}

theorem applyProcessingChanges_eq_ok :
    applyProcessingChanges runtime base changes = .ok data ↔
      ∃ dates, readDates runtime changes = .ok dates ∧ base.copy changes dates = data := by
  unfold applyProcessingChanges
  exact map_eq_ok

/-- A member that may be left out, where the old record has it. -/
theorem forall_join_or {α : Type} {changed : Option (Option α)} {stored : Option α} {p : α → Prop}
    (h : ∀ value ∈ (changed.or (some stored)).join, p value) :
    ∀ value ∈ (some (changed.getD stored)).join, p value := by
  rwa [Option.or_some] at h

theorem forall_or {α : Type} {changed : Option α} {stored : α} {p : α → Prop}
    (h : ∀ value ∈ changed.or (some stored), p value) :
    ∀ value ∈ some (changed.getD stored), p value := by
  rwa [Option.or_some] at h

/-- What the copied members need is checked in the merged record.  The members that only
`update` copies, and the status, come from the call. -/
theorem membersPass_copy {status : DocumentProcessingStatus} (dates : DateColumns Instant)
    (hold : MembersPass (documentOf runtime row))
    (hmerged : MembersPass
      { (documentOf runtime row).merge changes tenant time with status := status })
    (hstoredName : isSafeDocumentSegment (base.storedName.getD row.storedName) = true)
    (hchecksum : isSha256Hex (base.checksum.getD row.checksum) = true)
    (hname : trim (base.originalName.getD row.originalName) ≠ "" ∧
      utf16Length (base.originalName.getD row.originalName) ≤ 500)
    (hmime : trim (base.mimeType.getD row.mimeType) ≠ "" ∧
      utf16Length (base.mimeType.getD row.mimeType) ≤ 255)
    (hsize : (base.size.getD row.size).isSafeInteger = true ∧
      (base.size.getD row.size).isNonNegative = true)
    (hdeleted : decide (base.status.getD row.status = .deleted) =
      isSet (row.deletedAt.map runtime.toISOString)) :
    MembersPass (documentOf runtime (row.set (base.copy changes dates))) := by
  have hattempts : (documentOf runtime (row.set (base.copy changes dates))).embeddingAttempts =
      changes.embeddingAttempts.getD (documentOf runtime row).embeddingAttempts := by
    show (if isCounter (changes.embeddingAttempts.getD row.embeddingAttempts) = true then
      changes.embeddingAttempts.getD row.embeddingAttempts else JsNumber.ofInt 0) = _
    cases hchanged : changes.embeddingAttempts with
    | none => rfl
    | some attempts =>
        have hcounter := hmerged.embeddingAttempts
        simp only [DocumentMetadata.merge, hchanged, Option.getD_some] at hcounter
        rw [Option.getD_some, Option.getD_some, if_pos]
        simp [isCounter, hcounter]
  exact
    { id := hold.id
      companyId := hold.companyId
      uploadedBy := hold.uploadedBy
      storedName := hstoredName
      checksum := hchecksum
      originalName := hname
      mimeType := hmime
      size := hsize
      processingAttempts := hmerged.processingAttempts
      lastErrorCode := hmerged.lastErrorCode
      lastErrorMessage := hmerged.lastErrorMessage
      workerId := hmerged.workerId
      workerVersion := forall_join_or hmerged.workerVersion
      deploymentGeneration := forall_join_or hmerged.deploymentGeneration
      processingFencingToken := forall_or hmerged.processingFencingToken
      embeddingWorkerId := forall_join_or hmerged.embeddingWorkerId
      embeddingWorkerVersion := forall_join_or hmerged.embeddingWorkerVersion
      embeddingDeploymentGeneration := forall_join_or hmerged.embeddingDeploymentGeneration
      embeddingFencingToken := forall_or hmerged.embeddingFencingToken
      deleted := hdeleted
      detectionConfidence := hmerged.detectionConfidence
      pageCount := hmerged.pageCount
      extractedCharacterCount := hmerged.extractedCharacterCount
      intelligenceVersion := hmerged.intelligenceVersion
      embeddingDimensions := hmerged.embeddingDimensions
      embeddingAttempts := by
        rw [hattempts]
        exact hmerged.embeddingAttempts
      lastEmbeddingErrorCode := hmerged.lastEmbeddingErrorCode
      embeddingContentHash := hmerged.embeddingContentHash }

/-- A row whose changes the local repository would accept is readable after them. -/
theorem readable_set {call : MetadataWrite} (hreadable : Readable runtime row)
    (hdata : call.data runtime now tenant documentId = .ok data)
    (hmerged : (call.merged tenant time (documentOf runtime row)).validate runtime.dates = .ok ()) :
    Readable runtime (row.set data) := by
  have hold := readable_iff.mp hreadable
  have hpass := (validate_eq_ok.mp hmerged).1
  rw [readable_iff]
  cases call with
  | update changes =>
      simp only [MetadataWrite.data, PostgreSQLDocumentMetadataRepository.updateData, seq_eq_ok,
        applyProcessingChanges_eq_ok] at hdata
      obtain ⟨-, -, -, -, -, -, -, dates, -, rfl⟩ := hdata
      exact membersPass_copy dates hold hpass hpass.storedName hpass.checksum hpass.originalName
        hpass.mimeType hpass.size hold.deleted
  | transitionStatus expectedStatuses nextStatus changes leaseGuard =>
      simp only [MetadataWrite.data, PostgreSQLDocumentMetadataRepository.transitionData,
        seq_eq_ok, applyProcessingChanges_eq_ok] at hdata
      obtain ⟨-, -, -, dates, -, rfl⟩ := hdata
      exact membersPass_copy dates hold hpass hold.storedName hold.checksum hold.originalName
        hold.mimeType hold.size hpass.deleted
  | updateEmbeddingFenced changes leaseGuard =>
      simp only [MetadataWrite.data, PostgreSQLDocumentMetadataRepository.embeddingData,
        seq_eq_ok, applyProcessingChanges_eq_ok] at hdata
      obtain ⟨-, dates, -, rfl⟩ := hdata
      exact membersPass_copy dates hold hpass hold.storedName hold.checksum hold.originalName
        hold.mimeType hold.size hold.deleted

end Rows

/-! ## How a call ends -/

/-- The ways in which a call can end. -/
inductive Answer where
  | threw
  | missed
  | wrote
deriving DecidableEq

def answer : Except String (Option DocumentMetadata) → Answer
  | .error _ => .threw
  | .ok none => .missed
  | .ok (some _) => .wrote

/-- The local repository shows these records under the id, and goes on to: a first read
may copy the old file of the one tenant that has it. -/
def LocalDocumentMetadataRepository.Shows (persistLegacyOnRead : Bool) (files : MetadataFiles)
    (tenant : DocumentTenantContext) (documentId : String) (shown : List DocumentMetadata) :
    Prop :=
  (read persistLegacyOnRead files tenant).1.filter (isLive documentId) = shown ∧
    (read persistLegacyOnRead (read persistLegacyOnRead files tenant).2 tenant).1.filter
      (isLive documentId) = shown

namespace MetadataWrite

section Local

variable {call : MetadataWrite} {dates : DateParser} {persistLegacyOnRead : Bool} {time : String}
  {files : MetadataFiles} {tenant : DocumentTenantContext} {documentId : String}
  {document : DocumentMetadata}

/-- The call's own condition on an item of the file. -/
def itemCondition : MetadataWrite → DocumentMetadata → Bool
  | update _ => fun _ => true
  | transitionStatus expectedStatuses _ _ leaseGuard => fun item =>
    expectedStatuses.contains item.status && leaseGuard.all fun guard =>
      item.workerId == some guard.workerId &&
        item.processingFencingToken.getD (.ofInt 0) == guard.fencingToken
  | updateEmbeddingFenced _ leaseGuard => fun item =>
    item.embeddingWorkerId.join == some leaseGuard.workerId &&
      item.embeddingFencingToken.getD (.ofInt 0) == leaseGuard.fencingToken

theorem answer_store (documents : List DocumentMetadata) (index : Nat)
    (updated : DocumentMetadata) :
    answer (LocalDocumentMetadataRepository.store dates files tenant documents index updated).1 =
      if updated.validate dates = .ok () then .wrote else .threw := by
  unfold LocalDocumentMetadataRepository.store
  cases updated.validate dates with
  | error e => rfl
  | ok u => rfl

theorem onFiles_threw (h : call.assertArguments tenant ≠ .ok ()) :
    answer (call.onFiles dates persistLegacyOnRead time files tenant documentId).1 = .threw := by
  cases call with
  | update changes =>
      unfold onFiles LocalDocumentMetadataRepository.update
      cases htenant : assertDocumentTenantContext tenant with
      | error e => rfl
      | ok u => exact absurd htenant h
  | transitionStatus expectedStatuses nextStatus changes leaseGuard =>
      show answer (LocalDocumentMetadataRepository.transitionStatus _ _ _ _ _ _ _ _ _ _).1 = _
      unfold LocalDocumentMetadataRepository.transitionStatus
      cases hchecks : LocalDocumentMetadataRepository.assertTransition tenant documentId
          expectedStatuses nextStatus with
      | error e => rfl
      | ok u =>
          simp only [LocalDocumentMetadataRepository.assertTransition, seq_eq_ok] at hchecks
          exact absurd (seq_eq_ok.mpr ⟨hchecks.1, hchecks.2.2⟩) h
  | updateEmbeddingFenced changes leaseGuard =>
      unfold onFiles LocalDocumentMetadataRepository.updateEmbeddingFenced
        LocalDocumentMetadataRepository.findById
      cases htenant : assertDocumentTenantContext tenant with
      | error e => rfl
      | ok u => exact absurd htenant h

theorem answer_update {changes : UpdateDocumentMetadata}
    (htenant : assertDocumentTenantContext tenant = .ok ()) :
    answer (LocalDocumentMetadataRepository.update dates persistLegacyOnRead time files tenant
        documentId changes).1 =
      match ((LocalDocumentMetadataRepository.read persistLegacyOnRead files tenant).1.filter
        (LocalDocumentMetadataRepository.isLive documentId)).head? with
      | none => .missed
      | some document =>
        if (document.merge changes tenant time).validate dates = .ok () then .wrote
        else .threw := by
  unfold LocalDocumentMetadataRepository.update
  rw [htenant, List.head?_filter]
  cases hfind : (LocalDocumentMetadataRepository.read persistLegacyOnRead files tenant).1.find?
      (LocalDocumentMetadataRepository.isLive documentId) with
  | none => simp only [hfind]; rfl
  | some document => simp only [hfind]; exact answer_store _ _ _

theorem assertTransition_eq_ok {expectedStatuses : List DocumentProcessingStatus}
    {nextStatus : DocumentProcessingStatus} {changes : UpdateDocumentMetadata}
    {leaseGuard : Option DocumentLeaseGuard}
    (harguments : (transitionStatus expectedStatuses nextStatus changes
      leaseGuard).assertArguments tenant = .ok ())
    (hsafe : isSafeDocumentSegment documentId = true) :
    LocalDocumentMetadataRepository.assertTransition tenant documentId expectedStatuses
      nextStatus = .ok () := by
  obtain ⟨htenant, hallowed⟩ := seq_eq_ok.mp harguments
  unfold LocalDocumentMetadataRepository.assertTransition
  rw [seq_eq_ok, seq_eq_ok]
  exact ⟨htenant, assertSafeDocumentSegment_eq_ok.mpr hsafe, hallowed⟩

/-- No record is shown. -/
theorem onFiles_none (harguments : call.assertArguments tenant = .ok ())
    (hsafe : isSafeDocumentSegment documentId = true)
    (hshows : LocalDocumentMetadataRepository.Shows persistLegacyOnRead files tenant
      documentId []) :
    answer (call.onFiles dates persistLegacyOnRead time files tenant documentId).1 = .missed := by
  cases call with
  | update changes =>
      show answer (LocalDocumentMetadataRepository.update _ _ _ _ _ _ _).1 = _
      rw [answer_update harguments, hshows.1]
      rfl
  | transitionStatus expectedStatuses nextStatus changes leaseGuard =>
      have hnone : (LocalDocumentMetadataRepository.read persistLegacyOnRead files tenant).1.find?
          (LocalDocumentMetadataRepository.isExpected documentId expectedStatuses leaseGuard) =
          none := by
        rw [List.find?_eq_none]
        intro item hitem hexpected
        have hlive : LocalDocumentMetadataRepository.isLive documentId item = true := by
          simp only [LocalDocumentMetadataRepository.isExpected, Bool.and_eq_true] at hexpected
          exact hexpected.1.1
        have hmem := List.mem_filter.mpr ⟨hitem, hlive⟩
        rw [hshows.1] at hmem
        cases hmem
      show answer (LocalDocumentMetadataRepository.transitionStatus _ _ _ _ _ _ _ _ _ _).1 = _
      unfold LocalDocumentMetadataRepository.transitionStatus
      rw [assertTransition_eq_ok harguments hsafe]
      simp only [hnone]
      rfl
  | updateEmbeddingFenced changes leaseGuard =>
      have htenant : assertDocumentTenantContext tenant = .ok () := harguments
      show answer (LocalDocumentMetadataRepository.updateEmbeddingFenced _ _ _ _ _ _ _ _).1 = _
      unfold LocalDocumentMetadataRepository.updateEmbeddingFenced
        LocalDocumentMetadataRepository.findById
      rw [htenant]
      have hnone := hshows.1
      rw [← List.head?_eq_none_iff, List.head?_filter] at hnone
      simp only [hnone]
      rfl

/-- One record is shown. -/
theorem onFiles_one (dates : DateParser) (time : String) (harguments : call.assertArguments tenant = .ok ())
    (hsafe : isSafeDocumentSegment documentId = true)
    (hshows : LocalDocumentMetadataRepository.Shows persistLegacyOnRead files tenant
      documentId [document]) :
    answer (call.onFiles dates persistLegacyOnRead time files tenant documentId).1 =
      if call.itemCondition document = true then
        if (call.merged tenant time document).validate dates = .ok () then .wrote else .threw
      else .missed := by
  cases call with
  | update changes =>
      show answer (LocalDocumentMetadataRepository.update _ _ _ _ _ _ _).1 = _
      rw [answer_update harguments, hshows.1]
      rfl
  | transitionStatus expectedStatuses nextStatus changes leaseGuard =>
      have hallowed := (seq_eq_ok.mp harguments).2
      have hfind : (LocalDocumentMetadataRepository.read persistLegacyOnRead files tenant).1.find?
          (LocalDocumentMetadataRepository.isExpected documentId expectedStatuses leaseGuard) =
          [document].find? ((transitionStatus expectedStatuses nextStatus changes
            leaseGuard).itemCondition) := by
        rw [← hshows.1, List.find?_filter]
        congr 1
        funext item
        simp [LocalDocumentMetadataRepository.isExpected, itemCondition, Bool.and_assoc]
      show answer (LocalDocumentMetadataRepository.transitionStatus _ _ _ _ _ _ _ _ _ _).1 = _
      unfold LocalDocumentMetadataRepository.transitionStatus
      rw [assertTransition_eq_ok harguments hsafe]
      simp only [hfind]
      by_cases hmeets : (transitionStatus expectedStatuses nextStatus changes
          leaseGuard).itemCondition document = true
      · have hexpected : document.status ∈ expectedStatuses := by
          have hand := hmeets
          simp only [itemCondition, Bool.and_eq_true, List.contains_iff_mem] at hand
          exact hand.1
        have hstatus := forM_eq_ok.mp hallowed document.status hexpected
        rw [if_pos hmeets, List.find?_cons_of_pos hmeets]
        simp only [hstatus]
        exact answer_store _ _ _
      · rw [if_neg hmeets, List.find?_cons_of_neg hmeets]
        rfl
  | updateEmbeddingFenced changes leaseGuard =>
      have htenant : assertDocumentTenantContext tenant = .ok () := harguments
      have hfind : (LocalDocumentMetadataRepository.read persistLegacyOnRead files tenant).1.find?
          (LocalDocumentMetadataRepository.isLive documentId) = some document := by
        rw [← List.head?_filter, hshows.1]
        rfl
      unfold onFiles LocalDocumentMetadataRepository.updateEmbeddingFenced
        LocalDocumentMetadataRepository.findById
      rw [htenant]
      simp only [hfind]
      by_cases hmeets : document.embeddingWorkerId.join = some leaseGuard.workerId ∧
          document.embeddingFencingToken.getD (.ofInt 0) = leaseGuard.fencingToken
      · rw [if_pos hmeets, answer_update htenant, hshows.2, if_pos (by simp [itemCondition, hmeets])]
        rfl
      · rw [if_neg hmeets, if_neg (by simpa [itemCondition] using hmeets)]
        rfl

end Local

/-! ## The two repositories side by side -/

/-- What is asked of a call: it throws only before it writes, the record stays readable,
for every reader of the company, and the local repository ends the call the same way. -/
structure Sound (runtime : DateRuntime Instant) (now : Instant)
    (table : DocumentMetadataTable Instant) (persistLegacyOnRead : Bool) (files : MetadataFiles)
    (tenant : DocumentTenantContext) (documentId : String) (call : MetadataWrite) : Prop where
  unchanged : answer (call.onTable runtime now table tenant documentId).1 = .threw →
    (call.onTable runtime now table tenant documentId).2 = table
  readable : ∀ row ∈ (call.onTable runtime now table tenant documentId).2.rows,
    row.companyId = tenant.companyId → row.id = documentId → Readable runtime row
  reads : ∀ reader : DocumentTenantContext, reader.companyId = tenant.companyId →
    (PostgreSQLDocumentMetadataRepository.findById runtime table reader documentId).isOk = true →
    (PostgreSQLDocumentMetadataRepository.findById runtime
      (call.onTable runtime now table tenant documentId).2 reader documentId).isOk = true
  lists : ∀ reader : DocumentTenantContext, reader.companyId = tenant.companyId →
    (PostgreSQLDocumentMetadataRepository.list runtime table reader).isOk = true →
    (PostgreSQLDocumentMetadataRepository.list runtime
      (call.onTable runtime now table tenant documentId).2 reader).isOk = true
  alike : answer (call.onTable runtime now table tenant documentId).1 =
    answer (call.onFiles runtime.dates persistLegacyOnRead (runtime.toISOString now) files tenant
      documentId).1

section SideBySide

variable {runtime : DateRuntime Instant} {now : Instant} {table : DocumentMetadataTable Instant}
  {persistLegacyOnRead : Bool} {files : MetadataFiles} {tenant : DocumentTenantContext}
  {documentId : String} {call : MetadataWrite} {row : DatabaseDocumentRecord Instant}
  {data : DocumentMetadataData Instant}

open PostgreSQLDocumentMetadataRepository

/-- The method's own checks include those of the arguments. -/
theorem arguments_of_data (h : call.data runtime now tenant documentId = .ok data) :
    call.assertArguments tenant = .ok () := by
  cases call with
  | update changes =>
      simp only [MetadataWrite.data, updateData, seq_eq_ok] at h
      exact h.1
  | transitionStatus expectedStatuses nextStatus changes leaseGuard =>
      simp only [MetadataWrite.data, transitionData, seq_eq_ok] at h
      exact seq_eq_ok.mpr ⟨h.1, h.2.2.1⟩
  | updateEmbeddingFenced changes leaseGuard =>
      simp only [MetadataWrite.data, embeddingData, seq_eq_ok] at h
      exact h.1

/-- The conditions of the two repositories are one condition. -/
theorem itemCondition_documentOf (call : MetadataWrite) (row : DatabaseDocumentRecord Instant) :
    call.itemCondition (documentOf runtime row) = call.condition row := by
  cases call with
  | update changes => rfl
  | transitionStatus expectedStatuses nextStatus changes leaseGuard => rfl
  | updateEmbeddingFenced changes leaseGuard => rfl

/-- A call that writes nothing only has to end like the local one. -/
theorem sound_iff_of_unchanged (hrow : row ∈ table.rows)
    (hcompany : row.companyId = tenant.companyId) (hid : row.id = documentId)
    (hreadable : Readable runtime row) {result : Except String (Option DocumentMetadata)}
    (hresult : call.onTable runtime now table tenant documentId = (result, table)) :
    call.Sound runtime now table persistLegacyOnRead files tenant documentId ↔
      answer result = answer (call.onFiles runtime.dates persistLegacyOnRead
        (runtime.toISOString now) files tenant documentId).1 := by
  constructor
  · intro h
    have halike := h.alike
    rwa [hresult] at halike
  · intro halike
    exact
      { unchanged := fun _ => by rw [hresult]
        readable := by
          rw [hresult]
          intro other hother hotherCompany hotherId
          rw [eq_of_documentKey hrow hother (hotherCompany.trans hcompany.symm)
            (hotherId.trans hid.symm)]
          exact hreadable
        reads := fun _ _ h => by rwa [hresult]
        lists := fun _ _ h => by rwa [hresult]
        alike := by rwa [hresult] }

/-- A written row is read by everyone who reads the company, if it is accepted. -/
theorem sound_of_stored (hrow : row ∈ table.rows) (hcompany : row.companyId = tenant.companyId)
    (hid : row.id = documentId) (hsafe : isSafeDocumentSegment documentId = true)
    (hmatch : row.deletedAt = none ∧ call.condition row = true)
    (hreadable : Readable runtime (row.set data)) {written : DocumentMetadataTable Instant}
    (hrows : written.rows = KeyedList.updateMany (selects tenant documentId call.condition)
      (·.set data) table.rows)
    (hresult : call.onTable runtime now table tenant documentId =
      (some <$> mapDatabaseDocument runtime (row.set data), written))
    (hlocal : answer (call.onFiles runtime.dates persistLegacyOnRead (runtime.toISOString now)
      files tenant documentId).1 = .wrote) :
    call.Sound runtime now table persistLegacyOnRead files tenant documentId := by
  have hwrote : some <$> mapDatabaseDocument runtime (row.set data) =
      .ok (some (documentOf runtime (row.set data))) := by
    rw [mapDatabaseDocument_of_readable hreadable]
    rfl
  rw [hwrote] at hresult
  have hselected := (selects_iff hrow hcompany hid hrow).mpr ⟨rfl, hmatch⟩
  have hset : row.set data ∈ written.rows := by
    rw [hrows]
    exact List.mem_map.mpr ⟨row, hrow, if_pos hselected⟩
  -- A row of the table is one that was there, under another key, or the written one.
  have hcases : ∀ other ∈ written.rows, other = row.set data ∨ other ∈ table.rows ∧
      ¬(other.companyId = tenant.companyId ∧ other.id = documentId) := by
    intro other hother
    rw [hrows] at hother
    rcases KeyedList.mem_updateMany hother with ⟨hold, hunselected⟩ | ⟨old, hold, hselects, rfl⟩
    · refine Or.inr ⟨hold, fun hkey => ?_⟩
      have heq : other = row := eq_of_documentKey hrow hold (hkey.1.trans hcompany.symm)
        (hkey.2.trans hid.symm)
      rw [heq, hselected] at hunselected
      cases hunselected
    · rw [((selects_iff hrow hcompany hid hold).mp hselects).1]
      exact Or.inl rfl
  exact
    { unchanged := by
        rw [hresult]
        intro h
        cases h
      readable := by
        rw [hresult]
        intro other hother hotherCompany hotherId
        rcases hcases other hother with rfl | ⟨-, hkey⟩
        · exact hreadable
        · exact absurd ⟨hotherCompany, hotherId⟩ hkey
      reads := by
        rw [hresult]
        intro reader hreader hbefore
        have htenant : assertDocumentTenantContext reader = .ok () := by
          unfold findById at hbefore
          exact (isOk_bind_unit.mp hbefore).1
        rw [findById_of_mem htenant hset (hcompany.trans hreader.symm) hid hsafe hmatch.1, hwrote]
        rfl
      lists := by
        rw [hresult]
        intro reader hreader hbefore
        obtain ⟨htenant, hall⟩ := isOk_list.mp hbefore
        refine isOk_list.mpr ⟨htenant, fun other hother => ?_⟩
        obtain ⟨hmem, hother', hlive⟩ := mem_ofTenant.mp hother
        rcases hcases other hmem with rfl | ⟨hold, -⟩
        · exact hreadable
        · exact hall other (mem_ofTenant.mpr ⟨hold, hother', hlive⟩)
      alike := by
        rw [hresult, hlocal]
        rfl }

theorem onTable_of_error {e : String} (h : call.data runtime now tenant documentId = .error e) :
    call.onTable runtime now table tenant documentId = (.error e, table) := by
  rw [onTable_eq, h]

theorem onTable_of_data (h : call.data runtime now tenant documentId = .ok data) :
    call.onTable runtime now table tenant documentId =
      write runtime table tenant documentId call.condition call.leaseGuard data := by
  rw [onTable_eq, h]

/-- Both repositories refuse the arguments. -/
theorem sound_of_arguments (hrow : row ∈ table.rows) (hcompany : row.companyId = tenant.companyId)
    (hid : row.id = documentId) (hreadable : Readable runtime row)
    (harguments : call.assertArguments tenant ≠ .ok ()) :
    call.Sound runtime now table persistLegacyOnRead files tenant documentId := by
  cases hdata : call.data runtime now tenant documentId with
  | error e =>
      rw [sound_iff_of_unchanged hrow hcompany hid hreadable (onTable_of_error hdata),
        onFiles_threw harguments]
      rfl
  | ok data => exact absurd (arguments_of_data hdata) harguments

/-- The row does not meet the condition: the local repository answers `null`, and the other
one has to come as far as looking for the row. -/
theorem sound_iff_binds (hrow : row ∈ table.rows) (hcompany : row.companyId = tenant.companyId)
    (hid : row.id = documentId) (hreadable : Readable runtime row)
    (hmiss : ¬(row.deletedAt = none ∧ call.condition row = true))
    (hlocal : answer (call.onFiles runtime.dates persistLegacyOnRead (runtime.toISOString now)
      files tenant documentId).1 = .missed) :
    call.Sound runtime now table persistLegacyOnRead files tenant documentId ↔
      call.Binds runtime now tenant documentId := by
  cases hdata : call.data runtime now tenant documentId with
  | error e =>
      rw [sound_iff_of_unchanged hrow hcompany hid hreadable (onTable_of_error hdata), hlocal]
      constructor
      · intro h
        cases h
      · rintro ⟨data, hok, -⟩
        rw [hdata] at hok
        cases hok
  | ok data =>
      cases hbinds : data.binds runtime documentId call.leaseGuard with
      | false =>
          rw [sound_iff_of_unchanged hrow hcompany hid hreadable
            ((onTable_of_data hdata).trans (write_unbound hbinds)), hlocal]
          constructor
          · intro h
            cases h
          · rintro ⟨other, hok, htaken⟩
            rw [hdata] at hok
            rw [← Except.ok.inj hok, hbinds] at htaken
            cases htaken
      | true =>
          rw [sound_iff_of_unchanged hrow hcompany hid hreadable
            ((onTable_of_data hdata).trans (write_missed hbinds hrow hcompany hid hmiss)), hlocal]
          exact ⟨fun _ => ⟨data, hdata, hbinds⟩, fun _ => rfl⟩

/-- The row meets the condition: it is written if it fits, and accepted if the merged
record is. -/
theorem sound_iff_fits (hrow : row ∈ table.rows) (hcompany : row.companyId = tenant.companyId)
    (hid : row.id = documentId) (hreadable : Readable runtime row)
    (harguments : call.assertArguments tenant = .ok ())
    (hmatch : row.deletedAt = none ∧ call.condition row = true) {accepted : Prop}
    [Decidable accepted]
    (haccepted : accepted ↔ (call.merged tenant (runtime.toISOString now)
      (documentOf runtime row)).validate runtime.dates = .ok ())
    (hlocal : answer (call.onFiles runtime.dates persistLegacyOnRead (runtime.toISOString now)
      files tenant documentId).1 = if accepted then .wrote else .threw) :
    call.Sound runtime now table persistLegacyOnRead files tenant documentId ↔
      (call.Fits runtime now tenant documentId row ↔ accepted) := by
  have hsafe : isSafeDocumentSegment documentId = true := by
    rw [← hid]
    exact (readable_iff.mp hreadable).id
  have htenant : assertDocumentTenantContext tenant = .ok () := by
    cases call with
    | update changes => exact harguments
    | transitionStatus expectedStatuses nextStatus changes leaseGuard =>
        exact (seq_eq_ok.mp harguments).1
    | updateEmbeddingFenced changes leaseGuard => exact harguments
  -- A call that is refused is sound when the local one is refused.
  have hrefused : ∀ {e : String}, call.onTable runtime now table tenant documentId =
      (.error e, table) → ¬call.Fits runtime now tenant documentId row →
      (call.Sound runtime now table persistLegacyOnRead files tenant documentId ↔
        (call.Fits runtime now tenant documentId row ↔ accepted)) := by
    intro e hresult hfits
    rw [sound_iff_of_unchanged hrow hcompany hid hreadable hresult, hlocal]
    by_cases hok : accepted
    · simp [answer, hok, hfits]
    · simp [answer, hok, hfits]
  cases hdata : call.data runtime now tenant documentId with
  | error e =>
      refine hrefused (onTable_of_error hdata) ?_
      rintro ⟨data, hok, -⟩
      rw [hdata] at hok
      cases hok
  | ok data =>
      have hsame : ∀ other, call.data runtime now tenant documentId = .ok other → data = other := by
        intro other hok
        rw [hdata] at hok
        exact Except.ok.inj hok
      cases hbinds : data.binds runtime documentId call.leaseGuard with
      | false =>
          refine hrefused ((onTable_of_data hdata).trans (write_unbound hbinds)) ?_
          rintro ⟨other, hok, htaken, -⟩
          rw [← hsame other hok, hbinds] at htaken
          cases htaken
      | true =>
          by_cases hmeets : (row.set data).MeetsConstraints
          · obtain ⟨written, hrows, hwrite⟩ :=
              write_stored runtime hbinds htenant hsafe hrow hcompany hid hmatch hmeets
            have hresult : call.onTable runtime now table tenant documentId =
                (some <$> mapDatabaseDocument runtime (row.set data), written) :=
              (onTable_of_data hdata).trans hwrite
            have hfits : call.Fits runtime now tenant documentId row :=
              ⟨data, hdata, hbinds, hmeets⟩
            by_cases hok : accepted
            · have hset := readable_set hreadable hdata (haccepted.mp hok)
              rw [if_pos hok] at hlocal
              have hsound := sound_of_stored hrow hcompany hid hsafe hmatch hset hrows hresult
                hlocal
              simp [hsound, hfits, hok]
            · -- The row is written and the local repository throws.
              refine iff_of_false (fun hsound => ?_) (by simp [hfits, hok])
              have halike := hsound.alike
              rw [hlocal, if_neg hok] at halike
              have hthrew := halike
              rw [hresult] at hthrew
              have hselected := (selects_iff hrow hcompany hid hrow).mpr ⟨rfl, hmatch⟩
              have hset : Readable runtime (row.set data) := by
                refine hsound.readable _ ?_ hcompany hid
                rw [hresult, hrows]
                exact List.mem_map.mpr ⟨row, hrow, if_pos hselected⟩
              rw [mapDatabaseDocument_of_readable hset] at hthrew
              cases hthrew
          · refine hrefused ((onTable_of_data hdata).trans
              (write_refused hbinds hrow hcompany hid hmatch hmeets)) ?_
            rintro ⟨other, hok, -, hother⟩
            rw [← hsame other hok] at hother
            exact hmeets hother

end SideBySide

end MetadataWrite

/-! ## A row that no one can read -/

/-- A runtime that knows one date. -/
def oneDateRuntime : DateRuntime Unit where
  parse value := if value = "2026-07-01T10:00:00.000Z" then some () else none
  toISOString _ := "2026-07-01T10:00:00.000Z"
  getTime _ := 0
  isTimestamp _ := true
  parse_empty := by decide
  parse_toISOString _ := if_pos rfl

/-- The row of `uploadedDocument`. -/
def uploadedRow : DatabaseDocumentRecord Unit where
  id := "document-1"
  companyId := "acme"
  uploadedBy := "ada"
  status := .uploaded
  createdAt := ()
  updatedAt := ()
  deletedAt := none
  originalName := "invoice.pdf"
  storedName := "document-1.pdf"
  mimeType := "application/pdf"
  size := .ofInt 1024
  checksum := unverifiedDocumentChecksum
  processingAttempts := .ofInt 0
  lastErrorCode := none
  lastErrorMessage := none
  processingStartedAt := none
  processingCompletedAt := none
  nextRetryAt := none
  quarantinedAt := none
  workerId := none
  workerVersion := none
  deploymentGeneration := none
  processingFencingToken := .ofInt 0
  workerHeartbeatAt := none
  processingLeaseUntil := none
  pages := none
  textLength := none
  chunksCount := none
  detectedDocumentType := .unknown
  detectedMimeType := none
  detectionConfidence := none
  textExtractionMethod := .none
  ocrStatus := .pending
  ocrProvider := none
  ocrLanguage := none
  ocrStartedAt := none
  ocrCompletedAt := none
  pageCount := none
  extractedCharacterCount := none
  requiresManualReview := true
  intelligenceVersion := "document-intelligence-v1"
  embeddingStatus := .pending
  embeddingModel := none
  embeddingDimensions := none
  embeddingVersion := none
  embeddedAt := none
  embeddingAttempts := .ofInt 0
  lastEmbeddingErrorCode := none
  embeddingContentHash := none
  embeddingWorkerId := none
  embeddingWorkerVersion := none
  embeddingDeploymentGeneration := none
  embeddingFencingToken := .ofInt 0
  embeddingHeartbeatAt := none
  embeddingLeaseUntil := none

def uploadedTable : DocumentMetadataTable Unit where
  rows := [uploadedRow]
  keys := by simp [KeyedList.Distinct]
  constraints := by decide

def uploadedFiles : MetadataFiles :=
  LocalDocumentMetadataRepository.write ⟨∅, none⟩ acme [uploadedDocument]

theorem uploadedRow_reads :
    mapDatabaseDocument oneDateRuntime uploadedRow = .ok uploadedDocument := by
  decide

theorem uploadedFiles_shows :
    LocalDocumentMetadataRepository.Shows true uploadedFiles acme "document-1"
      [uploadedDocument] := by
  have hvalid : uploadedDocument.validate oneDate = .ok () := by decide
  have hblanks : uploadedDocument.NoSurroundingBlanks := by decide
  have hsame : readBack uploadedDocument = uploadedDocument := by decide
  have hread : (LocalDocumentMetadataRepository.read true uploadedFiles acme).1 =
      [uploadedDocument] := by
    unfold uploadedFiles
    rw [LocalDocumentMetadataRepository.read_write_cons hvalid rfl hblanks, hsame]
    rfl
  have hfiles : (LocalDocumentMetadataRepository.read true uploadedFiles acme).2 =
      uploadedFiles := by
    rfl
  have hfilter : [uploadedDocument].filter
      (LocalDocumentMetadataRepository.isLive "document-1") = [uploadedDocument] := by
    decide
  unfold LocalDocumentMetadataRepository.Shows
  rw [hfiles, hread]
  exact ⟨hfilter, hfilter⟩

/-- An update with an error code in lower case. -/
def badErrorCode : MetadataWrite := .update { lastErrorCode := some (some "bad") }

end AvantimePlatform.Documents.Record
