import AvantimePlatform.Documents.Record

/-!
# The local metadata file

`LocalDocumentMetadataRepository` of `document-repositories.ts` keeps the records of
a tenant in one JSON file.  `write` stores them with `JSON.stringify`; `read` parses
the file and passes every entry through `normalizeLegacyDocument`, which also reads
the entries of older versions of the platform.

The reader is lenient: it fills in what is missing, by defaults that depend on the
status and on other fields.  `readBack` is what it makes of an entry that `write`
stored, and `Survives` says which accepted records come back as they were:

* a failed one has an error code and the one message the reader gives;
* no nullable string is empty and no optional member is left out;
* the unchecked counts are finite, and a missing page or character count is not
  filled in from `pages` or `textLength`.
-/

namespace AvantimePlatform.Documents.Record

open AvantimePlatform.Text

/-! ## Reading an entry -/

/-- An entry of the file, `LegacyDocument`: what each member holds, if it is there. -/
structure LegacyDocument where
  id : Option Json := none
  companyId : Option Json := none
  uploadedBy : Option Json := none
  status : Option Json := none
  originalName : Option Json := none
  name : Option Json := none
  storedName : Option Json := none
  mimeType : Option Json := none
  type : Option Json := none
  size : Option Json := none
  createdAt : Option Json := none
  uploadedAt : Option Json := none
  updatedAt : Option Json := none
  pages : Option Json := none
  textLength : Option Json := none
  processedAt : Option Json := none
  chunksCount : Option Json := none
  checksum : Option Json := none
  deletedAt : Option Json := none
  processingAttempts : Option Json := none
  lastErrorCode : Option Json := none
  lastErrorMessage : Option Json := none
  processingStartedAt : Option Json := none
  processingCompletedAt : Option Json := none
  nextRetryAt : Option Json := none
  quarantinedAt : Option Json := none
  workerId : Option Json := none
  workerVersion : Option Json := none
  deploymentGeneration : Option Json := none
  processingFencingToken : Option Json := none
  workerHeartbeatAt : Option Json := none
  processingLeaseUntil : Option Json := none
  detectedDocumentType : Option Json := none
  detectedMimeType : Option Json := none
  detectionConfidence : Option Json := none
  textExtractionMethod : Option Json := none
  ocrStatus : Option Json := none
  ocrProvider : Option Json := none
  ocrLanguage : Option Json := none
  ocrStartedAt : Option Json := none
  ocrCompletedAt : Option Json := none
  pageCount : Option Json := none
  extractedCharacterCount : Option Json := none
  requiresManualReview : Option Json := none
  intelligenceVersion : Option Json := none
  embeddingStatus : Option Json := none
  embeddingModel : Option Json := none
  embeddingDimensions : Option Json := none
  embeddingVersion : Option Json := none
  embeddedAt : Option Json := none
  embeddingAttempts : Option Json := none
  lastEmbeddingErrorCode : Option Json := none
  embeddingContentHash : Option Json := none
  embeddingWorkerId : Option Json := none
  embeddingWorkerVersion : Option Json := none
  embeddingDeploymentGeneration : Option Json := none
  embeddingFencingToken : Option Json := none
  embeddingHeartbeatAt : Option Json := none
  embeddingLeaseUntil : Option Json := none

/-- `UNVERIFIED_DOCUMENT_CHECKSUM`. -/
def unverifiedDocumentChecksum : String := String.ofList (List.replicate 64 '0')

/-- `new Date(0).toISOString()`. -/
def epoch : String := "1970-01-01T00:00:00.000Z"

/-- `asString`; it is `asNullableString` as well, with `none` for `null`. -/
def asString : Option Json → Option String
  | some (.string value) => if trim value = "" then none else some (trim value)
  | _ => none

/-- `asDocumentChecksum`. -/
def asDocumentChecksum (value : Option Json) : String :=
  match asString value with
  | some checksum => if isSha256Hex checksum then checksum else unverifiedDocumentChecksum
  | none => unverifiedDocumentChecksum

/-- `typeof value === 'number' && ok(value) ? value : null`. -/
def asNumber (ok : JsNumber → Bool) : Option Json → Option JsNumber
  | some (.number value) => if ok value then some value else none
  | _ => none

/-- `typeof value === 'number' ? value : null`. -/
def asAnyNumber : Option Json → Option JsNumber := asNumber fun _ => true

/-- The test on the fencing tokens. -/
def isCounter (value : JsNumber) : Bool := value.isSafeInteger && value.isNonNegative

/-- The test on `embeddingContentHash`, which is not trimmed. -/
def asContentHash : Option Json → Option String
  | some (.string value) => if isSha256Hex value then some value else none
  | _ => none

/-- `typeof value === 'boolean' ? value : true`. -/
def asReview : Option Json → Bool
  | some (.boolean value) => value
  | _ => true

/-- `item.type === 'PDF'`. -/
def isPdfType : Option Json → Bool
  | some (.string value) => value == "PDF"
  | _ => false

def processingStatuses : List DocumentProcessingStatus :=
  [.uploaded, .queued, .processing, .completed, .failed, .quarantined, .deleted]

/-- `isDocumentProcessingStatus`, with the status that the value names. -/
def asProcessingStatus : Option Json → Option DocumentProcessingStatus :=
  Json.asEnum DocumentProcessingStatus.name processingStatuses

/-- `normalizeLegacyStatus`. -/
def normalizeLegacyStatus (value : Option Json) : DocumentProcessingStatus :=
  match asProcessingStatus value, value with
  | some status, _ => status
  | none, some (.string text) =>
    if text = "Обработан" ∨ text = "PROCESSED" then .completed
    else if text = "Ошибка" then .failed
    else if text = "Обрабатывается" then .processing
    else .uploaded
  | none, _ => .uploaded

/-- The message that the reader gives every failed document. -/
def failedMessage : String := "Не удалось обработать документ."

/-- `normalizeLegacyDocument`. -/
def normalizeLegacyDocument (item : LegacyDocument) (tenant : DocumentTenantContext) :
    Option DocumentMetadata :=
  match asString item.id, (asString item.originalName).or (asString item.name),
      asString item.storedName with
  | some id, some originalName, some storedName =>
    if (asString item.companyId).any (· != tenant.companyId) then none
    else
      let createdAt := ((asString item.createdAt).or (asString item.uploadedAt)).getD epoch
      let deletedAt := asString item.deletedAt
      let status := if deletedAt.isSome then .deleted else normalizeLegacyStatus item.status
      let processingCompletedAt :=
        (asString item.processingCompletedAt).or (asString item.processedAt)
      some {
        id := id
        companyId := tenant.companyId
        uploadedBy := (asString item.uploadedBy).getD "legacy-import"
        status := status
        originalName := originalName
        storedName := storedName
        mimeType := (asString item.mimeType).getD
          (if isPdfType item.type then "application/pdf" else "application/octet-stream")
        size := (asNumber JsNumber.isNonNegative item.size).getD (.finite 0)
        checksum := asDocumentChecksum item.checksum
        createdAt := createdAt
        updatedAt := ((asString item.updatedAt).or processingCompletedAt).getD createdAt
        deletedAt := deletedAt
        processingAttempts :=
          (asNumber JsNumber.isNonNegative item.processingAttempts).getD
            (if status = .completed ∨ status = .failed then .finite 1 else .finite 0)
        lastErrorCode := (asString item.lastErrorCode).or
          (if status = .failed then some "LEGACY_PROCESSING_ERROR" else none)
        lastErrorMessage :=
          if status = .failed then some failedMessage else asString item.lastErrorMessage
        processingStartedAt := asString item.processingStartedAt
        processingCompletedAt := processingCompletedAt
        nextRetryAt := asString item.nextRetryAt
        quarantinedAt := asString item.quarantinedAt
        workerId := asString item.workerId
        workerVersion := some (asString item.workerVersion)
        deploymentGeneration := some (asString item.deploymentGeneration)
        processingFencingToken :=
          some ((asNumber isCounter item.processingFencingToken).getD (.finite 0))
        workerHeartbeatAt := some (asString item.workerHeartbeatAt)
        processingLeaseUntil := some (asString item.processingLeaseUntil)
        pages := asAnyNumber item.pages
        textLength := asAnyNumber item.textLength
        chunksCount := asAnyNumber item.chunksCount
        detectedDocumentType :=
          (Json.asEnum DocumentType.name DocumentType.all item.detectedDocumentType).getD .unknown
        detectedMimeType := asString item.detectedMimeType
        detectionConfidence := asNumber JsNumber.isUnit item.detectionConfidence
        textExtractionMethod :=
          (Json.asEnum DocumentTextExtractionMethod.name DocumentTextExtractionMethod.all
            item.textExtractionMethod).getD (if status = .completed then .pdfText else .none)
        ocrStatus :=
          (Json.asEnum DocumentOcrStatus.name DocumentOcrStatus.all item.ocrStatus).getD
            (if status = .completed then .notRequired else .pending)
        ocrProvider := asString item.ocrProvider
        ocrLanguage := asString item.ocrLanguage
        ocrStartedAt := asString item.ocrStartedAt
        ocrCompletedAt := asString item.ocrCompletedAt
        pageCount := (asAnyNumber item.pageCount).or (asAnyNumber item.pages)
        extractedCharacterCount :=
          (asAnyNumber item.extractedCharacterCount).or (asAnyNumber item.textLength)
        requiresManualReview := asReview item.requiresManualReview
        intelligenceVersion := (asString item.intelligenceVersion).getD "legacy-task-002"
        embeddingStatus :=
          (Json.asEnum DocumentEmbeddingStatus.name DocumentEmbeddingStatus.all
            item.embeddingStatus).getD .pending
        embeddingModel := asString item.embeddingModel
        embeddingDimensions := asNumber JsNumber.isPositive item.embeddingDimensions
        embeddingVersion := asString item.embeddingVersion
        embeddedAt := asString item.embeddedAt
        embeddingAttempts :=
          (asNumber JsNumber.isNonNegative item.embeddingAttempts).getD (.finite 0)
        lastEmbeddingErrorCode := asString item.lastEmbeddingErrorCode
        embeddingContentHash := asContentHash item.embeddingContentHash
        embeddingWorkerId := some (asString item.embeddingWorkerId)
        embeddingWorkerVersion := some (asString item.embeddingWorkerVersion)
        embeddingDeploymentGeneration := some (asString item.embeddingDeploymentGeneration)
        embeddingFencingToken :=
          some ((asNumber isCounter item.embeddingFencingToken).getD (.finite 0))
        embeddingHeartbeatAt := some (asString item.embeddingHeartbeatAt)
        embeddingLeaseUntil := some (asString item.embeddingLeaseUntil) }
  | _, _, _ => none

/-! ## Writing a record -/

/-- A string or `null` as JSON. -/
def nullable (value : Option String) : Option Json := some (Json.ofNullable Json.string value)

/-- A number or `null` as JSON. -/
def nullableNumber (value : Option JsNumber) : Option Json :=
  some (Json.ofNullable Json.ofNumber value)

/-- A string or `null` that may be left out. -/
def optional (value : Option (Option String)) : Option Json :=
  Json.ofOptional (Json.ofNullable Json.string) value

/-- `JSON.parse(JSON.stringify(document))`. -/
def LegacyDocument.ofDocument (document : DocumentMetadata) : LegacyDocument where
  id := some (.string document.id)
  companyId := some (.string document.companyId)
  uploadedBy := some (.string document.uploadedBy)
  status := some (.string document.status.name)
  originalName := some (.string document.originalName)
  storedName := some (.string document.storedName)
  mimeType := some (.string document.mimeType)
  size := some (Json.ofNumber document.size)
  checksum := some (.string document.checksum)
  createdAt := some (.string document.createdAt)
  updatedAt := some (.string document.updatedAt)
  deletedAt := nullable document.deletedAt
  processingAttempts := some (Json.ofNumber document.processingAttempts)
  lastErrorCode := nullable document.lastErrorCode
  lastErrorMessage := nullable document.lastErrorMessage
  processingStartedAt := nullable document.processingStartedAt
  processingCompletedAt := nullable document.processingCompletedAt
  nextRetryAt := nullable document.nextRetryAt
  quarantinedAt := nullable document.quarantinedAt
  workerId := nullable document.workerId
  workerVersion := optional document.workerVersion
  deploymentGeneration := optional document.deploymentGeneration
  processingFencingToken := Json.ofOptional Json.ofNumber document.processingFencingToken
  workerHeartbeatAt := optional document.workerHeartbeatAt
  processingLeaseUntil := optional document.processingLeaseUntil
  pages := nullableNumber document.pages
  textLength := nullableNumber document.textLength
  chunksCount := nullableNumber document.chunksCount
  detectedDocumentType := some (.string document.detectedDocumentType.name)
  detectedMimeType := nullable document.detectedMimeType
  detectionConfidence := nullableNumber document.detectionConfidence
  textExtractionMethod := some (.string document.textExtractionMethod.name)
  ocrStatus := some (.string document.ocrStatus.name)
  ocrProvider := nullable document.ocrProvider
  ocrLanguage := nullable document.ocrLanguage
  ocrStartedAt := nullable document.ocrStartedAt
  ocrCompletedAt := nullable document.ocrCompletedAt
  pageCount := nullableNumber document.pageCount
  extractedCharacterCount := nullableNumber document.extractedCharacterCount
  requiresManualReview := some (.boolean document.requiresManualReview)
  intelligenceVersion := some (.string document.intelligenceVersion)
  embeddingStatus := some (.string document.embeddingStatus.name)
  embeddingModel := nullable document.embeddingModel
  embeddingDimensions := nullableNumber document.embeddingDimensions
  embeddingVersion := nullable document.embeddingVersion
  embeddedAt := nullable document.embeddedAt
  embeddingAttempts := some (Json.ofNumber document.embeddingAttempts)
  lastEmbeddingErrorCode := nullable document.lastEmbeddingErrorCode
  embeddingContentHash := nullable document.embeddingContentHash
  embeddingWorkerId := optional document.embeddingWorkerId
  embeddingWorkerVersion := optional document.embeddingWorkerVersion
  embeddingDeploymentGeneration := optional document.embeddingDeploymentGeneration
  embeddingFencingToken := Json.ofOptional Json.ofNumber document.embeddingFencingToken
  embeddingHeartbeatAt := optional document.embeddingHeartbeatAt
  embeddingLeaseUntil := optional document.embeddingLeaseUntil

/-! ## The files -/

/-- The files that the repository reads: those of the tenants, by company, and the
one from before there were tenants.  A file is a JSON array of objects. -/
structure MetadataFiles where
  tenants : Table String (List LegacyDocument)
  legacy : Option (List LegacyDocument)

/-- `AVANTIME_DOCUMENT_COMPANY_ID`. -/
def avantimeDocumentCompanyId : String := "avantime"

namespace LocalDocumentMetadataRepository

/-- `write`. -/
def write (files : MetadataFiles) (tenant : DocumentTenantContext)
    (documents : List DocumentMetadata) : MetadataFiles :=
  { files with
    tenants := files.tenants.insert tenant.companyId (documents.map LegacyDocument.ofDocument) }

/-- The entries of a file that the reader accepts. -/
def normalizeAll (tenant : DocumentTenantContext) (items : List LegacyDocument) :
    List DocumentMetadata :=
  items.filterMap (normalizeLegacyDocument · tenant)

/-- `read`: the tenant's file, or else for the one old tenant the old file, which is then
written as the tenant's unless `persistLegacyOnRead` is false. -/
def read (persistLegacyOnRead : Bool) (files : MetadataFiles) (tenant : DocumentTenantContext) :
    List DocumentMetadata × MetadataFiles :=
  match files.tenants.lookup tenant.companyId with
  | some items =>
    ((normalizeAll tenant items).filter (·.companyId == tenant.companyId), files)
  | none =>
    if tenant.companyId ≠ avantimeDocumentCompanyId then ([], files)
    else
      match files.legacy with
      | none => ([], files)
      | some items =>
        let migrated := normalizeAll tenant items
        if migrated ≠ [] ∧ persistLegacyOnRead then (migrated, write files tenant migrated)
        else (migrated, files)

end LocalDocumentMetadataRepository

/-! ## What reading back changes -/

namespace DocumentMetadata

/-- The strings that are always there. -/
def strings (document : DocumentMetadata) : List String :=
  [document.id, document.companyId, document.uploadedBy, document.originalName,
   document.storedName, document.mimeType, document.checksum, document.createdAt,
   document.updatedAt, document.intelligenceVersion]

/-- The strings that may be `null`. -/
def nullableStrings (document : DocumentMetadata) : List (Option String) :=
  [document.deletedAt, document.lastErrorCode, document.lastErrorMessage,
   document.processingStartedAt, document.processingCompletedAt, document.nextRetryAt,
   document.quarantinedAt, document.workerId, document.detectedMimeType, document.ocrProvider,
   document.ocrLanguage, document.ocrStartedAt, document.ocrCompletedAt,
   document.embeddingModel, document.embeddingVersion, document.embeddedAt,
   document.lastEmbeddingErrorCode, document.embeddingContentHash]

/-- The strings that may be `null` or left out. -/
def optionalStrings (document : DocumentMetadata) : List (Option (Option String)) :=
  [document.workerVersion, document.deploymentGeneration, document.workerHeartbeatAt,
   document.processingLeaseUntil, document.embeddingWorkerId, document.embeddingWorkerVersion,
   document.embeddingDeploymentGeneration, document.embeddingHeartbeatAt,
   document.embeddingLeaseUntil]

/-- The fencing tokens, which may be left out. -/
def fencingTokens (document : DocumentMetadata) : List (Option JsNumber) :=
  [document.processingFencingToken, document.embeddingFencingToken]

/-- The counts that `validate` does not look at. -/
def uncheckedCounts (document : DocumentMetadata) : List (Option JsNumber) :=
  [document.pages, document.textLength, document.chunksCount]

/-- No string of the record has surrounding blanks. -/
def NoSurroundingBlanks (document : DocumentMetadata) : Prop :=
  (∀ value ∈ document.strings, Trimmed value) ∧
    (∀ entry ∈ document.nullableStrings, ∀ value ∈ entry, Trimmed value) ∧
    ∀ entry ∈ document.optionalStrings, ∀ value ∈ entry.join, Trimmed value

instance (document : DocumentMetadata) : Decidable document.NoSurroundingBlanks :=
  inferInstanceAs (Decidable (_ ∧ _ ∧ _))

end DocumentMetadata

/-- A string that reads back as `null` when it is empty. -/
def kept (value : Option String) : Option String := value.filter (· != "")

/-- The record that the reader makes of a stored one. -/
def readBack (document : DocumentMetadata) : DocumentMetadata :=
  { document with
    deletedAt := kept document.deletedAt
    lastErrorCode := (kept document.lastErrorCode).or
      (if document.status = .failed then some "LEGACY_PROCESSING_ERROR" else none)
    lastErrorMessage :=
      if document.status = .failed then some failedMessage else kept document.lastErrorMessage
    processingStartedAt := kept document.processingStartedAt
    processingCompletedAt := kept document.processingCompletedAt
    nextRetryAt := kept document.nextRetryAt
    quarantinedAt := kept document.quarantinedAt
    workerId := kept document.workerId
    workerVersion := some (kept document.workerVersion.join)
    deploymentGeneration := some (kept document.deploymentGeneration.join)
    processingFencingToken := some (document.processingFencingToken.getD (.finite 0))
    workerHeartbeatAt := some (kept document.workerHeartbeatAt.join)
    processingLeaseUntil := some (kept document.processingLeaseUntil.join)
    pages := document.pages.filter JsNumber.isFinite
    textLength := document.textLength.filter JsNumber.isFinite
    chunksCount := document.chunksCount.filter JsNumber.isFinite
    detectedMimeType := kept document.detectedMimeType
    ocrProvider := kept document.ocrProvider
    ocrLanguage := kept document.ocrLanguage
    ocrStartedAt := kept document.ocrStartedAt
    ocrCompletedAt := kept document.ocrCompletedAt
    pageCount := document.pageCount.or (document.pages.filter JsNumber.isFinite)
    extractedCharacterCount :=
      document.extractedCharacterCount.or (document.textLength.filter JsNumber.isFinite)
    embeddingModel := kept document.embeddingModel
    embeddingVersion := kept document.embeddingVersion
    embeddedAt := kept document.embeddedAt
    lastEmbeddingErrorCode := kept document.lastEmbeddingErrorCode
    embeddingContentHash := kept document.embeddingContentHash
    embeddingWorkerId := some (kept document.embeddingWorkerId.join)
    embeddingWorkerVersion := some (kept document.embeddingWorkerVersion.join)
    embeddingDeploymentGeneration := some (kept document.embeddingDeploymentGeneration.join)
    embeddingFencingToken := some (document.embeddingFencingToken.getD (.finite 0))
    embeddingHeartbeatAt := some (kept document.embeddingHeartbeatAt.join)
    embeddingLeaseUntil := some (kept document.embeddingLeaseUntil.join) }

/-- The accepted records that come back as they were written. -/
structure Survives (document : DocumentMetadata) : Prop where
  /-- A failed document has an error code. -/
  failedCode : document.status = .failed → document.lastErrorCode ≠ none
  /-- A failed document has the message that the reader gives every failed one. -/
  failedMessage : document.status = .failed → document.lastErrorMessage = some failedMessage
  notEmpty : ∀ value ∈ document.nullableStrings, value ≠ some ""
  stringsPresent : ∀ value ∈ document.optionalStrings, value ≠ none ∧ value ≠ some (some "")
  tokensPresent : ∀ value ∈ document.fencingTokens, value ≠ none
  finite : ∀ value ∈ document.uncheckedCounts, ∀ n ∈ value, n.isFinite = true
  pageCount : document.pageCount = none → document.pages = none
  extractedCharacterCount :
    document.extractedCharacterCount = none → document.textLength = none

/-! ## The round trip of a record -/

theorem asString_string {value : String} (h : Trimmed value) (hne : value ≠ "") :
    asString (some (.string value)) = some value := by
  have htrim : trim value = value := h
  have hblank : trim value ≠ "" := by rwa [htrim]
  show (if trim value = "" then none else some (trim value)) = some value
  rw [if_neg hblank, htrim]

theorem asString_undefined : asString none = none := rfl

theorem kept_empty : kept (some "") = none := by decide

theorem asString_nullable {value : Option String} (h : ∀ s ∈ value, Trimmed s) :
    asString (nullable value) = kept value := by
  cases value with
  | none => rfl
  | some value =>
      have htrim : trim value = value := h value rfl
      by_cases hempty : value = ""
      · subst hempty
        show (if trim "" = "" then none else some (trim "")) = kept (some "")
        rw [trim_empty, if_pos rfl, kept_empty]
      · rw [show nullable (some value) = some (.string value) from rfl,
          asString_string htrim hempty]
        simp [kept, Option.filter, hempty]

theorem asString_optional {value : Option (Option String)} (h : ∀ s ∈ value.join, Trimmed s) :
    asString (optional value) = kept value.join := by
  cases value with
  | none => rfl
  | some value => exact asString_nullable h

theorem asNumber_ofNumber {ok : JsNumber → Bool} {n : JsNumber} (hfinite : n.isFinite = true)
    (hok : ok n = true) : asNumber ok (some (Json.ofNumber n)) = some n := by
  rw [Json.ofNumber, if_pos hfinite]
  exact if_pos hok

theorem asNumber_nullableNumber {ok : JsNumber → Bool} {value : Option JsNumber}
    (h : ∀ n ∈ value, n.isFinite = true ∧ ok n = true) :
    asNumber ok (nullableNumber value) = value := by
  cases value with
  | none => rfl
  | some n => exact asNumber_ofNumber (h n rfl).1 (h n rfl).2

theorem asAnyNumber_nullableNumber (value : Option JsNumber) :
    asAnyNumber (nullableNumber value) = value.filter JsNumber.isFinite := by
  cases value with
  | none => rfl
  | some n => cases n <;> rfl

/-- A token that was left out reads back as 0. -/
theorem asCounter_ofOptional {value : Option JsNumber}
    (h : ∀ n ∈ value, n.isSafeInteger = true ∧ n.isNonNegative = true) :
    (asNumber isCounter (Json.ofOptional Json.ofNumber value)).getD (.finite 0) =
      value.getD (.finite 0) := by
  cases value with
  | none => rfl
  | some n =>
      obtain ⟨hinteger, hnonneg⟩ := h n rfl
      have hcounter : isCounter n = true := by simp [isCounter, hinteger, hnonneg]
      have hread := asNumber_ofNumber (JsNumber.isFinite_of_isSafeInteger hinteger) hcounter
      rw [show Json.ofOptional Json.ofNumber (some n) = some (Json.ofNumber n) from rfl, hread]

theorem asContentHash_nullable {value : Option String}
    (h : ∀ hash ∈ value, hash ≠ "" → isSha256Hex hash = true) :
    asContentHash (nullable value) = kept value := by
  cases value with
  | none => rfl
  | some hash =>
      by_cases hempty : hash = ""
      · subst hempty
        have hbad : isSha256Hex "" = false := by decide
        rw [kept_empty]
        simp [asContentHash, nullable, Json.ofNullable, hbad]
      · have hhex := h hash rfl hempty
        simp [asContentHash, nullable, Json.ofNullable, kept, Option.filter, hhex, hempty]

theorem asProcessingStatus_name (status : DocumentProcessingStatus) :
    asProcessingStatus (some (.string status.name)) = some status := by
  cases status <;> decide

theorem normalizeLegacyStatus_name (status : DocumentProcessingStatus) :
    normalizeLegacyStatus (some (.string status.name)) = status := by
  unfold normalizeLegacyStatus
  rw [asProcessingStatus_name]

theorem asEnum_documentType (type : DocumentType) :
    Json.asEnum DocumentType.name DocumentType.all (some (.string type.name)) = some type := by
  cases type <;> decide

theorem asEnum_extractionMethod (method : DocumentTextExtractionMethod) :
    Json.asEnum DocumentTextExtractionMethod.name DocumentTextExtractionMethod.all
      (some (.string method.name)) = some method := by
  cases method <;> decide

theorem asEnum_ocrStatus (status : DocumentOcrStatus) :
    Json.asEnum DocumentOcrStatus.name DocumentOcrStatus.all (some (.string status.name)) =
      some status := by
  cases status <;> decide

theorem asEnum_embeddingStatus (status : DocumentEmbeddingStatus) :
    Json.asEnum DocumentEmbeddingStatus.name DocumentEmbeddingStatus.all
      (some (.string status.name)) = some status := by
  cases status <;> decide

/-- An accepted record of the tenant without surrounding blanks is read back as
`readBack` says. -/
theorem normalizeLegacyDocument_ofDocument {dates : DateParser} {tenant : DocumentTenantContext}
    {document : DocumentMetadata} (hvalid : document.validate dates = .ok ())
    (htenant : document.companyId = tenant.companyId) (hblanks : document.NoSurroundingBlanks) :
    normalizeLegacyDocument (LegacyDocument.ofDocument document) tenant =
      some (readBack document) := by
  have h := accepted_of_validate hvalid
  obtain ⟨hstrings, hnullable, hoptional⟩ := hblanks
  have hnull : ∀ entry ∈ document.nullableStrings, asString (nullable entry) = kept entry :=
    fun entry hentry => asString_nullable (hnullable entry hentry)
  have hopt : ∀ entry ∈ document.optionalStrings, asString (optional entry) = kept entry.join :=
    fun entry hentry => asString_optional (hoptional entry hentry)
  have hread : ∀ value ∈ document.strings, trim value ≠ "" →
      asString (some (.string value)) = some value := by
    intro value hvalue hblank
    have htrim : trim value = value := hstrings value hvalue
    exact asString_string htrim (by rwa [htrim] at hblank)
  have hsafe : ∀ value ∈ document.strings, value ≠ "" →
      asString (some (.string value)) = some value :=
    fun value hvalue hne => asString_string (hstrings value hvalue) hne
  simp only [DocumentMetadata.nullableStrings, List.forall_mem_cons] at hnull
  simp only [DocumentMetadata.optionalStrings, List.forall_mem_cons] at hopt
  simp only [DocumentMetadata.strings, List.forall_mem_cons] at hread hsafe
  obtain ⟨rid, -, ruploaded, -, rstored, -, rchecksum, rcreated, rupdated, -, -⟩ := hsafe
  obtain ⟨-, -, -, rname, -, rmime, -, -, -, rversion, -⟩ := hread
  have hchecksum : asDocumentChecksum (some (.string document.checksum)) = document.checksum := by
    have hne : document.checksum ≠ "" := by
      intro hempty
      have hhex := h.checksum
      rw [hempty] at hhex
      exact absurd hhex (by decide)
    unfold asDocumentChecksum
    rw [rchecksum hne]
    exact if_pos h.checksum
  have hcompany : (asString (some (.string document.companyId))).any (· != tenant.companyId) =
      false := by
    by_cases hempty : document.companyId = ""
    · rw [hempty]
      simp [asString]
    · rw [asString_string (hstrings _ (by simp [DocumentMetadata.strings])) hempty]
      simp [htenant]
  have hstatus : (if (kept document.deletedAt).isSome then .deleted else document.status) =
      document.status := by
    have hdeleted := h.deleted
    have hset : (kept document.deletedAt).isSome = isSet document.deletedAt := by
      cases document.deletedAt with
      | none => rfl
      | some value => by_cases hempty : value = "" <;> simp [kept, isSet, Option.filter, hempty]
    rw [hset, ← hdeleted]
    by_cases hd : document.status = .deleted <;> simp [hd]
  have hpages : asAnyNumber (nullableNumber document.pageCount) = document.pageCount :=
    asNumber_nullableNumber fun n hn =>
      ⟨JsNumber.isFinite_of_isSafeInteger (h.pageCount n hn).1, rfl⟩
  have hcharacters : asAnyNumber (nullableNumber document.extractedCharacterCount) =
      document.extractedCharacterCount :=
    asNumber_nullableNumber fun n hn =>
      ⟨JsNumber.isFinite_of_isSafeInteger (h.extractedCharacterCount n hn).1, rfl⟩
  have hconfidence : asNumber JsNumber.isUnit (nullableNumber document.detectionConfidence) =
      document.detectionConfidence := by
    refine asNumber_nullableNumber fun n hn => ?_
    have hunit : n.isUnit = true := by
      have hall := h.detectionConfidence
      rw [Option.mem_def.mp hn] at hall
      exact hall
    exact ⟨JsNumber.isFinite_of_isUnit hunit, hunit⟩
  have hdimensions : asNumber JsNumber.isPositive (nullableNumber document.embeddingDimensions) =
      document.embeddingDimensions := by
    refine asNumber_nullableNumber fun n hn => ?_
    have hpositive : (n.isSafeInteger && n.isPositive) = true := by
      have hall := h.embeddingDimensions
      rw [Option.mem_def.mp hn] at hall
      exact hall
    rw [Bool.and_eq_true] at hpositive
    exact ⟨JsNumber.isFinite_of_isSafeInteger hpositive.1, hpositive.2⟩
  have hcounter : ∀ n : JsNumber, n.isSafeInteger = true ∧ n.isNonNegative = true →
      asNumber JsNumber.isNonNegative (some (Json.ofNumber n)) = some n :=
    fun n hn => asNumber_ofNumber (JsNumber.isFinite_of_isSafeInteger hn.1) hn.2
  simp only [normalizeLegacyDocument, LegacyDocument.ofDocument, rid h.id, rname h.originalName,
    rstored h.storedName, Option.some_or, hcompany, ruploaded h.uploadedBy,
    rcreated h.createdAt, rupdated h.updatedAt, rmime h.mimeType, rversion h.intelligenceVersion,
    hchecksum, hnull, hopt, normalizeLegacyStatus_name, hstatus, asEnum_documentType,
    asEnum_extractionMethod, asEnum_ocrStatus, asEnum_embeddingStatus, hpages, hcharacters,
    hconfidence, hdimensions, hcounter _ h.size, hcounter _ h.processingAttempts,
    hcounter _ h.embeddingAttempts, asCounter_ofOptional h.processingFencingToken,
    asCounter_ofOptional h.embeddingFencingToken, asAnyNumber_nullableNumber,
    asContentHash_nullable h.embeddingContentHash, asString_undefined, Option.or_none]
  rw [← htenant]
  rfl

theorem kept_eq_iff {value : Option String} : kept value = value ↔ value ≠ some "" := by
  cases value with
  | none => simp [kept]
  | some value =>
      by_cases hempty : value = ""
      · simp [hempty, kept_empty]
      · simp [kept, Option.filter, hempty]

theorem some_kept_eq_iff {value : Option (Option String)} :
    some (kept value.join) = value ↔ value ≠ none ∧ value ≠ some (some "") := by
  cases value with
  | none => simp
  | some value =>
      rw [Option.some_inj, Option.join_some, kept_eq_iff]
      simp

theorem some_getD_eq_iff {value : Option JsNumber} {n : JsNumber} :
    some (value.getD n) = value ↔ value ≠ none := by
  cases value with
  | none => simp
  | some value => simp

theorem filter_finite_eq_iff {value : Option JsNumber} :
    value.filter JsNumber.isFinite = value ↔ ∀ n ∈ value, n.isFinite = true := by
  cases value with
  | none => simp
  | some value => cases value <;> simp [Option.filter, JsNumber.isFinite]

theorem or_eq_self_iff {α : Type} {value other : Option α} :
    value.or other = value ↔ (value = none → other = none) := by
  cases value with
  | none => simp
  | some value => simp

theorem lastErrorCode_eq_iff {failed : Prop} [Decidable failed] {value : Option String}
    {code : String} (hcode : code ≠ "") :
    (kept value).or (if failed then some code else none) = value ↔
      value ≠ some "" ∧ (failed → value ≠ none) := by
  cases value with
  | none => by_cases h : failed <;> simp [kept, h]
  | some value =>
      by_cases hempty : value = ""
      · by_cases h : failed <;> simp [hempty, kept_empty, h, hcode]
      · simp [kept, Option.filter, hempty]

theorem lastErrorMessage_eq_iff {failed : Prop} [Decidable failed] {value : Option String}
    {message : String} (hmessage : message ≠ "") :
    (if failed then some message else kept value) = value ↔
      value ≠ some "" ∧ (failed → value = some message) := by
  by_cases h : failed
  · rw [if_pos h]
    constructor
    · intro heq
      rw [← heq]
      exact ⟨fun hempty => hmessage (Option.some.inj hempty), fun _ => rfl⟩
    · exact fun heq => (heq.2 h).symm
  · rw [if_neg h, kept_eq_iff]
    simp [h]

theorem readBack_eq_iff {document : DocumentMetadata} :
    readBack document = document ↔ Survives document := by
  rw [DocumentMetadata.ext_iff]
  simp only [readBack, true_and, kept_eq_iff, some_kept_eq_iff, some_getD_eq_iff,
    filter_finite_eq_iff, or_eq_self_iff,
    lastErrorCode_eq_iff (show "LEGACY_PROCESSING_ERROR" ≠ "" by decide),
    lastErrorMessage_eq_iff (show failedMessage ≠ "" by decide)]
  constructor
  · rintro ⟨hmime, hprovider, hlanguage, hocrStarted, hocrCompleted, hpageCount, hcharacters,
      hdeleted, ⟨hcode, hfailedCode⟩, ⟨hmessage, hfailedMessage⟩, hstarted, hcompleted, hretry,
      hquarantined, hworker, hversion, hgeneration, htoken, hheartbeat, hlease, hpages, hlength,
      hchunks, hmodel, hembeddingVersion, hembeddedAt, hembeddingCode, hhash, heWorker,
      heVersion, heGeneration, heToken, heHeartbeat, heLease⟩
    exact {
      failedCode := hfailedCode
      failedMessage := hfailedMessage
      notEmpty := by
        simp only [DocumentMetadata.nullableStrings, List.forall_mem_cons]
        exact ⟨hdeleted, hcode, hmessage, hstarted, hcompleted, hretry, hquarantined, hworker,
          hmime, hprovider, hlanguage, hocrStarted, hocrCompleted, hmodel, hembeddingVersion,
          hembeddedAt, hembeddingCode, hhash, by simp⟩
      stringsPresent := by
        simp only [DocumentMetadata.optionalStrings, List.forall_mem_cons]
        exact ⟨hversion, hgeneration, hheartbeat, hlease, heWorker, heVersion, heGeneration,
          heHeartbeat, heLease, by simp⟩
      tokensPresent := by
        simp only [DocumentMetadata.fencingTokens, List.forall_mem_cons]
        exact ⟨htoken, heToken, by simp⟩
      finite := by
        simp only [DocumentMetadata.uncheckedCounts, List.forall_mem_cons]
        exact ⟨hpages, hlength, hchunks, by simp⟩
      pageCount := fun h => by
        rw [← filter_finite_eq_iff.mpr hpages]
        exact hpageCount h
      extractedCharacterCount := fun h => by
        rw [← filter_finite_eq_iff.mpr hlength]
        exact hcharacters h }
  · intro h
    have hempty := h.notEmpty
    have hstrings := h.stringsPresent
    have htokens := h.tokensPresent
    have hfinite := h.finite
    simp only [DocumentMetadata.nullableStrings, List.forall_mem_cons] at hempty
    simp only [DocumentMetadata.optionalStrings, List.forall_mem_cons] at hstrings
    simp only [DocumentMetadata.fencingTokens, List.forall_mem_cons] at htokens
    simp only [DocumentMetadata.uncheckedCounts, List.forall_mem_cons] at hfinite
    obtain ⟨hdeleted, hcode, hmessage, hstarted, hcompleted, hretry, hquarantined, hworker,
      hmime, hprovider, hlanguage, hocrStarted, hocrCompleted, hmodel, hembeddingVersion,
      hembeddedAt, hembeddingCode, hhash, -⟩ := hempty
    obtain ⟨hversion, hgeneration, hheartbeat, hlease, heWorker, heVersion, heGeneration,
      heHeartbeat, heLease, -⟩ := hstrings
    obtain ⟨htoken, heToken, -⟩ := htokens
    obtain ⟨hpages, hlength, hchunks, -⟩ := hfinite
    have hpageCount : document.pageCount = none → document.pages.filter JsNumber.isFinite = none :=
      fun hnone => by rw [h.pageCount hnone]; rfl
    have hcharacters : document.extractedCharacterCount = none →
        document.textLength.filter JsNumber.isFinite = none :=
      fun hnone => by rw [h.extractedCharacterCount hnone]; rfl
    exact ⟨hmime, hprovider, hlanguage, hocrStarted, hocrCompleted, hpageCount, hcharacters,
      hdeleted, ⟨hcode, h.failedCode⟩, ⟨hmessage, h.failedMessage⟩, hstarted, hcompleted, hretry,
      hquarantined, hworker, hversion, hgeneration, htoken, hheartbeat, hlease, hpages, hlength,
      hchunks, hmodel, hembeddingVersion, hembeddedAt, hembeddingCode, hhash, heWorker,
      heVersion, heGeneration, heToken, heHeartbeat, heLease⟩

/-! ## The round trip of the file -/

namespace LocalDocumentMetadataRepository

/-- What is read after a write is the written records, each passed through the reader. -/
theorem read_write (persistLegacyOnRead : Bool) (files : MetadataFiles)
    (tenant : DocumentTenantContext) (documents : List DocumentMetadata) :
    (read persistLegacyOnRead (write files tenant documents) tenant).1 =
      (normalizeAll tenant (documents.map LegacyDocument.ofDocument)).filter
        (·.companyId == tenant.companyId) := by
  have hlookup : (write files tenant documents).tenants.lookup tenant.companyId =
      some (documents.map LegacyDocument.ofDocument) := by
    show (files.tenants.insert tenant.companyId _).lookup tenant.companyId = _
    rw [Table.lookup_insert, if_pos rfl]
  unfold read
  rw [hlookup]

theorem read_write_append (persistLegacyOnRead : Bool) (files : MetadataFiles)
    (tenant : DocumentTenantContext) (xs ys : List DocumentMetadata) :
    (read persistLegacyOnRead (write files tenant (xs ++ ys)) tenant).1 =
      (read persistLegacyOnRead (write files tenant xs) tenant).1 ++
        (read persistLegacyOnRead (write files tenant ys) tenant).1 := by
  rw [read_write, read_write, read_write, List.map_append]
  unfold normalizeAll
  rw [List.filterMap_append, List.filter_append]

theorem read_write_cons {dates : DateParser} {tenant : DocumentTenantContext}
    {document : DocumentMetadata} (hvalid : document.validate dates = .ok ())
    (htenant : document.companyId = tenant.companyId) (hblanks : document.NoSurroundingBlanks)
    (persistLegacyOnRead : Bool) (files : MetadataFiles) (rest : List DocumentMetadata) :
    (read persistLegacyOnRead (write files tenant (document :: rest)) tenant).1 =
      readBack document :: (read persistLegacyOnRead (write files tenant rest) tenant).1 := by
  rw [read_write, read_write, List.map_cons]
  unfold normalizeAll
  rw [List.filterMap_cons, normalizeLegacyDocument_ofDocument hvalid htenant hblanks]
  have hsame : ((readBack document).companyId == tenant.companyId) = true := by
    show (document.companyId == tenant.companyId) = true
    rw [htenant]
    exact beq_self_eq_true _
  exact List.filter_cons_of_pos hsame

/-- A stored record is read back as it was written exactly when it `Survives`: wherever
it stands in the file, whatever else the file holds. -/
theorem local_metadata_survives_iff {dates : DateParser} {tenant : DocumentTenantContext}
    {document : DocumentMetadata} (hvalid : document.validate dates = .ok ())
    (htenant : document.companyId = tenant.companyId) (hblanks : document.NoSurroundingBlanks)
    (persistLegacyOnRead : Bool) (files : MetadataFiles) (before after : List DocumentMetadata) :
    (read persistLegacyOnRead (write files tenant (before ++ document :: after)) tenant).1 =
        (read persistLegacyOnRead (write files tenant before) tenant).1 ++
          document :: (read persistLegacyOnRead (write files tenant after) tenant).1 ↔
      Survives document := by
  rw [read_write_append, read_write_cons hvalid htenant hblanks, List.append_cancel_left_eq,
    List.cons_eq_cons, and_iff_left rfl, readBack_eq_iff]

end LocalDocumentMetadataRepository

/-! ## Concrete records -/

/-- A parser that knows one date. -/
def oneDate : DateParser where
  isDate value := value == "2026-07-01T10:00:00.000Z"
  empty := by decide

def acme : DocumentTenantContext where
  companyId := "acme"
  userId := "ada"

/-- A new document. -/
def uploadedDocument : DocumentMetadata where
  toDocumentIntelligenceMetadata := defaultDocumentIntelligenceMetadata
  id := "document-1"
  companyId := "acme"
  uploadedBy := "ada"
  status := .uploaded
  originalName := "invoice.pdf"
  storedName := "document-1.pdf"
  mimeType := "application/pdf"
  size := .ofInt 1024
  checksum := unverifiedDocumentChecksum
  createdAt := "2026-07-01T10:00:00.000Z"
  updatedAt := "2026-07-01T10:00:00.000Z"
  deletedAt := none
  processingAttempts := .ofInt 0
  lastErrorCode := none
  lastErrorMessage := none
  processingStartedAt := none
  processingCompletedAt := none
  nextRetryAt := none
  quarantinedAt := none
  workerId := none
  workerVersion := some none
  deploymentGeneration := some none
  processingFencingToken := some (.ofInt 0)
  workerHeartbeatAt := some none
  processingLeaseUntil := some none
  pages := none
  textLength := none
  chunksCount := none
  embeddingStatus := .pending
  embeddingModel := none
  embeddingDimensions := none
  embeddingVersion := none
  embeddedAt := none
  embeddingAttempts := .ofInt 0
  lastEmbeddingErrorCode := none
  embeddingContentHash := none
  embeddingWorkerId := some none
  embeddingWorkerVersion := some none
  embeddingDeploymentGeneration := some none
  embeddingFencingToken := some (.ofInt 0)
  embeddingHeartbeatAt := some none
  embeddingLeaseUntil := some none

/-- The same document after `enqueueUploadedDocument` could not queue it. -/
def unqueuedDocument : DocumentMetadata :=
  { uploadedDocument with
    status := .failed
    lastErrorCode := some "QUEUE_ENQUEUE_FAILED"
    lastErrorMessage := some "Не удалось поставить документ в очередь обработки."
    processingCompletedAt := some "2026-07-01T10:00:00.000Z" }

theorem local_metadata_survives_iff_uploadedDocument :
    (LocalDocumentMetadataRepository.read true
      (LocalDocumentMetadataRepository.write ⟨∅, none⟩ acme ([] ++ uploadedDocument :: [])) acme).1 =
        (LocalDocumentMetadataRepository.read true
            (LocalDocumentMetadataRepository.write ⟨∅, none⟩ acme []) acme).1 ++
          uploadedDocument :: (LocalDocumentMetadataRepository.read true
            (LocalDocumentMetadataRepository.write ⟨∅, none⟩ acme []) acme).1 ↔
      Survives uploadedDocument := by
  have hvalid : uploadedDocument.validate oneDate = .ok () := by decide
  have hblanks : uploadedDocument.NoSurroundingBlanks := by decide
  exact LocalDocumentMetadataRepository.local_metadata_survives_iff hvalid rfl hblanks true
    ⟨∅, none⟩ [] []

/-- The message of a failed document is lost: it reads back with the one message that the
reader gives every failed document. -/
theorem unqueuedDocument_message_lost :
    unqueuedDocument.validate oneDate = .ok () ∧ unqueuedDocument.companyId = acme.companyId ∧
      unqueuedDocument.NoSurroundingBlanks ∧
      (LocalDocumentMetadataRepository.read true
        (LocalDocumentMetadataRepository.write ⟨∅, none⟩ acme [unqueuedDocument]) acme).1 ≠
        [unqueuedDocument] := by
  have hvalid : unqueuedDocument.validate oneDate = .ok () := by decide
  have hblanks : unqueuedDocument.NoSurroundingBlanks := by decide
  refine ⟨hvalid, rfl, hblanks, ?_⟩
  rw [LocalDocumentMetadataRepository.read_write_cons hvalid rfl hblanks]
  intro hsame
  have hmessage := congrArg DocumentMetadata.lastErrorMessage (List.cons.inj hsame).1
  exact absurd hmessage (by decide)

end AvantimePlatform.Documents.Record
