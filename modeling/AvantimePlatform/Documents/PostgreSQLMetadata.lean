import AvantimePlatform.Documents.LocalMetadata
import AvantimePlatform.Lib.KeyedList

/-!
# The metadata table

`PostgreSQLDocumentMetadataRepository` of `document-repositories.ts` keeps the records
as rows of `DocumentMetadata`.  A write of part of a record is one `updateMany`: the
method checks some of the changed members itself, `applyProcessingChanges` copies the
others, and the row is checked as a whole only when `findById` reads it back.

The client takes a value or refuses the call; the table refuses a row that is too long
for a column or breaks one of the `CHECK`s of its migrations.  Both leave the rows as
they are.  The clock and the dates are a parameter, `DateRuntime`.
-/

namespace AvantimePlatform.Documents.Record

open AvantimePlatform.Checked AvantimePlatform.Text

/-- The dates of the runtime: `new Date(value)`, `toISOString`, `getTime`, and which of
them a `TIMESTAMP(3)` column holds. -/
structure DateRuntime (Instant : Type) where
  parse : String → Option Instant
  toISOString : Instant → String
  getTime : Instant → Int
  isTimestamp : Instant → Bool
  parse_empty : parse "" = none
  parse_toISOString : ∀ t, parse (toISOString t) = some t

/-- The strings that `new Date` reads. -/
def DateRuntime.dates {Instant : Type} (runtime : DateRuntime Instant) : DateParser where
  isDate value := (runtime.parse value).isSome
  empty := by rw [runtime.parse_empty]; rfl

/-- `DocumentLeaseGuard`. -/
structure DocumentLeaseGuard where
  workerId : String
  fencingToken : JsNumber

/-- `UpdateDocumentMetadata`: `none` is a member that is left out. -/
structure UpdateDocumentMetadata where
  originalName : Option String := none
  storedName : Option String := none
  mimeType : Option String := none
  size : Option JsNumber := none
  checksum : Option String := none
  processingAttempts : Option JsNumber := none
  lastErrorCode : Option (Option String) := none
  lastErrorMessage : Option (Option String) := none
  processingStartedAt : Option (Option String) := none
  processingCompletedAt : Option (Option String) := none
  nextRetryAt : Option (Option String) := none
  quarantinedAt : Option (Option String) := none
  workerId : Option (Option String) := none
  workerVersion : Option (Option String) := none
  deploymentGeneration : Option (Option String) := none
  processingFencingToken : Option JsNumber := none
  workerHeartbeatAt : Option (Option String) := none
  processingLeaseUntil : Option (Option String) := none
  pages : Option (Option JsNumber) := none
  textLength : Option (Option JsNumber) := none
  chunksCount : Option (Option JsNumber) := none
  detectedDocumentType : Option DocumentType := none
  detectedMimeType : Option (Option String) := none
  detectionConfidence : Option (Option JsNumber) := none
  textExtractionMethod : Option DocumentTextExtractionMethod := none
  ocrStatus : Option DocumentOcrStatus := none
  ocrProvider : Option (Option String) := none
  ocrLanguage : Option (Option String) := none
  ocrStartedAt : Option (Option String) := none
  ocrCompletedAt : Option (Option String) := none
  pageCount : Option (Option JsNumber) := none
  extractedCharacterCount : Option (Option JsNumber) := none
  requiresManualReview : Option Bool := none
  intelligenceVersion : Option String := none
  embeddingStatus : Option DocumentEmbeddingStatus := none
  embeddingModel : Option (Option String) := none
  embeddingDimensions : Option (Option JsNumber) := none
  embeddingVersion : Option (Option String) := none
  embeddedAt : Option (Option String) := none
  embeddingAttempts : Option JsNumber := none
  lastEmbeddingErrorCode : Option (Option String) := none
  embeddingContentHash : Option (Option String) := none
  embeddingWorkerId : Option (Option String) := none
  embeddingWorkerVersion : Option (Option String) := none
  embeddingDeploymentGeneration : Option (Option String) := none
  embeddingFencingToken : Option JsNumber := none
  embeddingHeartbeatAt : Option (Option String) := none
  embeddingLeaseUntil : Option (Option String) := none

/-! ## Rows -/

/-- `DatabaseDocumentRecord`.  The columns of an enumeration hold its members only. -/
structure DatabaseDocumentRecord (Instant : Type) where
  id : String
  companyId : String
  uploadedBy : String
  status : DocumentProcessingStatus
  createdAt : Instant
  updatedAt : Instant
  deletedAt : Option Instant
  originalName : String
  storedName : String
  mimeType : String
  size : JsNumber
  checksum : String
  processingAttempts : JsNumber
  lastErrorCode : Option String
  lastErrorMessage : Option String
  processingStartedAt : Option Instant
  processingCompletedAt : Option Instant
  nextRetryAt : Option Instant
  quarantinedAt : Option Instant
  workerId : Option String
  workerVersion : Option String
  deploymentGeneration : Option String
  processingFencingToken : JsNumber
  workerHeartbeatAt : Option Instant
  processingLeaseUntil : Option Instant
  pages : Option JsNumber
  textLength : Option JsNumber
  chunksCount : Option JsNumber
  detectedDocumentType : DocumentType
  detectedMimeType : Option String
  detectionConfidence : Option JsNumber
  textExtractionMethod : DocumentTextExtractionMethod
  ocrStatus : DocumentOcrStatus
  ocrProvider : Option String
  ocrLanguage : Option String
  ocrStartedAt : Option Instant
  ocrCompletedAt : Option Instant
  pageCount : Option JsNumber
  extractedCharacterCount : Option JsNumber
  requiresManualReview : Bool
  intelligenceVersion : String
  embeddingStatus : DocumentEmbeddingStatus
  embeddingModel : Option String
  embeddingDimensions : Option JsNumber
  embeddingVersion : Option String
  embeddedAt : Option Instant
  embeddingAttempts : JsNumber
  lastEmbeddingErrorCode : Option String
  embeddingContentHash : Option String
  embeddingWorkerId : Option String
  embeddingWorkerVersion : Option String
  embeddingDeploymentGeneration : Option String
  embeddingFencingToken : JsNumber
  embeddingHeartbeatAt : Option Instant
  embeddingLeaseUntil : Option Instant

/-- The `data` of an update: the columns that it sets. -/
structure DocumentMetadataData (Instant : Type) where
  updatedAt : Instant
  status : Option DocumentProcessingStatus := none
  originalName : Option String := none
  storedName : Option String := none
  mimeType : Option String := none
  size : Option JsNumber := none
  checksum : Option String := none
  processingAttempts : Option JsNumber := none
  lastErrorCode : Option (Option String) := none
  lastErrorMessage : Option (Option String) := none
  processingStartedAt : Option (Option Instant) := none
  processingCompletedAt : Option (Option Instant) := none
  nextRetryAt : Option (Option Instant) := none
  quarantinedAt : Option (Option Instant) := none
  workerId : Option (Option String) := none
  workerVersion : Option (Option String) := none
  deploymentGeneration : Option (Option String) := none
  processingFencingToken : Option JsNumber := none
  workerHeartbeatAt : Option (Option Instant) := none
  processingLeaseUntil : Option (Option Instant) := none
  pages : Option (Option JsNumber) := none
  textLength : Option (Option JsNumber) := none
  chunksCount : Option (Option JsNumber) := none
  detectedDocumentType : Option DocumentType := none
  detectedMimeType : Option (Option String) := none
  detectionConfidence : Option (Option JsNumber) := none
  textExtractionMethod : Option DocumentTextExtractionMethod := none
  ocrStatus : Option DocumentOcrStatus := none
  ocrProvider : Option (Option String) := none
  ocrLanguage : Option (Option String) := none
  ocrStartedAt : Option (Option Instant) := none
  ocrCompletedAt : Option (Option Instant) := none
  pageCount : Option (Option JsNumber) := none
  extractedCharacterCount : Option (Option JsNumber) := none
  requiresManualReview : Option Bool := none
  intelligenceVersion : Option String := none
  embeddingStatus : Option DocumentEmbeddingStatus := none
  embeddingModel : Option (Option String) := none
  embeddingDimensions : Option (Option JsNumber) := none
  embeddingVersion : Option (Option String) := none
  embeddedAt : Option (Option Instant) := none
  embeddingAttempts : Option JsNumber := none
  lastEmbeddingErrorCode : Option (Option String) := none
  embeddingContentHash : Option (Option String) := none
  embeddingWorkerId : Option (Option String) := none
  embeddingWorkerVersion : Option (Option String) := none
  embeddingDeploymentGeneration : Option (Option String) := none
  embeddingFencingToken : Option JsNumber := none
  embeddingHeartbeatAt : Option (Option Instant) := none
  embeddingLeaseUntil : Option (Option Instant) := none

section Rows

variable {Instant : Type}

/-- A row after an update. -/
def DatabaseDocumentRecord.set (row : DatabaseDocumentRecord Instant)
    (data : DocumentMetadataData Instant) : DatabaseDocumentRecord Instant where
  id := row.id
  companyId := row.companyId
  uploadedBy := row.uploadedBy
  status := data.status.getD row.status
  createdAt := row.createdAt
  updatedAt := data.updatedAt
  deletedAt := row.deletedAt
  originalName := data.originalName.getD row.originalName
  storedName := data.storedName.getD row.storedName
  mimeType := data.mimeType.getD row.mimeType
  size := data.size.getD row.size
  checksum := data.checksum.getD row.checksum
  processingAttempts := data.processingAttempts.getD row.processingAttempts
  lastErrorCode := data.lastErrorCode.getD row.lastErrorCode
  lastErrorMessage := data.lastErrorMessage.getD row.lastErrorMessage
  processingStartedAt := data.processingStartedAt.getD row.processingStartedAt
  processingCompletedAt := data.processingCompletedAt.getD row.processingCompletedAt
  nextRetryAt := data.nextRetryAt.getD row.nextRetryAt
  quarantinedAt := data.quarantinedAt.getD row.quarantinedAt
  workerId := data.workerId.getD row.workerId
  workerVersion := data.workerVersion.getD row.workerVersion
  deploymentGeneration := data.deploymentGeneration.getD row.deploymentGeneration
  processingFencingToken := data.processingFencingToken.getD row.processingFencingToken
  workerHeartbeatAt := data.workerHeartbeatAt.getD row.workerHeartbeatAt
  processingLeaseUntil := data.processingLeaseUntil.getD row.processingLeaseUntil
  pages := data.pages.getD row.pages
  textLength := data.textLength.getD row.textLength
  chunksCount := data.chunksCount.getD row.chunksCount
  detectedDocumentType := data.detectedDocumentType.getD row.detectedDocumentType
  detectedMimeType := data.detectedMimeType.getD row.detectedMimeType
  detectionConfidence := data.detectionConfidence.getD row.detectionConfidence
  textExtractionMethod := data.textExtractionMethod.getD row.textExtractionMethod
  ocrStatus := data.ocrStatus.getD row.ocrStatus
  ocrProvider := data.ocrProvider.getD row.ocrProvider
  ocrLanguage := data.ocrLanguage.getD row.ocrLanguage
  ocrStartedAt := data.ocrStartedAt.getD row.ocrStartedAt
  ocrCompletedAt := data.ocrCompletedAt.getD row.ocrCompletedAt
  pageCount := data.pageCount.getD row.pageCount
  extractedCharacterCount := data.extractedCharacterCount.getD row.extractedCharacterCount
  requiresManualReview := data.requiresManualReview.getD row.requiresManualReview
  intelligenceVersion := data.intelligenceVersion.getD row.intelligenceVersion
  embeddingStatus := data.embeddingStatus.getD row.embeddingStatus
  embeddingModel := data.embeddingModel.getD row.embeddingModel
  embeddingDimensions := data.embeddingDimensions.getD row.embeddingDimensions
  embeddingVersion := data.embeddingVersion.getD row.embeddingVersion
  embeddedAt := data.embeddedAt.getD row.embeddedAt
  embeddingAttempts := data.embeddingAttempts.getD row.embeddingAttempts
  lastEmbeddingErrorCode := data.lastEmbeddingErrorCode.getD row.lastEmbeddingErrorCode
  embeddingContentHash := data.embeddingContentHash.getD row.embeddingContentHash
  embeddingWorkerId := data.embeddingWorkerId.getD row.embeddingWorkerId
  embeddingWorkerVersion := data.embeddingWorkerVersion.getD row.embeddingWorkerVersion
  embeddingDeploymentGeneration := data.embeddingDeploymentGeneration.getD row.embeddingDeploymentGeneration
  embeddingFencingToken := data.embeddingFencingToken.getD row.embeddingFencingToken
  embeddingHeartbeatAt := data.embeddingHeartbeatAt.getD row.embeddingHeartbeatAt
  embeddingLeaseUntil := data.embeddingLeaseUntil.getD row.embeddingLeaseUntil

/-- The record that `mapDatabaseDocument` makes of a row, before it is checked. -/
def documentOf (runtime : DateRuntime Instant) (row : DatabaseDocumentRecord Instant) :
    DocumentMetadata where
  id := row.id
  companyId := row.companyId
  uploadedBy := row.uploadedBy
  status := row.status
  createdAt := runtime.toISOString row.createdAt
  updatedAt := runtime.toISOString row.updatedAt
  deletedAt := row.deletedAt.map runtime.toISOString
  originalName := row.originalName
  storedName := row.storedName
  mimeType := row.mimeType
  size := row.size
  checksum := row.checksum
  processingAttempts := row.processingAttempts
  lastErrorCode := row.lastErrorCode
  lastErrorMessage := row.lastErrorMessage
  processingStartedAt := row.processingStartedAt.map runtime.toISOString
  processingCompletedAt := row.processingCompletedAt.map runtime.toISOString
  nextRetryAt := row.nextRetryAt.map runtime.toISOString
  quarantinedAt := row.quarantinedAt.map runtime.toISOString
  workerId := row.workerId
  workerVersion := some row.workerVersion
  deploymentGeneration := some row.deploymentGeneration
  processingFencingToken := some row.processingFencingToken
  workerHeartbeatAt := some (row.workerHeartbeatAt.map runtime.toISOString)
  processingLeaseUntil := some (row.processingLeaseUntil.map runtime.toISOString)
  pages := row.pages
  textLength := row.textLength
  chunksCount := row.chunksCount
  detectedDocumentType := row.detectedDocumentType
  detectedMimeType := row.detectedMimeType
  detectionConfidence := row.detectionConfidence
  textExtractionMethod := row.textExtractionMethod
  ocrStatus := row.ocrStatus
  ocrProvider := row.ocrProvider
  ocrLanguage := row.ocrLanguage
  ocrStartedAt := row.ocrStartedAt.map runtime.toISOString
  ocrCompletedAt := row.ocrCompletedAt.map runtime.toISOString
  pageCount := row.pageCount
  extractedCharacterCount := row.extractedCharacterCount
  requiresManualReview := row.requiresManualReview
  intelligenceVersion := row.intelligenceVersion
  embeddingStatus := row.embeddingStatus
  embeddingModel := row.embeddingModel
  embeddingDimensions := row.embeddingDimensions
  embeddingVersion := row.embeddingVersion
  embeddedAt := row.embeddedAt.map runtime.toISOString
  embeddingAttempts := if isCounter row.embeddingAttempts then row.embeddingAttempts else .ofInt 0
  lastEmbeddingErrorCode := row.lastEmbeddingErrorCode
  embeddingContentHash := row.embeddingContentHash
  embeddingWorkerId := some row.embeddingWorkerId
  embeddingWorkerVersion := some row.embeddingWorkerVersion
  embeddingDeploymentGeneration := some row.embeddingDeploymentGeneration
  embeddingFencingToken := some row.embeddingFencingToken
  embeddingHeartbeatAt := some (row.embeddingHeartbeatAt.map runtime.toISOString)
  embeddingLeaseUntil := some (row.embeddingLeaseUntil.map runtime.toISOString)

/-- `mapDatabaseDocument`. -/
def mapDatabaseDocument (runtime : DateRuntime Instant) (row : DatabaseDocumentRecord Instant) :
    Except String DocumentMetadata := do
  (documentOf runtime row).validate runtime.dates
  return documentOf runtime row

/-- The reader accepts the row. -/
def Readable (runtime : DateRuntime Instant) (row : DatabaseDocumentRecord Instant) : Prop :=
  (documentOf runtime row).validate runtime.dates = .ok ()

/-! ## What a column takes -/

/-- A 32-bit integer. -/
def isInteger32 : JsNumber → Bool
  | .finite value =>
    value.den == 1 && decide (-2147483648 ≤ value.num) && decide (value.num ≤ 2147483647)
  | .nonFinite => false

/-- A text of the database has no zero character. -/
def isText (value : String) : Bool := !value.toList.contains '\x00'

/-- A text of at most `n` characters, or `NULL`. -/
def fits (n : Nat) (value : Option String) : Prop := ∀ s ∈ value, s.toList.length ≤ n

instance (n : Nat) (value : Option String) : Decidable (fits n value) :=
  inferInstanceAs (Decidable (∀ s ∈ value, _))

/-- The lengths of the `VARCHAR` columns and the `CHECK`s of the migrations. -/
def DatabaseDocumentRecord.MeetsConstraints (row : DatabaseDocumentRecord Instant) : Prop :=
  (fits 255 row.storedName ∧ fits 255 row.mimeType ∧ fits 100 row.lastErrorCode ∧
    fits 200 row.workerId ∧ fits 100 row.workerVersion ∧ fits 100 row.deploymentGeneration ∧
    fits 255 row.detectedMimeType ∧ fits 100 row.ocrProvider ∧ fits 100 row.ocrLanguage ∧
    fits 100 row.intelligenceVersion ∧ fits 200 row.embeddingModel ∧
    fits 100 row.embeddingVersion ∧ fits 100 row.lastEmbeddingErrorCode ∧
    fits 200 row.embeddingWorkerId ∧ fits 100 row.embeddingWorkerVersion ∧
    fits 100 row.embeddingDeploymentGeneration) ∧
  row.size.isNonNegative = true ∧ isSha256Hex row.checksum = true ∧
  row.processingAttempts.isNonNegative = true ∧
  (∀ confidence ∈ row.detectionConfidence, confidence.isUnit = true) ∧
  (∀ count ∈ row.pageCount, count.isNonNegative = true) ∧
  (∀ count ∈ row.extractedCharacterCount, count.isNonNegative = true) ∧
  row.embeddingAttempts.isNonNegative = true ∧
  (∀ dimensions ∈ row.embeddingDimensions, dimensions.isPositive = true) ∧
  ∀ hash ∈ row.embeddingContentHash, isSha256Hex hash = true

instance (row : DatabaseDocumentRecord Instant) : Decidable row.MeetsConstraints :=
  inferInstanceAs (Decidable (_ ∧ _))

namespace DocumentMetadataData

/-- The texts that an update sets. -/
def texts (data : DocumentMetadataData Instant) : List (Option String) :=
  [data.originalName, data.storedName, data.mimeType, data.checksum, data.lastErrorCode.join,
   data.lastErrorMessage.join, data.workerId.join, data.workerVersion.join,
   data.deploymentGeneration.join, data.detectedMimeType.join, data.ocrProvider.join,
   data.ocrLanguage.join, data.intelligenceVersion, data.embeddingModel.join,
   data.embeddingVersion.join, data.lastEmbeddingErrorCode.join, data.embeddingContentHash.join,
   data.embeddingWorkerId.join, data.embeddingWorkerVersion.join,
   data.embeddingDeploymentGeneration.join]

/-- The integers that it sets. -/
def integers (data : DocumentMetadataData Instant) : List (Option JsNumber) :=
  [data.size, data.processingAttempts, data.processingFencingToken, data.pages.join,
   data.textLength.join, data.chunksCount.join, data.pageCount.join,
   data.extractedCharacterCount.join, data.embeddingDimensions.join, data.embeddingAttempts,
   data.embeddingFencingToken]

/-- The dates that it sets. -/
def timestamps (data : DocumentMetadataData Instant) : List (Option Instant) :=
  [some data.updatedAt, data.processingStartedAt.join, data.processingCompletedAt.join,
   data.nextRetryAt.join, data.quarantinedAt.join, data.workerHeartbeatAt.join,
   data.processingLeaseUntil.join, data.ocrStartedAt.join, data.ocrCompletedAt.join,
   data.embeddedAt.join, data.embeddingHeartbeatAt.join, data.embeddingLeaseUntil.join]

/-- The client takes the values, and those of the condition. -/
def binds (runtime : DateRuntime Instant) (data : DocumentMetadataData Instant)
    (documentId : String) (leaseGuard : Option DocumentLeaseGuard) : Bool :=
  isText documentId && data.texts.all (·.all isText) && data.integers.all (·.all isInteger32) &&
    data.detectionConfidence.join.all JsNumber.isFinite &&
    data.timestamps.all (·.all runtime.isTimestamp) &&
    leaseGuard.all fun guard => isText guard.workerId && isInteger32 guard.fencingToken

end DocumentMetadataData

/-! ## The table -/

/-- The primary key. -/
def documentKey (row : DatabaseDocumentRecord Instant) : String × String :=
  (row.companyId, row.id)

theorem documentKey_set (data : DocumentMetadataData Instant)
    (row : DatabaseDocumentRecord Instant) : documentKey (row.set data) = documentKey row :=
  rfl

/-- The rows of `DocumentMetadata`. -/
structure DocumentMetadataTable (Instant : Type) where
  rows : List (DatabaseDocumentRecord Instant)
  keys : KeyedList.Distinct documentKey rows
  constraints : ∀ row ∈ rows, row.MeetsConstraints

namespace DocumentMetadataTable

/-- The message of a call that the client or the table refuses. -/
def refused : String := "Invalid invocation of documentMetadata.updateMany()."

/-- `updateMany`: the number of rows that it changed, and the table after it. -/
def updateMany (table : DocumentMetadataTable Instant)
    (selects : DatabaseDocumentRecord Instant → Bool) (data : DocumentMetadataData Instant) :
    Except String (Nat × DocumentMetadataTable Instant) :=
  if h : ∀ row ∈ table.rows, selects row = true → (row.set data).MeetsConstraints then
    .ok (table.rows.countP selects,
      { rows := KeyedList.updateMany selects (·.set data) table.rows
        keys := KeyedList.distinct_updateMany (documentKey_set data) table.keys
        constraints := by
          intro row hrow
          obtain ⟨old, hold, rfl⟩ := List.mem_map.mp hrow
          split
          · next hselects => exact h old hold hselects
          · exact table.constraints old hold })
  else .error refused

/-- The rows that are not deleted, of a tenant. -/
def ofTenant (table : DocumentMetadataTable Instant) (companyId : String) :
    List (DatabaseDocumentRecord Instant) :=
  table.rows.filter fun row => row.companyId == companyId && row.deletedAt.isNone

end DocumentMetadataTable

end Rows

/-! ## The repository -/

section Repository

variable {Instant : Type}

/-- `new Date(value)` of a changed date; the empty string counts as `null`. -/
def dateColumn (runtime : DateRuntime Instant) (label : String) :
    Option (Option String) → Except String (Option (Option Instant))
  | none => .ok none
  | some none => .ok (some none)
  | some (some value) =>
    if value = "" then .ok (some none)
    else
      match runtime.parse value with
      | some date => .ok (some (some date))
      | none => .error (label ++ " must be a valid date.")

/-- The date columns that a call sets. -/
structure DateColumns (Instant : Type) where
  processingStartedAt : Option (Option Instant)
  processingCompletedAt : Option (Option Instant)
  nextRetryAt : Option (Option Instant)
  quarantinedAt : Option (Option Instant)
  workerHeartbeatAt : Option (Option Instant)
  processingLeaseUntil : Option (Option Instant)
  ocrStartedAt : Option (Option Instant)
  ocrCompletedAt : Option (Option Instant)
  embeddedAt : Option (Option Instant)
  embeddingHeartbeatAt : Option (Option Instant)
  embeddingLeaseUntil : Option (Option Instant)

/-- The dates among the changes, as `applyProcessingChanges` reads them one after another. -/
def readDates (runtime : DateRuntime Instant) (changes : UpdateDocumentMetadata) :
    Except String (DateColumns Instant) := do
  let processingStartedAt ← dateColumn runtime "processingStartedAt" changes.processingStartedAt
  let processingCompletedAt ← dateColumn runtime "processingCompletedAt" changes.processingCompletedAt
  let nextRetryAt ← dateColumn runtime "nextRetryAt" changes.nextRetryAt
  let quarantinedAt ← dateColumn runtime "quarantinedAt" changes.quarantinedAt
  let workerHeartbeatAt ← dateColumn runtime "workerHeartbeatAt" changes.workerHeartbeatAt
  let processingLeaseUntil ← dateColumn runtime "processingLeaseUntil" changes.processingLeaseUntil
  let ocrStartedAt ← dateColumn runtime "ocrStartedAt" changes.ocrStartedAt
  let ocrCompletedAt ← dateColumn runtime "ocrCompletedAt" changes.ocrCompletedAt
  let embeddedAt ← dateColumn runtime "embeddedAt" changes.embeddedAt
  let embeddingHeartbeatAt ← dateColumn runtime "embeddingHeartbeatAt" changes.embeddingHeartbeatAt
  let embeddingLeaseUntil ← dateColumn runtime "embeddingLeaseUntil" changes.embeddingLeaseUntil
  return ⟨processingStartedAt, processingCompletedAt, nextRetryAt, quarantinedAt,
    workerHeartbeatAt, processingLeaseUntil, ocrStartedAt, ocrCompletedAt,
    embeddedAt, embeddingHeartbeatAt, embeddingLeaseUntil⟩

/-- The columns that `applyProcessingChanges` copies. -/
def DocumentMetadataData.copy (data : DocumentMetadataData Instant)
    (changes : UpdateDocumentMetadata) (dates : DateColumns Instant) :
    DocumentMetadataData Instant :=
  { data with
    processingAttempts := changes.processingAttempts
    lastErrorCode := changes.lastErrorCode
    lastErrorMessage := changes.lastErrorMessage
    processingStartedAt := dates.processingStartedAt
    processingCompletedAt := dates.processingCompletedAt
    nextRetryAt := dates.nextRetryAt
    quarantinedAt := dates.quarantinedAt
    workerId := changes.workerId
    workerVersion := changes.workerVersion
    deploymentGeneration := changes.deploymentGeneration
    processingFencingToken := changes.processingFencingToken
    workerHeartbeatAt := dates.workerHeartbeatAt
    processingLeaseUntil := dates.processingLeaseUntil
    pages := changes.pages
    textLength := changes.textLength
    chunksCount := changes.chunksCount
    detectedDocumentType := changes.detectedDocumentType
    detectedMimeType := changes.detectedMimeType
    detectionConfidence := changes.detectionConfidence
    textExtractionMethod := changes.textExtractionMethod
    ocrStatus := changes.ocrStatus
    ocrProvider := changes.ocrProvider
    ocrLanguage := changes.ocrLanguage
    ocrStartedAt := dates.ocrStartedAt
    ocrCompletedAt := dates.ocrCompletedAt
    pageCount := changes.pageCount
    extractedCharacterCount := changes.extractedCharacterCount
    requiresManualReview := changes.requiresManualReview
    intelligenceVersion := changes.intelligenceVersion
    embeddingStatus := changes.embeddingStatus
    embeddingModel := changes.embeddingModel
    embeddingDimensions := changes.embeddingDimensions
    embeddingVersion := changes.embeddingVersion
    embeddedAt := dates.embeddedAt
    embeddingAttempts := changes.embeddingAttempts
    lastEmbeddingErrorCode := changes.lastEmbeddingErrorCode
    embeddingContentHash := changes.embeddingContentHash
    embeddingWorkerId := changes.embeddingWorkerId
    embeddingWorkerVersion := changes.embeddingWorkerVersion
    embeddingDeploymentGeneration := changes.embeddingDeploymentGeneration
    embeddingFencingToken := changes.embeddingFencingToken
    embeddingHeartbeatAt := dates.embeddingHeartbeatAt
    embeddingLeaseUntil := dates.embeddingLeaseUntil }

/-- `applyProcessingChanges`. -/
def applyProcessingChanges (runtime : DateRuntime Instant) (data : DocumentMetadataData Instant)
    (changes : UpdateDocumentMetadata) : Except String (DocumentMetadataData Instant) :=
  (readDates runtime changes).map (data.copy changes)

/-- `if (value !== undefined) check(value)`. -/
def whenChanged {α : Type} (value : Option α) (check : α → Except String Unit) :
    Except String Unit :=
  match value with
  | none => .ok ()
  | some value => check value

namespace PostgreSQLDocumentMetadataRepository

/-- `list`. -/
def list (runtime : DateRuntime Instant) (table : DocumentMetadataTable Instant)
    (tenant : DocumentTenantContext) : Except String (List DocumentMetadata) := do
  assertDocumentTenantContext tenant
  ((table.ofTenant tenant.companyId).mergeSort fun a b =>
    decide (runtime.getTime b.createdAt ≤ runtime.getTime a.createdAt)).mapM
      (mapDatabaseDocument runtime)

/-- `findById`. -/
def findById (runtime : DateRuntime Instant) (table : DocumentMetadataTable Instant)
    (tenant : DocumentTenantContext) (documentId : String) :
    Except String (Option DocumentMetadata) := do
  assertDocumentTenantContext tenant
  assertSafeDocumentSegment documentId "document id"
  match (table.ofTenant tenant.companyId).find? (·.id == documentId) with
  | none => return none
  | some row => return some (← mapDatabaseDocument runtime row)

/-- The `where` of each write: the document, not deleted, under the method's own condition. -/
def selects (tenant : DocumentTenantContext) (documentId : String)
    (condition : DatabaseDocumentRecord Instant → Bool) (row : DatabaseDocumentRecord Instant) :
    Bool :=
  row.companyId == tenant.companyId && row.id == documentId && row.deletedAt.isNone &&
    condition row

/-- The `updateMany` that ends each write, and the `findById` after it. -/
def write (runtime : DateRuntime Instant) (table : DocumentMetadataTable Instant)
    (tenant : DocumentTenantContext) (documentId : String)
    (condition : DatabaseDocumentRecord Instant → Bool)
    (leaseGuard : Option DocumentLeaseGuard) (data : DocumentMetadataData Instant) :
    Except String (Option DocumentMetadata) × DocumentMetadataTable Instant :=
  if data.binds runtime documentId leaseGuard = false then
    (.error DocumentMetadataTable.refused, table)
  else
    match table.updateMany (selects tenant documentId condition) data with
    | .error e => (.error e, table)
    | .ok (0, written) => (.ok none, written)
    | .ok (_ + 1, written) => (findById runtime written tenant documentId, written)

/-- The checks of `update` and the columns it sets. -/
def updateData (runtime : DateRuntime Instant) (now : Instant) (tenant : DocumentTenantContext)
    (documentId : String) (changes : UpdateDocumentMetadata) :
    Except String (DocumentMetadataData Instant) := do
  assertDocumentTenantContext tenant
  assertSafeDocumentSegment documentId "document id"
  whenChanged changes.originalName fun originalName =>
    require (trim originalName ≠ "" ∧ utf16Length originalName ≤ 500)
      "Document originalName is required and must not exceed 500 characters."
  whenChanged changes.storedName (assertSafeDocumentSegment · "storedName")
  whenChanged changes.mimeType fun mimeType =>
    require (trim mimeType ≠ "" ∧ utf16Length mimeType ≤ 255)
      "Document mimeType is required and must not exceed 255 characters."
  whenChanged changes.size (requireCounter · "Document size")
  whenChanged changes.checksum fun checksum =>
    require (isSha256Hex checksum = true) "Document checksum must be a SHA-256 hex digest."
  applyProcessingChanges runtime
    { updatedAt := now
      originalName := changes.originalName
      storedName := changes.storedName
      mimeType := changes.mimeType
      size := changes.size
      checksum := changes.checksum }
    changes

/-- `update`. -/
def update (runtime : DateRuntime Instant) (now : Instant) (table : DocumentMetadataTable Instant)
    (tenant : DocumentTenantContext) (documentId : String) (changes : UpdateDocumentMetadata) :
    Except String (Option DocumentMetadata) × DocumentMetadataTable Instant :=
  match updateData runtime now tenant documentId changes with
  | .error e => (.error e, table)
  | .ok data => write runtime table tenant documentId (fun _ => true) none data

/-- The checks of `transitionStatus` and the columns it sets: `originalName`, `storedName`,
`mimeType`, `size` and `checksum` are not among them. -/
def transitionData (runtime : DateRuntime Instant) (now : Instant)
    (tenant : DocumentTenantContext) (documentId : String)
    (expectedStatuses : List DocumentProcessingStatus) (nextStatus : DocumentProcessingStatus)
    (changes : UpdateDocumentMetadata) : Except String (DocumentMetadataData Instant) := do
  assertDocumentTenantContext tenant
  assertSafeDocumentSegment documentId "document id"
  expectedStatuses.forM (assertDocumentStatusTransition · nextStatus)
  applyProcessingChanges runtime { updatedAt := now, status := some nextStatus } changes

/-- The condition of `transitionStatus`. -/
def isExpected (expectedStatuses : List DocumentProcessingStatus)
    (leaseGuard : Option DocumentLeaseGuard) (row : DatabaseDocumentRecord Instant) : Bool :=
  expectedStatuses.contains row.status && leaseGuard.all fun guard =>
    row.workerId == some guard.workerId && row.processingFencingToken == guard.fencingToken

/-- `transitionStatus`. -/
def transitionStatus (runtime : DateRuntime Instant) (now : Instant)
    (table : DocumentMetadataTable Instant) (tenant : DocumentTenantContext) (documentId : String)
    (expectedStatuses : List DocumentProcessingStatus) (nextStatus : DocumentProcessingStatus)
    (changes : UpdateDocumentMetadata) (leaseGuard : Option DocumentLeaseGuard) :
    Except String (Option DocumentMetadata) × DocumentMetadataTable Instant :=
  match transitionData runtime now tenant documentId expectedStatuses nextStatus changes with
  | .error e => (.error e, table)
  | .ok data =>
    write runtime table tenant documentId (isExpected expectedStatuses leaseGuard) leaseGuard data

/-- The columns that `updateEmbeddingFenced` sets, after the check of the tenant. -/
def embeddingData (runtime : DateRuntime Instant) (now : Instant) (tenant : DocumentTenantContext)
    (changes : UpdateDocumentMetadata) : Except String (DocumentMetadataData Instant) := do
  assertDocumentTenantContext tenant
  applyProcessingChanges runtime { updatedAt := now } changes

/-- The condition of `updateEmbeddingFenced`. -/
def isEmbeddedBy (leaseGuard : DocumentLeaseGuard) (row : DatabaseDocumentRecord Instant) : Bool :=
  row.embeddingWorkerId == some leaseGuard.workerId &&
    row.embeddingFencingToken == leaseGuard.fencingToken

/-- `updateEmbeddingFenced`. -/
def updateEmbeddingFenced (runtime : DateRuntime Instant) (now : Instant)
    (table : DocumentMetadataTable Instant) (tenant : DocumentTenantContext) (documentId : String)
    (changes : UpdateDocumentMetadata) (leaseGuard : DocumentLeaseGuard) :
    Except String (Option DocumentMetadata) × DocumentMetadataTable Instant :=
  match embeddingData runtime now tenant changes with
  | .error e => (.error e, table)
  | .ok data =>
    write runtime table tenant documentId (isEmbeddedBy leaseGuard) (some leaseGuard) data

/-! ## Reading rows -/

variable {runtime : DateRuntime Instant} {table : DocumentMetadataTable Instant}
  {tenant : DocumentTenantContext} {documentId : String} {row : DatabaseDocumentRecord Instant}

theorem mapDatabaseDocument_of_readable (h : Readable runtime row) :
    mapDatabaseDocument runtime row = .ok (documentOf runtime row) := by
  unfold mapDatabaseDocument
  rw [h]
  rfl

theorem isOk_mapDatabaseDocument :
    (mapDatabaseDocument runtime row).isOk = true ↔ Readable runtime row := by
  unfold mapDatabaseDocument Readable
  cases (documentOf runtime row).validate runtime.dates with
  | error e => exact ⟨fun h => Bool.noConfusion h, fun h => absurd h (by simp)⟩
  | ok u => exact ⟨fun _ => rfl, fun _ => rfl⟩

theorem isOk_bind_unit {ε α : Type} {check : Except ε Unit} {rest : Except ε α} :
    (check >>= fun _ => rest).isOk = true ↔ check = .ok () ∧ rest.isOk = true := by
  cases check with
  | error e => exact ⟨fun h => Bool.noConfusion h, fun h => absurd h.1 (by simp)⟩
  | ok u => exact ⟨fun h => ⟨rfl, h⟩, fun h => h.2⟩

theorem isOk_mapM {ε α β : Type} {f : α → Except ε β} {xs : List α} :
    (xs.mapM f).isOk = true ↔ ∀ x ∈ xs, (f x).isOk = true := by
  induction xs with
  | nil => exact ⟨fun _ x hx => absurd hx List.not_mem_nil, fun _ => rfl⟩
  | cons x xs ih =>
      rw [List.mapM_cons, List.forall_mem_cons, ← ih]
      cases f x with
      | error e => exact ⟨fun h => Bool.noConfusion h, fun h => Bool.noConfusion h.1⟩
      | ok y =>
          cases List.mapM f xs with
          | error e => exact ⟨fun h => Bool.noConfusion h, fun h => Bool.noConfusion h.2⟩
          | ok ys => exact ⟨fun _ => ⟨rfl, rfl⟩, fun _ => rfl⟩

theorem mem_ofTenant {companyId : String} :
    row ∈ table.ofTenant companyId ↔
      row ∈ table.rows ∧ row.companyId = companyId ∧ row.deletedAt = none := by
  simp [DocumentMetadataTable.ofTenant]

/-- `list` answers when the tenant is well formed and each of its rows is accepted. -/
theorem isOk_list :
    (list runtime table tenant).isOk = true ↔
      assertDocumentTenantContext tenant = .ok () ∧
        ∀ row ∈ table.ofTenant tenant.companyId, Readable runtime row := by
  unfold list
  rw [isOk_bind_unit, isOk_mapM]
  refine and_congr_right fun _ => forall_congr' fun row => ?_
  rw [List.mem_mergeSort, isOk_mapDatabaseDocument]

theorem eq_of_documentKey {other : DatabaseDocumentRecord Instant} (hrow : row ∈ table.rows)
    (hother : other ∈ table.rows) (hcompany : other.companyId = row.companyId)
    (hid : other.id = row.id) : other = row := by
  have hkey : documentKey other = documentKey row := by
    unfold documentKey
    rw [hcompany, hid]
  exact KeyedList.eq_of_key table.keys hother hrow hkey

/-- `findById` finds the row that is there. -/
theorem findById_of_mem (htenant : assertDocumentTenantContext tenant = .ok ())
    (hrow : row ∈ table.rows) (hcompany : row.companyId = tenant.companyId)
    (hid : row.id = documentId) (hsafe : isSafeDocumentSegment documentId = true)
    (hlive : row.deletedAt = none) :
    findById runtime table tenant documentId = some <$> mapDatabaseDocument runtime row := by
  have hmem : row ∈ table.ofTenant tenant.companyId := mem_ofTenant.mpr ⟨hrow, hcompany, hlive⟩
  have hfind : (table.ofTenant tenant.companyId).find? (·.id == documentId) = some row := by
    cases hfound : (table.ofTenant tenant.companyId).find? (·.id == documentId) with
    | none =>
        have hne := List.find?_eq_none.mp hfound row hmem
        simp [hid] at hne
    | some other =>
        have hother := mem_ofTenant.mp (List.mem_of_find?_eq_some hfound)
        have hotherId : other.id = documentId := by simpa using List.find?_some hfound
        rw [eq_of_documentKey hrow hother.1 (hother.2.1.trans hcompany.symm)
          (hotherId.trans hid.symm)]
  unfold findById
  rw [htenant, assertSafeDocumentSegment_eq_ok.mpr hsafe, hfind]
  rfl

theorem findById_of_deleted (htenant : assertDocumentTenantContext tenant = .ok ())
    (hrow : row ∈ table.rows) (hcompany : row.companyId = tenant.companyId)
    (hid : row.id = documentId) (hsafe : isSafeDocumentSegment documentId = true)
    (hdeleted : row.deletedAt ≠ none) :
    findById runtime table tenant documentId = .ok none := by
  have hfind : (table.ofTenant tenant.companyId).find? (·.id == documentId) = none := by
    rw [List.find?_eq_none]
    intro other hmem hother
    have hother' := mem_ofTenant.mp hmem
    have hotherId : other.id = documentId := by simpa using hother
    have heq := eq_of_documentKey hrow hother'.1 (hother'.2.1.trans hcompany.symm)
      (hotherId.trans hid.symm)
    rw [heq] at hother'
    exact hdeleted hother'.2.2
  unfold findById
  rw [htenant, assertSafeDocumentSegment_eq_ok.mpr hsafe, hfind]
  rfl

/-! ## Writing rows -/

variable {condition : DatabaseDocumentRecord Instant → Bool}
  {leaseGuard : Option DocumentLeaseGuard} {data : DocumentMetadataData Instant}

theorem updateMany_of_unselected {selects : DatabaseDocumentRecord Instant → Bool}
    (h : ∀ row ∈ table.rows, selects row = false) :
    table.updateMany selects data = .ok (0, table) := by
  have hmeets : ∀ row ∈ table.rows, selects row = true → (row.set data).MeetsConstraints := by
    intro row hrow hselects
    rw [h row hrow] at hselects
    cases hselects
  have hrows : KeyedList.updateMany selects (·.set data) table.rows = table.rows := by
    refine (List.map_congr_left fun row hrow => ?_).trans (List.map_id table.rows)
    show (if selects row = true then row.set data else row) = row
    rw [h row hrow]
    rfl
  have hcount : table.rows.countP selects = 0 := by
    rw [List.countP_eq_zero]
    intro row hrow
    simp [h row hrow]
  unfold DocumentMetadataTable.updateMany
  rw [dif_pos hmeets, hcount]
  simp only [hrows]

/-- The one row that a write can select. -/
theorem selects_iff (hrow : row ∈ table.rows) (hcompany : row.companyId = tenant.companyId)
    (hid : row.id = documentId) {other : DatabaseDocumentRecord Instant}
    (hother : other ∈ table.rows) :
    selects tenant documentId condition other = true ↔
      other = row ∧ row.deletedAt = none ∧ condition row = true := by
  unfold selects
  simp only [Bool.and_eq_true, beq_iff_eq, Option.isNone_iff_eq_none]
  constructor
  · rintro ⟨⟨⟨hotherCompany, hotherId⟩, hlive⟩, hcondition⟩
    have heq : other = row :=
      eq_of_documentKey hrow hother (hotherCompany.trans hcompany.symm) (hotherId.trans hid.symm)
    subst heq
    exact ⟨rfl, hlive, hcondition⟩
  · rintro ⟨rfl, hlive, hcondition⟩
    exact ⟨⟨⟨hcompany, hid⟩, hlive⟩, hcondition⟩

theorem write_unbound (h : data.binds runtime documentId leaseGuard = false) :
    write runtime table tenant documentId condition leaseGuard data =
      (.error DocumentMetadataTable.refused, table) := by
  unfold write
  rw [if_pos h]

/-- The row does not meet the condition: nothing is written. -/
theorem write_missed (hbinds : data.binds runtime documentId leaseGuard = true)
    (hrow : row ∈ table.rows) (hcompany : row.companyId = tenant.companyId)
    (hid : row.id = documentId) (hmiss : ¬(row.deletedAt = none ∧ condition row = true)) :
    write runtime table tenant documentId condition leaseGuard data = (.ok none, table) := by
  have hnone : ∀ other ∈ table.rows, selects tenant documentId condition other = false := by
    intro other hother
    rw [Bool.eq_false_iff]
    intro hselects
    exact hmiss ((selects_iff hrow hcompany hid hother).mp hselects).2
  unfold write
  rw [if_neg (by simp [hbinds]), updateMany_of_unselected hnone]

/-- The table refuses the row: nothing is written. -/
theorem write_refused (hbinds : data.binds runtime documentId leaseGuard = true)
    (hrow : row ∈ table.rows) (hcompany : row.companyId = tenant.companyId)
    (hid : row.id = documentId) (hmatch : row.deletedAt = none ∧ condition row = true)
    (hrefused : ¬(row.set data).MeetsConstraints) :
    write runtime table tenant documentId condition leaseGuard data =
      (.error DocumentMetadataTable.refused, table) := by
  have hselects := (selects_iff hrow hcompany hid hrow).mpr ⟨rfl, hmatch⟩
  have hnot : ¬∀ other ∈ table.rows, selects tenant documentId condition other = true →
      (other.set data).MeetsConstraints := fun h => hrefused (h row hrow hselects)
  unfold write DocumentMetadataTable.updateMany
  rw [if_neg (by simp [hbinds]), dif_neg hnot]

/-- The row is written, and read back. -/
theorem write_stored (runtime : DateRuntime Instant)
    (hbinds : data.binds runtime documentId leaseGuard = true)
    (htenant : assertDocumentTenantContext tenant = .ok ())
    (hsafe : isSafeDocumentSegment documentId = true)
    (hrow : row ∈ table.rows) (hcompany : row.companyId = tenant.companyId)
    (hid : row.id = documentId) (hmatch : row.deletedAt = none ∧ condition row = true)
    (hmeets : (row.set data).MeetsConstraints) :
    ∃ written : DocumentMetadataTable Instant,
      written.rows = KeyedList.updateMany (selects tenant documentId condition) (·.set data)
        table.rows ∧
      write runtime table tenant documentId condition leaseGuard data =
        (some <$> mapDatabaseDocument runtime (row.set data), written) := by
  have hselects := (selects_iff hrow hcompany hid hrow).mpr ⟨rfl, hmatch⟩
  have hall : ∀ other ∈ table.rows, selects tenant documentId condition other = true →
      (other.set data).MeetsConstraints := by
    intro other hother hselected
    rw [((selects_iff hrow hcompany hid hother).mp hselected).1]
    exact hmeets
  obtain ⟨n, hcount⟩ : ∃ n, table.rows.countP (selects tenant documentId condition) = n + 1 := by
    have hpos := List.countP_pos_iff.mpr ⟨row, hrow, hselects⟩
    exact ⟨_, (Nat.succ_pred_eq_of_pos hpos).symm⟩
  obtain ⟨written, hwritten, hrows⟩ : ∃ written : DocumentMetadataTable Instant,
      table.updateMany (selects tenant documentId condition) data = .ok (n + 1, written) ∧
      written.rows = KeyedList.updateMany (selects tenant documentId condition) (·.set data)
        table.rows := by
    unfold DocumentMetadataTable.updateMany
    rw [dif_pos hall, hcount]
    exact ⟨_, rfl, rfl⟩
  have hset : row.set data ∈ written.rows := by
    rw [hrows]
    exact List.mem_map.mpr ⟨row, hrow, if_pos hselects⟩
  refine ⟨written, hrows, ?_⟩
  unfold write
  rw [if_neg (by simp [hbinds]), hwritten]
  show (findById runtime written tenant documentId, written) = _
  rw [findById_of_mem htenant hset hcompany hid hsafe hmatch.1]

end PostgreSQLDocumentMetadataRepository

end Repository

end AvantimePlatform.Documents.Record
