import AvantimePlatform.Documents.Metadata
import AvantimePlatform.Lib.Json
import AvantimePlatform.Lib.Text

/-!
# The whole metadata record

`DocumentMetadata` of `document-model.ts` with every field, and the check
`validateDocumentMetadata` of `document-repositories.ts`, which each repository
makes before it stores a record.  `Documents.Metadata` has the part of the record
that the processing pipeline works on.

A date is the string it is stored as.  Which strings `new Date` can read is a
parameter, `DateParser`; all that is used of it is that the empty string is not one.
-/

namespace AvantimePlatform.Documents.Record

open AvantimePlatform.Checked AvantimePlatform.Text

/-! ## Enumerations -/

/-- `DOCUMENT_TYPES`. -/
inductive DocumentType where
  | invoice | creditNote | contract | act | order | deliveryNote | bankStatement | receipt
  | report | letter | image | unknown
deriving DecidableEq

namespace DocumentType

def all : List DocumentType :=
  [invoice, creditNote, contract, act, order, deliveryNote, bankStatement, receipt, report,
   letter, image, unknown]

def name : DocumentType → String
  | invoice => "INVOICE"
  | creditNote => "CREDIT_NOTE"
  | contract => "CONTRACT"
  | act => "ACT"
  | order => "ORDER"
  | deliveryNote => "DELIVERY_NOTE"
  | bankStatement => "BANK_STATEMENT"
  | receipt => "RECEIPT"
  | report => "REPORT"
  | letter => "LETTER"
  | image => "IMAGE"
  | unknown => "UNKNOWN"

end DocumentType

/-- `DOCUMENT_TEXT_EXTRACTION_METHODS`. -/
inductive DocumentTextExtractionMethod where
  | pdfText | ocr | none
deriving DecidableEq

namespace DocumentTextExtractionMethod

def all : List DocumentTextExtractionMethod := [pdfText, ocr, none]

def name : DocumentTextExtractionMethod → String
  | pdfText => "PDF_TEXT"
  | ocr => "OCR"
  | none => "NONE"

end DocumentTextExtractionMethod

/-- `DOCUMENT_OCR_STATUSES`. -/
inductive DocumentOcrStatus where
  | notRequired | pending | processing | completed | failed | unavailable
deriving DecidableEq

namespace DocumentOcrStatus

def all : List DocumentOcrStatus :=
  [notRequired, pending, processing, completed, failed, unavailable]

def name : DocumentOcrStatus → String
  | notRequired => "NOT_REQUIRED"
  | pending => "PENDING"
  | processing => "PROCESSING"
  | completed => "COMPLETED"
  | failed => "FAILED"
  | unavailable => "UNAVAILABLE"

end DocumentOcrStatus

/-- `DOCUMENT_EMBEDDING_STATUSES`. -/
inductive DocumentEmbeddingStatus where
  | pending | queued | processing | completed | failed | quarantined | disabled
deriving DecidableEq

namespace DocumentEmbeddingStatus

def all : List DocumentEmbeddingStatus :=
  [pending, queued, processing, completed, failed, quarantined, disabled]

def name : DocumentEmbeddingStatus → String
  | pending => "PENDING"
  | queued => "QUEUED"
  | processing => "PROCESSING"
  | completed => "COMPLETED"
  | failed => "FAILED"
  | quarantined => "QUARANTINED"
  | disabled => "DISABLED"

end DocumentEmbeddingStatus

/-! ## The record -/

@[ext]
structure DocumentIntelligenceMetadata where
  detectedDocumentType : DocumentType
  detectedMimeType : Option String
  detectionConfidence : Option JsNumber
  textExtractionMethod : DocumentTextExtractionMethod
  ocrStatus : DocumentOcrStatus
  ocrProvider : Option String
  ocrLanguage : Option String
  ocrStartedAt : Option String
  ocrCompletedAt : Option String
  pageCount : Option JsNumber
  extractedCharacterCount : Option JsNumber
  requiresManualReview : Bool
  intelligenceVersion : String
deriving DecidableEq

/-- `defaultDocumentIntelligenceMetadata`. -/
def defaultDocumentIntelligenceMetadata : DocumentIntelligenceMetadata where
  detectedDocumentType := .unknown
  detectedMimeType := none
  detectionConfidence := none
  textExtractionMethod := .none
  ocrStatus := .pending
  ocrProvider := none
  ocrLanguage := none
  ocrStartedAt := none
  ocrCompletedAt := none
  pageCount := none
  extractedCharacterCount := none
  requiresManualReview := true
  intelligenceVersion := "document-intelligence-v1"

/-- `DocumentMetadata`.  A member that may be left out is an `Option`, with `none` for
`undefined`; in `Option (Option String)` the inner `none` is `null`. -/
@[ext]
structure DocumentMetadata extends DocumentIntelligenceMetadata where
  id : String
  companyId : String
  uploadedBy : String
  status : DocumentProcessingStatus
  originalName : String
  storedName : String
  mimeType : String
  size : JsNumber
  checksum : String
  createdAt : String
  updatedAt : String
  deletedAt : Option String
  processingAttempts : JsNumber
  lastErrorCode : Option String
  lastErrorMessage : Option String
  processingStartedAt : Option String
  processingCompletedAt : Option String
  nextRetryAt : Option String
  quarantinedAt : Option String
  workerId : Option String
  workerVersion : Option (Option String)
  deploymentGeneration : Option (Option String)
  processingFencingToken : Option JsNumber
  workerHeartbeatAt : Option (Option String)
  processingLeaseUntil : Option (Option String)
  pages : Option JsNumber
  textLength : Option JsNumber
  chunksCount : Option JsNumber
  embeddingStatus : DocumentEmbeddingStatus
  embeddingModel : Option String
  embeddingDimensions : Option JsNumber
  embeddingVersion : Option String
  embeddedAt : Option String
  embeddingAttempts : JsNumber
  lastEmbeddingErrorCode : Option String
  embeddingContentHash : Option String
  embeddingWorkerId : Option (Option String)
  embeddingWorkerVersion : Option (Option String)
  embeddingDeploymentGeneration : Option (Option String)
  embeddingFencingToken : Option JsNumber
  embeddingHeartbeatAt : Option (Option String)
  embeddingLeaseUntil : Option (Option String)
deriving DecidableEq

/-! ## Checks -/

/-- Which strings `new Date` reads as a date. -/
structure DateParser where
  isDate : String → Bool
  empty : isDate "" = false

/-- `parseDocumentDate`. -/
def parseDocumentDate (dates : DateParser) (label value : String) : Except String Unit :=
  require (dates.isDate value = true) (label ++ " must be a valid date.")

/-- `/^[a-f0-9]{64}$/`. -/
def isSha256Hex (value : String) : Bool :=
  decide (value.toList.length = 64) &&
    value.toList.all fun c => c.isDigit || ('a' ≤ c && c ≤ 'f')

/-- `/^[A-Z0-9_]{1,100}$/`. -/
def isErrorCode (value : String) : Bool :=
  decide (1 ≤ value.toList.length) && decide (value.toList.length ≤ 100) &&
    value.toList.all fun c => c.isUpper || c.isDigit || c == '_'

/-- `if (value) check(value)`, of a string or `null`. -/
def whenSet (value : Option String) (check : String → Except String Unit) : Except String Unit :=
  match value with
  | none => .ok ()
  | some value => if value = "" then .ok () else check value

/-- `Boolean(value)`, of a string or `null`. -/
def isSet (value : Option String) : Bool := value.any (· != "")

/-- The counters: `!Number.isSafeInteger(value) || value < 0` throws. -/
def requireCounter (value : JsNumber) (label : String) : Except String Unit :=
  require (value.isSafeInteger = true ∧ value.isNonNegative = true)
    (label ++ " must be a non-negative safe integer.")

/-- A counter that may be left out. -/
def requireOptionalCounter (value : Option JsNumber) (label : String) : Except String Unit :=
  match value with
  | none => .ok ()
  | some value => requireCounter value label

namespace DocumentMetadata

def validateIdentity (document : DocumentMetadata) : Except String Unit := do
  assertSafeDocumentSegment document.id "document id"
  assertSafeDocumentSegment document.companyId "companyId"
  assertSafeDocumentSegment document.uploadedBy "uploadedBy"
  assertSafeDocumentSegment document.storedName "storedName"
  require (isSha256Hex document.checksum = true) "Document checksum must be a SHA-256 hex digest."
  require (trim document.originalName ≠ "" ∧ utf16Length document.originalName ≤ 500)
    "Document originalName is required and must not exceed 500 characters."
  require (trim document.mimeType ≠ "" ∧ utf16Length document.mimeType ≤ 255)
    "Document mimeType is required and must not exceed 255 characters."
  requireCounter document.size "Document size"

def validateProcessing (dates : DateParser) (document : DocumentMetadata) :
    Except String Unit := do
  parseDocumentDate dates "createdAt" document.createdAt
  parseDocumentDate dates "updatedAt" document.updatedAt
  requireCounter document.processingAttempts "processingAttempts"
  whenSet document.lastErrorCode fun code =>
    require (isErrorCode code = true) "lastErrorCode has an invalid format."
  whenSet document.lastErrorMessage fun message =>
    require (utf16Length message ≤ 500) "lastErrorMessage must not exceed 500 characters."
  whenSet document.workerId (assertSafeDocumentSegment · "workerId")
  whenSet document.workerVersion.join (assertSafeDocumentSegment · "workerVersion")
  whenSet document.deploymentGeneration.join (assertSafeDocumentSegment · "deploymentGeneration")
  requireOptionalCounter document.processingFencingToken "processingFencingToken"
  whenSet document.workerHeartbeatAt.join (parseDocumentDate dates "workerHeartbeatAt")
  whenSet document.processingLeaseUntil.join (parseDocumentDate dates "processingLeaseUntil")

def validateEmbeddingWorker (dates : DateParser) (document : DocumentMetadata) :
    Except String Unit := do
  whenSet document.embeddingWorkerId.join (assertSafeDocumentSegment · "embeddingWorkerId")
  whenSet document.embeddingWorkerVersion.join
    (assertSafeDocumentSegment · "embeddingWorkerVersion")
  whenSet document.embeddingDeploymentGeneration.join
    (assertSafeDocumentSegment · "embeddingDeploymentGeneration")
  requireOptionalCounter document.embeddingFencingToken "embeddingFencingToken"
  whenSet document.embeddingHeartbeatAt.join (parseDocumentDate dates "embeddingHeartbeatAt")
  whenSet document.embeddingLeaseUntil.join (parseDocumentDate dates "embeddingLeaseUntil")

def validateTimes (dates : DateParser) (document : DocumentMetadata) : Except String Unit := do
  whenSet document.processingStartedAt (parseDocumentDate dates "processingStartedAt")
  whenSet document.processingCompletedAt (parseDocumentDate dates "processingCompletedAt")
  whenSet document.nextRetryAt (parseDocumentDate dates "nextRetryAt")
  whenSet document.quarantinedAt (parseDocumentDate dates "quarantinedAt")
  whenSet document.deletedAt (parseDocumentDate dates "deletedAt")
  require (decide (document.status = .deleted) = isSet document.deletedAt)
    "DELETED status and deletedAt must be set together."

def validateIntelligence (dates : DateParser) (document : DocumentMetadata) :
    Except String Unit := do
  require (document.detectionConfidence.all JsNumber.isUnit = true)
    "detectionConfidence must be between 0 and 1."
  requireOptionalCounter document.pageCount "pageCount"
  requireOptionalCounter document.extractedCharacterCount "extractedCharacterCount"
  whenSet document.ocrStartedAt (parseDocumentDate dates "ocrStartedAt")
  whenSet document.ocrCompletedAt (parseDocumentDate dates "ocrCompletedAt")
  require (trim document.intelligenceVersion ≠ "" ∧
      utf16Length document.intelligenceVersion ≤ 100)
    "intelligenceVersion is required and must not exceed 100 characters."

def validateEmbedding (dates : DateParser) (document : DocumentMetadata) :
    Except String Unit := do
  require (document.embeddingDimensions.all (fun dimensions =>
      dimensions.isSafeInteger && dimensions.isPositive) = true)
    "embeddingDimensions must be a positive safe integer."
  requireCounter document.embeddingAttempts "embeddingAttempts"
  whenSet document.lastEmbeddingErrorCode fun code =>
    require (isErrorCode code = true) "lastEmbeddingErrorCode has an invalid format."
  whenSet document.embeddingContentHash fun hash =>
    require (isSha256Hex hash = true) "embeddingContentHash has an invalid format."
  whenSet document.embeddedAt (parseDocumentDate dates "embeddedAt")

/-- `validateDocumentMetadata`: the checks in the order of the source.  The tests that a
status is one of the enumeration hold by the types. -/
def validate (dates : DateParser) (document : DocumentMetadata) : Except String Unit := do
  document.validateIdentity
  document.validateProcessing dates
  document.validateEmbeddingWorker dates
  document.validateTimes dates
  document.validateIntelligence dates
  document.validateEmbedding dates

end DocumentMetadata

/-! ## What an accepted record is like -/

section Accepted

variable {dates : DateParser} {document : DocumentMetadata}

@[simp] theorem parseDocumentDate_eq_ok {label value : String} :
    parseDocumentDate dates label value = .ok () ↔ dates.isDate value = true := by
  simp [parseDocumentDate]

theorem ne_empty_of_isDate {value : String} (h : dates.isDate value = true) : value ≠ "" := by
  rintro rfl
  rw [dates.empty] at h
  cases h

@[simp] theorem requireCounter_eq_ok {value : JsNumber} {label : String} :
    requireCounter value label = .ok () ↔
      value.isSafeInteger = true ∧ value.isNonNegative = true := by
  simp [requireCounter]

theorem requireOptionalCounter_eq_ok {value : Option JsNumber} {label : String} :
    requireOptionalCounter value label = .ok () ↔
      ∀ n ∈ value, n.isSafeInteger = true ∧ n.isNonNegative = true := by
  cases value with
  | none => simp [requireOptionalCounter]
  | some value => simp [requireOptionalCounter]

theorem whenSet_eq_ok {value : Option String} {check : String → Except String Unit} :
    whenSet value check = .ok () ↔ ∀ s ∈ value, s ≠ "" → check s = .ok () := by
  cases value with
  | none => simp [whenSet]
  | some value =>
      by_cases h : value = ""
      · simp [whenSet, h]
      · simp [whenSet, h]

/-- What the reader of a record relies on, of the many things `validate` checks. -/
structure Accepted (document : DocumentMetadata) : Prop where
  id : document.id ≠ ""
  uploadedBy : document.uploadedBy ≠ ""
  storedName : document.storedName ≠ ""
  checksum : isSha256Hex document.checksum = true
  originalName : trim document.originalName ≠ ""
  mimeType : trim document.mimeType ≠ ""
  size : document.size.isSafeInteger = true ∧ document.size.isNonNegative = true
  createdAt : document.createdAt ≠ ""
  updatedAt : document.updatedAt ≠ ""
  processingAttempts : document.processingAttempts.isSafeInteger = true ∧
    document.processingAttempts.isNonNegative = true
  processingFencingToken : ∀ n ∈ document.processingFencingToken,
    n.isSafeInteger = true ∧ n.isNonNegative = true
  embeddingFencingToken : ∀ n ∈ document.embeddingFencingToken,
    n.isSafeInteger = true ∧ n.isNonNegative = true
  deleted : decide (document.status = .deleted) = isSet document.deletedAt
  detectionConfidence : document.detectionConfidence.all JsNumber.isUnit = true
  pageCount : ∀ n ∈ document.pageCount, n.isSafeInteger = true ∧ n.isNonNegative = true
  extractedCharacterCount : ∀ n ∈ document.extractedCharacterCount,
    n.isSafeInteger = true ∧ n.isNonNegative = true
  intelligenceVersion : trim document.intelligenceVersion ≠ ""
  embeddingDimensions : document.embeddingDimensions.all (fun dimensions =>
    dimensions.isSafeInteger && dimensions.isPositive) = true
  embeddingAttempts : document.embeddingAttempts.isSafeInteger = true ∧
    document.embeddingAttempts.isNonNegative = true
  embeddingContentHash : ∀ hash ∈ document.embeddingContentHash,
    hash ≠ "" → isSha256Hex hash = true

theorem accepted_of_validate (h : document.validate dates = .ok ()) : Accepted document := by
  obtain ⟨hidentity, hprocessing, hworker, htimes, hintelligence, hembedding⟩ :
      document.validateIdentity = .ok () ∧ document.validateProcessing dates = .ok () ∧
        document.validateEmbeddingWorker dates = .ok () ∧
        document.validateTimes dates = .ok () ∧
        document.validateIntelligence dates = .ok () ∧
        document.validateEmbedding dates = .ok () := by
    simpa only [DocumentMetadata.validate, seq_eq_ok] using h
  simp only [DocumentMetadata.validateIdentity, seq_eq_ok, assertSafeDocumentSegment_eq_ok,
    require_eq_ok, requireCounter_eq_ok] at hidentity
  simp only [DocumentMetadata.validateProcessing, seq_eq_ok, parseDocumentDate_eq_ok,
    requireCounter_eq_ok, requireOptionalCounter_eq_ok] at hprocessing
  simp only [DocumentMetadata.validateEmbeddingWorker, seq_eq_ok,
    requireOptionalCounter_eq_ok] at hworker
  simp only [DocumentMetadata.validateTimes, seq_eq_ok, require_eq_ok] at htimes
  simp only [DocumentMetadata.validateIntelligence, seq_eq_ok, require_eq_ok,
    requireOptionalCounter_eq_ok] at hintelligence
  simp only [DocumentMetadata.validateEmbedding, seq_eq_ok, require_eq_ok, requireCounter_eq_ok,
    whenSet_eq_ok] at hembedding
  obtain ⟨hid, -, huploaded, hstored, hchecksum, hname, hmime, hsize⟩ := hidentity
  obtain ⟨hcreated, hupdated, hattempts, -, -, -, -, -, htoken, -, -⟩ := hprocessing
  obtain ⟨-, -, -, hembeddingToken, -, -⟩ := hworker
  obtain ⟨-, -, -, -, -, hdeleted⟩ := htimes
  obtain ⟨hconfidence, hpages, hcharacters, -, -, hversion⟩ := hintelligence
  obtain ⟨hdimensions, hembeddingAttempts, -, hhash, -⟩ := hembedding
  exact {
    id := ne_empty_of_safe hid
    uploadedBy := ne_empty_of_safe huploaded
    storedName := ne_empty_of_safe hstored
    checksum := hchecksum
    originalName := hname.1
    mimeType := hmime.1
    size := hsize
    createdAt := ne_empty_of_isDate hcreated
    updatedAt := ne_empty_of_isDate hupdated
    processingAttempts := hattempts
    processingFencingToken := htoken
    embeddingFencingToken := hembeddingToken
    deleted := hdeleted
    detectionConfidence := hconfidence
    pageCount := hpages
    extractedCharacterCount := hcharacters
    intelligenceVersion := hversion.1
    embeddingDimensions := hdimensions
    embeddingAttempts := hembeddingAttempts
    embeddingContentHash := hhash }

end Accepted

end AvantimePlatform.Documents.Record
