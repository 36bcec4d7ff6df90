import AvantimePlatform.Lib.Checked
import AvantimePlatform.Lib.Table
import AvantimePlatform.Documents.Identifiers

/-!
# Document metadata

The processing state of a document (`document-processing-state.ts`) and the part
of `DocumentMetadata` that the processing pipeline reads and writes, with
`findById`, `create` and `transitionStatus` of the metadata repository
(`document-repositories.ts`).  `transitionStatus` is the one conditional write:
it takes effect only on a document whose status is among the expected ones and,
when a lease guard is given, whose worker and fencing token are those of the
guard.

The store is that of one tenant and holds the documents that are not deleted.
-/

namespace AvantimePlatform.Documents

open AvantimePlatform.Checked

/-- `DOCUMENT_PROCESSING_STATUSES`. -/
inductive DocumentProcessingStatus where
  | uploaded
  | queued
  | processing
  | completed
  | failed
  | quarantined
  | deleted
deriving DecidableEq

open DocumentProcessingStatus

namespace DocumentProcessingStatus

/-- `ALLOWED_TRANSITIONS`. -/
def allowedTransitions : DocumentProcessingStatus → List DocumentProcessingStatus
  | uploaded => [queued, failed, quarantined, deleted]
  | queued => [processing, failed, quarantined, deleted]
  | processing => [processing, queued, completed, failed, quarantined, deleted]
  | completed => [queued, deleted]
  | failed => [queued, quarantined, deleted]
  | quarantined => [queued, completed, failed, deleted]
  | deleted => []

/-- The spelling of a status in the source. -/
def name : DocumentProcessingStatus → String
  | uploaded => "UPLOADED"
  | queued => "QUEUED"
  | processing => "PROCESSING"
  | completed => "COMPLETED"
  | failed => "FAILED"
  | quarantined => "QUARANTINED"
  | deleted => "DELETED"

/-- The document is waiting for a worker or held by one. -/
def IsActive (status : DocumentProcessingStatus) : Prop :=
  status = queued ∨ status = processing

instance (status : DocumentProcessingStatus) : Decidable status.IsActive :=
  inferInstanceAs (Decidable (_ ∨ _))

end DocumentProcessingStatus

/-- `assertDocumentStatusTransition`. -/
def assertDocumentStatusTransition (current next : DocumentProcessingStatus) :
    Except String Unit :=
  require (current = next ∨ next ∈ current.allowedTransitions)
    ("Invalid document status transition: " ++ current.name ++ " -> " ++ next.name ++ ".")

/-- `DocumentMetadata`, as far as processing goes. -/
structure DocumentMetadata where
  id : String
  status : DocumentProcessingStatus
  processingAttempts : Nat
  lastErrorCode : Option String
  processingStartedAt : Option Nat
  processingCompletedAt : Option Nat
  nextRetryAt : Option Nat
  quarantinedAt : Option Nat
  workerId : Option String
  processingFencingToken : Nat
  workerHeartbeatAt : Option Nat
  processingLeaseUntil : Option Nat
  textLength : Option Nat
  chunksCount : Option Nat
deriving DecidableEq

/-- `UpdateDocumentMetadata`: `none` leaves a field as it is. -/
structure UpdateDocumentMetadata where
  processingAttempts : Option Nat := none
  lastErrorCode : Option (Option String) := none
  processingStartedAt : Option (Option Nat) := none
  processingCompletedAt : Option (Option Nat) := none
  nextRetryAt : Option (Option Nat) := none
  quarantinedAt : Option (Option Nat) := none
  workerId : Option (Option String) := none
  processingFencingToken : Option Nat := none
  workerHeartbeatAt : Option (Option Nat) := none
  processingLeaseUntil : Option (Option Nat) := none
  textLength : Option (Option Nat) := none
  chunksCount : Option (Option Nat) := none

namespace DocumentMetadata

/-- `{ ...document, ...changes, status: nextStatus }`. -/
def update (document : DocumentMetadata) (changes : UpdateDocumentMetadata)
    (nextStatus : DocumentProcessingStatus) : DocumentMetadata where
  id := document.id
  status := nextStatus
  processingAttempts := changes.processingAttempts.getD document.processingAttempts
  lastErrorCode := changes.lastErrorCode.getD document.lastErrorCode
  processingStartedAt := changes.processingStartedAt.getD document.processingStartedAt
  processingCompletedAt := changes.processingCompletedAt.getD document.processingCompletedAt
  nextRetryAt := changes.nextRetryAt.getD document.nextRetryAt
  quarantinedAt := changes.quarantinedAt.getD document.quarantinedAt
  workerId := changes.workerId.getD document.workerId
  processingFencingToken := changes.processingFencingToken.getD document.processingFencingToken
  workerHeartbeatAt := changes.workerHeartbeatAt.getD document.workerHeartbeatAt
  processingLeaseUntil := changes.processingLeaseUntil.getD document.processingLeaseUntil
  textLength := changes.textLength.getD document.textLength
  chunksCount := changes.chunksCount.getD document.chunksCount

/-- A new document with the defaults of `withProcessingDefaults`. -/
def uploaded (id : String) : DocumentMetadata where
  id := id
  status := .uploaded
  processingAttempts := 0
  lastErrorCode := none
  processingStartedAt := none
  processingCompletedAt := none
  nextRetryAt := none
  quarantinedAt := none
  workerId := none
  processingFencingToken := 0
  workerHeartbeatAt := none
  processingLeaseUntil := none
  textLength := none
  chunksCount := none

end DocumentMetadata

/-- `/^[A-Z0-9_]{1,100}$/`. -/
def isErrorCode (value : String) : Bool :=
  decide (1 ≤ value.length) && decide (value.length ≤ 100) &&
    value.toList.all fun c => c.isUpper || c.isDigit || c == '_'

/-- `if (value) parseDocumentDate(value, name)`. -/
def validateDate (value : Option Nat) (name : String) : Except String Unit :=
  require (∀ ms ∈ value, ms ≤ maxDate) (name ++ " must be a valid date.")

/-- `validateDocumentMetadata`, on the fields of the model. -/
def validateDocumentMetadata (document : DocumentMetadata) : Except String Unit := do
  assertSafeDocumentSegment document.id "document id"
  require (document.processingAttempts ≤ maxSafeInteger)
    "processingAttempts must be a non-negative safe integer."
  require (∀ code ∈ document.lastErrorCode, code = "" ∨ isErrorCode code = true)
    "lastErrorCode has an invalid format."
  require (∀ workerId ∈ document.workerId, workerId = "" ∨ isSafeDocumentSegment workerId = true)
    "workerId contains an unsafe path segment."
  require (document.processingFencingToken ≤ maxSafeInteger)
    "processingFencingToken must be a non-negative safe integer."
  validateDate document.workerHeartbeatAt "workerHeartbeatAt"
  validateDate document.processingLeaseUntil "processingLeaseUntil"
  validateDate document.processingStartedAt "processingStartedAt"
  validateDate document.processingCompletedAt "processingCompletedAt"
  validateDate document.nextRetryAt "nextRetryAt"
  validateDate document.quarantinedAt "quarantinedAt"

/-- What `validateDocumentMetadata` accepts. -/
structure DocumentMetadata.IsValid (document : DocumentMetadata) : Prop where
  id : isSafeDocumentSegment document.id = true
  processingAttempts : document.processingAttempts ≤ maxSafeInteger
  lastErrorCode : ∀ code ∈ document.lastErrorCode, code = "" ∨ isErrorCode code = true
  workerId : ∀ workerId ∈ document.workerId,
    workerId = "" ∨ isSafeDocumentSegment workerId = true
  processingFencingToken : document.processingFencingToken ≤ maxSafeInteger
  workerHeartbeatAt : ∀ ms ∈ document.workerHeartbeatAt, ms ≤ maxDate
  processingLeaseUntil : ∀ ms ∈ document.processingLeaseUntil, ms ≤ maxDate
  processingStartedAt : ∀ ms ∈ document.processingStartedAt, ms ≤ maxDate
  processingCompletedAt : ∀ ms ∈ document.processingCompletedAt, ms ≤ maxDate
  nextRetryAt : ∀ ms ∈ document.nextRetryAt, ms ≤ maxDate
  quarantinedAt : ∀ ms ∈ document.quarantinedAt, ms ≤ maxDate

theorem validateDate_eq_ok {value : Option Nat} {name : String} :
    validateDate value name = .ok () ↔ ∀ ms ∈ value, ms ≤ maxDate :=
  require_eq_ok

theorem validateDocumentMetadata_eq_ok {document : DocumentMetadata} :
    validateDocumentMetadata document = .ok () ↔ document.IsValid := by
  have hunit : ∀ {x : Except String Unit} {rest : Except String Unit},
      (x >>= fun _ => rest) = .ok () ↔ x = .ok () ∧ rest = .ok () := by
    intro x rest
    rw [bind_eq_ok]
    exact ⟨fun ⟨_, hx, hrest⟩ => ⟨hx, hrest⟩, fun ⟨hx, hrest⟩ => ⟨(), hx, hrest⟩⟩
  unfold validateDocumentMetadata
  simp only [hunit, assertSafeDocumentSegment_eq_ok, require_eq_ok, validateDate_eq_ok]
  constructor
  · rintro ⟨h1, h2, h3, h4, h5, h6, h7, h8, h9, h10, h11⟩
    exact ⟨h1, h2, h3, h4, h5, h6, h7, h8, h9, h10, h11⟩
  · rintro ⟨h1, h2, h3, h4, h5, h6, h7, h8, h9, h10, h11⟩
    exact ⟨h1, h2, h3, h4, h5, h6, h7, h8, h9, h10, h11⟩

/-- `TextChunk`, as far as it is stored and embedded. -/
structure TextChunk where
  id : String
  index : Nat
  text : String
  pageStart : Option Nat
  pageEnd : Option Nat
deriving DecidableEq

/-- `DocumentProcessingResult`: the derivatives of a document. -/
structure DocumentProcessingResult where
  text : String
  chunks : List TextChunk
deriving DecidableEq

/-- `DocumentLeaseGuard`. -/
structure DocumentLeaseGuard where
  workerId : String
  fencingToken : Nat
deriving DecidableEq

/-- The document is held under the guard. -/
def DocumentLeaseGuard.Holds (guard : DocumentLeaseGuard) (document : DocumentMetadata) : Prop :=
  document.workerId = some guard.workerId ∧ document.processingFencingToken = guard.fencingToken

instance (guard : DocumentLeaseGuard) (document : DocumentMetadata) :
    Decidable (guard.Holds document) := inferInstanceAs (Decidable (_ ∧ _))

/-- The documents of a tenant, by id. -/
abbrev DocumentMetadataRepository := Table String DocumentMetadata

namespace DocumentMetadataRepository

/-- `findById`. -/
def findById (documents : DocumentMetadataRepository) (documentId : String) : Option DocumentMetadata :=
  documents.lookup documentId

/-- `create`, as the upload route calls it. -/
def create (documents : DocumentMetadataRepository) (documentId : String) : Except String Unit × DocumentMetadataRepository :=
  match validateDocumentMetadata (.uploaded documentId) with
  | .error e => (.error e, documents)
  | .ok () =>
    match documents.lookup documentId with
    | some _ => (.error "Document metadata already exists.", documents)
    | none => (.ok (), documents.insert documentId (.uploaded documentId))

/-- `transitionStatus`. -/
def transitionStatus (documents : DocumentMetadataRepository) (documentId : String)
    (expectedStatuses : List DocumentProcessingStatus) (nextStatus : DocumentProcessingStatus)
    (changes : UpdateDocumentMetadata) (leaseGuard : Option DocumentLeaseGuard) :
    Except String (Option DocumentMetadata) × DocumentMetadataRepository :=
  match assertSafeDocumentSegment documentId "document id" with
  | .error e => (.error e, documents)
  | .ok () =>
    match expectedStatuses.forM (assertDocumentStatusTransition · nextStatus) with
    | .error e => (.error e, documents)
    | .ok () =>
      match documents.lookup documentId with
      | none => (.ok none, documents)
      | some document =>
        if document.status ∈ expectedStatuses ∧ ∀ guard ∈ leaseGuard, guard.Holds document then
          match validateDocumentMetadata (document.update changes nextStatus) with
          | .error e => (.error e, documents)
          | .ok () =>
            (.ok (some (document.update changes nextStatus)),
              documents.insert documentId (document.update changes nextStatus))
        else (.ok none, documents)

/-- Everything a transition can do: throw, find no document to change, or change
one. -/
inductive TransitionStep (documents : DocumentMetadataRepository) (documentId : String)
    (expectedStatuses : List DocumentProcessingStatus) (nextStatus : DocumentProcessingStatus)
    (changes : UpdateDocumentMetadata) (leaseGuard : Option DocumentLeaseGuard) :
    Except String (Option DocumentMetadata) × DocumentMetadataRepository → Prop where
  | thrown (message : String) :
      TransitionStep documents documentId expectedStatuses nextStatus changes leaseGuard
        (.error message, documents)
  | missed (h : ∀ document, documents.lookup documentId = some document →
        ¬(document.status ∈ expectedStatuses ∧ ∀ guard ∈ leaseGuard, guard.Holds document)) :
      TransitionStep documents documentId expectedStatuses nextStatus changes leaseGuard
        (.ok none, documents)
  | written (document : DocumentMetadata) (hdocument : documents.lookup documentId = some document)
      (hstatus : document.status ∈ expectedStatuses)
      (hguard : ∀ guard ∈ leaseGuard, guard.Holds document)
      (hvalid : validateDocumentMetadata (document.update changes nextStatus) = .ok ()) :
      TransitionStep documents documentId expectedStatuses nextStatus changes leaseGuard
        (.ok (some (document.update changes nextStatus)),
          documents.insert documentId (document.update changes nextStatus))

theorem transitionStep (documents : DocumentMetadataRepository) (documentId : String)
    (expectedStatuses : List DocumentProcessingStatus) (nextStatus : DocumentProcessingStatus)
    (changes : UpdateDocumentMetadata) (leaseGuard : Option DocumentLeaseGuard) :
    TransitionStep documents documentId expectedStatuses nextStatus changes leaseGuard
      (documents.transitionStatus documentId expectedStatuses nextStatus changes leaseGuard) := by
  unfold transitionStatus
  split
  · exact .thrown _
  split
  · exact .thrown _
  split
  · next hnone =>
      refine .missed fun document hdocument => ?_
      rw [hnone] at hdocument
      cases hdocument
  next document hdocument =>
  split
  · next hmatch =>
      split
      · exact .thrown _
      · next hvalid => exact .written document hdocument hmatch.1 hmatch.2 hvalid
  · next hmatch =>
      refine .missed fun other hother => ?_
      rw [← Option.some.inj (hdocument.symm.trans hother)]
      exact hmatch

/-- A transition does not throw when the statuses allow it and what it would write
is valid. -/
theorem transitionStatus_not_thrown {documents : DocumentMetadataRepository} {documentId : String}
    {expectedStatuses : List DocumentProcessingStatus} {nextStatus : DocumentProcessingStatus}
    {changes : UpdateDocumentMetadata} {leaseGuard : Option DocumentLeaseGuard}
    (hsafe : isSafeDocumentSegment documentId = true)
    (hallowed : expectedStatuses.forM (assertDocumentStatusTransition · nextStatus) = .ok ())
    (hvalid : ∀ document, documents.lookup documentId = some document →
      (document.update changes nextStatus).IsValid) (message : String) :
    (documents.transitionStatus documentId expectedStatuses nextStatus changes leaseGuard).1 ≠
      .error message := by
  have hsafe' : assertSafeDocumentSegment documentId "document id" = .ok () :=
    assertSafeDocumentSegment_eq_ok.mpr hsafe
  unfold transitionStatus
  rw [hsafe', hallowed]
  dsimp only
  split
  · simp
  next document hdocument =>
  rw [validateDocumentMetadata_eq_ok.mpr (hvalid document hdocument)]
  split
  · simp
  · simp

/-! ## Uploads -/

/-- Everything an upload can do: nothing, or add a document. -/
theorem create_cases (documents : DocumentMetadataRepository) (documentId : String) :
    (documents.create documentId).2 = documents ∨
    (documents.lookup documentId = none ∧
      validateDocumentMetadata (.uploaded documentId) = .ok () ∧
      (documents.create documentId).2 = documents.insert documentId (.uploaded documentId)) := by
  unfold create
  split
  · exact Or.inl rfl
  next hvalid =>
  split
  · exact Or.inl rfl
  · next hnone => exact Or.inr ⟨hnone, hvalid, rfl⟩

/-- A document after an upload was there before, or it is the new one. -/
theorem lookup_create {documents : DocumentMetadataRepository} {documentId d : String}
    {document : DocumentMetadata} (h : (documents.create documentId).2.lookup d = some document) :
    documents.lookup d = some document ∨
      (documents.lookup d = none ∧ document = .uploaded d ∧
        validateDocumentMetadata (.uploaded d) = .ok ()) := by
  rcases create_cases documents documentId with heq | ⟨hnone, hvalid, heq⟩
  · rw [heq] at h
    exact Or.inl h
  · rw [heq, Table.lookup_insert] at h
    split at h
    · next hd =>
        subst hd
        exact Or.inr ⟨hnone, (Option.some.inj h).symm, hvalid⟩
    · exact Or.inl h

/-- An upload leaves the documents there are alone. -/
theorem lookup_create_of_lookup {documents : DocumentMetadataRepository} {documentId d : String}
    {document : DocumentMetadata} (h : documents.lookup d = some document) :
    (documents.create documentId).2.lookup d = some document := by
  rcases create_cases documents documentId with heq | ⟨hnone, -, heq⟩
  · rw [heq]
    exact h
  · have hd : d ≠ documentId := by
      rintro rfl
      rw [hnone] at h
      cases h
    rw [heq, Table.lookup_insert, if_neg hd]
    exact h

end DocumentMetadataRepository

end AvantimePlatform.Documents
