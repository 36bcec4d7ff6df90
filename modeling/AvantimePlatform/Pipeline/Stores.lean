import AvantimePlatform.Documents.Metadata
import AvantimePlatform.Documents.RetryPolicy
import AvantimePlatform.Lib.Interleaving
import AvantimePlatform.Queue.Laws

/-!
# The stores of the processing pipeline

What the calls of the document pipeline share: the metadata, the processing queue
and the stored derivatives of the documents of one tenant.  A call works on them
through awaited operations, one at a time; each is a `Request`, and
`Stores.perform` is what it does.  Two calls interleave at their requests.

The stores do not fail.  The queue is any adapter that keeps the laws, and it may
reject an operation; `saveText` and `saveChunks` are the two writes of
`LocalDocumentProcessingRepository.save`, `deleteText` and `deleteChunks` the two
of its `delete`.
-/

namespace AvantimePlatform.Pipeline

open AvantimePlatform.Documents AvantimePlatform.Queue

/-- The shared state, the clock, and the ids that `crypto.randomUUID()` has handed
out. -/
structure Stores (Q : Type) where
  now : Nat
  issued : List String
  documents : DocumentMetadataRepository
  queue : Q
  texts : Table String String
  chunks : Table String (List TextChunk)

/-- An awaited operation, with the type of the value it resolves to. -/
inductive Request : Type → Type where
  | findById (documentId : String) : Request (Option DocumentMetadata)
  | transitionStatus (documentId : String) (expectedStatuses : List DocumentProcessingStatus)
      (nextStatus : DocumentProcessingStatus) (changes : UpdateDocumentMetadata)
      (leaseGuard : Option DocumentLeaseGuard) : Request (Option DocumentMetadata)
  | enqueue (documentId : String) : Request DocumentEnqueueResult
  | claim (workerId : String) (leaseDurationMs : Nat) : Request (Option DocumentProcessingJob)
  | renew (jobId workerId : String) (fencingToken leaseDurationMs : Nat) :
      Request DocumentProcessingJob
  | assertLease (jobId workerId : String) (fencingToken : Nat) : Request Unit
  | acknowledge (jobId workerId : String) (fencingToken : Nat) : Request Unit
  | release (jobId workerId : String) (availableAt fencingToken : Nat) : Request Unit
  | removeForDocument (documentId : String) : Request Unit
  /-- Reading the original and extracting its text. -/
  | extract : Request DocumentProcessingResult
  | saveText (documentId text : String) : Request Unit
  | saveChunks (documentId : String) (chunks : List TextChunk) : Request Unit
  | deleteText (documentId : String) : Request Unit
  | deleteChunks (documentId : String) : Request Unit
  /-- An await that touches no store. -/
  | settled : Request Unit

/-- What comes from outside the model at a step of a call. -/
inductive Input where
  /-- Nothing: the call goes on. -/
  | proceed
  /-- The two ids that an enqueue draws. -/
  | ids (id correlationId : Uuid)
  /-- What the extractor makes of the original. -/
  | extracted (outcome : Except ThrownError DocumentProcessingResult)
  /-- The timer of a worker's heartbeat fires, or its renewal goes on. -/
  | heartbeat
  /-- The process of a worker dies. -/
  | die

/-- A rejected promise of the queue or the metadata store is an `Error`. -/
def thrown {α : Type} : Except String α → Except ThrownError α
  | .error message => .error (.ofMessage message)
  | .ok a => .ok a

namespace Stores

variable {Q : Type}

/-- No documents, an empty queue. -/
def start (Q : Type) [LawfulDocumentProcessingQueue Q] (now : Nat) : Stores Q where
  now := now
  issued := []
  documents := ∅
  queue := LawfulDocumentProcessingQueue.empty
  texts := ∅
  chunks := ∅

/-- Perform one awaited operation.  `none` when the input is not the kind the
operation takes, or hands out an id a second time. -/
def perform [DocumentProcessingQueue Q] (s : Stores Q) (input : Input) {α : Type} :
    Request α → Option (Except ThrownError α × Stores Q)
  | .findById documentId => some (.ok (s.documents.findById documentId), s)
  | .transitionStatus documentId expectedStatuses nextStatus changes leaseGuard =>
    let outcome :=
      s.documents.transitionStatus documentId expectedStatuses nextStatus changes leaseGuard
    some (thrown outcome.1, { s with documents := outcome.2 })
  | .enqueue documentId =>
    match input with
    | .ids id correlationId =>
      if id.val ∈ s.issued then none
      else
        let outcome := DocumentProcessingQueue.enqueue s.queue s.now documentId id correlationId
        some (thrown outcome.1, { s with issued := id.val :: s.issued, queue := outcome.2 })
    | _ => none
  | .claim workerId leaseDurationMs =>
    let outcome := DocumentProcessingQueue.claim s.queue s.now workerId leaseDurationMs
    some (thrown outcome.1, { s with queue := outcome.2 })
  | .renew jobId workerId fencingToken leaseDurationMs =>
    let outcome :=
      DocumentProcessingQueue.renew s.queue s.now jobId workerId fencingToken leaseDurationMs
    some (thrown outcome.1, { s with queue := outcome.2 })
  | .assertLease jobId workerId fencingToken =>
    some (thrown (DocumentProcessingQueue.assertLease s.queue s.now jobId workerId fencingToken), s)
  | .acknowledge jobId workerId fencingToken =>
    let outcome :=
      DocumentProcessingQueue.acknowledge s.queue s.now jobId workerId (some fencingToken)
    some (thrown outcome.1, { s with queue := outcome.2 })
  | .release jobId workerId availableAt fencingToken =>
    let outcome :=
      DocumentProcessingQueue.release s.queue s.now jobId workerId availableAt (some fencingToken)
    some (thrown outcome.1, { s with queue := outcome.2 })
  | .removeForDocument documentId =>
    let outcome := DocumentProcessingQueue.removeForDocument s.queue documentId
    some (thrown outcome.1, { s with queue := outcome.2 })
  | .extract =>
    match input with
    | .extracted outcome => some (outcome, s)
    | _ => none
  | .saveText documentId text => some (.ok (), { s with texts := s.texts.insert documentId text })
  | .saveChunks documentId chunks =>
    some (.ok (), { s with chunks := s.chunks.insert documentId chunks })
  | .deleteText documentId => some (.ok (), { s with texts := s.texts.erase documentId })
  | .deleteChunks documentId => some (.ok (), { s with chunks := s.chunks.erase documentId })
  | .settled => some (.ok (), s)

/-- The status of a document, when there is one. -/
def status? (s : Stores Q) (documentId : String) : Option DocumentProcessingStatus :=
  (s.documents.lookup documentId).map DocumentMetadata.status

end Stores

/-- What a call awaits next and how it goes on: `none` when it returns or throws. -/
structure Await (Next : Type) : Type 1 where
  {Value : Type}
  request : Request Value
  resume : Except ThrownError Value → Option Next

/-- The same await of a call that is part of a larger type of calls. -/
def Await.map {Next Next' : Type} (f : Next → Next') (await : Await Next) : Await Next' where
  request := await.request
  resume := fun result => (await.resume result).map f

end AvantimePlatform.Pipeline
