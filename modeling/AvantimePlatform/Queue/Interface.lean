import AvantimePlatform.Documents.Identifiers

/-!
# The document processing queue

The types of `document-processing-queue.ts` that both queue adapters share, and
the interface `DocumentProcessingQueue` itself, as a class of operations on the
adapter's state.  Every operation runs at one instant of the clock and returns
its promise's outcome together with the state it leaves: `Except.error` is the
message of a rejected promise.

The state is that of one tenant.  `assertDocumentTenantContext` and the key or
file that the tenant selects are outside the model.
-/

namespace AvantimePlatform.Queue

open AvantimePlatform.Documents

/-- `state: 'QUEUED' | 'CLAIMED'`. -/
inductive JobState where
  | queued
  | claimed
deriving DecidableEq

/-- `DocumentProcessingJob`, what callers see of a job. -/
structure DocumentProcessingJob where
  id : String
  documentId : String
  version : Nat
  correlationId : String
  enqueuedAt : Nat
  availableAt : Int
  attempts : Nat
  fencingToken : Nat
  leaseExpiresAt : Option Nat
deriving DecidableEq

/-- `DocumentEnqueueResult`. -/
structure DocumentEnqueueResult where
  job : DocumentProcessingJob
  enqueued : Bool
deriving DecidableEq

/-- The outcome of an operation and the state it leaves. -/
abbrev Outcome (Q α : Type) := Except String α × Q

/-- The default of `leaseDurationMs` in both adapters. -/
def defaultLeaseDurationMs : Nat := 300000

/-- `assertLeaseArguments` of the local adapter and `assertLease` of the Redis
one: the same checks, up to the wording of the last message. -/
def assertLeaseArguments (jobId workerId : String) (fencingToken : Option Nat)
    (tokenMessage : String) : Except String Unit :=
  match assertSafeDocumentSegment jobId "job id" with
  | .error e => .error e
  | .ok () =>
    match assertSafeDocumentSegment workerId "workerId" with
    | .error e => .error e
    | .ok () =>
      match fencingToken with
      | none => .ok ()
      | some token => if isPositiveSafeInteger token then .ok () else .error tokenMessage

/-- `interface DocumentProcessingQueue`.  The first argument of each operation
after the state is the clock. -/
class DocumentProcessingQueue (Q : Type) where
  enqueue : Q → Nat → (documentId : String) → (id correlationId : Uuid) →
    Outcome Q DocumentEnqueueResult
  claim : Q → Nat → (workerId : String) → (leaseDurationMs : Nat) →
    Outcome Q (Option DocumentProcessingJob)
  renew : Q → Nat → (jobId workerId : String) → (fencingToken leaseDurationMs : Nat) →
    Outcome Q DocumentProcessingJob
  assertLease : Q → Nat → (jobId workerId : String) → (fencingToken : Nat) → Except String Unit
  acknowledge : Q → Nat → (jobId workerId : String) → (fencingToken : Option Nat) → Outcome Q Unit
  release : Q → Nat → (jobId workerId : String) → (availableAt : Int) →
    (fencingToken : Option Nat) → Outcome Q Unit
  removeForDocument : Q → (documentId : String) → Outcome Q Unit

/-! ## The ids of concrete runs -/

def firstJob : Uuid := ⟨"job-1", by decide⟩

def secondJob : Uuid := ⟨"job-2", by decide⟩

def correlation : Uuid := ⟨"correlation", by decide⟩

end AvantimePlatform.Queue
