import AvantimePlatform.Lib.Checked
import AvantimePlatform.Lib.KeyedList
import AvantimePlatform.Queue.Interface

/-!
# The local queue

`LocalDocumentProcessingQueue` of `document-processing-queue.ts`: the jobs of a
tenant in one JSON file, every operation under the file's lock and so atomic.
The state is the array the file holds.

Acknowledge and release check the owner of the job and its fencing token, and
not the deadline of the lease; renew and assertLease check all three.
-/

namespace AvantimePlatform.Queue

open AvantimePlatform.Documents AvantimePlatform.Checked

/-- `StoredDocumentProcessingJob`. -/
structure StoredDocumentProcessingJob where
  id : String
  documentId : String
  version : Nat
  correlationId : String
  enqueuedAt : Nat
  availableAt : Int
  attempts : Nat
  fencingToken : Nat
  leaseExpiresAt : Option Nat
  state : JobState
  workerId : Option String
deriving DecidableEq

/-- The file `processing-queue.json`. -/
structure LocalDocumentProcessingQueue where
  jobs : List StoredDocumentProcessingJob
deriving DecidableEq

namespace LocalDocumentProcessingQueue

/-- The queue of a tenant that has no file yet. -/
def empty : LocalDocumentProcessingQueue := ⟨[]⟩

/-- `toPublicJob`. -/
def toPublicJob (job : StoredDocumentProcessingJob) : DocumentProcessingJob where
  id := job.id
  documentId := job.documentId
  version := job.version
  correlationId := job.correlationId
  enqueuedAt := job.enqueuedAt
  availableAt := job.availableAt
  attempts := job.attempts
  fencingToken := job.fencingToken
  leaseExpiresAt := job.leaseExpiresAt

/-- A check on a field that may be null. -/
def validateIfPresent {α : Type} (value : Option α) (check : α → Except String Unit) :
    Except String Unit :=
  match value with
  | none => .ok ()
  | some a => check a

/-- `validateStoredJob`.  The state is an enumeration here, so the check on it
cannot fail. -/
def validateStoredJob (job : StoredDocumentProcessingJob) : Except String Unit := do
  assertSafeDocumentSegment job.id "job id"
  assertSafeDocumentSegment job.documentId "document id"
  assertSafeDocumentSegment job.correlationId "correlationId"
  require (job.version = 1) "Queue job version is unsupported."
  parseDate job.enqueuedAt "enqueuedAt"
  parseDate job.availableAt "availableAt"
  require (job.attempts ≤ maxSafeInteger)
    "Queue job attempts must be a non-negative safe integer."
  require (job.fencingToken ≤ maxSafeInteger)
    "Queue job fencingToken must be a non-negative safe integer."
  validateIfPresent job.workerId fun workerId => assertSafeDocumentSegment workerId "workerId"
  validateIfPresent job.leaseExpiresAt fun deadline => parseDate deadline "leaseExpiresAt"

/-- `read`: one invalid job makes the whole file unreadable. -/
def read (q : LocalDocumentProcessingQueue) : Except String (List StoredDocumentProcessingJob) :=
  match q.jobs.forM validateStoredJob with
  | .error e => .error e
  | .ok () => .ok q.jobs

/-- The job with an id. -/
def findJob (jobId : String) (jobs : List StoredDocumentProcessingJob) :
    Option StoredDocumentProcessingJob :=
  KeyedList.find StoredDocumentProcessingJob.id jobId jobs

/-- Write back the job that an operation changed in place. -/
def setJob (jobs : List StoredDocumentProcessingJob) (job : StoredDocumentProcessingJob) :
    List StoredDocumentProcessingJob :=
  KeyedList.put StoredDocumentProcessingJob.id job jobs

/-- `assertClaimOwner`, with the fencing token to compare with. -/
def isClaimOwner (job : StoredDocumentProcessingJob) (workerId : String) (fencingToken : Nat) :
    Bool :=
  job.state == .claimed && job.workerId == some workerId && job.fencingToken == fencingToken

/-- `leaseExpiresAt > now`. -/
def leaseRuns (job : StoredDocumentProcessingJob) (now : Nat) : Bool :=
  match job.leaseExpiresAt with
  | none => false
  | some deadline => decide (now < deadline)

/-- The filter of `claim`: available, and queued or with an expired lease. -/
def isClaimable (now : Nat) (job : StoredDocumentProcessingJob) : Bool :=
  if (now : Int) < job.availableAt then false
  else if job.state = .queued then true
  else
    match job.leaseExpiresAt with
    | none => false
    | some deadline => decide (deadline ≤ now)

/-- The first claimable job by `enqueuedAt`; the sort is stable. -/
def nextClaimable (now : Nat) (jobs : List StoredDocumentProcessingJob) :
    Option StoredDocumentProcessingJob :=
  ((jobs.filter (isClaimable now)).insertionSort
    (fun first second => first.enqueuedAt ≤ second.enqueuedAt)).head?

def tokenMessage : String := "Queue fencingToken must be a positive safe integer."

def enqueue (q : LocalDocumentProcessingQueue) (now : Nat) (documentId : String)
    (id correlationId : Uuid) : Outcome LocalDocumentProcessingQueue DocumentEnqueueResult :=
  match assertSafeDocumentSegment documentId "document id" with
  | .error e => (.error e, q)
  | .ok () =>
    match q.read with
    | .error e => (.error e, q)
    | .ok jobs =>
      match KeyedList.find StoredDocumentProcessingJob.documentId documentId jobs with
      | some existing => (.ok { job := toPublicJob existing, enqueued := false }, q)
      | none =>
        let job : StoredDocumentProcessingJob :=
          { id := id.val, documentId := documentId, version := 1,
            correlationId := correlationId.val, enqueuedAt := now, availableAt := now,
            attempts := 0, fencingToken := 0, leaseExpiresAt := none, state := .queued,
            workerId := none }
        (.ok { job := toPublicJob job, enqueued := true }, ⟨jobs ++ [job]⟩)

def claim (q : LocalDocumentProcessingQueue) (now : Nat) (workerId : String)
    (leaseDurationMs : Nat) :
    Outcome LocalDocumentProcessingQueue (Option DocumentProcessingJob) :=
  match assertSafeDocumentSegment workerId "workerId" with
  | .error e => (.error e, q)
  | .ok () =>
    if isPositiveSafeInteger leaseDurationMs then
      match q.read with
      | .error e => (.error e, q)
      | .ok jobs =>
        match nextClaimable now jobs with
        | none => (.ok none, q)
        | some claimable =>
          match toISOString (now + leaseDurationMs) with
          | .error e => (.error e, q)
          | .ok leaseExpiresAt =>
            let claimed : StoredDocumentProcessingJob :=
              { claimable with
                state := .claimed, workerId := some workerId,
                leaseExpiresAt := some leaseExpiresAt, attempts := claimable.attempts + 1,
                fencingToken := claimable.fencingToken + 1 }
            (.ok (some (toPublicJob claimed)), ⟨setJob jobs claimed⟩)
    else (.error "Queue lease duration must be a positive integer.", q)

def renew (q : LocalDocumentProcessingQueue) (now : Nat) (jobId workerId : String)
    (fencingToken leaseDurationMs : Nat) :
    Outcome LocalDocumentProcessingQueue DocumentProcessingJob :=
  match assertLeaseArguments jobId workerId (some fencingToken) tokenMessage with
  | .error e => (.error e, q)
  | .ok () =>
    if isPositiveSafeInteger leaseDurationMs then
      match q.read with
      | .error e => (.error e, q)
      | .ok jobs =>
        match findJob jobId jobs with
        | none => (.error "Queue job was not found.", q)
        | some job =>
          if isClaimOwner job workerId fencingToken then
            if leaseRuns job now then
              match toISOString (now + leaseDurationMs) with
              | .error e => (.error e, q)
              | .ok leaseExpiresAt =>
                let renewed := { job with leaseExpiresAt := some leaseExpiresAt }
                (.ok (toPublicJob renewed), ⟨setJob jobs renewed⟩)
            else (.error "Queue lease has expired.", q)
          else (.error "Queue job is not claimed by this worker.", q)
    else (.error "Queue lease duration must be a positive integer.", q)

def assertLease (q : LocalDocumentProcessingQueue) (now : Nat) (jobId workerId : String)
    (fencingToken : Nat) : Except String Unit :=
  match assertLeaseArguments jobId workerId (some fencingToken) tokenMessage with
  | .error e => .error e
  | .ok () =>
    match q.read with
    | .error e => .error e
    | .ok jobs =>
      match findJob jobId jobs with
      | none => .error "Queue job was not found."
      | some job =>
        if isClaimOwner job workerId fencingToken then
          if leaseRuns job now then .ok () else .error "Queue lease has expired."
        else .error "Queue job is not claimed by this worker."

/-- A job that is no longer there counts as acknowledged, and the deadline of the
lease is not looked at. -/
def acknowledge (q : LocalDocumentProcessingQueue) (_now : Nat) (jobId workerId : String)
    (fencingToken : Option Nat) : Outcome LocalDocumentProcessingQueue Unit :=
  match assertLeaseArguments jobId workerId fencingToken tokenMessage with
  | .error e => (.error e, q)
  | .ok () =>
    match q.read with
    | .error e => (.error e, q)
    | .ok jobs =>
      match findJob jobId jobs with
      | none => (.ok (), q)
      | some job =>
        if isClaimOwner job workerId (fencingToken.getD job.fencingToken) then
          (.ok (), ⟨KeyedList.erase StoredDocumentProcessingJob.id jobId jobs⟩)
        else (.error "Queue job is not claimed by this worker.", q)

/-- The deadline of the lease is not looked at. -/
def release (q : LocalDocumentProcessingQueue) (_now : Nat) (jobId workerId : String)
    (availableAt : Int) (fencingToken : Option Nat) :
    Outcome LocalDocumentProcessingQueue Unit :=
  match assertLeaseArguments jobId workerId fencingToken tokenMessage with
  | .error e => (.error e, q)
  | .ok () =>
    if isValidDate availableAt then
      match q.read with
      | .error e => (.error e, q)
      | .ok jobs =>
        match findJob jobId jobs with
        | none => (.error "Queue job was not found.", q)
        | some job =>
          if isClaimOwner job workerId (fencingToken.getD job.fencingToken) then
            let released : StoredDocumentProcessingJob :=
              { job with
                state := .queued, workerId := none, leaseExpiresAt := none,
                availableAt := availableAt }
            (.ok (), ⟨setJob jobs released⟩)
          else (.error "Queue job is not claimed by this worker.", q)
    else (.error "availableAt must be a valid date.", q)

def removeForDocument (q : LocalDocumentProcessingQueue) (documentId : String) :
    Outcome LocalDocumentProcessingQueue Unit :=
  match assertSafeDocumentSegment documentId "document id" with
  | .error e => (.error e, q)
  | .ok () =>
    match q.read with
    | .error e => (.error e, q)
    | .ok jobs => (.ok (), ⟨jobs.filter (fun job => job.documentId != documentId)⟩)

instance : DocumentProcessingQueue LocalDocumentProcessingQueue where
  enqueue := enqueue
  claim := claim
  renew := renew
  assertLease := assertLease
  acknowledge := acknowledge
  release := release
  removeForDocument := removeForDocument

end LocalDocumentProcessingQueue

end AvantimePlatform.Queue
