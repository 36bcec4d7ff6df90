import AvantimePlatform.Queue.LocalLaws

/-!
# The embedding queues

`LocalEmbeddingJobQueue` and `PostgreSQLEmbeddingJobQueue` of `embedding-queue.ts`, for
the calls of one tenant.  The file of the local queue has the shape of the document
processing queue's, and the same tests on a job.

The PostgreSQL queue is its table and the documents that the foreign key of the table
refers to.  A statement is one function on it, at the database's clock.  `claim` orders
by `createdAt` alone, so that the row it takes among equals is an argument.  `bindable`
says which dates the database client takes as a parameter of a statement.
-/

namespace AvantimePlatform.Queue

open AvantimePlatform.Documents AvantimePlatform.Checked

/-! ## The local queue -/

/-- The file `embedding-queue.json`. -/
structure LocalEmbeddingJobQueue where
  jobs : List StoredDocumentProcessingJob

namespace LocalEmbeddingJobQueue

open LocalDocumentProcessingQueue (validateIfPresent findJob setJob isClaimOwner leaseRuns
  nextClaimable toPublicJob)

def empty : LocalEmbeddingJobQueue := ⟨[]⟩

def validateStoredJob (job : StoredDocumentProcessingJob) : Except String Unit := do
  assertSafeDocumentSegment job.id "embedding job id"
  assertSafeDocumentSegment job.documentId "document id"
  assertSafeDocumentSegment job.correlationId "correlationId"
  require (job.version = 1) "Embedding job version is unsupported."
  parseDate job.enqueuedAt "enqueuedAt"
  parseDate job.availableAt "availableAt"
  require (job.attempts ≤ maxSafeInteger) "Embedding job attempts must be a non-negative integer."
  require (job.fencingToken ≤ maxSafeInteger)
    "Embedding fencingToken must be a non-negative integer."
  validateIfPresent job.workerId fun workerId => assertSafeDocumentSegment workerId "workerId"
  validateIfPresent job.leaseExpiresAt fun deadline => parseDate deadline "leaseExpiresAt"

def read (q : LocalEmbeddingJobQueue) : Except String (List StoredDocumentProcessingJob) :=
  match q.jobs.forM validateStoredJob with
  | .error e => .error e
  | .ok () => .ok q.jobs

end LocalEmbeddingJobQueue

/-- `assertLeaseArguments` of both queues. -/
def assertEmbeddingLeaseArguments (jobId workerId : String) (fencingToken : Nat) :
    Except String Unit := do
  assertSafeDocumentSegment jobId "embedding job id"
  assertSafeDocumentSegment workerId "workerId"
  require (isPositiveSafeInteger fencingToken = true)
    "Embedding fencingToken must be a positive integer."

/-- The check on a lease duration in both queues. -/
def assertLeaseDuration (leaseDurationMs : Nat) : Except String Unit :=
  require (isPositiveSafeInteger leaseDurationMs = true)
    "Embedding lease duration must be a positive integer."

namespace LocalEmbeddingJobQueue

open LocalDocumentProcessingQueue (findJob setJob isClaimOwner leaseRuns nextClaimable toPublicJob)

def enqueue (q : LocalEmbeddingJobQueue) (now : Nat) (documentId : String)
    (id correlationId : Uuid) : Except String (DocumentEnqueueResult × LocalEmbeddingJobQueue) := do
  assertSafeDocumentSegment documentId "document id"
  let jobs ← q.read
  match KeyedList.find StoredDocumentProcessingJob.documentId documentId jobs with
  | some existing => return ({ job := toPublicJob existing, enqueued := false }, q)
  | none =>
    let instant ← toISOString now
    let job : StoredDocumentProcessingJob :=
      { id := id.val, documentId := documentId, version := 1, correlationId := correlationId.val,
        enqueuedAt := instant, availableAt := instant, attempts := 0, fencingToken := 0,
        leaseExpiresAt := none, state := .queued, workerId := none }
    return ({ job := toPublicJob job, enqueued := true }, ⟨jobs ++ [job]⟩)

def claim (q : LocalEmbeddingJobQueue) (now : Nat) (workerId : String) (leaseDurationMs : Nat) :
    Except String (Option DocumentProcessingJob × LocalEmbeddingJobQueue) := do
  assertSafeDocumentSegment workerId "workerId"
  assertLeaseDuration leaseDurationMs
  let jobs ← q.read
  match nextClaimable now jobs with
  | none => return (none, q)
  | some job =>
    let leaseExpiresAt ← toISOString (now + leaseDurationMs)
    let claimed : StoredDocumentProcessingJob :=
      { job with
        state := .claimed, workerId := some workerId, leaseExpiresAt := some leaseExpiresAt,
        attempts := job.attempts + 1, fencingToken := job.fencingToken + 1 }
    return (some (toPublicJob claimed), ⟨setJob jobs claimed⟩)

/-- The job with an id, when it is claimed by this worker under this token. -/
def ownedJob (jobs : List StoredDocumentProcessingJob) (jobId workerId : String)
    (fencingToken : Nat) : Except String StoredDocumentProcessingJob :=
  match findJob jobId jobs with
  | none => .error "Embedding job was not found."
  | some job =>
    if isClaimOwner job workerId fencingToken then .ok job
    else .error "Embedding job is not claimed by this worker."

/-- The test of `renew` and `assertLease` on the deadline. -/
def assertRuns (job : StoredDocumentProcessingJob) (now : Nat) : Except String Unit :=
  require (leaseRuns job now = true) "Embedding lease has expired."

def renew (q : LocalEmbeddingJobQueue) (now : Nat) (jobId workerId : String)
    (fencingToken leaseDurationMs : Nat) :
    Except String (DocumentProcessingJob × LocalEmbeddingJobQueue) := do
  assertEmbeddingLeaseArguments jobId workerId fencingToken
  assertLeaseDuration leaseDurationMs
  let jobs ← q.read
  let job ← ownedJob jobs jobId workerId fencingToken
  assertRuns job now
  let leaseExpiresAt ← toISOString (now + leaseDurationMs)
  let renewed := { job with leaseExpiresAt := some leaseExpiresAt }
  return (toPublicJob renewed, ⟨setJob jobs renewed⟩)

def assertLease (q : LocalEmbeddingJobQueue) (now : Nat) (jobId workerId : String)
    (fencingToken : Nat) : Except String Unit := do
  assertEmbeddingLeaseArguments jobId workerId fencingToken
  let jobs ← q.read
  let job ← ownedJob jobs jobId workerId fencingToken
  assertRuns job now

/-- A job that is gone counts as acknowledged, and the deadline is not looked at. -/
def acknowledge (q : LocalEmbeddingJobQueue) (jobId workerId : String) (fencingToken : Nat) :
    Except String LocalEmbeddingJobQueue := do
  assertEmbeddingLeaseArguments jobId workerId fencingToken
  let jobs ← q.read
  match findJob jobId jobs with
  | none => return q
  | some _ =>
    let _ ← ownedJob jobs jobId workerId fencingToken
    return ⟨KeyedList.erase StoredDocumentProcessingJob.id jobId jobs⟩

/-- The deadline is not looked at, and the arguments are not checked. -/
def release (q : LocalEmbeddingJobQueue) (jobId workerId : String) (availableAt : Int)
    (fencingToken : Nat) : Except String LocalEmbeddingJobQueue := do
  parseDate availableAt "availableAt"
  let jobs ← q.read
  let job ← ownedJob jobs jobId workerId fencingToken
  return ⟨setJob jobs
    { job with
      state := .queued, workerId := none, leaseExpiresAt := none, availableAt := availableAt }⟩

def removeForDocument (q : LocalEmbeddingJobQueue) (documentId : String) :
    Except String LocalEmbeddingJobQueue := do
  let jobs ← q.read
  return ⟨jobs.filter fun job => job.documentId != documentId⟩

end LocalEmbeddingJobQueue

/-! ## The PostgreSQL queue -/

/-- `DocumentEmbeddingJobStatus`. -/
inductive EmbeddingJobStatus where
  | queued
  | processing
deriving DecidableEq

/-- A row of `DocumentEmbeddingJob`. -/
structure DocumentEmbeddingJobRow where
  id : String
  documentId : String
  correlationId : String
  status : EmbeddingJobStatus
  attempts : Nat
  availableAt : Int
  leaseOwner : Option String
  leaseUntil : Option Nat
  fencingToken : Nat
  createdAt : Nat
deriving DecidableEq

/-- The rows of a tenant, and the documents of the tenant. -/
structure PostgreSQLEmbeddingJobQueue where
  documents : List String
  rows : List DocumentEmbeddingJobRow

/-- The largest value of an `INTEGER` column. -/
def maxInteger : Nat := 2147483647

/-- `date.toISOString()` of a date of the database. -/
def isoString (ms : Int) : Except String Unit :=
  require (isValidDate ms = true) "Invalid time value"

/-- `mapDatabaseJob`. -/
def mapDatabaseJob (row : DocumentEmbeddingJobRow) : Except String DocumentProcessingJob := do
  LocalDocumentProcessingQueue.validateIfPresent row.leaseUntil fun deadline => isoString deadline
  isoString row.availableAt
  isoString row.createdAt
  return { id := row.id, documentId := row.documentId, version := 1,
           correlationId := row.correlationId, enqueuedAt := row.createdAt,
           availableAt := row.availableAt, attempts := row.attempts,
           fencingToken := row.fencingToken, leaseExpiresAt := row.leaseUntil }

namespace PostgreSQLEmbeddingJobQueue

def empty (documents : List String) : PostgreSQLEmbeddingJobQueue := ⟨documents, []⟩

/-- The row with an id. -/
def findRow (q : PostgreSQLEmbeddingJobQueue) (jobId : String) : Option DocumentEmbeddingJobRow :=
  KeyedList.find DocumentEmbeddingJobRow.id jobId q.rows

/-- Write a row back. -/
def setRow (q : PostgreSQLEmbeddingJobQueue) (row : DocumentEmbeddingJobRow) :
    PostgreSQLEmbeddingJobQueue :=
  { q with rows := KeyedList.put DocumentEmbeddingJobRow.id row q.rows }

/-- The `WHERE` clause of `renew`, `assertLease`, `acknowledge` and `release`. -/
def isHeld (row : DocumentEmbeddingJobRow) (now : Nat) (workerId : String) (fencingToken : Nat) :
    Bool :=
  row.status == .processing && row.leaseOwner == some workerId &&
    row.fencingToken == fencingToken &&
    row.leaseUntil.any fun deadline => decide (now < deadline)

/-- The row that the clause selects. -/
def heldRow (q : PostgreSQLEmbeddingJobQueue) (now : Nat) (jobId workerId : String)
    (fencingToken : Nat) (message : String) : Except String DocumentEmbeddingJobRow :=
  match (q.findRow jobId).filter fun row => isHeld row now workerId fencingToken with
  | none => .error message
  | some row => .ok row

def enqueue (q : PostgreSQLEmbeddingJobQueue) (now : Nat) (documentId : String)
    (id correlationId : Uuid) : Outcome PostgreSQLEmbeddingJobQueue DocumentEnqueueResult :=
  match assertSafeDocumentSegment documentId "document id" with
  | .error e => (.error e, q)
  | .ok () =>
    match KeyedList.find DocumentEmbeddingJobRow.documentId documentId q.rows with
    | some existing =>
      ((fun job => { job := job, enqueued := false }) <$> mapDatabaseJob existing, q)
    | none =>
      if documentId ∈ q.documents then
        let row : DocumentEmbeddingJobRow :=
          { id := id.val, documentId := documentId, correlationId := correlationId.val,
            status := .queued, attempts := 0, availableAt := now, leaseOwner := none,
            leaseUntil := none, fencingToken := 0, createdAt := now }
        ((fun job => { job := job, enqueued := true }) <$> mapDatabaseJob row,
          { q with rows := q.rows ++ [row] })
      else (.error "Foreign key constraint violated.", q)

/-- The `WHERE` clause of the candidates of `claim`. -/
def isReady (now : Nat) (row : DocumentEmbeddingJobRow) : Bool :=
  decide (row.availableAt ≤ now) &&
    (row.status == .queued || row.leaseUntil.any fun deadline => decide (deadline ≤ now))

/-- The rows that `ORDER BY "createdAt" ASC LIMIT 1` can give: none when no row is ready,
else any ready one that no ready one is older than. -/
def CanPick (q : PostgreSQLEmbeddingJobQueue) (now : Nat) : Option String → Prop
  | none => ∀ row ∈ q.rows, isReady now row = false
  | some jobId => ∃ row ∈ q.rows, row.id = jobId ∧ isReady now row = true ∧
      ∀ other ∈ q.rows, isReady now other = true → row.createdAt ≤ other.createdAt

instance (q : PostgreSQLEmbeddingJobQueue) (now : Nat) (pick : Option String) :
    Decidable (q.CanPick now pick) :=
  match pick with
  | none => inferInstanceAs (Decidable (∀ row ∈ q.rows, _))
  | some jobId => inferInstanceAs (Decidable (∃ row ∈ q.rows, row.id = jobId ∧ _))

/-- `claim`, with the row that the database picks. -/
def claim (bindable : Int → Bool) (q : PostgreSQLEmbeddingJobQueue) (now : Nat)
    (workerId : String) (leaseDurationMs : Nat) (pick : Option String) :
    Outcome PostgreSQLEmbeddingJobQueue (Option DocumentProcessingJob) :=
  match assertSafeDocumentSegment workerId "workerId" with
  | .error e => (.error e, q)
  | .ok () =>
    match assertLeaseDuration leaseDurationMs with
    | .error e => (.error e, q)
    | .ok () =>
      let leaseUntil := now + leaseDurationMs
      if isValidDate leaseUntil && bindable now && bindable leaseUntil then
        match pick.bind q.findRow with
        | none => (.ok none, q)
        | some row =>
          if row.attempts < maxInteger ∧ row.fencingToken < maxInteger then
            let claimed : DocumentEmbeddingJobRow :=
              { row with
                status := .processing, leaseOwner := some workerId, leaseUntil := some leaseUntil,
                attempts := row.attempts + 1, fencingToken := row.fencingToken + 1 }
            (some <$> mapDatabaseJob claimed, q.setRow claimed)
          else (.error "integer out of range", q)
      else (.error "Invalid date parameter.", q)

def leaseMessage : String := "Embedding lease is no longer owned by this worker."

def renew (q : PostgreSQLEmbeddingJobQueue) (now : Nat) (jobId workerId : String)
    (fencingToken leaseDurationMs : Nat) :
    Outcome PostgreSQLEmbeddingJobQueue DocumentProcessingJob :=
  match assertEmbeddingLeaseArguments jobId workerId fencingToken with
  | .error e => (.error e, q)
  | .ok () =>
    match assertLeaseDuration leaseDurationMs with
    | .error e => (.error e, q)
    | .ok () =>
      match q.heldRow now jobId workerId fencingToken leaseMessage with
      | .error e => (.error e, q)
      | .ok row =>
        let renewed := { row with leaseUntil := some (now + leaseDurationMs) }
        (mapDatabaseJob renewed, q.setRow renewed)

def assertLease (q : PostgreSQLEmbeddingJobQueue) (now : Nat) (jobId workerId : String)
    (fencingToken : Nat) : Except String Unit := do
  assertEmbeddingLeaseArguments jobId workerId fencingToken
  let _ ← q.heldRow now jobId workerId fencingToken leaseMessage

def acknowledge (q : PostgreSQLEmbeddingJobQueue) (now : Nat) (jobId workerId : String)
    (fencingToken : Nat) : Except String PostgreSQLEmbeddingJobQueue := do
  assertEmbeddingLeaseArguments jobId workerId fencingToken
  let _ ← q.heldRow now jobId workerId fencingToken leaseMessage
  return { q with rows := KeyedList.erase DocumentEmbeddingJobRow.id jobId q.rows }

def release (bindable : Int → Bool) (q : PostgreSQLEmbeddingJobQueue) (now : Nat)
    (jobId workerId : String) (availableAt : Int) (fencingToken : Nat) :
    Except String PostgreSQLEmbeddingJobQueue := do
  assertEmbeddingLeaseArguments jobId workerId fencingToken
  parseDate availableAt "availableAt"
  require (bindable availableAt = true) "Invalid date parameter."
  let row ← q.heldRow now jobId workerId fencingToken
    "Embedding job is not claimed by this worker."
  return q.setRow
    { row with
      status := .queued, leaseOwner := none, leaseUntil := none, availableAt := availableAt }

def removeForDocument (q : PostgreSQLEmbeddingJobQueue) (documentId : String) :
    PostgreSQLEmbeddingJobQueue :=
  { q with rows := q.rows.filter fun row => row.documentId != documentId }

end PostgreSQLEmbeddingJobQueue

end AvantimePlatform.Queue
