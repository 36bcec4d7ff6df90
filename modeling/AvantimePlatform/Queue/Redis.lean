import AvantimePlatform.Lib.Checked
import AvantimePlatform.Lib.SortedSet
import AvantimePlatform.Lib.Table
import AvantimePlatform.Queue.Interface

/-!
# The Redis queue

`RedisLeaseQueue` and `RedisDocumentProcessingQueue` of `redis-lease-queue.ts`.
The state is the part of the Redis keyspace that one tenant of one queue owns:
the documents hash, the jobs set, the ready and leased sorted sets and one hash
for each job.  A Lua script is one function on it, at the millisecond of the
server's clock; a method of the client checks its arguments, runs its script and
parses the reply.

`removeForDocument` of the client is two commands, the `HGET` of the job id and
the script that deletes it, and has one function for each.

The field `companyId` of a job hash is left out: no script reads it.
-/

namespace AvantimePlatform.Queue

open AvantimePlatform.Documents AvantimePlatform.Checked

/-- The hash of one job.  `workerId` is empty when nobody holds the job, and
`leaseExpiresAtMs` and `heartbeatAtMs` are `none` for the empty string. -/
structure RedisJob where
  id : String
  documentId : String
  version : Nat
  correlationId : String
  enqueuedAtMs : Nat
  availableAtMs : Int
  attempts : Nat
  fencingToken : Nat
  state : JobState
  workerId : String
  leaseExpiresAtMs : Option Nat
  heartbeatAtMs : Option Nat
deriving DecidableEq

/-- The keys of one tenant. -/
structure Keyspace where
  documents : Table String String
  jobs : Finset String
  ready : SortedSet Int String
  leased : SortedSet Int String
  job : Table String RedisJob

namespace Keyspace

/-- No key exists. -/
def empty : Keyspace := ⟨∅, ∅, SortedSet.empty, SortedSet.empty, ∅⟩

/-- `enqueueScript`.  The reply is the flag and the `HMGET` of the job hash. -/
def enqueueScript (k : Keyspace) (nowMs : Nat) (documentId id correlationId : String) :
    (Bool × Option RedisJob) × Keyspace :=
  match k.documents.lookup documentId with
  | some existing => ((false, k.job.lookup existing), k)
  | none =>
    let job : RedisJob :=
      { id := id, documentId := documentId, version := 1, correlationId := correlationId,
        enqueuedAtMs := nowMs, availableAtMs := nowMs, attempts := 0, fencingToken := 0,
        state := .queued, workerId := "", leaseExpiresAtMs := none, heartbeatAtMs := none }
    ((true, some job),
      { documents := k.documents.insert documentId id
        jobs := insert id k.jobs
        ready := k.ready.zadd nowMs id
        leased := k.leased
        job := k.job.insert id job })

/-- The job id that `claimScript` takes: an expired lease before a ready job. -/
def claimCandidate (k : Keyspace) (nowMs : Nat) : Option String :=
  match k.leased.first nowMs with
  | some jobId => some jobId
  | none => k.ready.first nowMs

/-- The `ZREM` with which `claimScript` takes the candidate out of its set. -/
def takeCandidate (k : Keyspace) (nowMs : Nat) (jobId : String) : Keyspace :=
  match k.leased.first nowMs with
  | some _ => { k with leased := k.leased.zrem jobId }
  | none => { k with ready := k.ready.zrem jobId }

/-- What `claimScript` writes into the job hash. -/
def claimedJob (job : RedisJob) (nowMs : Nat) (workerId : String) (leaseDurationMs : Nat) :
    RedisJob :=
  { job with
    attempts := job.attempts + 1, fencingToken := job.fencingToken + 1, state := .claimed,
    workerId := workerId, leaseExpiresAtMs := some (nowMs + leaseDurationMs),
    heartbeatAtMs := some nowMs }

/-- `claimScript`. -/
def claimScript (k : Keyspace) (nowMs : Nat) (workerId : String) (leaseDurationMs : Nat) :
    Option RedisJob × Keyspace :=
  match k.claimCandidate nowMs with
  | none => (none, k)
  | some jobId =>
    let taken := k.takeCandidate nowMs jobId
    match k.job.lookup jobId with
    | none => (none, { taken with jobs := taken.jobs.erase jobId })
    | some job =>
      let claimed := claimedJob job nowMs workerId leaseDurationMs
      (some claimed,
        { taken with
          job := taken.job.insert jobId claimed
          leased := taken.leased.zadd ((nowMs : Int) + leaseDurationMs) jobId })

/-- The test that `renewScript`, `assertLeaseScript`, `acknowledgeScript` and
`releaseScript` begin with, on the job hash. -/
def ownsLease (job : RedisJob) (nowMs : Nat) (workerId : String) (fencingToken : Nat) : Bool :=
  job.state == .claimed && job.workerId == workerId && job.fencingToken == fencingToken &&
    job.leaseExpiresAtMs.any (fun deadline => decide (nowMs < deadline))

/-- The job hash at `jobId` when its lease is held; `STALE_LEASE` otherwise.  A
missing hash has no `state` and is stale as well. -/
def leasedJob (k : Keyspace) (nowMs : Nat) (jobId workerId : String) (fencingToken : Nat) :
    Except String RedisJob :=
  match k.job.lookup jobId with
  | none => .error "STALE_LEASE"
  | some job => if ownsLease job nowMs workerId fencingToken then .ok job else .error "STALE_LEASE"

/-- `renewScript`. -/
def renewScript (k : Keyspace) (nowMs : Nat) (jobId workerId : String)
    (fencingToken leaseDurationMs : Nat) : Except String RedisJob × Keyspace :=
  match k.leasedJob nowMs jobId workerId fencingToken with
  | .error e => (.error e, k)
  | .ok job =>
    let renewed : RedisJob :=
      { job with
        leaseExpiresAtMs := some (nowMs + leaseDurationMs), heartbeatAtMs := some nowMs }
    (.ok renewed,
      { k with
        job := k.job.insert jobId renewed
        leased := k.leased.zadd ((nowMs : Int) + leaseDurationMs) jobId })

/-- `assertLeaseScript`. -/
def assertLeaseScript (k : Keyspace) (nowMs : Nat) (jobId workerId : String)
    (fencingToken : Nat) : Except String Unit :=
  match k.leasedJob nowMs jobId workerId fencingToken with
  | .error e => .error e
  | .ok _ => .ok ()

/-- `acknowledgeScript`. -/
def acknowledgeScript (k : Keyspace) (nowMs : Nat) (jobId workerId : String)
    (fencingToken : Nat) : Except String Unit × Keyspace :=
  match k.leasedJob nowMs jobId workerId fencingToken with
  | .error e => (.error e, k)
  | .ok job =>
    (.ok (),
      { documents := k.documents.erase job.documentId
        jobs := k.jobs.erase jobId
        ready := k.ready.zrem jobId
        leased := k.leased.zrem jobId
        job := k.job.erase jobId })

/-- `releaseScript`. -/
def releaseScript (k : Keyspace) (nowMs : Nat) (jobId workerId : String)
    (fencingToken : Nat) (availableAtMs : Int) : Except String Unit × Keyspace :=
  match k.leasedJob nowMs jobId workerId fencingToken with
  | .error e => (.error e, k)
  | .ok job =>
    let released : RedisJob :=
      { job with
        state := .queued, workerId := "", leaseExpiresAtMs := none, heartbeatAtMs := none,
        availableAtMs := availableAtMs }
    (.ok (),
      { k with
        job := k.job.insert jobId released
        leased := k.leased.zrem jobId
        ready := k.ready.zadd availableAtMs jobId })

/-- The `HGET` that `removeForDocument` begins with. -/
def removeLookup (k : Keyspace) (documentId : String) : Option String :=
  k.documents.lookup documentId

/-- The script of `removeForDocument`, with the job id its `HGET` returned.  The
entry of the documents hash goes whatever job it names by now. -/
def removeScript (k : Keyspace) (documentId jobId : String) : Keyspace where
  documents := k.documents.erase documentId
  jobs := k.jobs.erase jobId
  ready := k.ready.zrem jobId
  leased := k.leased.zrem jobId
  job := k.job.erase jobId

end Keyspace

/-- `asInteger` on a number the scripts wrote. -/
def asInteger (value : Int) (field : String) : Except String Nat :=
  if 0 ≤ value ∧ value ≤ maxSafeInteger then .ok value.toNat
  else .error ("Redis queue returned an invalid " ++ field ++ ".")

/-- `isoFromMilliseconds`. -/
def isoFromMilliseconds (value : Int) (field : String) : Except String Nat := do
  let milliseconds ← asInteger value field
  toISOString milliseconds

/-- The `leaseExpiresAt` of `parseJob`, null for the empty string. -/
def parseLease (value : Option Nat) : Except String (Option Nat) :=
  match value with
  | none => .ok none
  | some deadline => some <$> isoFromMilliseconds deadline "leaseExpiresAt"

/-- `parseJob` on the reply of an `HMGET`; a missing hash answers with nulls. -/
def parseJob (fields : Option RedisJob) : Except String DocumentProcessingJob :=
  match fields with
  | none => .error "Redis queue response is missing version."
  | some job => do
    let version ← asInteger job.version "version"
    require (version = 1) "Redis queue job version is unsupported."
    let enqueuedAt ← isoFromMilliseconds job.enqueuedAtMs "enqueuedAt"
    let availableAt ← isoFromMilliseconds job.availableAtMs "availableAt"
    let attempts ← asInteger job.attempts "attempts"
    let fencingToken ← asInteger job.fencingToken "fencingToken"
    let leaseExpiresAt ← parseLease job.leaseExpiresAtMs
    assertSafeDocumentSegment job.id "job id"
    assertSafeDocumentSegment job.documentId "document id"
    assertSafeDocumentSegment job.correlationId "correlationId"
    return { id := job.id, documentId := job.documentId, version := version,
             correlationId := job.correlationId, enqueuedAt := enqueuedAt,
             availableAt := availableAt, attempts := attempts, fencingToken := fencingToken,
             leaseExpiresAt := leaseExpiresAt }

/-- `RedisDocumentProcessingQueue`: the client methods over the tenant's keys. -/
structure RedisDocumentProcessingQueue where
  keyspace : Keyspace

namespace RedisDocumentProcessingQueue

def empty : RedisDocumentProcessingQueue := ⟨Keyspace.empty⟩

def tokenMessage : String := "fencingToken must be a positive safe integer."

def leaseMessage : String := "Queue lease duration must be a positive safe integer."

def enqueue (q : RedisDocumentProcessingQueue) (now : Nat) (documentId : String)
    (id correlationId : Uuid) : Outcome RedisDocumentProcessingQueue DocumentEnqueueResult :=
  match assertSafeDocumentSegment documentId "document id" with
  | .error e => (.error e, q)
  | .ok () =>
    let (reply, k) := q.keyspace.enqueueScript now documentId id.val correlationId.val
    match parseJob reply.2 with
    | .error e => (.error e, ⟨k⟩)
    | .ok job => (.ok { job := job, enqueued := reply.1 }, ⟨k⟩)

def claim (q : RedisDocumentProcessingQueue) (now : Nat) (workerId : String)
    (leaseDurationMs : Nat) :
    Outcome RedisDocumentProcessingQueue (Option DocumentProcessingJob) :=
  match assertSafeDocumentSegment workerId "workerId" with
  | .error e => (.error e, q)
  | .ok () =>
    if isPositiveSafeInteger leaseDurationMs then
      let (reply, k) := q.keyspace.claimScript now workerId leaseDurationMs
      match reply with
      | none => (.ok none, ⟨k⟩)
      | some fields =>
        match parseJob (some fields) with
        | .error e => (.error e, ⟨k⟩)
        | .ok job => (.ok (some job), ⟨k⟩)
    else (.error leaseMessage, q)

def renew (q : RedisDocumentProcessingQueue) (now : Nat) (jobId workerId : String)
    (fencingToken leaseDurationMs : Nat) :
    Outcome RedisDocumentProcessingQueue DocumentProcessingJob :=
  match assertLeaseArguments jobId workerId (some fencingToken) tokenMessage with
  | .error e => (.error e, q)
  | .ok () =>
    if isPositiveSafeInteger leaseDurationMs then
      let (reply, k) := q.keyspace.renewScript now jobId workerId fencingToken leaseDurationMs
      match reply with
      | .error e => (.error e, ⟨k⟩)
      | .ok fields => (parseJob (some fields), ⟨k⟩)
    else (.error leaseMessage, q)

def assertLease (q : RedisDocumentProcessingQueue) (now : Nat) (jobId workerId : String)
    (fencingToken : Nat) : Except String Unit :=
  match assertLeaseArguments jobId workerId (some fencingToken) tokenMessage with
  | .error e => .error e
  | .ok () => q.keyspace.assertLeaseScript now jobId workerId fencingToken

/-- A missing fencing token defaults to `0`, which the argument check refuses. -/
def acknowledge (q : RedisDocumentProcessingQueue) (now : Nat) (jobId workerId : String)
    (fencingToken : Option Nat) : Outcome RedisDocumentProcessingQueue Unit :=
  let token := fencingToken.getD 0
  match assertLeaseArguments jobId workerId (some token) tokenMessage with
  | .error e => (.error e, q)
  | .ok () =>
    let (reply, k) := q.keyspace.acknowledgeScript now jobId workerId token
    (reply, ⟨k⟩)

def release (q : RedisDocumentProcessingQueue) (now : Nat) (jobId workerId : String)
    (availableAt : Int) (fencingToken : Option Nat) :
    Outcome RedisDocumentProcessingQueue Unit :=
  let token := fencingToken.getD 0
  match assertLeaseArguments jobId workerId (some token) tokenMessage with
  | .error e => (.error e, q)
  | .ok () =>
    if isValidDate availableAt then
      let (reply, k) := q.keyspace.releaseScript now jobId workerId token availableAt
      (reply, ⟨k⟩)
    else (.error "availableAt must be a valid date.", q)

/-- Both commands of `removeForDocument` with nothing in between. -/
def removeForDocument (q : RedisDocumentProcessingQueue) (documentId : String) :
    Outcome RedisDocumentProcessingQueue Unit :=
  match assertSafeDocumentSegment documentId "document id" with
  | .error e => (.error e, q)
  | .ok () =>
    match q.keyspace.removeLookup documentId with
    | none => (.ok (), q)
    | some jobId => (.ok (), ⟨q.keyspace.removeScript documentId jobId⟩)

instance : DocumentProcessingQueue RedisDocumentProcessingQueue where
  enqueue := enqueue
  claim := claim
  renew := renew
  assertLease := assertLease
  acknowledge := acknowledge
  release := release
  removeForDocument := removeForDocument

end RedisDocumentProcessingQueue

end AvantimePlatform.Queue
