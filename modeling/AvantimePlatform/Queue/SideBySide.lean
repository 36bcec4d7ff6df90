import AvantimePlatform.Queue.LocalLaws
import AvantimePlatform.Queue.RedisLaws

/-!
# The local and the Redis queue side by side

One caller makes the same calls, with the same ids and the same clock, on a local
and on a Redis queue.  This module has the calls, what a job of the one is in the
other, and the simulation relation `Alike`: the two hold the same jobs, field by
field, and each of them can be read by both adapters.
-/

namespace AvantimePlatform.Queue

open AvantimePlatform.Documents AvantimePlatform.Checked AvantimePlatform.Transition

/-! ## The calls -/

/-- A call behind `DocumentProcessingQueue`, with an explicit fencing token. -/
inductive QueueOperation where
  | enqueue (documentId : String) (id correlationId : Uuid)
  | claim (workerId : String) (leaseDurationMs : Nat)
  | renew (jobId workerId : String) (fencingToken leaseDurationMs : Nat)
  | assertLease (jobId workerId : String) (fencingToken : Nat)
  | acknowledge (jobId workerId : String) (fencingToken : Nat)
  | release (jobId workerId : String) (availableAt : Int) (fencingToken : Nat)

/-- What the caller sees, up to the wording of an error. -/
inductive QueueReply where
  | rejected
  | enqueued (result : DocumentEnqueueResult)
  | claimed (job : Option DocumentProcessingJob)
  | renewed (job : DocumentProcessingJob)
  | accepted
deriving DecidableEq

/-- The reply of an outcome. -/
def QueueReply.of {α : Type} (reply : α → QueueReply) : Except String α → QueueReply
  | .error _ => .rejected
  | .ok a => reply a

/-- Make a call: the reply and the state of the queue after it. -/
def perform {Q : Type} [DocumentProcessingQueue Q] (q : Q) (now : Nat) :
    QueueOperation → QueueReply × Q
  | .enqueue documentId id correlationId =>
    let outcome := DocumentProcessingQueue.enqueue q now documentId id correlationId
    (.of .enqueued outcome.1, outcome.2)
  | .claim workerId leaseDurationMs =>
    let outcome := DocumentProcessingQueue.claim q now workerId leaseDurationMs
    (.of .claimed outcome.1, outcome.2)
  | .renew jobId workerId fencingToken leaseDurationMs =>
    let outcome := DocumentProcessingQueue.renew q now jobId workerId fencingToken leaseDurationMs
    (.of .renewed outcome.1, outcome.2)
  | .assertLease jobId workerId fencingToken =>
    (.of (fun _ => .accepted)
      (DocumentProcessingQueue.assertLease q now jobId workerId fencingToken), q)
  | .acknowledge jobId workerId fencingToken =>
    let outcome := DocumentProcessingQueue.acknowledge q now jobId workerId (some fencingToken)
    (.of (fun _ => .accepted) outcome.1, outcome.2)
  | .release jobId workerId availableAt fencingToken =>
    let outcome :=
      DocumentProcessingQueue.release q now jobId workerId availableAt (some fencingToken)
    (.of (fun _ => .accepted) outcome.1, outcome.2)

/-- The two queues, the clock they share and the ids that have been handed out. -/
structure BothQueues where
  now : Nat
  issued : List String
  onDisk : LocalDocumentProcessingQueue
  onRedis : RedisDocumentProcessingQueue

namespace BothQueues

/-- Two empty queues. -/
def start (now : Nat) : BothQueues :=
  ⟨now, [], LocalDocumentProcessingQueue.empty, RedisDocumentProcessingQueue.empty⟩

def StartedAt (now : Nat) (s : BothQueues) : Prop := s = start now

/-- The ids that a call hands out. -/
def newIds : QueueOperation → List String
  | .enqueue _ id _ => [id.val]
  | _ => []

/-- Make the same call on both. -/
def both (s : BothQueues) (operation : QueueOperation) : BothQueues where
  now := s.now
  issued := newIds operation ++ s.issued
  onDisk := (perform s.onDisk s.now operation).2
  onRedis := (perform s.onRedis s.now operation).2

/-- The clock moves on, or a call is made. -/
inductive Event where
  | tick (ms : Nat)
  | call (operation : QueueOperation)

def next (s : BothQueues) : Event → Option BothQueues
  | .tick ms => some { s with now := s.now + ms }
  | .call operation =>
    if ∃ id ∈ newIds operation, id ∈ s.issued then none else some (s.both operation)

abbrev step : BothQueues → Event → BothQueues → Prop := stepOf next

end BothQueues

/-! ## One job in both -/

/-- The stored job that a job hash stands for. -/
def RedisJob.toStored (job : RedisJob) : StoredDocumentProcessingJob where
  id := job.id
  documentId := job.documentId
  version := job.version
  correlationId := job.correlationId
  enqueuedAt := job.enqueuedAtMs
  availableAt := job.availableAtMs
  attempts := job.attempts
  fencingToken := job.fencingToken
  leaseExpiresAt := job.leaseExpiresAtMs
  state := job.state
  workerId := if job.workerId = "" then none else some job.workerId

/-- A job that both adapters can read: its segments are safe, its instants are
dates after the epoch and its counters are safe integers. -/
structure Readable (job : StoredDocumentProcessingJob) : Prop where
  id : isSafeDocumentSegment job.id = true
  documentId : isSafeDocumentSegment job.documentId = true
  correlationId : isSafeDocumentSegment job.correlationId = true
  version : job.version = 1
  enqueuedAt : job.enqueuedAt ≤ maxDate
  availableAt : 0 ≤ job.availableAt ∧ job.availableAt ≤ maxDate
  attempts : job.attempts ≤ maxSafeInteger
  fencingToken : job.fencingToken ≤ maxSafeInteger
  workerId : ∀ workerId, job.workerId = some workerId → isSafeDocumentSegment workerId = true
  leaseExpiresAt : ∀ deadline, job.leaseExpiresAt = some deadline → deadline ≤ maxDate

theorem isValidDate_natCast {ms : Nat} (h : ms ≤ maxDate) : isValidDate ms = true := by
  simp only [isValidDate, Bool.and_eq_true, decide_eq_true_eq]
  omega

theorem validateIfPresent_eq_ok {α : Type} {value : Option α} {check : α → Except String Unit}
    (h : ∀ a, value = some a → check a = .ok ()) :
    LocalDocumentProcessingQueue.validateIfPresent value check = .ok () := by
  cases value with
  | none => rfl
  | some a => exact h a rfl

theorem Readable.validate {job : StoredDocumentProcessingJob} (h : Readable job) :
    LocalDocumentProcessingQueue.validateStoredJob job = .ok () := by
  have havailable : isValidDate job.availableAt = true := by
    obtain ⟨hlow, hhigh⟩ := h.availableAt
    simp only [isValidDate, Bool.and_eq_true, decide_eq_true_eq]
    omega
  unfold LocalDocumentProcessingQueue.validateStoredJob
  refine bind_eq_ok.mpr ⟨(), assertSafeDocumentSegment_eq_ok.mpr h.id, ?_⟩
  refine bind_eq_ok.mpr ⟨(), assertSafeDocumentSegment_eq_ok.mpr h.documentId, ?_⟩
  refine bind_eq_ok.mpr ⟨(), assertSafeDocumentSegment_eq_ok.mpr h.correlationId, ?_⟩
  refine bind_eq_ok.mpr ⟨(), require_eq_ok.mpr h.version, ?_⟩
  refine bind_eq_ok.mpr ⟨(), parseDate_eq_ok.mpr (isValidDate_natCast h.enqueuedAt), ?_⟩
  refine bind_eq_ok.mpr ⟨(), parseDate_eq_ok.mpr havailable, ?_⟩
  refine bind_eq_ok.mpr ⟨(), require_eq_ok.mpr h.attempts, ?_⟩
  refine bind_eq_ok.mpr ⟨(), require_eq_ok.mpr h.fencingToken, ?_⟩
  refine bind_eq_ok.mpr ⟨(), validateIfPresent_eq_ok fun workerId hworker => ?_, ?_⟩
  · exact assertSafeDocumentSegment_eq_ok.mpr (h.workerId workerId hworker)
  · exact validateIfPresent_eq_ok fun deadline hdeadline =>
      parseDate_eq_ok.mpr (isValidDate_natCast (h.leaseExpiresAt deadline hdeadline))

theorem read_of_readable {q : LocalDocumentProcessingQueue} (h : ∀ job ∈ q.jobs, Readable job) :
    q.read = .ok q.jobs := by
  have hall : q.jobs.forM LocalDocumentProcessingQueue.validateStoredJob = .ok () :=
    forM_eq_ok.mpr fun job hmem => (h job hmem).validate
  simp only [LocalDocumentProcessingQueue.read, hall]

theorem asInteger_natCast {n : Nat} {field : String} (h : n ≤ maxSafeInteger) :
    asInteger n field = .ok n := by
  have hrange : (0 : Int) ≤ (n : Int) ∧ (n : Int) ≤ (maxSafeInteger : Int) := by omega
  simp [asInteger, hrange]

theorem isoFromMilliseconds_natCast {n : Nat} {field : String} (h : n ≤ maxDate) :
    isoFromMilliseconds n field = .ok n := by
  have hsafe : n ≤ maxSafeInteger := h.trans (by decide)
  exact bind_eq_ok.mpr ⟨n, asInteger_natCast hsafe, toISOString_of_le h⟩

/-- What the Redis client reads back is what the local adapter hands out. -/
theorem Readable.parse {fields : RedisJob} (h : Readable fields.toStored) :
    parseJob (some fields) =
      .ok (LocalDocumentProcessingQueue.toPublicJob fields.toStored) := by
  obtain ⟨available, havailable⟩ := Int.eq_ofNat_of_zero_le h.availableAt.1
  have hcast : fields.availableAtMs = (available : Int) := havailable
  have hdate : available ≤ maxDate := by
    have hhigh := h.availableAt.2
    rw [havailable] at hhigh
    exact_mod_cast hhigh
  have hlease : parseLease fields.leaseExpiresAtMs = .ok fields.leaseExpiresAtMs := by
    cases hdeadline : fields.leaseExpiresAtMs with
    | none => rfl
    | some deadline =>
        exact map_eq_ok.mpr
          ⟨deadline, isoFromMilliseconds_natCast (h.leaseExpiresAt deadline hdeadline), rfl⟩
  have hversion : fields.version ≤ maxSafeInteger :=
    (Nat.le_of_eq h.version).trans (by decide)
  unfold parseJob
  refine bind_eq_ok.mpr ⟨fields.version, asInteger_natCast hversion, ?_⟩
  refine bind_eq_ok.mpr ⟨(), require_eq_ok.mpr h.version, ?_⟩
  refine bind_eq_ok.mpr ⟨fields.enqueuedAtMs, isoFromMilliseconds_natCast h.enqueuedAt, ?_⟩
  refine bind_eq_ok.mpr ⟨available, ?_, ?_⟩
  · rw [hcast]
    exact isoFromMilliseconds_natCast hdate
  refine bind_eq_ok.mpr ⟨fields.attempts, asInteger_natCast h.attempts, ?_⟩
  refine bind_eq_ok.mpr ⟨fields.fencingToken, asInteger_natCast h.fencingToken, ?_⟩
  refine bind_eq_ok.mpr ⟨fields.leaseExpiresAtMs, hlease, ?_⟩
  refine bind_eq_ok.mpr ⟨(), assertSafeDocumentSegment_eq_ok.mpr h.id, ?_⟩
  refine bind_eq_ok.mpr ⟨(), assertSafeDocumentSegment_eq_ok.mpr h.documentId, ?_⟩
  refine bind_eq_ok.mpr ⟨(), assertSafeDocumentSegment_eq_ok.mpr h.correlationId, ?_⟩
  rw [← hcast]
  rfl

/-- The two adapters' tests on the holder of a lease agree. -/
theorem ownsLease_toStored {fields : RedisJob} {now : Nat} {workerId : String}
    {fencingToken : Nat} (hworker : isSafeDocumentSegment workerId = true) :
    Keyspace.ownsLease fields now workerId fencingToken =
      (LocalDocumentProcessingQueue.isClaimOwner fields.toStored workerId fencingToken &&
        LocalDocumentProcessingQueue.leaseRuns fields.toStored now) := by
  have hsame : (fields.workerId == workerId) = (fields.toStored.workerId == some workerId) := by
    by_cases hempty : fields.workerId = ""
    · have hne : ("" : String) ≠ workerId := fun h => ne_empty_of_safe hworker h.symm
      simp [RedisJob.toStored, hempty, hne]
    · simp [RedisJob.toStored, hempty]
  have hlease : fields.leaseExpiresAtMs.any (fun deadline => decide (now < deadline)) =
      LocalDocumentProcessingQueue.leaseRuns fields.toStored now := by
    unfold LocalDocumentProcessingQueue.leaseRuns
    cases hdeadline : fields.leaseExpiresAtMs with
    | none => simp [RedisJob.toStored, hdeadline]
    | some deadline => simp [RedisJob.toStored, hdeadline]
  unfold Keyspace.ownsLease LocalDocumentProcessingQueue.isClaimOwner
  rw [hsame, hlease]
  rfl

/-! ## The simulation relation -/

/-- The two queues hold the same jobs, all of them readable. -/
structure Alike (s : BothQueues) : Prop where
  onDisk : s.onDisk.Valid s.issued
  onRedis : s.onRedis.keyspace.Indexed s.issued
  same : ∀ id, LocalDocumentProcessingQueue.findJob id s.onDisk.jobs =
    (s.onRedis.keyspace.job.lookup id).map RedisJob.toStored
  readable : ∀ job ∈ s.onDisk.jobs, Readable job
  started : ∀ job ∈ s.onDisk.jobs, job.state = .claimed → job.availableAt ≤ s.now

section Relation

open LocalDocumentProcessingQueue (findJob setJob)

variable {s : BothQueues}

theorem Alike.read (h : Alike s) : s.onDisk.read = .ok s.onDisk.jobs :=
  read_of_readable h.readable

theorem Alike.find_of_lookup (h : Alike s) {id : String} {fields : RedisJob}
    (hfields : s.onRedis.keyspace.job.lookup id = some fields) :
    findJob id s.onDisk.jobs = some fields.toStored := by
  rw [h.same id, hfields]
  rfl

theorem Alike.lookup_of_find (h : Alike s) {id : String} {job : StoredDocumentProcessingJob}
    (hjob : findJob id s.onDisk.jobs = some job) :
    ∃ fields, s.onRedis.keyspace.job.lookup id = some fields ∧ fields.toStored = job := by
  rw [h.same id] at hjob
  exact Option.map_eq_some_iff.mp hjob

theorem mem_of_findJob {id : String} {jobs : List StoredDocumentProcessingJob}
    {job : StoredDocumentProcessingJob} (h : findJob id jobs = some job) : job ∈ jobs :=
  (KeyedList.find_eq_some h).1

/-- Write one job in both queues. -/
theorem Alike.write (h : Alike s) {id : String} {fields fields' : RedisJob}
    {onDisk : LocalDocumentProcessingQueue} {onRedis : RedisDocumentProcessingQueue}
    (hfields : s.onRedis.keyspace.job.lookup id = some fields) (hid : fields'.id = id)
    (hjobs : onDisk.jobs = setJob s.onDisk.jobs fields'.toStored)
    (htable : onRedis.keyspace.job = s.onRedis.keyspace.job.insert id fields')
    (hvalid : onDisk.Valid s.issued) (hind : onRedis.keyspace.Indexed s.issued)
    (hread : Readable fields'.toStored)
    (hstarted : fields'.state = .claimed → fields'.availableAtMs ≤ s.now) :
    Alike { s with onDisk := onDisk, onRedis := onRedis } := by
  subst hid
  have hold : KeyedList.find StoredDocumentProcessingJob.id fields'.toStored.id s.onDisk.jobs =
      some fields.toStored := h.find_of_lookup hfields
  have hmem : ∀ job ∈ onDisk.jobs, job = fields'.toStored ∨ job ∈ s.onDisk.jobs := by
    intro job hjob
    rw [hjobs] at hjob
    exact (KeyedList.mem_put hjob).imp_right And.left
  refine ⟨hvalid, hind, fun n => ?_, fun job hjob => ?_, fun job hjob hclaimed => ?_⟩
  · have hput := KeyedList.find_put (k := n) hold
    change findJob n onDisk.jobs = (onRedis.keyspace.job.lookup n).map RedisJob.toStored
    rw [hjobs, htable, Table.lookup_insert]
    refine hput.trans ?_
    by_cases hn : n = fields'.id
    · simp [hn, RedisJob.toStored]
    · have hne : ¬n = fields'.toStored.id := hn
      rw [if_neg hn, if_neg hne]
      exact h.same n
  · rcases hmem job hjob with rfl | hold
    · exact hread
    · exact h.readable job hold
  · rcases hmem job hjob with rfl | hold
    · exact hstarted hclaimed
    · exact h.started job hold hclaimed

theorem Alike.tick (h : Alike s) (ms : Nat) : Alike { s with now := s.now + ms } :=
  ⟨h.onDisk, h.onRedis, h.same, h.readable, fun job hjob hclaimed => by
    have hold := h.started job hjob hclaimed
    change job.availableAt ≤ ((s.now + ms : Nat) : Int)
    push_cast
    omega⟩

end Relation

end AvantimePlatform.Queue
