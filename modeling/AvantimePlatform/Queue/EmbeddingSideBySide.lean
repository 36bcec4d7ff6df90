import AvantimePlatform.Lib.Transition
import AvantimePlatform.Queue.EmbeddingQueues

/-!
# The local and the PostgreSQL embedding queue side by side

One caller makes the same calls, with the same ids and the same clock, on both queues.
This module has the calls, the two queues as one system, what makes a call `Comparable`,
and the relation `Alike`: the two hold the same jobs in the same order, each of them sound.

What is not comparable: the acknowledge of a job that is gone, which the local queue
accepts, an acknowledge or release by the owner after the deadline, which it accepts too,
a document that the database does not know, a tie in `createdAt` that the database
breaks another way, and dates and counters beyond what one side can hold.
-/

namespace AvantimePlatform.Queue

open AvantimePlatform.Documents AvantimePlatform.Checked AvantimePlatform.Transition
open LocalDocumentProcessingQueue (findJob setJob isClaimOwner leaseRuns isClaimable nextClaimable
  toPublicJob)

/-! ## The calls -/

/-- A call behind `EmbeddingJobQueue`, with an explicit fencing token.  A claim carries the
row that the database would pick. -/
inductive EmbeddingOperation where
  | enqueue (documentId : String) (id correlationId : Uuid)
  | claim (workerId : String) (leaseDurationMs : Nat) (pick : Option String)
  | renew (jobId workerId : String) (fencingToken leaseDurationMs : Nat)
  | assertLease (jobId workerId : String) (fencingToken : Nat)
  | acknowledge (jobId workerId : String) (fencingToken : Nat)
  | release (jobId workerId : String) (availableAt : Int) (fencingToken : Nat)
  | removeForDocument (documentId : String)

/-- What the caller sees, up to the wording of an error. -/
inductive EmbeddingReply where
  | rejected
  | enqueued (result : DocumentEnqueueResult)
  | claimed (job : Option DocumentProcessingJob)
  | renewed (job : DocumentProcessingJob)
  | accepted
deriving DecidableEq

/-- The reply of an outcome. -/
def EmbeddingReply.of {α : Type} (reply : α → EmbeddingReply) : Except String α → EmbeddingReply
  | .error _ => .rejected
  | .ok a => reply a

/-- A call of the local queue that leaves the file alone when it throws. -/
def LocalEmbeddingJobQueue.reply {α : Type} (q : LocalEmbeddingJobQueue)
    (reply : α → EmbeddingReply) :
    Except String (α × LocalEmbeddingJobQueue) → EmbeddingReply × LocalEmbeddingJobQueue
  | .error _ => (.rejected, q)
  | .ok (a, q') => (reply a, q')

/-- Make a call on the local queue. -/
def LocalEmbeddingJobQueue.perform (q : LocalEmbeddingJobQueue) (now : Nat) :
    EmbeddingOperation → EmbeddingReply × LocalEmbeddingJobQueue
  | .enqueue documentId id correlationId =>
    q.reply .enqueued (q.enqueue now documentId id correlationId)
  | .claim workerId leaseDurationMs _ => q.reply .claimed (q.claim now workerId leaseDurationMs)
  | .renew jobId workerId fencingToken leaseDurationMs =>
    q.reply .renewed (q.renew now jobId workerId fencingToken leaseDurationMs)
  | .assertLease jobId workerId fencingToken =>
    (.of (fun _ => .accepted) (q.assertLease now jobId workerId fencingToken), q)
  | .acknowledge jobId workerId fencingToken =>
    q.reply (fun _ => .accepted) (((), ·) <$> q.acknowledge jobId workerId fencingToken)
  | .release jobId workerId availableAt fencingToken =>
    q.reply (fun _ => .accepted) (((), ·) <$> q.release jobId workerId availableAt fencingToken)
  | .removeForDocument documentId =>
    q.reply (fun _ => .accepted) (((), ·) <$> q.removeForDocument documentId)

/-- A statement that changes nothing when it fails. -/
def PostgreSQLEmbeddingJobQueue.reply (q : PostgreSQLEmbeddingJobQueue) :
    Except String PostgreSQLEmbeddingJobQueue → EmbeddingReply × PostgreSQLEmbeddingJobQueue
  | .error _ => (.rejected, q)
  | .ok q' => (.accepted, q')

/-- Make a call on the PostgreSQL queue. -/
def PostgreSQLEmbeddingJobQueue.perform (bindable : Int → Bool) (q : PostgreSQLEmbeddingJobQueue)
    (now : Nat) : EmbeddingOperation → EmbeddingReply × PostgreSQLEmbeddingJobQueue
  | .enqueue documentId id correlationId =>
    let outcome := q.enqueue now documentId id correlationId
    (.of .enqueued outcome.1, outcome.2)
  | .claim workerId leaseDurationMs pick =>
    let outcome := claim bindable q now workerId leaseDurationMs pick
    (.of .claimed outcome.1, outcome.2)
  | .renew jobId workerId fencingToken leaseDurationMs =>
    let outcome := q.renew now jobId workerId fencingToken leaseDurationMs
    (.of .renewed outcome.1, outcome.2)
  | .assertLease jobId workerId fencingToken =>
    (.of (fun _ => .accepted) (q.assertLease now jobId workerId fencingToken), q)
  | .acknowledge jobId workerId fencingToken =>
    q.reply (q.acknowledge now jobId workerId fencingToken)
  | .release jobId workerId availableAt fencingToken =>
    q.reply (release bindable q now jobId workerId availableAt fencingToken)
  | .removeForDocument documentId => (.accepted, q.removeForDocument documentId)

/-- The stored job that a row stands for. -/
def DocumentEmbeddingJobRow.toStored (row : DocumentEmbeddingJobRow) :
    StoredDocumentProcessingJob where
  id := row.id
  documentId := row.documentId
  version := 1
  correlationId := row.correlationId
  enqueuedAt := row.createdAt
  availableAt := row.availableAt
  attempts := row.attempts
  fencingToken := row.fencingToken
  leaseExpiresAt := row.leaseUntil
  state := match row.status with
    | .queued => .queued
    | .processing => .claimed
  workerId := row.leaseOwner

/-- The two queues, the clock they share and the ids that have been handed out. -/
structure BothEmbeddingQueues where
  now : Nat
  issued : List String
  onDisk : LocalEmbeddingJobQueue
  onPostgres : PostgreSQLEmbeddingJobQueue

namespace BothEmbeddingQueues

/-- Two empty queues, for a tenant with these documents. -/
def start (documents : List String) (now : Nat) : BothEmbeddingQueues :=
  ⟨now, [], .empty, .empty documents⟩

/-- The ids that a call hands out. -/
def newIds : EmbeddingOperation → List String
  | .enqueue _ id _ => [id.val]
  | _ => []

/-- The database can pick what the claim says. -/
def PicksReadyRow (s : BothEmbeddingQueues) : EmbeddingOperation → Prop
  | .claim _ _ pick => s.onPostgres.CanPick s.now pick
  | _ => True

instance (s : BothEmbeddingQueues) (operation : EmbeddingOperation) :
    Decidable (s.PicksReadyRow operation) :=
  match operation with
  | .claim _ _ pick => inferInstanceAs (Decidable (s.onPostgres.CanPick s.now pick))
  | .enqueue _ _ _ | .renew _ _ _ _ | .assertLease _ _ _ | .acknowledge _ _ _
  | .release _ _ _ _ | .removeForDocument _ => inferInstanceAs (Decidable True)

variable (bindable : Int → Bool)

/-- Make the same call on both. -/
def both (s : BothEmbeddingQueues) (operation : EmbeddingOperation) : BothEmbeddingQueues where
  now := s.now
  issued := newIds operation ++ s.issued
  onDisk := (s.onDisk.perform s.now operation).2
  onPostgres := (s.onPostgres.perform bindable s.now operation).2

/-- The clock moves on, or a call is made. -/
inductive Event where
  | tick (ms : Nat)
  | call (operation : EmbeddingOperation)

/-- The clock shows a date, an id is handed out once, and the database picks a row that it
can pick. -/
def next (s : BothEmbeddingQueues) : Event → Option BothEmbeddingQueues
  | .tick ms => if s.now + ms ≤ maxDate then some { s with now := s.now + ms } else none
  | .call operation =>
    if (∀ id ∈ newIds operation, id ∉ s.issued) ∧ s.PicksReadyRow operation then
      some (s.both bindable operation)
    else none

abbrev step : BothEmbeddingQueues → Event → BothEmbeddingQueues → Prop := stepOf (next bindable)

/-- Both queues hold the same jobs. -/
def HoldSame (s : BothEmbeddingQueues) : Prop :=
  ∀ id, findJob id s.onDisk.jobs =
    (s.onPostgres.findRow id).map DocumentEmbeddingJobRow.toStored

/-- Both queues answer the call alike, and hold the same jobs after it. -/
def SameAnswer (s : BothEmbeddingQueues) : Event → BothEmbeddingQueues → Prop
  | .tick _, _ => True
  | .call operation, s' =>
    (s.onDisk.perform s.now operation).1 = (s.onPostgres.perform bindable s.now operation).1 ∧
      s'.HoldSame

/-- The job is claimed by this worker under this token, and its lease has run out. -/
def IsLate (s : BothEmbeddingQueues) (jobId workerId : String) (fencingToken : Nat) : Prop :=
  ∃ job, findJob jobId s.onDisk.jobs = some job ∧
    isClaimOwner job workerId fencingToken = true ∧ leaseRuns job s.now = false

/-- The job is claimed by this worker under this token, and its lease runs. -/
def IsHeld (s : BothEmbeddingQueues) (jobId workerId : String) (fencingToken : Nat) : Prop :=
  ∃ job, findJob jobId s.onDisk.jobs = some job ∧
    isClaimOwner job workerId fencingToken = true ∧ leaseRuns job s.now = true

/-- The calls that both queues treat alike. -/
def Comparable (s : BothEmbeddingQueues) : EmbeddingOperation → Prop
  -- The database knows the document, unless it has a job already.
  | .enqueue documentId _ _ =>
    isSafeDocumentSegment documentId = true →
      documentId ∈ s.onPostgres.documents ∨
        ∃ job ∈ s.onDisk.jobs, job.documentId = documentId
  -- The database takes the oldest job that was enqueued first, the deadline is a date that
  -- it takes as well, and the counters fit into their columns.
  | .claim workerId leaseDurationMs pick =>
    isSafeDocumentSegment workerId = true → isPositiveSafeInteger leaseDurationMs = true →
      match nextClaimable s.now s.onDisk.jobs with
      | none =>
        s.now + leaseDurationMs ≤ maxDate ∧ bindable s.now = true ∧
          bindable (s.now + leaseDurationMs) = true
      | some job =>
        s.now + leaseDurationMs ≤ maxDate →
          pick = some job.id ∧ bindable s.now = true ∧
            bindable (s.now + leaseDurationMs) = true ∧
            job.attempts < maxInteger ∧ job.fencingToken < maxInteger
  | .renew jobId workerId fencingToken leaseDurationMs =>
    isPositiveSafeInteger leaseDurationMs = true → s.IsHeld jobId workerId fencingToken →
      s.now + leaseDurationMs ≤ maxDate
  | .assertLease _ _ _ => True
  -- The job is there, and its owner comes in time.
  | .acknowledge jobId workerId fencingToken =>
    assertEmbeddingLeaseArguments jobId workerId fencingToken = .ok () →
      (∃ job, findJob jobId s.onDisk.jobs = some job) ∧ ¬s.IsLate jobId workerId fencingToken
  | .release jobId workerId availableAt fencingToken =>
    isValidDate availableAt = true →
      ¬s.IsLate jobId workerId fencingToken ∧
        (s.IsHeld jobId workerId fencingToken → bindable availableAt = true)
  | .removeForDocument _ => True

/-- The calls of a run are comparable. -/
def CallsComparable (s : BothEmbeddingQueues) : Event → Prop
  | .tick _ => True
  | .call operation => s.Comparable bindable operation

/-! ## The invariant -/

/-- A job that both queues can read and hand out. -/
structure JobSound (job : StoredDocumentProcessingJob) : Prop where
  id : isSafeDocumentSegment job.id = true
  documentId : isSafeDocumentSegment job.documentId = true
  correlationId : isSafeDocumentSegment job.correlationId = true
  version : job.version = 1
  enqueuedAt : job.enqueuedAt ≤ maxDate
  availableAt : isValidDate job.availableAt = true
  attempts : job.attempts ≤ maxInteger
  fencingToken : job.fencingToken ≤ maxInteger
  workerId : ∀ workerId, job.workerId = some workerId → isSafeDocumentSegment workerId = true
  leaseExpiresAt : ∀ deadline, job.leaseExpiresAt = some deadline → deadline ≤ maxDate
  claimed : job.state = .claimed → 0 < job.fencingToken

/-- The queues hold the same sound jobs in the same order. -/
structure Alike (s : BothEmbeddingQueues) : Prop where
  clock : s.now ≤ maxDate
  same : s.onDisk.jobs = s.onPostgres.rows.map DocumentEmbeddingJobRow.toStored
  sound : ∀ job ∈ s.onDisk.jobs, JobSound job
  distinct : KeyedList.Distinct DocumentEmbeddingJobRow.id s.onPostgres.rows
  named : ∀ row ∈ s.onPostgres.rows, row.id ∈ s.issued

theorem alike_start (documents : List String) {now : Nat} (h : now ≤ maxDate) :
    Alike (start documents now) where
  clock := h
  same := rfl
  sound := by simp [start, LocalEmbeddingJobQueue.empty]
  distinct := List.nodup_nil
  named := by simp [start, PostgreSQLEmbeddingJobQueue.empty]

variable {bindable} {s s' : BothEmbeddingQueues}

theorem isValidDate_of_le {ms : Nat} (h : ms ≤ maxDate) : isValidDate ms = true := by
  simp only [isValidDate, Bool.and_eq_true, decide_eq_true_eq]
  omega

theorem validateIfPresent_eq_ok_of {α : Type} {value : Option α} {check : α → Except String Unit}
    (h : ∀ a, value = some a → check a = .ok ()) :
    LocalDocumentProcessingQueue.validateIfPresent value check = .ok () := by
  cases value with
  | none => rfl
  | some a => exact h a rfl

theorem JobSound.validate {job : StoredDocumentProcessingJob} (h : JobSound job) :
    LocalEmbeddingJobQueue.validateStoredJob job = .ok () := by
  have hinteger : maxInteger ≤ maxSafeInteger := by decide
  unfold LocalEmbeddingJobQueue.validateStoredJob
  refine seq_eq_ok.mpr ⟨assertSafeDocumentSegment_eq_ok.mpr h.id, ?_⟩
  refine seq_eq_ok.mpr ⟨assertSafeDocumentSegment_eq_ok.mpr h.documentId, ?_⟩
  refine seq_eq_ok.mpr ⟨assertSafeDocumentSegment_eq_ok.mpr h.correlationId, ?_⟩
  refine seq_eq_ok.mpr ⟨require_eq_ok.mpr h.version, ?_⟩
  refine seq_eq_ok.mpr ⟨parseDate_eq_ok.mpr (isValidDate_of_le h.enqueuedAt), ?_⟩
  refine seq_eq_ok.mpr ⟨parseDate_eq_ok.mpr h.availableAt, ?_⟩
  refine seq_eq_ok.mpr ⟨require_eq_ok.mpr (h.attempts.trans hinteger), ?_⟩
  refine seq_eq_ok.mpr ⟨require_eq_ok.mpr (h.fencingToken.trans hinteger), ?_⟩
  refine seq_eq_ok.mpr ⟨validateIfPresent_eq_ok_of fun workerId hworker => ?_, ?_⟩
  · exact assertSafeDocumentSegment_eq_ok.mpr (h.workerId workerId hworker)
  · exact validateIfPresent_eq_ok_of fun deadline hdeadline =>
      parseDate_eq_ok.mpr (isValidDate_of_le (h.leaseExpiresAt deadline hdeadline))

theorem Alike.read (h : Alike s) : s.onDisk.read = .ok s.onDisk.jobs := by
  have hall : s.onDisk.jobs.forM LocalEmbeddingJobQueue.validateStoredJob = .ok () :=
    forM_eq_ok.mpr fun job hmem => (h.sound job hmem).validate
  simp only [LocalEmbeddingJobQueue.read, hall]

/-- What the database client hands out is what the local queue hands out. -/
theorem mapDatabaseJob_of_sound {row : DocumentEmbeddingJobRow} (h : JobSound row.toStored) :
    mapDatabaseJob row = .ok (toPublicJob row.toStored) := by
  unfold mapDatabaseJob
  refine seq_eq_ok.mpr ⟨validateIfPresent_eq_ok_of fun deadline hdeadline => ?_, ?_⟩
  · exact require_eq_ok.mpr (isValidDate_of_le (h.leaseExpiresAt deadline hdeadline))
  refine seq_eq_ok.mpr ⟨require_eq_ok.mpr h.availableAt, ?_⟩
  exact seq_eq_ok.mpr ⟨require_eq_ok.mpr (isValidDate_of_le h.enqueuedAt), rfl⟩

theorem find_map_toStored {Key : Type} [DecidableEq Key]
    (key : StoredDocumentProcessingJob → Key) (k : Key) (rows : List DocumentEmbeddingJobRow) :
    KeyedList.find key k (rows.map DocumentEmbeddingJobRow.toStored) =
      (KeyedList.find (fun row => key row.toStored) k rows).map DocumentEmbeddingJobRow.toStored := by
  unfold KeyedList.find
  rw [List.find?_map]
  rfl

theorem Alike.find (h : Alike s) (jobId : String) :
    findJob jobId s.onDisk.jobs =
      (s.onPostgres.findRow jobId).map DocumentEmbeddingJobRow.toStored := by
  rw [h.same]
  exact find_map_toStored StoredDocumentProcessingJob.id jobId s.onPostgres.rows

theorem Alike.holdSame (h : Alike s) : s.HoldSame := h.find

theorem Alike.find_of_row (h : Alike s) {jobId : String} {row : DocumentEmbeddingJobRow}
    (hrow : s.onPostgres.findRow jobId = some row) :
    findJob jobId s.onDisk.jobs = some row.toStored := by
  rw [h.find, hrow]
  rfl

theorem Alike.sound_of_row (h : Alike s) {jobId : String} {row : DocumentEmbeddingJobRow}
    (hrow : s.onPostgres.findRow jobId = some row) : JobSound row.toStored :=
  h.sound _ (KeyedList.find_eq_some (h.find_of_row hrow)).1

/-- Write one row back, in both queues. -/
theorem Alike.write (h : Alike s) (row : DocumentEmbeddingJobRow) {old : DocumentEmbeddingJobRow}
    (hold : s.onPostgres.findRow row.id = some old) (hsound : JobSound row.toStored) :
    Alike { s with
      onDisk := ⟨setJob s.onDisk.jobs row.toStored⟩, onPostgres := s.onPostgres.setRow row } where
  clock := h.clock
  same := by
    show setJob s.onDisk.jobs row.toStored = _
    rw [h.same]
    show (s.onPostgres.rows.map _).map _ = (s.onPostgres.rows.map _).map _
    rw [List.map_map, List.map_map]
    refine List.map_congr_left fun other _ => ?_
    show (if other.id = row.id then row.toStored else other.toStored) =
      (if other.id = row.id then row else other).toStored
    split
    · rfl
    · rfl
  sound := by
    intro job hjob
    rcases KeyedList.mem_put hjob with rfl | ⟨hmem, -⟩
    · exact hsound
    · exact h.sound job hmem
  distinct := KeyedList.distinct_put h.distinct
  named := by
    intro other hother
    rcases KeyedList.mem_put hother with rfl | ⟨hmem, -⟩
    · rw [← (KeyedList.find_eq_some hold).2]
      exact h.named old (KeyedList.find_eq_some hold).1
    · exact h.named other hmem

/-! ## Who holds a lease -/

theorem isHeld_eq (row : DocumentEmbeddingJobRow) (now : Nat) (workerId : String)
    (fencingToken : Nat) :
    PostgreSQLEmbeddingJobQueue.isHeld row now workerId fencingToken =
      (isClaimOwner row.toStored workerId fencingToken && leaseRuns row.toStored now) := by
  unfold PostgreSQLEmbeddingJobQueue.isHeld isClaimOwner leaseRuns
  have hstatus : (row.status == .processing) = (row.toStored.state == .claimed) := by
    unfold DocumentEmbeddingJobRow.toStored
    cases row.status with
    | queued => rfl
    | processing => rfl
  rw [hstatus]
  cases hlease : row.leaseUntil with
  | none => simp [DocumentEmbeddingJobRow.toStored, hlease]
  | some deadline => simp [DocumentEmbeddingJobRow.toStored, hlease]

/-- The held row at an id that has a row. -/
theorem heldRow_of_row {row : DocumentEmbeddingJobRow} {jobId : String}
    (hrow : s.onPostgres.findRow jobId = some row) (workerId : String) (fencingToken : Nat)
    (message : String) :
    s.onPostgres.heldRow s.now jobId workerId fencingToken message =
      if isClaimOwner row.toStored workerId fencingToken && leaseRuns row.toStored s.now then
        .ok row
      else .error message := by
  unfold PostgreSQLEmbeddingJobQueue.heldRow
  rw [hrow, Option.filter_some, isHeld_eq]
  split
  · next hnone =>
    split at hnone
    · cases hnone
    · next hno => rw [if_neg hno]
  · next hsome =>
    split at hsome
    · next hyes => rw [if_pos hyes, Option.some.inj hsome]
    · cases hsome

/-- What the two queues find at an id: the job that the worker holds, its job with a lease
that has run out, or nothing that is the worker's. -/
inductive Finds (s : BothEmbeddingQueues) (jobId workerId : String) (fencingToken : Nat)
    (message : String) : Prop where
  | held (row : DocumentEmbeddingJobRow) (hrow : s.onPostgres.findRow jobId = some row)
      (hargs : assertEmbeddingLeaseArguments jobId workerId fencingToken = .ok ())
      (howned : LocalEmbeddingJobQueue.ownedJob s.onDisk.jobs jobId workerId fencingToken =
        .ok row.toStored)
      (hruns : leaseRuns row.toStored s.now = true)
      (hheld : s.onPostgres.heldRow s.now jobId workerId fencingToken message = .ok row)
  | late (row : DocumentEmbeddingJobRow) (hrow : s.onPostgres.findRow jobId = some row)
      (hargs : assertEmbeddingLeaseArguments jobId workerId fencingToken = .ok ())
      (howned : LocalEmbeddingJobQueue.ownedJob s.onDisk.jobs jobId workerId fencingToken =
        .ok row.toStored)
      (hruns : leaseRuns row.toStored s.now = false)
      (hheld : s.onPostgres.heldRow s.now jobId workerId fencingToken message = .error message)
  | unowned (e : String)
      (howned : LocalEmbeddingJobQueue.ownedJob s.onDisk.jobs jobId workerId fencingToken =
        .error e)
      (hheld : s.onPostgres.heldRow s.now jobId workerId fencingToken message = .error message)

theorem assertEmbeddingLeaseArguments_of_owner {job : StoredDocumentProcessingJob}
    {workerId : String} {fencingToken : Nat} (hsound : JobSound job)
    (howner : isClaimOwner job workerId fencingToken = true) :
    assertEmbeddingLeaseArguments job.id workerId fencingToken = .ok () := by
  simp only [isClaimOwner, Bool.and_eq_true, beq_iff_eq] at howner
  obtain ⟨⟨hstate, hworker⟩, htoken⟩ := howner
  have hpos := hsound.claimed hstate
  have hsafe : maxInteger ≤ maxSafeInteger := by decide
  unfold assertEmbeddingLeaseArguments
  refine seq_eq_ok.mpr ⟨assertSafeDocumentSegment_eq_ok.mpr hsound.id, ?_⟩
  refine seq_eq_ok.mpr ⟨assertSafeDocumentSegment_eq_ok.mpr (hsound.workerId _ hworker), ?_⟩
  refine require_eq_ok.mpr ?_
  rw [← htoken]
  simp only [isPositiveSafeInteger, Bool.and_eq_true, decide_eq_true_eq]
  exact ⟨hpos, hsound.fencingToken.trans hsafe⟩

theorem Alike.finds (h : Alike s) (jobId workerId : String) (fencingToken : Nat)
    (message : String) : Finds s jobId workerId fencingToken message := by
  cases hrow : s.onPostgres.findRow jobId with
  | none =>
      have hnone : findJob jobId s.onDisk.jobs = none := by
        rw [h.find, hrow]
        rfl
      refine .unowned "Embedding job was not found." ?_ ?_
      · simp only [LocalEmbeddingJobQueue.ownedJob, hnone]
      · simp [PostgreSQLEmbeddingJobQueue.heldRow, hrow]
  | some row =>
      have hfind := h.find_of_row hrow
      have hid : row.toStored.id = jobId := (KeyedList.find_eq_some hrow).2
      cases howner : isClaimOwner row.toStored workerId fencingToken with
      | false =>
          refine .unowned "Embedding job is not claimed by this worker." ?_ ?_
          · simp [LocalEmbeddingJobQueue.ownedJob, hfind, howner]
          · rw [heldRow_of_row hrow, howner]
            rfl
      | true =>
          have hargs := assertEmbeddingLeaseArguments_of_owner (h.sound_of_row hrow) howner
          rw [hid] at hargs
          have howned : LocalEmbeddingJobQueue.ownedJob s.onDisk.jobs jobId workerId fencingToken =
              .ok row.toStored := by
            simp [LocalEmbeddingJobQueue.ownedJob, hfind, howner]
          cases hruns : leaseRuns row.toStored s.now with
          | true =>
              refine .held row hrow hargs howned hruns ?_
              rw [heldRow_of_row hrow, howner, hruns]
              rfl
          | false =>
              refine .late row hrow hargs howned hruns ?_
              rw [heldRow_of_row hrow, howner, hruns]
              rfl

end BothEmbeddingQueues

end AvantimePlatform.Queue
