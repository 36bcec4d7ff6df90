import AvantimePlatform.Queue.SideBySide

/-!
# The two queues are interchangeable

Every operation keeps `Alike` and gets the same reply from the local and from the
Redis queue, under the condition `Comparable` on the state before it.  The
condition is where the two adapters are of different design.

* A claim takes the oldest claimable job in one and the job whose lease ran out
  first, or which became available first, in the other.  The two have the same
  claimable jobs, so a claim finds a job in both or in neither, and they take the
  same one when there is one to choose from.
* To acknowledge a job that is gone is accepted by one and refused by the other.
* The owner of an expired lease may still acknowledge and release in one.
* The one computes the new deadline before it writes, the other after, which
  matters outside the range of dates.
-/

namespace AvantimePlatform.Queue

open AvantimePlatform.Documents AvantimePlatform.Transition

section Relation

open LocalDocumentProcessingQueue (findJob setJob isClaimOwner leaseRuns isClaimable nextClaimable
  toPublicJob)

variable {s : BothQueues}

/-! ## The operations -/

/-- Both queues give the same reply to a call, and are alike after it. -/
def Agrees (s : BothQueues) (operation : QueueOperation) : Prop :=
  (perform s.onDisk s.now operation).1 = (perform s.onRedis s.now operation).1 ∧
    Alike (s.both operation)

/-- A call keeps the invariant of a lawful adapter. -/
theorem perform_valid {Q : Type} [LawfulDocumentProcessingQueue Q] (q : Q) {issued : List String}
    (now : Nat) (operation : QueueOperation)
    (h : LawfulDocumentProcessingQueue.Valid q issued)
    (hnew : ∀ id ∈ BothQueues.newIds operation, id ∉ issued) :
    LawfulDocumentProcessingQueue.Valid (perform q now operation).2
      (BothQueues.newIds operation ++ issued) := by
  cases operation with
  | enqueue documentId id correlationId =>
      exact (LawfulDocumentProcessingQueue.enqueue_law now documentId id correlationId h
        (hnew id.val List.mem_cons_self)).1
  | claim workerId leaseDurationMs =>
      exact (LawfulDocumentProcessingQueue.claim_law now workerId leaseDurationMs h).1
  | renew jobId workerId fencingToken leaseDurationMs =>
      exact (LawfulDocumentProcessingQueue.renew_law now jobId workerId fencingToken
        leaseDurationMs h).1
  | assertLease jobId workerId fencingToken => exact h
  | acknowledge jobId workerId fencingToken =>
      exact (LawfulDocumentProcessingQueue.acknowledge_law now jobId workerId (some fencingToken)
        h).1
  | release jobId workerId availableAt fencingToken =>
      exact (LawfulDocumentProcessingQueue.release_law now jobId workerId availableAt
        (some fencingToken) h).1

/-- A call that both queues answer alike and that changes neither. -/
theorem Alike.agrees_of_unchanged (h : Alike s) {operation : QueueOperation} (reply : QueueReply)
    (hnew : ∀ id ∈ BothQueues.newIds operation, id ∉ s.issued)
    (hdisk : perform s.onDisk s.now operation = (reply, s.onDisk))
    (hredis : perform s.onRedis s.now operation = (reply, s.onRedis)) : Agrees s operation := by
  have hvalid := perform_valid s.onDisk s.now operation h.onDisk hnew
  have hind := perform_valid s.onRedis s.now operation h.onRedis hnew
  refine ⟨by rw [hdisk, hredis], hvalid, hind, ?_, ?_, ?_⟩
  all_goals simp only [BothQueues.both, hdisk, hredis]
  · exact h.same
  · exact h.readable
  · exact h.started

/-- A call that both queues answer alike and that writes one job in each. -/
theorem Alike.agrees_of_write (h : Alike s) {operation : QueueOperation} {reply : QueueReply}
    {id : String} {fields : RedisJob} (fields' : RedisJob)
    {onDisk : LocalDocumentProcessingQueue} {onRedis : RedisDocumentProcessingQueue}
    (hnew : BothQueues.newIds operation = [])
    (hdisk : perform s.onDisk s.now operation = (reply, onDisk))
    (hredis : perform s.onRedis s.now operation = (reply, onRedis))
    (hfields : s.onRedis.keyspace.job.lookup id = some fields) (hid : fields'.id = id)
    (hjobs : onDisk.jobs = setJob s.onDisk.jobs fields'.toStored)
    (htable : onRedis.keyspace.job = s.onRedis.keyspace.job.insert id fields')
    (hread : Readable fields'.toStored)
    (hstarted : fields'.state = .claimed → fields'.availableAtMs ≤ s.now) :
    Agrees s operation := by
  have hvalid := perform_valid s.onDisk s.now operation h.onDisk (by simp [hnew])
  have hind := perform_valid s.onRedis s.now operation h.onRedis (by simp [hnew])
  rw [hnew, hdisk] at hvalid
  rw [hnew, hredis] at hind
  have hwrite := h.write hfields hid hjobs htable hvalid hind hread hstarted
  refine ⟨by rw [hdisk, hredis], ?_⟩
  simp only [BothQueues.both, hdisk, hredis, hnew]
  exact hwrite

/-- The job that both queues file for a document without one. -/
theorem Alike.enqueue_new (h : Alike s) {documentId : String} {id : Uuid} (correlationId : Uuid)
    (hid : id.val ∉ s.issued) (hnow : s.now ≤ maxDate)
    (hsafe : assertSafeDocumentSegment documentId "document id" = .ok ())
    (hmap : s.onRedis.keyspace.documents.lookup documentId = none) :
    Agrees s (.enqueue documentId id correlationId) := by
  have hnew : ∀ n ∈ BothQueues.newIds (.enqueue documentId id correlationId), n ∉ s.issued := by
    simpa [BothQueues.newIds] using hid
  have hvalid := perform_valid s.onDisk s.now _ h.onDisk hnew
  have hind := perform_valid s.onRedis s.now _ h.onRedis hnew
  let fields : RedisJob :=
    { id := id.val, documentId := documentId, version := 1, correlationId := correlationId.val,
      enqueuedAtMs := s.now, availableAtMs := s.now, attempts := 0, fencingToken := 0,
      state := .queued, workerId := "", leaseExpiresAtMs := none, heartbeatAtMs := none }
  have hread : Readable fields.toStored :=
    ⟨id.safe, assertSafeDocumentSegment_eq_ok.mp hsafe, correlationId.safe, rfl, hnow,
      ⟨by simp [fields, RedisJob.toStored], by simpa [fields, RedisJob.toStored] using hnow⟩,
      Nat.zero_le _, Nat.zero_le _, by simp [fields, RedisJob.toStored],
      by simp [fields, RedisJob.toStored]⟩
  have hfree : KeyedList.find StoredDocumentProcessingJob.documentId documentId s.onDisk.jobs =
      none := by
    refine KeyedList.find_eq_none.mpr fun job hjob hdoc => ?_
    obtain ⟨other, hother, rfl⟩ := h.lookup_of_find (KeyedList.find_of_mem h.onDisk.ids hjob)
    have hmapped := h.onRedis.owned _ other hother
    rw [show other.documentId = documentId from hdoc, hmap] at hmapped
    cases hmapped
  have hunused : KeyedList.find StoredDocumentProcessingJob.id fields.toStored.id s.onDisk.jobs =
      none := by
    refine KeyedList.find_eq_none.mpr fun job hjob heq => hid ?_
    rw [← show job.id = id.val from heq]
    exact h.onDisk.named job hjob
  have hdisk : perform s.onDisk s.now (.enqueue documentId id correlationId) =
      (.enqueued { job := toPublicJob fields.toStored, enqueued := true },
        ⟨s.onDisk.jobs ++ [fields.toStored]⟩) := by
    simp [perform, DocumentProcessingQueue.enqueue, LocalDocumentProcessingQueue.enqueue, hsafe,
      h.read, hfree, QueueReply.of, fields, RedisJob.toStored]
  have hredis : (perform s.onRedis s.now (.enqueue documentId id correlationId)).1 =
        .enqueued { job := toPublicJob fields.toStored, enqueued := true } ∧
      (perform s.onRedis s.now (.enqueue documentId id correlationId)).2.keyspace.job =
        s.onRedis.keyspace.job.insert id.val fields := by
    have hparse := hread.parse
    simp only [perform, DocumentProcessingQueue.enqueue, RedisDocumentProcessingQueue.enqueue,
      Keyspace.enqueueScript, hsafe, hmap]
    simp only [fields] at hparse ⊢
    rw [hparse]
    exact ⟨rfl, rfl⟩
  refine ⟨by rw [hdisk, hredis.1], hvalid, hind, fun n => ?_, fun job hjob => ?_,
    fun job hjob hclaimed => ?_⟩
  · simp only [BothQueues.both, hdisk, hredis.2, Table.lookup_insert]
    refine (KeyedList.find_append_new hunused).trans ?_
    by_cases hn : n = id.val
    · simp [hn, fields, RedisJob.toStored]
    · have hne : ¬n = fields.toStored.id := hn
      rw [if_neg hn, if_neg hne]
      exact h.same n
  all_goals
    simp only [BothQueues.both, hdisk] at hjob
    rcases List.mem_append.mp hjob with hold | hnewJob
  · exact h.readable job hold
  · rw [List.mem_singleton.mp hnewJob]
    exact hread
  · exact h.started job hold hclaimed
  · rw [List.mem_singleton.mp hnewJob] at hclaimed
    cases hclaimed

theorem Alike.enqueue (h : Alike s) (documentId : String) {id : Uuid} (correlationId : Uuid)
    (hid : id.val ∉ s.issued) (hnow : s.now ≤ maxDate) :
    Agrees s (.enqueue documentId id correlationId) := by
  have hnew : ∀ n ∈ BothQueues.newIds (.enqueue documentId id correlationId), n ∉ s.issued := by
    simpa [BothQueues.newIds] using hid
  cases hsafe : assertSafeDocumentSegment documentId "document id" with
  | error e =>
      refine h.agrees_of_unchanged .rejected hnew ?_ ?_
      · simp [perform, DocumentProcessingQueue.enqueue, LocalDocumentProcessingQueue.enqueue,
          hsafe, QueueReply.of]
      · simp [perform, DocumentProcessingQueue.enqueue, RedisDocumentProcessingQueue.enqueue,
          hsafe, QueueReply.of]
  | ok _ =>
      cases hmap : s.onRedis.keyspace.documents.lookup documentId with
      | some existing =>
          -- both find the job that the document has
          obtain ⟨fields, hfields, hdoc⟩ := h.onRedis.mapped documentId existing hmap
          have hstored := h.find_of_lookup hfields
          have hmem := mem_of_findJob hstored
          have hfind : KeyedList.find StoredDocumentProcessingJob.documentId documentId
              s.onDisk.jobs = some fields.toStored := by
            rw [← hdoc]
            exact KeyedList.find_of_mem h.onDisk.documents hmem
          refine h.agrees_of_unchanged
            (.enqueued { job := toPublicJob fields.toStored, enqueued := false }) hnew ?_ ?_
          · simp [perform, DocumentProcessingQueue.enqueue, LocalDocumentProcessingQueue.enqueue,
              hsafe, h.read, hfind, QueueReply.of]
          · simp [perform, DocumentProcessingQueue.enqueue, RedisDocumentProcessingQueue.enqueue,
              Keyspace.enqueueScript, hsafe, hmap, hfields, (h.readable _ hmem).parse,
              QueueReply.of]
      | none => exact h.enqueue_new correlationId hid hnow hsafe hmap

/-- A claimable job is one that the claim script looks for. -/
theorem Alike.candidate_of_claimable (h : Alike s) {job : StoredDocumentProcessingJob}
    (hmem : job ∈ s.onDisk.jobs) (hclaimable : isClaimable s.now job = true) :
    ∃ id, s.onRedis.keyspace.claimCandidate s.now = some id := by
  obtain ⟨fields, hfields, rfl⟩ := h.lookup_of_find (KeyedList.find_of_mem h.onDisk.ids hmem)
  have hfiled := h.onRedis.filed _ fields hfields
  by_contra hnone
  have hcand : s.onRedis.keyspace.claimCandidate s.now = none := by
    rw [Option.eq_none_iff_forall_ne_some]
    exact fun id hid => hnone ⟨id, hid⟩
  unfold Keyspace.claimCandidate at hcand
  split at hcand
  · cases hcand
  next hleased =>
  unfold LocalDocumentProcessingQueue.isClaimable at hclaimable
  split at hclaimable
  · cases hclaimable
  next havailable =>
  unfold Keyspace.Filed at hfiled
  cases hstate : fields.state with
  | queued =>
      simp only [hstate] at hfiled
      exact havailable (SortedSet.first_eq_none hcand hfiled.1)
  | claimed =>
      simp only [hstate] at hfiled
      obtain ⟨-, deadline, hdeadline, hscore⟩ := hfiled
      have hlate := SortedSet.first_eq_none hleased hscore
      have hqueued : fields.toStored.state ≠ .queued := by simp [RedisJob.toStored, hstate]
      have hsome : fields.toStored.leaseExpiresAt = some deadline := hdeadline
      rw [if_neg hqueued, hsome] at hclaimable
      have hle := of_decide_eq_true hclaimable
      omega

/-- What the claim script takes is a claimable job. -/
theorem Alike.claimable_of_candidate (h : Alike s) {id : String}
    (hcand : s.onRedis.keyspace.claimCandidate s.now = some id) :
    ∃ job ∈ s.onDisk.jobs, job.id = id ∧ isClaimable s.now job = true := by
  obtain ⟨fields, hfields⟩ := h.onRedis.members id (Keyspace.claimCandidate_contains hcand)
  have hstored := h.find_of_lookup hfields
  have hmem := mem_of_findJob hstored
  have hfiled := h.onRedis.filed id fields hfields
  refine ⟨fields.toStored, hmem, LocalDocumentProcessingQueue.findJob_id hstored, ?_⟩
  unfold LocalDocumentProcessingQueue.isClaimable
  unfold Keyspace.claimCandidate at hcand
  unfold Keyspace.Filed at hfiled
  split at hcand
  · next first hfirst =>
      obtain rfl := Option.some.inj hcand
      obtain ⟨score, hscore, hle⟩ := SortedSet.first_eq_some hfirst
      cases hstate : fields.state with
      | queued =>
          simp only [hstate] at hfiled
          exact absurd ⟨score, hscore⟩ hfiled.2
      | claimed =>
          simp only [hstate] at hfiled
          obtain ⟨-, deadline, hdeadline, hscore'⟩ := hfiled
          have hstarted : ¬(s.now : Int) < fields.toStored.availableAt :=
            Int.not_lt.mpr (h.started _ hmem hstate)
          have hqueued : fields.toStored.state ≠ .queued := by simp [RedisJob.toStored, hstate]
          have hsome : fields.toStored.leaseExpiresAt = some deadline := hdeadline
          have hsame := hscore.unique hscore'
          rw [if_neg hstarted, if_neg hqueued, hsome]
          exact decide_eq_true (by omega)
  · obtain ⟨score, hscore, hle⟩ := SortedSet.first_eq_some hcand
    cases hstate : fields.state with
    | queued =>
        simp only [hstate] at hfiled
        have hsame : score = fields.toStored.availableAt := hscore.unique hfiled.1
        have havailable : ¬(s.now : Int) < fields.toStored.availableAt := by omega
        have hqueued : fields.toStored.state = .queued := hstate
        rw [if_neg havailable, if_pos hqueued]
    | claimed =>
        simp only [hstate] at hfiled
        exact absurd ⟨score, hscore⟩ hfiled.1

/-- A claim finds a job in both queues or in neither. -/
theorem Alike.nextClaimable_eq_none_iff (h : Alike s) :
    nextClaimable s.now s.onDisk.jobs = none ↔
      s.onRedis.keyspace.claimCandidate s.now = none := by
  constructor
  · intro hnone
    rw [Option.eq_none_iff_forall_ne_some]
    intro id hid
    obtain ⟨job, hmem, -, hclaimable⟩ := h.claimable_of_candidate hid
    have hfilter : job ∈ (s.onDisk.jobs.filter (isClaimable s.now)).insertionSort
        (fun first second => first.enqueuedAt ≤ second.enqueuedAt) :=
      (List.mem_insertionSort _).mpr (List.mem_filter.mpr ⟨hmem, hclaimable⟩)
    rw [List.head?_eq_none_iff.mp hnone] at hfilter
    cases hfilter
  · intro hnone
    rw [Option.eq_none_iff_forall_ne_some]
    intro job hjob
    obtain ⟨hmem, hclaimable⟩ := LocalDocumentProcessingQueue.nextClaimable_mem hjob
    obtain ⟨id, hid⟩ := h.candidate_of_claimable hmem hclaimable
    rw [hnone] at hid
    cases hid

/-- With at most one claimable job, both take the same one. -/
theorem Alike.select_of_subsingleton (h : Alike s)
    (hone : ∀ job ∈ s.onDisk.jobs, ∀ job' ∈ s.onDisk.jobs,
      isClaimable s.now job = true → isClaimable s.now job' = true → job = job') :
    (nextClaimable s.now s.onDisk.jobs).map StoredDocumentProcessingJob.id =
      s.onRedis.keyspace.claimCandidate s.now := by
  cases hnext : nextClaimable s.now s.onDisk.jobs with
  | none => exact (h.nextClaimable_eq_none_iff.mp hnext).symm
  | some job =>
      obtain ⟨hmem, hclaimable⟩ := LocalDocumentProcessingQueue.nextClaimable_mem hnext
      obtain ⟨id, hid⟩ := h.candidate_of_claimable hmem hclaimable
      obtain ⟨job', hmem', rfl, hclaimable'⟩ := h.claimable_of_candidate hid
      rw [hid, hone job hmem job' hmem' hclaimable hclaimable']
      rfl

/-- What a claim writes is readable. -/
theorem Readable.claimed {fields : RedisJob} {now leaseDurationMs : Nat} {workerId : String}
    (h : Readable fields.toStored) (hworker : isSafeDocumentSegment workerId = true)
    (hdate : now + leaseDurationMs ≤ maxDate)
    (hcounters : fields.attempts < maxSafeInteger ∧ fields.fencingToken < maxSafeInteger) :
    Readable (Keyspace.claimedJob fields now workerId leaseDurationMs).toStored where
  id := h.id
  documentId := h.documentId
  correlationId := h.correlationId
  version := h.version
  enqueuedAt := h.enqueuedAt
  availableAt := h.availableAt
  attempts := hcounters.1
  fencingToken := hcounters.2
  workerId := by
    intro other hother
    have hsome : (Keyspace.claimedJob fields now workerId leaseDurationMs).toStored.workerId =
        some workerId := if_neg (ne_empty_of_safe hworker)
    rw [hsome] at hother
    exact Option.some.inj hother ▸ hworker
  leaseExpiresAt := fun _ hdeadline => Option.some.inj hdeadline ▸ hdate

/-- Both queues take the same job. -/
theorem Alike.claim_taken (h : Alike s) {workerId : String} {leaseDurationMs : Nat}
    (hworker : assertSafeDocumentSegment workerId "workerId" = .ok ())
    (hlease : isPositiveSafeInteger leaseDurationMs = true)
    {claimable : StoredDocumentProcessingJob}
    (hnext : nextClaimable s.now s.onDisk.jobs = some claimable)
    (hselect : s.onRedis.keyspace.claimCandidate s.now = some claimable.id)
    (hdate : s.now + leaseDurationMs ≤ maxDate)
    (hcounters : claimable.attempts < maxSafeInteger ∧ claimable.fencingToken < maxSafeInteger) :
    Agrees s (.claim workerId leaseDurationMs) := by
  obtain ⟨hmem, hclaimable⟩ := LocalDocumentProcessingQueue.nextClaimable_mem hnext
  obtain ⟨fields, hfields, rfl⟩ := h.lookup_of_find (KeyedList.find_of_mem h.onDisk.ids hmem)
  have hsafe := assertSafeDocumentSegment_eq_ok.mp hworker
  have hread := (h.readable _ hmem).claimed hsafe hdate hcounters
  have havailable : fields.availableAtMs ≤ s.now := by
    unfold LocalDocumentProcessingQueue.isClaimable at hclaimable
    split at hclaimable
    · cases hclaimable
    · next hnot => exact Int.not_lt.mp hnot
  obtain ⟨hnone, -⟩ | ⟨jobId, job, ready, leased, hcand, hjob, hscript, -⟩ :=
    Keyspace.claimScript_cases h.onRedis s.now workerId leaseDurationMs
  · rw [hselect] at hnone
    cases hnone
  obtain rfl := Option.some.inj (hselect.symm.trans hcand)
  obtain rfl := Option.some.inj (hfields.symm.trans hjob)
  have hworkerId : (Keyspace.claimedJob fields s.now workerId leaseDurationMs).toStored.workerId =
      some workerId := if_neg (ne_empty_of_safe hsafe)
  have hstored : (Keyspace.claimedJob fields s.now workerId leaseDurationMs).toStored =
      { fields.toStored with
        state := .claimed, workerId := some workerId,
        leaseExpiresAt := some (s.now + leaseDurationMs),
        attempts := fields.toStored.attempts + 1,
        fencingToken := fields.toStored.fencingToken + 1 } := by
    rw [← hworkerId]
    rfl
  have hdisk : perform s.onDisk s.now (.claim workerId leaseDurationMs) =
      (.claimed (some (toPublicJob
          (Keyspace.claimedJob fields s.now workerId leaseDurationMs).toStored)),
        ⟨setJob s.onDisk.jobs
          (Keyspace.claimedJob fields s.now workerId leaseDurationMs).toStored⟩) := by
    simp [perform, DocumentProcessingQueue.claim, LocalDocumentProcessingQueue.claim, hworker,
      hlease, h.read, hnext, toISOString_of_le hdate, QueueReply.of, hstored]
  have hredis : perform s.onRedis s.now (.claim workerId leaseDurationMs) =
      (.claimed (some (toPublicJob
          (Keyspace.claimedJob fields s.now workerId leaseDurationMs).toStored)),
        ⟨⟨s.onRedis.keyspace.documents, s.onRedis.keyspace.jobs, ready, leased,
          s.onRedis.keyspace.job.insert fields.toStored.id
            (Keyspace.claimedJob fields s.now workerId leaseDurationMs)⟩⟩) := by
    simp only [perform, DocumentProcessingQueue.claim, RedisDocumentProcessingQueue.claim, hworker,
      hlease, hscript, hread.parse, QueueReply.of, if_true]
  exact h.agrees_of_write (Keyspace.claimedJob fields s.now workerId leaseDurationMs) rfl hdisk
    hredis hfields rfl rfl rfl hread fun _ => havailable

theorem Alike.claim (h : Alike s) (workerId : String) (leaseDurationMs : Nat)
    (hselect : (nextClaimable s.now s.onDisk.jobs).map StoredDocumentProcessingJob.id =
      s.onRedis.keyspace.claimCandidate s.now)
    (hdate : s.now + leaseDurationMs ≤ maxDate)
    (hcounters : ∀ job, nextClaimable s.now s.onDisk.jobs = some job →
      job.attempts < maxSafeInteger ∧ job.fencingToken < maxSafeInteger) :
    Agrees s (.claim workerId leaseDurationMs) := by
  have hnew : ∀ n ∈ BothQueues.newIds (.claim workerId leaseDurationMs), n ∉ s.issued := by
    simp [BothQueues.newIds]
  cases hworker : assertSafeDocumentSegment workerId "workerId" with
  | error e =>
      refine h.agrees_of_unchanged .rejected hnew ?_ ?_
      · simp [perform, DocumentProcessingQueue.claim, LocalDocumentProcessingQueue.claim,
          hworker, QueueReply.of]
      · simp [perform, DocumentProcessingQueue.claim, RedisDocumentProcessingQueue.claim,
          hworker, QueueReply.of]
  | ok _ =>
  by_cases hlease : isPositiveSafeInteger leaseDurationMs = true
  swap
  · refine h.agrees_of_unchanged .rejected hnew ?_ ?_
    · simp [perform, DocumentProcessingQueue.claim, LocalDocumentProcessingQueue.claim,
        hworker, hlease, QueueReply.of]
    · simp [perform, DocumentProcessingQueue.claim, RedisDocumentProcessingQueue.claim,
        hworker, hlease, QueueReply.of]
  cases hnext : nextClaimable s.now s.onDisk.jobs with
  | none =>
      rw [hnext] at hselect
      refine h.agrees_of_unchanged (.claimed none) hnew ?_ ?_
      · simp [perform, DocumentProcessingQueue.claim, LocalDocumentProcessingQueue.claim,
          hworker, hlease, h.read, hnext, QueueReply.of]
      · simp [perform, DocumentProcessingQueue.claim, RedisDocumentProcessingQueue.claim,
          Keyspace.claimScript, hworker, hlease, ← hselect, QueueReply.of]
  | some claimable =>
      rw [hnext] at hselect
      exact h.claim_taken hworker hlease hnext hselect.symm hdate (hcounters claimable hnext)

/-- The two adapters test owner, token and deadline alike. -/
theorem Alike.lease_cases (h : Alike s) (jobId : String) {workerId : String} (fencingToken : Nat)
    (hsafe : isSafeDocumentSegment workerId = true) :
    (∃ e, s.onRedis.keyspace.leasedJob s.now jobId workerId fencingToken = .error e ∧
      ∀ job, findJob jobId s.onDisk.jobs = some job →
        (isClaimOwner job workerId fencingToken && leaseRuns job s.now) = false) ∨
    ∃ fields, s.onRedis.keyspace.leasedJob s.now jobId workerId fencingToken = .ok fields ∧
      s.onRedis.keyspace.job.lookup jobId = some fields ∧
      findJob jobId s.onDisk.jobs = some fields.toStored ∧
      isClaimOwner fields.toStored workerId fencingToken = true ∧
      leaseRuns fields.toStored s.now = true := by
  cases hlease : s.onRedis.keyspace.leasedJob s.now jobId workerId fencingToken with
  | error e =>
      refine Or.inl ⟨e, rfl, fun job hjob => ?_⟩
      obtain ⟨fields, hfields, rfl⟩ := h.lookup_of_find hjob
      rw [← ownsLease_toStored hsafe]
      simp only [Keyspace.leasedJob, hfields] at hlease
      split at hlease
      · cases hlease
      · next howns => exact Bool.eq_false_iff.mpr howns
  | ok fields =>
      obtain ⟨hfields, howns⟩ := Keyspace.leasedJob_eq_ok hlease
      rw [ownsLease_toStored hsafe, Bool.and_eq_true] at howns
      exact Or.inr ⟨fields, rfl, hfields, h.find_of_lookup hfields, howns.1, howns.2⟩

/-- The argument checks, which both adapters make. -/
theorem assertLeaseArguments_cases (jobId workerId : String) (fencingToken : Nat) :
    (∃ e e', assertLeaseArguments jobId workerId (some fencingToken)
        LocalDocumentProcessingQueue.tokenMessage = .error e ∧
      assertLeaseArguments jobId workerId (some fencingToken)
        RedisDocumentProcessingQueue.tokenMessage = .error e') ∨
    (isSafeDocumentSegment workerId = true ∧
      assertLeaseArguments jobId workerId (some fencingToken)
        LocalDocumentProcessingQueue.tokenMessage = .ok () ∧
      assertLeaseArguments jobId workerId (some fencingToken)
        RedisDocumentProcessingQueue.tokenMessage = .ok ()) := by
  unfold assertLeaseArguments
  cases hjob : assertSafeDocumentSegment jobId "job id" with
  | error e => exact Or.inl ⟨e, e, rfl, rfl⟩
  | ok _ =>
      cases hworker : assertSafeDocumentSegment workerId "workerId" with
      | error e => exact Or.inl ⟨e, e, rfl, rfl⟩
      | ok _ =>
          by_cases htoken : isPositiveSafeInteger fencingToken = true
          · exact Or.inr ⟨assertSafeDocumentSegment_eq_ok.mp hworker, by simp [htoken],
              by simp [htoken]⟩
          · exact Or.inl ⟨_, _, if_neg htoken, if_neg htoken⟩

theorem Alike.assertLease (h : Alike s) (jobId workerId : String) (fencingToken : Nat) :
    Agrees s (.assertLease jobId workerId fencingToken) := by
  have hnew : ∀ n ∈ BothQueues.newIds (.assertLease jobId workerId fencingToken),
      n ∉ s.issued := by simp [BothQueues.newIds]
  rcases assertLeaseArguments_cases jobId workerId fencingToken with
    ⟨e, e', hdisk, hredis⟩ | ⟨hsafe, hdisk, hredis⟩
  · refine h.agrees_of_unchanged .rejected hnew ?_ ?_
    · simp [perform, DocumentProcessingQueue.assertLease, LocalDocumentProcessingQueue.assertLease,
        hdisk, QueueReply.of]
    · simp [perform, DocumentProcessingQueue.assertLease, RedisDocumentProcessingQueue.assertLease,
        hredis, QueueReply.of]
  rcases h.lease_cases jobId fencingToken hsafe with
    ⟨e, hlease, hstale⟩ | ⟨fields, hlease, -, hfind, howner, hruns⟩
  · refine h.agrees_of_unchanged .rejected hnew ?_ ?_
    · simp only [perform, DocumentProcessingQueue.assertLease,
        LocalDocumentProcessingQueue.assertLease, hdisk, h.read]
      cases hfind : findJob jobId s.onDisk.jobs with
      | none => rfl
      | some job =>
          have hfalse := hstale job hfind
          cases howner : isClaimOwner job workerId fencingToken with
          | false => simp [howner, QueueReply.of]
          | true =>
              rw [howner, Bool.true_and] at hfalse
              simp [howner, hfalse, QueueReply.of]
    · simp [perform, DocumentProcessingQueue.assertLease, RedisDocumentProcessingQueue.assertLease,
        Keyspace.assertLeaseScript, hredis, hlease, QueueReply.of]
  · refine h.agrees_of_unchanged .accepted hnew ?_ ?_
    · simp [perform, DocumentProcessingQueue.assertLease, LocalDocumentProcessingQueue.assertLease,
        hdisk, h.read, hfind, howner, hruns, QueueReply.of]
    · simp [perform, DocumentProcessingQueue.assertLease, RedisDocumentProcessingQueue.assertLease,
        Keyspace.assertLeaseScript, hredis, hlease, QueueReply.of]

theorem Alike.renew (h : Alike s) (jobId workerId : String) (fencingToken leaseDurationMs : Nat)
    (hdate : s.now + leaseDurationMs ≤ maxDate) :
    Agrees s (.renew jobId workerId fencingToken leaseDurationMs) := by
  have hnew : ∀ n ∈ BothQueues.newIds (.renew jobId workerId fencingToken leaseDurationMs),
      n ∉ s.issued := by simp [BothQueues.newIds]
  rcases assertLeaseArguments_cases jobId workerId fencingToken with
    ⟨e, e', hdisk, hredis⟩ | ⟨hsafe, hdisk, hredis⟩
  · refine h.agrees_of_unchanged .rejected hnew ?_ ?_
    · simp [perform, DocumentProcessingQueue.renew, LocalDocumentProcessingQueue.renew, hdisk,
        QueueReply.of]
    · simp [perform, DocumentProcessingQueue.renew, RedisDocumentProcessingQueue.renew, hredis,
        QueueReply.of]
  by_cases hduration : isPositiveSafeInteger leaseDurationMs = true
  swap
  · refine h.agrees_of_unchanged .rejected hnew ?_ ?_
    · simp [perform, DocumentProcessingQueue.renew, LocalDocumentProcessingQueue.renew, hdisk,
        hduration, QueueReply.of]
    · simp [perform, DocumentProcessingQueue.renew, RedisDocumentProcessingQueue.renew, hredis,
        hduration, QueueReply.of]
  rcases h.lease_cases jobId fencingToken hsafe with
    ⟨e, hlease, hstale⟩ | ⟨fields, hlease, hfields, hfind, howner, hruns⟩
  · refine h.agrees_of_unchanged .rejected hnew ?_ ?_
    · simp only [perform, DocumentProcessingQueue.renew, LocalDocumentProcessingQueue.renew, hdisk,
        hduration, h.read, if_true]
      cases hfind : findJob jobId s.onDisk.jobs with
      | none => rfl
      | some job =>
          have hfalse := hstale job hfind
          cases howner : isClaimOwner job workerId fencingToken with
          | false => simp [howner, QueueReply.of]
          | true =>
              rw [howner, Bool.true_and] at hfalse
              simp [howner, hfalse, QueueReply.of]
    · simp [perform, DocumentProcessingQueue.renew, RedisDocumentProcessingQueue.renew,
        Keyspace.renewScript, hredis, hduration, hlease, QueueReply.of]
  · let renewed : RedisJob :=
      { fields with
        leaseExpiresAtMs := some (s.now + leaseDurationMs), heartbeatAtMs := some s.now }
    have hmem := mem_of_findJob hfind
    have hold := h.readable _ hmem
    have hread : Readable renewed.toStored :=
      { hold with leaseExpiresAt := fun _ hdeadline => Option.some.inj hdeadline ▸ hdate }
    have hstored : { fields.toStored with
        leaseExpiresAt := some (s.now + leaseDurationMs) } = renewed.toStored := rfl
    have hdiskReply : perform s.onDisk s.now (.renew jobId workerId fencingToken leaseDurationMs) =
        (.renewed (toPublicJob renewed.toStored), ⟨setJob s.onDisk.jobs renewed.toStored⟩) := by
      simp [perform, DocumentProcessingQueue.renew, LocalDocumentProcessingQueue.renew, hdisk,
        hduration, h.read, hfind, howner, hruns, toISOString_of_le hdate, hstored, QueueReply.of]
    have hredisReply : (perform s.onRedis s.now
        (.renew jobId workerId fencingToken leaseDurationMs)) =
        (.renewed (toPublicJob renewed.toStored),
          ⟨(s.onRedis.keyspace.renewScript s.now jobId workerId fencingToken leaseDurationMs).2⟩) := by
      have hparse := hread.parse
      simp only [renewed] at hparse
      simp only [perform, DocumentProcessingQueue.renew, RedisDocumentProcessingQueue.renew,
        Keyspace.renewScript, hredis, hduration, hlease, hparse, QueueReply.of, if_true]
      rfl
    refine h.agrees_of_write renewed rfl hdiskReply hredisReply hfields
      (h.onRedis.named jobId fields hfields).1 rfl ?_ hread fun hclaimed => h.started _ hmem hclaimed
    simp only [Keyspace.renewScript, hlease]
    rfl

theorem Alike.acknowledge (h : Alike s) (jobId workerId : String) (fencingToken : Nat)
    (hjob : ∃ job, findJob jobId s.onDisk.jobs = some job ∧
      (isClaimOwner job workerId fencingToken = true → leaseRuns job s.now = true)) :
    Agrees s (.acknowledge jobId workerId fencingToken) := by
  have hnew : ∀ n ∈ BothQueues.newIds (.acknowledge jobId workerId fencingToken),
      n ∉ s.issued := by simp [BothQueues.newIds]
  rcases assertLeaseArguments_cases jobId workerId fencingToken with
    ⟨e, e', hdisk, hredis⟩ | ⟨hsafe, hdisk, hredis⟩
  · refine h.agrees_of_unchanged .rejected hnew ?_ ?_
    · simp [perform, DocumentProcessingQueue.acknowledge, LocalDocumentProcessingQueue.acknowledge,
        hdisk, QueueReply.of]
    · simp [perform, DocumentProcessingQueue.acknowledge, RedisDocumentProcessingQueue.acknowledge,
        hredis, QueueReply.of]
  obtain ⟨job, hfind, hruns⟩ := hjob
  rcases h.lease_cases jobId fencingToken hsafe with
    ⟨e, hlease, hstale⟩ | ⟨fields, hlease, hfields, hfind', howner, -⟩
  · have howner : isClaimOwner job workerId fencingToken = false := by
      rw [Bool.eq_false_iff]
      intro howner
      have hfalse := hstale job hfind
      rw [howner, hruns howner] at hfalse
      cases hfalse
    refine h.agrees_of_unchanged .rejected hnew ?_ ?_
    · simp [perform, DocumentProcessingQueue.acknowledge, LocalDocumentProcessingQueue.acknowledge,
        hdisk, h.read, hfind, howner, QueueReply.of]
    · simp [perform, DocumentProcessingQueue.acknowledge, RedisDocumentProcessingQueue.acknowledge,
        Keyspace.acknowledgeScript, hredis, hlease, QueueReply.of]
  · have hdiskReply : perform s.onDisk s.now (.acknowledge jobId workerId fencingToken) =
        (.accepted, ⟨KeyedList.erase StoredDocumentProcessingJob.id jobId s.onDisk.jobs⟩) := by
      simp [perform, DocumentProcessingQueue.acknowledge, LocalDocumentProcessingQueue.acknowledge,
        hdisk, h.read, hfind', howner, QueueReply.of]
    have hredisReply : perform s.onRedis s.now (.acknowledge jobId workerId fencingToken) =
        (.accepted, ⟨s.onRedis.keyspace.removeScript fields.documentId jobId⟩) := by
      simp [perform, DocumentProcessingQueue.acknowledge, RedisDocumentProcessingQueue.acknowledge,
        Keyspace.acknowledgeScript, Keyspace.removeScript, hredis, hlease, QueueReply.of]
    have hvalid := perform_valid s.onDisk s.now _ h.onDisk hnew
    have hind := perform_valid s.onRedis s.now _ h.onRedis hnew
    have hsub : (KeyedList.erase StoredDocumentProcessingJob.id jobId s.onDisk.jobs).Sublist
        s.onDisk.jobs := List.eraseP_sublist
    refine ⟨by rw [hdiskReply, hredisReply], hvalid, hind, fun n => ?_, fun other hother => ?_,
      fun other hother hclaimed => ?_⟩
    · simp only [BothQueues.both, hdiskReply, hredisReply, Keyspace.removeScript,
        Table.lookup_erase]
      refine (KeyedList.find_erase h.onDisk.ids).trans ?_
      by_cases hn : n = jobId
      · rw [if_pos hn, if_pos hn]
        rfl
      · rw [if_neg hn, if_neg hn]
        exact h.same n
    all_goals simp only [BothQueues.both, hdiskReply] at hother
    · exact h.readable other (hsub.subset hother)
    · exact h.started other (hsub.subset hother) hclaimed

/-- To acknowledge a job that is gone changes neither queue; the local queue
accepts it when the arguments are in order, the Redis queue refuses it. -/
theorem Alike.acknowledge_gone (h : Alike s) {jobId : String} (workerId : String)
    (fencingToken : Nat) (hgone : findJob jobId s.onDisk.jobs = none) :
    (perform s.onDisk s.now (.acknowledge jobId workerId fencingToken)).2 = s.onDisk ∧
      (assertLeaseArguments jobId workerId (some fencingToken)
          LocalDocumentProcessingQueue.tokenMessage = .ok () →
        (perform s.onDisk s.now (.acknowledge jobId workerId fencingToken)).1 = .accepted) ∧
      perform s.onRedis s.now (.acknowledge jobId workerId fencingToken) =
        (.rejected, s.onRedis) := by
  have hlookup : s.onRedis.keyspace.job.lookup jobId = none := by
    rw [h.same jobId] at hgone
    exact Option.map_eq_none_iff.mp hgone
  rcases assertLeaseArguments_cases jobId workerId fencingToken with
    ⟨e, e', hdisk, hredis⟩ | ⟨-, hdisk, hredis⟩
  · refine ⟨?_, fun hok => ?_, ?_⟩
    · simp [perform, DocumentProcessingQueue.acknowledge, LocalDocumentProcessingQueue.acknowledge,
        hdisk]
    · rw [hdisk] at hok
      cases hok
    · simp [perform, DocumentProcessingQueue.acknowledge, RedisDocumentProcessingQueue.acknowledge,
        hredis, QueueReply.of]
  · have hreply : perform s.onDisk s.now (.acknowledge jobId workerId fencingToken) =
        (.accepted, s.onDisk) := by
      simp [perform, DocumentProcessingQueue.acknowledge, LocalDocumentProcessingQueue.acknowledge,
        hdisk, h.read, hgone, QueueReply.of]
    refine ⟨by rw [hreply], fun _ => by rw [hreply], ?_⟩
    simp [perform, DocumentProcessingQueue.acknowledge, RedisDocumentProcessingQueue.acknowledge,
      Keyspace.acknowledgeScript, Keyspace.leasedJob, hredis, hlookup, QueueReply.of]

theorem Alike.release (h : Alike s) (jobId workerId : String) (availableAt : Int)
    (fencingToken : Nat) (hepoch : 0 ≤ availableAt)
    (hjob : ∀ job, findJob jobId s.onDisk.jobs = some job →
      isClaimOwner job workerId fencingToken = true → leaseRuns job s.now = true) :
    Agrees s (.release jobId workerId availableAt fencingToken) := by
  have hnew : ∀ n ∈ BothQueues.newIds (.release jobId workerId availableAt fencingToken),
      n ∉ s.issued := by simp [BothQueues.newIds]
  rcases assertLeaseArguments_cases jobId workerId fencingToken with
    ⟨e, e', hdisk, hredis⟩ | ⟨hsafe, hdisk, hredis⟩
  · refine h.agrees_of_unchanged .rejected hnew ?_ ?_
    · simp [perform, DocumentProcessingQueue.release, LocalDocumentProcessingQueue.release, hdisk,
        QueueReply.of]
    · simp [perform, DocumentProcessingQueue.release, RedisDocumentProcessingQueue.release, hredis,
        QueueReply.of]
  by_cases hdate : isValidDate availableAt = true
  swap
  · refine h.agrees_of_unchanged .rejected hnew ?_ ?_
    · simp [perform, DocumentProcessingQueue.release, LocalDocumentProcessingQueue.release, hdisk,
        hdate, QueueReply.of]
    · simp [perform, DocumentProcessingQueue.release, RedisDocumentProcessingQueue.release, hredis,
        hdate, QueueReply.of]
  rcases h.lease_cases jobId fencingToken hsafe with
    ⟨e, hlease, hstale⟩ | ⟨fields, hlease, hfields, hfind, howner, -⟩
  · refine h.agrees_of_unchanged .rejected hnew ?_ ?_
    · simp only [perform, DocumentProcessingQueue.release, LocalDocumentProcessingQueue.release,
        hdisk, hdate, h.read, if_true]
      cases hfind : findJob jobId s.onDisk.jobs with
      | none => rfl
      | some job =>
          have howner : isClaimOwner job workerId fencingToken = false := by
            rw [Bool.eq_false_iff]
            intro howner
            have hfalse := hstale job hfind
            rw [howner, hjob job hfind howner] at hfalse
            cases hfalse
          simp [howner, QueueReply.of]
    · simp [perform, DocumentProcessingQueue.release, RedisDocumentProcessingQueue.release,
        Keyspace.releaseScript, hredis, hdate, hlease, QueueReply.of]
  · let released : RedisJob :=
      { fields with
        state := .queued, workerId := "", leaseExpiresAtMs := none, heartbeatAtMs := none,
        availableAtMs := availableAt }
    have hmem := mem_of_findJob hfind
    have hold := h.readable _ hmem
    have hrange : 0 ≤ availableAt ∧ availableAt ≤ maxDate := by
      simp only [isValidDate, Bool.and_eq_true, decide_eq_true_eq] at hdate
      exact ⟨hepoch, hdate.2⟩
    have hread : Readable released.toStored :=
      { hold with
        availableAt := hrange
        workerId := fun _ hworker => by simp [released, RedisJob.toStored] at hworker
        leaseExpiresAt := fun _ hdeadline => by simp [released, RedisJob.toStored] at hdeadline }
    have hstored : { fields.toStored with
        state := .queued, workerId := none, leaseExpiresAt := none,
        availableAt := availableAt } = released.toStored := rfl
    have hdiskReply : perform s.onDisk s.now (.release jobId workerId availableAt fencingToken) =
        (.accepted, ⟨setJob s.onDisk.jobs released.toStored⟩) := by
      simp [perform, DocumentProcessingQueue.release, LocalDocumentProcessingQueue.release, hdisk,
        hdate, h.read, hfind, howner, QueueReply.of, hstored]
    have hredisReply : perform s.onRedis s.now
        (.release jobId workerId availableAt fencingToken) =
        (.accepted,
          ⟨(s.onRedis.keyspace.releaseScript s.now jobId workerId fencingToken availableAt).2⟩) := by
      simp [perform, DocumentProcessingQueue.release, RedisDocumentProcessingQueue.release,
        Keyspace.releaseScript, hredis, hdate, hlease, QueueReply.of]
    refine h.agrees_of_write released rfl hdiskReply hredisReply hfields
      (h.onRedis.named jobId fields hfields).1 rfl ?_ hread fun hclaimed => by cases hclaimed
    simp only [Keyspace.releaseScript, hlease]
    rfl

end Relation

/-! ## Runs of both -/

namespace BothQueues

open LocalDocumentProcessingQueue (findJob isClaimOwner leaseRuns isClaimable nextClaimable)

/-- The calls that leave the two adapters with the same jobs. -/
def Comparable (s : BothQueues) : QueueOperation → Prop
  | .enqueue _ _ _ => s.now ≤ maxDate
  | .claim _ leaseDurationMs =>
    (nextClaimable s.now s.onDisk.jobs).map StoredDocumentProcessingJob.id =
        s.onRedis.keyspace.claimCandidate s.now ∧
      s.now + leaseDurationMs ≤ maxDate ∧
      ∀ job, nextClaimable s.now s.onDisk.jobs = some job →
        job.attempts < maxSafeInteger ∧ job.fencingToken < maxSafeInteger
  | .renew _ _ _ leaseDurationMs => s.now + leaseDurationMs ≤ maxDate
  | .assertLease _ _ _ => True
  | .acknowledge jobId workerId fencingToken =>
    ∀ job, findJob jobId s.onDisk.jobs = some job →
      isClaimOwner job workerId fencingToken = true → leaseRuns job s.now = true
  | .release jobId workerId availableAt fencingToken =>
    0 ≤ availableAt ∧ ∀ job, findJob jobId s.onDisk.jobs = some job →
      isClaimOwner job workerId fencingToken = true → leaseRuns job s.now = true

/-- The call does not acknowledge a job that is gone. -/
def NamesItsJob (s : BothQueues) : QueueOperation → Prop
  | .acknowledge jobId _ _ => ∃ job, findJob jobId s.onDisk.jobs = some job
  | _ => True

/-- The calls of a run are comparable. -/
def CallsComparable (s : BothQueues) : Event → Prop
  | .tick _ => True
  | .call operation => s.Comparable operation

theorem alike_start (now : Nat) : Alike (start now) where
  onDisk := LocalDocumentProcessingQueue.valid_empty
  onRedis := Keyspace.indexed_empty []
  same := fun _ => rfl
  readable := by simp [start, LocalDocumentProcessingQueue.empty]
  started := by simp [start, LocalDocumentProcessingQueue.empty]

/-- One comparable call, with fresh ids. -/
theorem agrees_of_comparable {s : BothQueues} (h : Alike s) {operation : QueueOperation}
    (hnew : ∀ id ∈ newIds operation, id ∉ s.issued) (hcomp : s.Comparable operation)
    (hnamed : s.NamesItsJob operation) : Agrees s operation := by
  cases operation with
  | enqueue documentId id correlationId =>
      exact h.enqueue documentId correlationId (hnew id.val List.mem_cons_self) hcomp
  | claim workerId leaseDurationMs =>
      exact h.claim workerId leaseDurationMs hcomp.1 hcomp.2.1 hcomp.2.2
  | renew jobId workerId fencingToken leaseDurationMs =>
      exact h.renew jobId workerId fencingToken leaseDurationMs hcomp
  | assertLease jobId workerId fencingToken => exact h.assertLease jobId workerId fencingToken
  | acknowledge jobId workerId fencingToken =>
      obtain ⟨job, hjob⟩ := hnamed
      exact h.acknowledge jobId workerId fencingToken ⟨job, hjob, hcomp job hjob⟩
  | release jobId workerId availableAt fencingToken =>
      exact h.release jobId workerId availableAt fencingToken hcomp.1 hcomp.2

/-- A comparable call keeps the two queues alike, also when it acknowledges a job
that is gone. -/
theorem alike_of_comparable {s : BothQueues} (h : Alike s) {operation : QueueOperation}
    (hnew : ∀ id ∈ newIds operation, id ∉ s.issued) (hcomp : s.Comparable operation) :
    Alike (s.both operation) := by
  by_cases hnamed : s.NamesItsJob operation
  · exact (agrees_of_comparable h hnew hcomp hnamed).2
  cases operation with
  | acknowledge jobId workerId fencingToken =>
      have hgone : findJob jobId s.onDisk.jobs = none := by
        rw [Option.eq_none_iff_forall_ne_some]
        exact fun job hjob => hnamed ⟨job, hjob⟩
      obtain ⟨hdisk, -, hredis⟩ := h.acknowledge_gone workerId fencingToken hgone
      have hsame : s.both (.acknowledge jobId workerId fencingToken) = s := by
        simp only [both, hdisk, hredis, newIds, List.nil_append]
      rw [hsame]
      exact h
  | _ => exact absurd trivial hnamed

theorem alike_of_step {s s' : BothQueues} {event : Event} (h : Alike s)
    (hcomp : s.CallsComparable event) (hstep : step s event s') : Alike s' := by
  cases event with
  | tick ms =>
      obtain rfl := Option.some.inj hstep
      exact h.tick ms
  | call operation =>
      simp only [step, stepOf, next] at hstep
      split at hstep
      · cases hstep
      · next hnew =>
          obtain rfl := Option.some.inj hstep
          exact alike_of_comparable h (fun id hid hmem => hnew ⟨id, hid, hmem⟩) hcomp

theorem alike_of_reachable {now : Nat} {s : BothQueues}
    (h : Reachable (StartedAt now) (Guarded CallsComparable step) s) : Alike s := by
  refine h.invariant Alike (fun s₀ hs => ?_)
    fun _ _ _ halike hstep => alike_of_step halike hstep.1 hstep.2
  rw [hs]
  exact alike_start now

def enqueueOne : QueueOperation :=
  .enqueue "document" firstJob correlation

/-- Both queues after one enqueue. -/
def oneJob : BothQueues := (start 0).both enqueueOne

end BothQueues

end AvantimePlatform.Queue
