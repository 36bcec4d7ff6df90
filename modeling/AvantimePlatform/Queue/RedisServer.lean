import AvantimePlatform.Queue.RedisLaws

/-!
# Clients of one Redis tenant

The commands that any number of clients send to the keys of one tenant, in the
order in which the server runs them.  Each command is atomic, and the clock of
the server never goes back.  `removeForDocument` is two commands, and between
them any other command may run.

There are two results.

* `Consistent` holds along a run exactly as long as no removal script runs for a
  document that has been given another job since its `HGET`.
* In a run without removals the leases are exclusive: tokens grow from claim to
  claim, at most one worker and token pass the lease test at any instant, and
  what an older token asks for is refused and changes nothing.
-/

namespace AvantimePlatform.Queue

open AvantimePlatform.Documents AvantimePlatform.Transition

/-- The server's clock and keys, the ids that `crypto.randomUUID()` has handed
out, and the removals that have made their `HGET` and not yet run their script. -/
structure RedisServer where
  now : Nat
  issued : List String
  queue : RedisDocumentProcessingQueue
  removing : List (String × String)

/-- A command of some client. -/
inductive RedisCommand where
  | tick (ms : Nat)
  | enqueue (documentId : String) (id correlationId : Uuid)
  | claim (workerId : String) (leaseDurationMs : Nat)
  | renew (jobId workerId : String) (fencingToken leaseDurationMs : Nat)
  | assertLease (jobId workerId : String) (fencingToken : Nat)
  | acknowledge (jobId workerId : String) (fencingToken : Option Nat)
  | release (jobId workerId : String) (availableAt : Int) (fencingToken : Option Nat)
  | removeLookup (documentId : String)
  | removeScript (documentId jobId : String)

namespace RedisServer

open RedisDocumentProcessingQueue

/-- The empty keyspace, at any instant. -/
def start (now : Nat) : RedisServer := ⟨now, [], RedisDocumentProcessingQueue.empty, []⟩

/-- The one initial state of a server whose clock shows `now`. -/
def StartedAt (now : Nat) (s : RedisServer) : Prop := s = start now

/-- `removeForDocument` up to its `HGET`. -/
def removeLookup (s : RedisServer) (documentId : String) : RedisServer :=
  match assertSafeDocumentSegment documentId "document id" with
  | .error _ => s
  | .ok () =>
    match s.queue.keyspace.removeLookup documentId with
    | none => s
    | some jobId => { s with removing := (documentId, jobId) :: s.removing }

/-- `removeForDocument` from its `HGET` on. -/
def removeScript (s : RedisServer) (documentId jobId : String) : RedisServer :=
  { s with
    queue := ⟨s.queue.keyspace.removeScript documentId jobId⟩
    removing := s.removing.erase (documentId, jobId) }

/-- One command.  An id that was handed out before cannot be handed out again, and
a removal script runs only for a removal that is under way. -/
def next (s : RedisServer) : RedisCommand → Option RedisServer
  | .tick ms => some { s with now := s.now + ms }
  | .enqueue documentId id correlationId =>
    if id.val ∈ s.issued then none
    else some
      { s with
        issued := id.val :: s.issued
        queue := (enqueue s.queue s.now documentId id correlationId).2 }
  | .claim workerId leaseDurationMs =>
    some { s with queue := (claim s.queue s.now workerId leaseDurationMs).2 }
  | .renew jobId workerId fencingToken leaseDurationMs =>
    some { s with queue := (renew s.queue s.now jobId workerId fencingToken leaseDurationMs).2 }
  | .assertLease _ _ _ => some s
  | .acknowledge jobId workerId fencingToken =>
    some { s with queue := (acknowledge s.queue s.now jobId workerId fencingToken).2 }
  | .release jobId workerId availableAt fencingToken =>
    some { s with queue := (release s.queue s.now jobId workerId availableAt fencingToken).2 }
  | .removeLookup documentId => some (s.removeLookup documentId)
  | .removeScript documentId jobId =>
    if (documentId, jobId) ∈ s.removing then some (s.removeScript documentId jobId) else none

/-- The step relation of the server. -/
abbrev step : RedisServer → RedisCommand → RedisServer → Prop := stepOf next

/-- No removal script runs for a document that has another job by now. -/
def RemovesWhatItSaw (s : RedisServer) : RedisCommand → Prop
  | .removeScript documentId jobId =>
    ∀ id, s.queue.keyspace.documents.lookup documentId = some id → id = jobId
  | _ => True

/-- The command is not one of `removeForDocument`. -/
def NoRemoval (_ : RedisServer) : RedisCommand → Prop
  | .removeLookup _ => False
  | .removeScript _ _ => False
  | _ => True

/-- The indexes are in order, and a removal under way names a job of its
document, if the job is still there. -/
structure Valid (s : RedisServer) : Prop where
  indexed : s.queue.keyspace.Indexed s.issued
  removing : ∀ documentId jobId, (documentId, jobId) ∈ s.removing →
    jobId ∈ s.issued ∧ ∀ job, s.queue.jobs jobId = some job → job.documentId = documentId

theorem valid_start (now : Nat) : (start now).Valid :=
  ⟨Keyspace.indexed_empty [], by simp [start]⟩

/-! ## One command -/

section Step

variable {s s' : RedisServer}

/-- What every command but the removals does: the indexes stay in order, no id
is taken back, and no job changes its document or loses a token. -/
structure Quiet (s s' : RedisServer) : Prop where
  indexed : s'.queue.keyspace.Indexed s'.issued
  issued : s.issued ⊆ s'.issued
  keeps : Jobs.Keeps s.issued s.queue.jobs s'.queue.jobs
  removing : s'.removing = s.removing
  now : s.now ≤ s'.now

theorem quiet_of_law (queue : RedisDocumentProcessingQueue)
    (hind : queue.keyspace.Indexed s.issued) (hkeeps : Jobs.Keeps s.issued s.queue.jobs queue.jobs) :
    Quiet s { s with queue := queue } :=
  ⟨hind, List.Subset.refl _, hkeeps, rfl, Nat.le_refl _⟩

/-- Every command but the removals is quiet. -/
theorem quiet_of_step {command : RedisCommand} (h : s.queue.keyspace.Indexed s.issued)
    (hno : NoRemoval s command) (hstep : step s command s') : Quiet s s' := by
  cases command with
  | tick ms =>
      obtain rfl := Option.some.inj hstep
      exact ⟨h, List.Subset.refl _, Jobs.Keeps.refl _ _, rfl, Nat.le_add_right _ _⟩
  | enqueue documentId id correlationId =>
      simp only [step, stepOf, next] at hstep
      split at hstep
      · cases hstep
      next hid =>
      obtain rfl := Option.some.inj hstep
      obtain ⟨hind, hcases⟩ := enqueue_law s.now documentId id correlationId h hid
      exact ⟨hind, List.subset_cons_self _ _, hcases.keeps hid, rfl, Nat.le_refl _⟩
  | claim workerId leaseDurationMs =>
      obtain rfl := Option.some.inj hstep
      obtain ⟨hind, hcases⟩ := claim_law s.now workerId leaseDurationMs h
      exact quiet_of_law _ hind hcases.keeps
  | renew jobId workerId fencingToken leaseDurationMs =>
      obtain rfl := Option.some.inj hstep
      obtain ⟨hind, hjobs⟩ := renew_law s.now jobId workerId fencingToken leaseDurationMs h
      exact quiet_of_law _ hind (hjobs ▸ Jobs.Keeps.refl _ _)
  | assertLease jobId workerId fencingToken =>
      obtain rfl := Option.some.inj hstep
      exact ⟨h, List.Subset.refl _, Jobs.Keeps.refl _ _, rfl, Nat.le_refl _⟩
  | acknowledge jobId workerId fencingToken =>
      obtain rfl := Option.some.inj hstep
      obtain ⟨hind, hcases⟩ := acknowledge_law s.now jobId workerId fencingToken h
      exact quiet_of_law _ hind hcases.keeps
  | release jobId workerId availableAt fencingToken =>
      obtain rfl := Option.some.inj hstep
      obtain ⟨hind, hjobs⟩ := release_law s.now jobId workerId availableAt fencingToken h
      exact quiet_of_law _ hind (hjobs ▸ Jobs.Keeps.refl _ _)
  | removeLookup documentId => exact hno.elim
  | removeScript documentId jobId => exact hno.elim

theorem Valid.of_quiet (h : s.Valid) (hq : Quiet s s') : s'.Valid := by
  refine ⟨hq.indexed, fun documentId jobId hmem => ?_⟩
  rw [hq.removing] at hmem
  obtain ⟨hissued, hdoc⟩ := h.removing documentId jobId hmem
  refine ⟨hq.issued hissued, fun job' hjob' => ?_⟩
  obtain ⟨job, hjob, hsame, -⟩ := hq.keeps jobId hissued job' hjob'
  rw [← hsame]
  exact hdoc job hjob

theorem valid_removeLookup (h : s.Valid) (documentId : String) :
    (s.removeLookup documentId).Valid := by
  unfold removeLookup
  split
  · exact h
  split
  · exact h
  next jobId hmap =>
  obtain ⟨fields, hfields, hdoc⟩ := h.indexed.mapped documentId jobId hmap
  refine ⟨h.indexed, fun d n hmem => ?_⟩
  rcases List.mem_cons.mp hmem with heq | hmem
  · obtain ⟨rfl, rfl⟩ := Prod.mk.inj heq
    refine ⟨(h.indexed.named n fields hfields).2, fun job hjob => ?_⟩
    obtain ⟨other, hother, rfl⟩ := viewJobs_eq_some.mp hjob
    rw [← Option.some.inj (hfields.symm.trans hother)]
    exact hdoc
  · exact h.removing d n hmem

/-- What a removal under way knows of its job. -/
theorem Valid.removing_owns (h : s.Valid) {documentId jobId : String}
    (hmem : (documentId, jobId) ∈ s.removing) {fields : RedisJob}
    (hfields : s.queue.keyspace.job.lookup jobId = some fields) :
    fields.documentId = documentId :=
  (h.removing documentId jobId hmem).2 fields.view (viewJobs_eq_some.mpr ⟨fields, hfields, rfl⟩)

theorem valid_removeScript (h : s.Valid) {documentId jobId : String}
    (hmem : (documentId, jobId) ∈ s.removing)
    (hsame : ∀ id, s.queue.keyspace.documents.lookup documentId = some id → id = jobId) :
    (s.removeScript documentId jobId).Valid := by
  refine ⟨Keyspace.indexed_removeScript h.indexed (fun job hjob => h.removing_owns hmem hjob) hsame,
    fun d n hn => ?_⟩
  obtain ⟨hissued, hdoc⟩ := h.removing d n (List.mem_of_mem_erase hn)
  refine ⟨hissued, fun job hjob => hdoc job ?_⟩
  have hview := viewJobs_erase s.queue.keyspace.job jobId
  by_cases hjobId : n = jobId
  · subst hjobId
    simp [removeScript, jobs, Keyspace.removeScript, hview] at hjob
  · simpa [removeScript, jobs, Keyspace.removeScript, hview, hjobId] using hjob

/-- One command that removes only what it saw keeps the indexes in order. -/
theorem valid_of_step {command : RedisCommand} (h : s.Valid) (hok : RemovesWhatItSaw s command)
    (hstep : step s command s') : s'.Valid := by
  by_cases hno : NoRemoval s command
  · exact h.of_quiet (quiet_of_step h.indexed hno hstep)
  cases command with
  | removeLookup documentId =>
      obtain rfl := Option.some.inj hstep
      exact valid_removeLookup h documentId
  | removeScript documentId jobId =>
      simp only [step, stepOf, next] at hstep
      split at hstep
      · next hmem =>
          obtain rfl := Option.some.inj hstep
          exact valid_removeScript h hmem hok
      · cases hstep
  | _ => exact absurd trivial hno

/-- A removal script that runs after the document was given another job leaves
that job's hash without an entry in the documents hash. -/
theorem not_consistent_of_step {command : RedisCommand} (h : s.Valid)
    (hok : ¬RemovesWhatItSaw s command) (hstep : step s command s') :
    ¬s'.queue.keyspace.Consistent := by
  cases command with
  | removeScript documentId jobId =>
      simp only [step, stepOf, next] at hstep
      split at hstep
      swap
      · cases hstep
      obtain rfl := Option.some.inj hstep
      simp only [RemovesWhatItSaw, not_forall] at hok
      obtain ⟨id, hmap, hne⟩ := hok
      obtain ⟨fields, hfields, hdoc⟩ := h.indexed.mapped documentId id hmap
      intro hcons
      have howned := (hcons.owned id fields
        (by simpa [removeScript, Keyspace.removeScript, hne] using hfields) documentId).mpr hdoc.symm
      simp [removeScript, Keyspace.removeScript] at howned
  | _ => exact absurd trivial hok

end Step

/-! ## The indexes over a run -/

theorem valid_of_reachable {now : Nat} {s : RedisServer}
    (h : Reachable (StartedAt now) (Guarded RemovesWhatItSaw step) s) : s.Valid := by
  refine h.invariant Valid (fun s₀ hs => ?_)
    fun _ _ _ hvalid hstep => valid_of_step hvalid hstep.1 hstep.2
  rw [hs]
  exact valid_start now

/-- The indexes agree in every state of a run exactly when every removal script
in it runs while its document still has the job that its `HGET` returned, or has
none. -/
theorem consistent_iff_removesWhatItSaw (now : Nat) (run : List (RedisCommand × RedisServer))
    (hrun : Run step (start now) run) :
    AlwaysHolds (fun s => s.queue.keyspace.Consistent) (start now) run ↔
      StepsMeet RemovesWhatItSaw (start now) run :=
  alwaysHolds_iff_stepsMeet (fun _ hs => (valid_of_reachable hs).indexed.consistent)
    (fun _ _ _ hs hstep hok => not_consistent_of_step (valid_of_reachable hs) hok hstep)
    hrun (Reachable.start rfl)

/-- A removal reads `job-1`, which is then worked off; the document is enqueued
again as `job-2`, and the script of the removal takes its entry away. -/
def lateRemoval : List RedisCommand :=
  [.enqueue "document" firstJob correlation, .removeLookup "document",
   .claim "worker" 1000, .acknowledge "job-1" "worker" (some 1),
   .enqueue "document" secondJob correlation, .removeScript "document" "job-1"]

/-- The late removal ends with a job that its document does not lead to. -/
theorem lateRemoval_not_consistent :
    ∃ s, Reachable (StartedAt 0) step s ∧ ¬s.queue.keyspace.Consistent := by
  have hstart : StartedAt 0 (start 0) := rfl
  obtain ⟨s, hs, hlookup, hjob⟩ := exists_reachable_of_exec
    (fun s => s.queue.keyspace.documents.lookup "document" = none ∧
      (s.queue.keyspace.job.lookup "job-2").map RedisJob.documentId = some "document")
    next lateRemoval hstart (by decide)
  obtain ⟨fields, hfields, hdoc⟩ := Option.map_eq_some_iff.mp hjob
  refine ⟨s, hs, fun hcons => ?_⟩
  have howned := (hcons.owned "job-2" fields hfields "document").mpr hdoc.symm
  rw [hlookup] at howned
  cases howned

/-- The run of `lateRemoval` breaks the condition, and with it the indexes. -/
theorem consistent_iff_removesWhatItSaw_lateRemoval :
    AlwaysHolds (fun s => s.queue.keyspace.Consistent) (start 0) (trace next (start 0) lateRemoval) ↔
      StepsMeet RemovesWhatItSaw (start 0) (trace next (start 0) lateRemoval) :=
  consistent_iff_removesWhatItSaw 0 _ (run_trace (start 0) lateRemoval)

/-! ## Leases over a run without removals -/

/-- All four operations of a lease holder are refused, and change nothing. -/
def Refused (s : RedisServer) (jobId workerId : String) (fencingToken : Nat) : Prop :=
  (∃ e, assertLease s.queue s.now jobId workerId fencingToken = .error e) ∧
  (∀ leaseDurationMs, ∃ e,
    renew s.queue s.now jobId workerId fencingToken leaseDurationMs = (.error e, s.queue)) ∧
  (∃ e, acknowledge s.queue s.now jobId workerId (some fencingToken) = (.error e, s.queue)) ∧
  ∀ availableAt, ∃ e,
    release s.queue s.now jobId workerId availableAt (some fencingToken) = (.error e, s.queue)

/-- Everything but the lease test itself only adds reasons to refuse. -/
theorem refused_of_stale {s : RedisServer} {jobId workerId : String} {fencingToken : Nat}
    (h : s.queue.keyspace.leasedJob s.now jobId workerId fencingToken = .error "STALE_LEASE") :
    s.Refused jobId workerId fencingToken := by
  refine ⟨?_, fun leaseDurationMs => ?_, ?_, fun availableAt => ?_⟩
  · unfold assertLease
    split
    · exact ⟨_, rfl⟩
    · exact ⟨_, by simp only [Keyspace.assertLeaseScript, h]; rfl⟩
  · unfold renew
    split
    · exact ⟨_, rfl⟩
    split
    · exact ⟨_, by simp only [Keyspace.renewScript, h]; rfl⟩
    · exact ⟨_, rfl⟩
  · unfold acknowledge
    simp only [Option.getD_some]
    split
    · exact ⟨_, rfl⟩
    · exact ⟨_, by simp only [Keyspace.acknowledgeScript, h]; rfl⟩
  · unfold release
    simp only [Option.getD_some]
    split
    · exact ⟨_, rfl⟩
    split
    · exact ⟨_, by simp only [Keyspace.releaseScript, h]; rfl⟩
    · exact ⟨_, rfl⟩

/-- Who is not refused holds the lease of the job as its hash has it. -/
theorem owns_of_not_refused {s : RedisServer} {jobId workerId : String} {fencingToken : Nat}
    (h : ¬s.Refused jobId workerId fencingToken) :
    ∃ fields, s.queue.keyspace.job.lookup jobId = some fields ∧
      fields.workerId = workerId ∧ fields.fencingToken = fencingToken := by
  cases hlease : s.queue.keyspace.leasedJob s.now jobId workerId fencingToken with
  | error e =>
      have he : e = "STALE_LEASE" := by
        unfold Keyspace.leasedJob at hlease
        split at hlease
        · exact (Except.error.inj hlease).symm
        · split at hlease
          · cases hlease
          · exact (Except.error.inj hlease).symm
      exact absurd (refused_of_stale (he ▸ hlease)) h
  | ok fields =>
      obtain ⟨hfields, howns⟩ := Keyspace.leasedJob_eq_ok hlease
      obtain ⟨-, hworker, htoken, -⟩ := Keyspace.ownsLease_iff.mp howns
      exact ⟨fields, hfields, hworker, htoken⟩

/-- The job has had the token: it is gone for good, or its token is no smaller. -/
def HasReached (jobId : String) (fencingToken : Nat) (s : RedisServer) : Prop :=
  jobId ∈ s.issued ∧ ∀ job, s.queue.jobs jobId = some job → fencingToken ≤ job.fencingToken

section Leases

variable {s s' : RedisServer} {jobId : String} {fencingToken : Nat}

theorem HasReached.of_quiet (h : HasReached jobId fencingToken s) (hq : Quiet s s') :
    HasReached jobId fencingToken s' := by
  refine ⟨hq.issued h.1, fun job' hjob' => ?_⟩
  obtain ⟨job, hjob, -, hle⟩ := hq.keeps jobId h.1 job' hjob'
  exact (h.2 job hjob).trans hle

/-- A run without removals keeps the indexes and every token that was reached. -/
theorem hasReached_of_steps (hrun : Steps (Guarded NoRemoval step) s s')
    (hind : s.queue.keyspace.Indexed s.issued) (h : HasReached jobId fencingToken s) :
    s'.queue.keyspace.Indexed s'.issued ∧ HasReached jobId fencingToken s' :=
  hrun.preserves
    (fun s => s.queue.keyspace.Indexed s.issued ∧ HasReached jobId fencingToken s)
    (fun _ _ _ hinv hstep =>
      have hq := quiet_of_step hinv.1 hstep.1 hstep.2
      ⟨hq.indexed, hinv.2.of_quiet hq⟩)
    ⟨hind, h⟩

theorem indexed_of_reachable {now : Nat}
    (h : Reachable (StartedAt now) (Guarded NoRemoval step) s) :
    s.queue.keyspace.Indexed s.issued := by
  refine h.invariant (fun s => s.queue.keyspace.Indexed s.issued) (fun s₀ hs => ?_)
    fun _ _ _ hind hstep => (quiet_of_step hind hstep.1 hstep.2).indexed
  rw [hs]
  exact Keyspace.indexed_empty []

/-- A claim that returns a job has brought the job to its token. -/
theorem hasReached_of_claim {workerId : String} {leaseDurationMs : Nat}
    {claimed : DocumentProcessingJob} {queue : RedisDocumentProcessingQueue}
    (hind : s.queue.keyspace.Indexed s.issued)
    (hclaim : claim s.queue s.now workerId leaseDurationMs = (.ok (some claimed), queue)) :
    (∃ job, s.queue.jobs claimed.id = some job ∧ claimed.fencingToken = job.fencingToken + 1) ∧
    HasReached claimed.id claimed.fencingToken { s with queue := queue } := by
  obtain ⟨hind', hcases⟩ := claim_law s.now workerId leaseDurationMs hind
  rw [hclaim] at hind' hcases
  rcases hcases with ⟨-, hnone⟩ | ⟨id, job, hjob, hafter, hresult⟩
  · exact absurd rfl (hnone claimed)
  obtain ⟨other, hsome, rfl, -, htoken⟩ := hresult _ rfl
  obtain rfl := Option.some.inj hsome
  have hview : queue.jobs claimed.id = some ⟨job.documentId, job.fencingToken + 1⟩ := by
    rw [hafter, Function.update_self]
  refine ⟨⟨job, hjob, htoken⟩, ?_, fun job' hjob' => ?_⟩
  · obtain ⟨fields, hfields, -⟩ := viewJobs_eq_some.mp hview
    exact (hind'.named claimed.id fields hfields).2
  · rw [show ({ s with queue := queue } : RedisServer).queue = queue from rfl, hview] at hjob'
    rw [← Option.some.inj hjob', htoken]

/-- An older token than one the job has had is refused. -/
theorem HasReached.refused (h : HasReached jobId fencingToken s) {workerId : String} {older : Nat}
    (holder : older < fencingToken) : s.Refused jobId workerId older := by
  by_contra hpasses
  obtain ⟨fields, hfields, -, rfl⟩ := owns_of_not_refused hpasses
  have hle := h.2 fields.view (viewJobs_eq_some.mpr ⟨fields, hfields, rfl⟩)
  exact absurd holder (Nat.not_lt.mpr hle)

end Leases

/-- Leases are exclusive.  At any instant at most one worker and token are not
refused for a job.  Once a claim has returned a job, every later claim of it
returns a larger token, and every older token is refused from then on. -/
theorem leases_exclusive (now : Nat) (s : RedisServer)
    (h : Reachable (StartedAt now) (Guarded NoRemoval step) s) :
    (∀ jobId workerId workerId' fencingToken fencingToken',
      ¬s.Refused jobId workerId fencingToken → ¬s.Refused jobId workerId' fencingToken' →
      workerId = workerId' ∧ fencingToken = fencingToken') ∧
    ∀ workerId leaseDurationMs claimed queue,
      claim s.queue s.now workerId leaseDurationMs = (.ok (some claimed), queue) →
      ∀ s', Steps (Guarded NoRemoval step) { s with queue := queue } s' →
        (∀ workerId' leaseDurationMs' claimed' queue',
          claim s'.queue s'.now workerId' leaseDurationMs' = (.ok (some claimed'), queue') →
          claimed'.id = claimed.id → claimed.fencingToken < claimed'.fencingToken) ∧
        ∀ workerId' older, older < claimed.fencingToken → s'.Refused claimed.id workerId' older := by
  have hind := indexed_of_reachable h
  constructor
  · intro jobId workerId workerId' fencingToken fencingToken' hpasses hpasses'
    obtain ⟨fields, hfields, rfl, rfl⟩ := owns_of_not_refused hpasses
    obtain ⟨fields', hfields', rfl, rfl⟩ := owns_of_not_refused hpasses'
    obtain rfl := Option.some.inj (hfields.symm.trans hfields')
    exact ⟨rfl, rfl⟩
  · intro workerId leaseDurationMs claimed queue hclaim s' hrun
    obtain ⟨-, hreached⟩ := hasReached_of_claim hind hclaim
    have hind' : queue.keyspace.Indexed s.issued := by
      have hlaw := (claim_law s.now workerId leaseDurationMs hind).1
      rw [hclaim] at hlaw
      exact hlaw
    obtain ⟨hind'', hreached'⟩ := hasReached_of_steps hrun hind' hreached
    refine ⟨fun workerId' leaseDurationMs' claimed' queue' hclaim' hid => ?_,
      fun workerId' older holder => hreached'.refused holder⟩
    obtain ⟨⟨job, hjob, htoken⟩, -⟩ := hasReached_of_claim hind'' hclaim'
    have hle := hreached'.2 job (hid ▸ hjob)
    omega

/-- The server after one enqueue. -/
def oneJob : RedisServer :=
  { start 0 with
    issued := ["job-1"]
    queue := (enqueue RedisDocumentProcessingQueue.empty 0 "document" firstJob correlation).2 }

/-- Two workers claim the one job, the second after the lease of the first. -/
theorem leases_exclusive_oneJob :
    ∃ claimed queue, claim oneJob.queue oneJob.now "worker-1" 1000 = (.ok (some claimed), queue) ∧
      ∀ s', Steps (Guarded NoRemoval step) { oneJob with queue := queue } s' →
        s'.Refused "job-1" "worker-1" 0 ∧
        ∀ claimed' queue', claim s'.queue s'.now "worker-2" 1000 = (.ok (some claimed'), queue') →
          claimed'.id = "job-1" → 1 < claimed'.fencingToken := by
  have hstart : Reachable (StartedAt 0) (Guarded NoRemoval step) (start 0) := Reachable.start rfl
  have henqueue : Guarded NoRemoval step (start 0)
      (RedisCommand.enqueue "document" firstJob correlation) oneJob := ⟨trivial, rfl⟩
  refine ⟨_, _, rfl, fun s' hrun => ?_⟩
  obtain ⟨hlater, hrefused⟩ :=
    (leases_exclusive 0 oneJob (hstart.next henqueue)).2 "worker-1" 1000 _ _ rfl s' hrun
  exact ⟨hrefused "worker-1" 0 (by decide), hlater "worker-2" 1000⟩

end RedisServer

end AvantimePlatform.Queue
