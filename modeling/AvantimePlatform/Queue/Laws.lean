import AvantimePlatform.Queue.Interface

/-!
# The laws of a document queue

What the users of `DocumentProcessingQueue` rely on, as laws over an abstract
view of the adapter's state.  The view of a queue is the jobs in it: for each job
id, the document and the current fencing token, and nothing about leases.  Each
law says what one operation does to the view and what its outcome says about it.

`Jobs.Keeps` is the consequence that most proofs use: an id that has been handed
out keeps its document for ever and its token never falls, whatever operation
runs.
-/

namespace AvantimePlatform.Queue

open AvantimePlatform.Documents

/-- What the view shows of one job. -/
structure JobView where
  documentId : String
  fencingToken : Nat

/-- The jobs in a queue, by id. -/
abbrev Jobs := String → Option JobView

namespace Jobs

/-- The queue has a job for the document. -/
def HasJob (jobs : Jobs) (documentId : String) : Prop :=
  ∃ id job, jobs id = some job ∧ job.documentId = documentId

/-- A job in `after` whose id was handed out earlier was in `before`, for the
same document and with no larger token. -/
def Keeps (issued : List String) (before after : Jobs) : Prop :=
  ∀ id ∈ issued, ∀ job', after id = some job' →
    ∃ job, before id = some job ∧ job.documentId = job'.documentId ∧
      job.fencingToken ≤ job'.fencingToken

theorem Keeps.refl (issued : List String) (jobs : Jobs) : Keeps issued jobs jobs :=
  fun _ _ job hjob => ⟨job, hjob, rfl, Nat.le_refl _⟩

/-- The jobs without those of one document. -/
def removeDocument (jobs : Jobs) (documentId : String) : Jobs :=
  fun id => (jobs id).filter (fun job => job.documentId ≠ documentId)

theorem removeDocument_eq_some {jobs : Jobs} {documentId id : String} {job : JobView} :
    jobs.removeDocument documentId id = some job ↔
      jobs id = some job ∧ job.documentId ≠ documentId := by
  simp [removeDocument, Option.filter_eq_some_iff]

theorem removeDocument_of_ne {jobs : Jobs} {documentId id : String}
    (h : ∀ job, jobs id = some job → job.documentId ≠ documentId) :
    jobs.removeDocument documentId id = jobs id := by
  cases hjob : jobs id with
  | none => simp [removeDocument, hjob]
  | some job => exact removeDocument_eq_some.mpr ⟨hjob, h job hjob⟩

theorem removeDocument_of_eq {jobs : Jobs} {documentId id : String} {job : JobView}
    (hjob : jobs id = some job) (hdoc : job.documentId = documentId) :
    jobs.removeDocument documentId id = none := by
  rw [Option.eq_none_iff_forall_ne_some]
  intro other hother
  obtain ⟨hsame, hne⟩ := removeDocument_eq_some.mp hother
  rw [← Option.some.inj (hjob.symm.trans hsame)] at hne
  exact hne hdoc

/-- What `enqueue` may do: the document has a job already and nothing changes, or
it has none and gets one under the new id. -/
def EnqueueCases (jobs : Jobs) (documentId id : String)
    (outcome : Except String DocumentEnqueueResult) (after : Jobs) : Prop :=
  (after = jobs ∧ ∀ result, outcome = .ok result →
    result.enqueued = false ∧
      ∃ job, jobs result.job.id = some job ∧ job.documentId = documentId) ∨
  (¬jobs.HasJob documentId ∧ after = Function.update jobs id (some ⟨documentId, 0⟩) ∧
    ∀ result, outcome = .ok result → result.enqueued = true ∧ result.job.id = id)

/-- What `claim` may do: nothing, or count one more token for some job and
return that job. -/
def ClaimCases (jobs : Jobs) (outcome : Except String (Option DocumentProcessingJob))
    (after : Jobs) : Prop :=
  (after = jobs ∧ ∀ claimed, outcome ≠ .ok (some claimed)) ∨
  ∃ id job, jobs id = some job ∧
    after = Function.update jobs id
      (some { job with fencingToken := job.fencingToken + 1 }) ∧
    ∀ result, outcome = .ok result → ∃ claimed, result = some claimed ∧ claimed.id = id ∧
      claimed.documentId = job.documentId ∧ claimed.fencingToken = job.fencingToken + 1

/-- What `acknowledge` may do: nothing, and then an accepted one found no job, or
take the job away, and then the token it was given is the current one. -/
def AcknowledgeCases (jobs : Jobs) (jobId : String) (fencingToken : Option Nat)
    (outcome : Except String Unit) (after : Jobs) : Prop :=
  (after = jobs ∧ (outcome = .ok () → jobs jobId = none)) ∨
  (∃ job, jobs jobId = some job ∧ after = Function.update jobs jobId none ∧
    outcome = .ok () ∧ ∀ token, fencingToken = some token → job.fencingToken = token)

/-- What `removeForDocument` may do. -/
def RemoveCases (jobs : Jobs) (documentId : String) (outcome : Except String Unit)
    (after : Jobs) : Prop :=
  (after = jobs ∧ outcome ≠ .ok ()) ∨
  (outcome = .ok () ∧ after = jobs.removeDocument documentId)

end Jobs

/-- A queue adapter that keeps the laws.  `Valid q issued` is the adapter's own
invariant, relative to the ids that have been handed out. -/
class LawfulDocumentProcessingQueue (Q : Type) extends DocumentProcessingQueue Q where
  empty : Q
  jobs : Q → Jobs
  Valid : Q → List String → Prop
  valid_empty : Valid empty []
  jobs_empty : jobs empty = fun _ => none
  jobs_issued {q : Q} {issued : List String} {id : String} {job : JobView} :
    Valid q issued → jobs q id = some job → id ∈ issued
  jobs_unique {q : Q} {issued : List String} {id id' : String} {job job' : JobView} :
    Valid q issued → jobs q id = some job → jobs q id' = some job' →
      job.documentId = job'.documentId → id = id'
  enqueue_law {q : Q} {issued : List String} (now : Nat) (documentId : String)
    (id correlationId : Uuid) : Valid q issued → id.val ∉ issued →
    Valid (enqueue q now documentId id correlationId).2 (id.val :: issued) ∧
    (jobs q).EnqueueCases documentId id.val (enqueue q now documentId id correlationId).1
      (jobs (enqueue q now documentId id correlationId).2)
  claim_law {q : Q} {issued : List String} (now : Nat) (workerId : String)
    (leaseDurationMs : Nat) : Valid q issued →
    Valid (claim q now workerId leaseDurationMs).2 issued ∧
    (jobs q).ClaimCases (claim q now workerId leaseDurationMs).1
      (jobs (claim q now workerId leaseDurationMs).2)
  renew_law {q : Q} {issued : List String} (now : Nat) (jobId workerId : String)
    (fencingToken leaseDurationMs : Nat) : Valid q issued →
    Valid (renew q now jobId workerId fencingToken leaseDurationMs).2 issued ∧
    jobs (renew q now jobId workerId fencingToken leaseDurationMs).2 = jobs q
  acknowledge_law {q : Q} {issued : List String} (now : Nat) (jobId workerId : String)
    (fencingToken : Option Nat) : Valid q issued →
    Valid (acknowledge q now jobId workerId fencingToken).2 issued ∧
    (jobs q).AcknowledgeCases jobId fencingToken (acknowledge q now jobId workerId fencingToken).1
      (jobs (acknowledge q now jobId workerId fencingToken).2)
  release_law {q : Q} {issued : List String} (now : Nat) (jobId workerId : String)
    (availableAt : Int) (fencingToken : Option Nat) : Valid q issued →
    Valid (release q now jobId workerId availableAt fencingToken).2 issued ∧
    jobs (release q now jobId workerId availableAt fencingToken).2 = jobs q
  remove_law {q : Q} {issued : List String} (documentId : String) : Valid q issued →
    Valid (removeForDocument q documentId).2 issued ∧
    (jobs q).RemoveCases documentId (removeForDocument q documentId).1
      (jobs (removeForDocument q documentId).2)

/-! ## What every operation keeps -/

namespace Jobs

variable {issued : List String} {before after : Jobs}

theorem EnqueueCases.keeps {documentId id : String}
    {outcome : Except String DocumentEnqueueResult}
    (h : before.EnqueueCases documentId id outcome after) (hid : id ∉ issued) :
    Keeps issued before after := by
  rcases h with ⟨rfl, -⟩ | ⟨-, rfl, -⟩
  · exact Keeps.refl issued after
  · intro n hn job' hjob'
    have hne : n ≠ id := fun heq => hid (heq ▸ hn)
    rw [Function.update_of_ne hne] at hjob'
    exact ⟨job', hjob', rfl, Nat.le_refl _⟩

theorem ClaimCases.keeps {outcome : Except String (Option DocumentProcessingJob)}
    (h : before.ClaimCases outcome after) : Keeps issued before after := by
  rcases h with ⟨rfl, -⟩ | ⟨id, job, hjob, rfl, -⟩
  · exact Keeps.refl issued after
  · intro n _ job' hjob'
    by_cases hn : n = id
    · subst hn
      rw [Function.update_self] at hjob'
      obtain rfl := Option.some.inj hjob'
      exact ⟨job, hjob, rfl, Nat.le_succ _⟩
    · rw [Function.update_of_ne hn] at hjob'
      exact ⟨job', hjob', rfl, Nat.le_refl _⟩

theorem AcknowledgeCases.keeps {jobId : String} {fencingToken : Option Nat}
    {outcome : Except String Unit}
    (h : before.AcknowledgeCases jobId fencingToken outcome after) :
    Keeps issued before after := by
  rcases h with ⟨rfl, -⟩ | ⟨job, -, rfl, -⟩
  · exact Keeps.refl issued after
  · intro n _ job' hjob'
    have hne : n ≠ jobId := by
      rintro rfl
      simp at hjob'
    rw [Function.update_of_ne hne] at hjob'
    exact ⟨job', hjob', rfl, Nat.le_refl _⟩

theorem RemoveCases.keeps {documentId : String} {outcome : Except String Unit}
    (h : before.RemoveCases documentId outcome after) : Keeps issued before after := by
  rcases h with ⟨rfl, -⟩ | ⟨-, rfl⟩
  · exact Keeps.refl issued after
  · intro n _ job' hjob'
    exact ⟨job', (removeDocument_eq_some.mp hjob').1, rfl, Nat.le_refl _⟩

/-! ## Which documents have a job -/

/-- A job after the operation was there before, for the same document. -/
def From (before after : Jobs) (documentId : String) : Prop :=
  ∀ id job, after id = some job → job.documentId = documentId ∨
    ∃ old, before id = some old ∧ old.documentId = job.documentId

theorem EnqueueCases.hasJob {documentId id d : String}
    {outcome : Except String DocumentEnqueueResult}
    (h : before.EnqueueCases documentId id outcome after) (hnew : before id = none)
    (hjob : before.HasJob d) : after.HasJob d := by
  rcases h with ⟨rfl, -⟩ | ⟨-, rfl, -⟩
  · exact hjob
  · obtain ⟨n, job, hn, hdoc⟩ := hjob
    have hne : n ≠ id := by
      rintro rfl
      rw [hnew] at hn
      cases hn
    exact ⟨n, job, by rw [Function.update_of_ne hne, hn], hdoc⟩

/-- An enqueue that succeeds leaves a job for its document. -/
theorem EnqueueCases.hasJob_of_ok {documentId id : String}
    {outcome : Except String DocumentEnqueueResult} {result : DocumentEnqueueResult}
    (h : before.EnqueueCases documentId id outcome after) (hok : outcome = .ok result) :
    after.HasJob documentId := by
  rcases h with ⟨rfl, hresult⟩ | ⟨-, rfl, -⟩
  · obtain ⟨-, job, hjob, hdoc⟩ := hresult result hok
    exact ⟨_, job, hjob, hdoc⟩
  · exact ⟨id, _, Function.update_self .., rfl⟩

theorem EnqueueCases.from {documentId id : String}
    {outcome : Except String DocumentEnqueueResult}
    (h : before.EnqueueCases documentId id outcome after) : From before after documentId := by
  rcases h with ⟨rfl, -⟩ | ⟨-, rfl, -⟩
  · exact fun n job hn => Or.inr ⟨job, hn, rfl⟩
  · intro n job hn
    by_cases hid : n = id
    · subst hid
      rw [Function.update_self] at hn
      exact Or.inl (Option.some.inj hn ▸ rfl)
    · rw [Function.update_of_ne hid] at hn
      exact Or.inr ⟨job, hn, rfl⟩

theorem ClaimCases.hasJob {d : String} {outcome : Except String (Option DocumentProcessingJob)}
    (h : before.ClaimCases outcome after) (hjob : before.HasJob d) : after.HasJob d := by
  rcases h with ⟨rfl, -⟩ | ⟨id, old, hold, rfl, -⟩
  · exact hjob
  · obtain ⟨n, job, hn, hdoc⟩ := hjob
    by_cases hid : n = id
    · subst hid
      obtain rfl := Option.some.inj (hold.symm.trans hn)
      exact ⟨n, _, Function.update_self .., hdoc⟩
    · exact ⟨n, job, by rw [Function.update_of_ne hid, hn], hdoc⟩

theorem AcknowledgeCases.hasJob {jobId d : String} {fencingToken : Option Nat}
    {outcome : Except String Unit}
    (h : before.AcknowledgeCases jobId fencingToken outcome after)
    (hother : outcome = .ok () → ∀ job, before jobId = some job → job.documentId ≠ d)
    (hjob : before.HasJob d) : after.HasJob d := by
  rcases h with ⟨rfl, -⟩ | ⟨old, hold, rfl, hok, -⟩
  · exact hjob
  · obtain ⟨n, job, hn, hdoc⟩ := hjob
    have hne : n ≠ jobId := by
      rintro rfl
      exact hother hok job hn hdoc
    exact ⟨n, job, by rw [Function.update_of_ne hne, hn], hdoc⟩

theorem RemoveCases.hasJob {documentId d : String} {outcome : Except String Unit}
    (h : before.RemoveCases documentId outcome after)
    (hother : outcome = .ok () → documentId ≠ d) (hjob : before.HasJob d) : after.HasJob d := by
  rcases h with ⟨rfl, -⟩ | ⟨hok, rfl⟩
  · exact hjob
  · obtain ⟨n, job, hn, hdoc⟩ := hjob
    exact ⟨n, job, removeDocument_eq_some.mpr ⟨hn, fun heq => hother hok (heq.symm.trans hdoc)⟩,
      hdoc⟩

end Jobs

end AvantimePlatform.Queue
