import AvantimePlatform.Lib.Checked
import AvantimePlatform.Queue.Laws
import AvantimePlatform.Queue.RedisIndex

/-!
# The Redis queue keeps the laws

`RedisDocumentProcessingQueue` is an instance of `LawfulDocumentProcessingQueue`,
with `Keyspace.Indexed` as its invariant.  Each law is read off the script that
the operation runs; a reply that `parseJob` rejects makes the operation fail
after the script has taken effect, and the laws allow for that.
-/

namespace AvantimePlatform.Queue

open AvantimePlatform.Documents AvantimePlatform.Checked

/-! ## What the client reads back -/

theorem asInteger_eq_ok {value : Int} {field : String} {n : Nat}
    (h : asInteger value field = .ok n) : (n : Int) = value := by
  unfold asInteger at h
  split at h
  · next hrange =>
      rw [← Except.ok.inj h]
      exact Int.toNat_of_nonneg hrange.1
  · cases h

/-- A job that is read back carries the id, the document and the token of its
hash. -/
theorem parseJob_eq_ok {fields : RedisJob} {job : DocumentProcessingJob}
    (h : parseJob (some fields) = .ok job) :
    job.id = fields.id ∧ job.documentId = fields.documentId ∧
      job.fencingToken = fields.fencingToken := by
  simp only [parseJob] at h
  obtain ⟨version, -, h⟩ := bind_eq_ok.mp h
  obtain ⟨-, -, h⟩ := bind_eq_ok.mp h
  obtain ⟨enqueuedAt, -, h⟩ := bind_eq_ok.mp h
  obtain ⟨availableAt, -, h⟩ := bind_eq_ok.mp h
  obtain ⟨attempts, -, h⟩ := bind_eq_ok.mp h
  obtain ⟨fencingToken, htoken, h⟩ := bind_eq_ok.mp h
  obtain ⟨leaseExpiresAt, -, h⟩ := bind_eq_ok.mp h
  obtain ⟨-, -, h⟩ := bind_eq_ok.mp h
  obtain ⟨-, -, h⟩ := bind_eq_ok.mp h
  obtain ⟨-, -, h⟩ := bind_eq_ok.mp h
  obtain rfl := Except.ok.inj h
  exact ⟨rfl, rfl, by exact_mod_cast asInteger_eq_ok htoken⟩

/-! ## The view -/

/-- What the abstract view shows of a job hash. -/
def RedisJob.view (job : RedisJob) : JobView := ⟨job.documentId, job.fencingToken⟩

/-- The jobs of a table of job hashes. -/
def viewJobs (table : Table String RedisJob) : Jobs := fun id => (table.lookup id).map RedisJob.view

theorem viewJobs_eq_some {table : Table String RedisJob} {id : String} {job : JobView} :
    viewJobs table id = some job ↔ ∃ fields, table.lookup id = some fields ∧ fields.view = job :=
  Option.map_eq_some_iff

theorem viewJobs_insert (table : Table String RedisJob) (id : String) (job : RedisJob) :
    viewJobs (table.insert id job) = Function.update (viewJobs table) id (some job.view) := by
  funext n
  by_cases hn : n = id
  · subst hn
    simp [viewJobs]
  · simp [viewJobs, hn]

theorem viewJobs_erase (table : Table String RedisJob) (id : String) :
    viewJobs (table.erase id) = Function.update (viewJobs table) id none := by
  funext n
  by_cases hn : n = id
  · subst hn
    simp [viewJobs]
  · simp [viewJobs, hn]

/-- A write that leaves the document and the token of a job does not show. -/
theorem viewJobs_insert_same {table : Table String RedisJob} {id : String} {job job' : RedisJob}
    (hjob : table.lookup id = some job) (hview : job'.view = job.view) :
    viewJobs (table.insert id job') = viewJobs table := by
  rw [viewJobs_insert, hview, Function.update_eq_self_iff]
  simp [viewJobs, hjob]

namespace Keyspace

variable {k : Keyspace} {issued : List String}

/-- With the indexes in order, the documents hash knows which documents have a
job. -/
theorem Indexed.hasJob_iff (h : k.Indexed issued) {documentId : String} :
    (viewJobs k.job).HasJob documentId ↔ ∃ id, k.documents.lookup documentId = some id := by
  constructor
  · rintro ⟨id, job, hjob, rfl⟩
    obtain ⟨fields, hfields, rfl⟩ := viewJobs_eq_some.mp hjob
    exact ⟨id, h.owned id fields hfields⟩
  · rintro ⟨id, hid⟩
    obtain ⟨fields, hfields, hdoc⟩ := h.mapped documentId id hid
    exact ⟨id, fields.view, viewJobs_eq_some.mpr ⟨fields, hfields, rfl⟩, hdoc⟩

theorem Indexed.unique (h : k.Indexed issued) {id id' : String} {job job' : RedisJob}
    (hjob : k.job.lookup id = some job) (hjob' : k.job.lookup id' = some job')
    (hdoc : job.documentId = job'.documentId) : id = id' := by
  have hid := h.owned id job hjob
  rw [hdoc, h.owned id' job' hjob'] at hid
  exact (Option.some.inj hid).symm

theorem viewJobs_renewScript (nowMs : Nat) (jobId workerId : String)
    (fencingToken leaseDurationMs : Nat) :
    viewJobs (k.renewScript nowMs jobId workerId fencingToken leaseDurationMs).2.job =
      viewJobs k.job := by
  unfold renewScript
  split
  · rfl
  next job hlease => exact viewJobs_insert_same (leasedJob_eq_ok hlease).1 rfl

theorem viewJobs_releaseScript (nowMs : Nat) (jobId workerId : String)
    (fencingToken : Nat) (availableAtMs : Int) :
    viewJobs (k.releaseScript nowMs jobId workerId fencingToken availableAtMs).2.job =
      viewJobs k.job := by
  unfold releaseScript
  split
  · rfl
  next job hlease => exact viewJobs_insert_same (leasedJob_eq_ok hlease).1 rfl

/-- `acknowledgeScript` refuses a stale lease and changes nothing, or deletes the
job. -/
theorem acknowledgeScript_cases (nowMs : Nat) (jobId workerId : String) (fencingToken : Nat) :
    ((k.acknowledgeScript nowMs jobId workerId fencingToken).1 ≠ .ok () ∧
      (k.acknowledgeScript nowMs jobId workerId fencingToken).2 = k) ∨
    ∃ job, k.job.lookup jobId = some job ∧ job.fencingToken = fencingToken ∧
      k.acknowledgeScript nowMs jobId workerId fencingToken =
        (.ok (), k.removeScript job.documentId jobId) := by
  unfold acknowledgeScript
  split
  · exact Or.inl ⟨by simp, rfl⟩
  next job hlease =>
  obtain ⟨hjob, howns⟩ := leasedJob_eq_ok hlease
  exact Or.inr ⟨job, hjob, (ownsLease_iff.mp howns).2.2.1, rfl⟩

end Keyspace

/-! ## The laws -/

namespace RedisDocumentProcessingQueue

open Keyspace

variable {q : RedisDocumentProcessingQueue} {issued : List String}

/-- The jobs in the queue. -/
def jobs (q : RedisDocumentProcessingQueue) : Jobs := viewJobs q.keyspace.job

theorem enqueue_law (now : Nat) (documentId : String) (id correlationId : Uuid)
    (h : q.keyspace.Indexed issued) (hid : id.val ∉ issued) :
    (enqueue q now documentId id correlationId).2.keyspace.Indexed (id.val :: issued) ∧
    q.jobs.EnqueueCases documentId id.val (enqueue q now documentId id correlationId).1
      (enqueue q now documentId id correlationId).2.jobs := by
  unfold enqueue
  split
  · exact ⟨h.issue id.val, Or.inl ⟨rfl, by simp⟩⟩
  have hind := indexed_enqueueScript h hid now documentId correlationId.val
  refine ⟨by dsimp only; split <;> exact hind, ?_⟩
  cases hmap : q.keyspace.documents.lookup documentId with
  | some existing =>
      -- the document has a job, and the reply is its hash
      obtain ⟨fields, hfields, hdoc⟩ := h.mapped documentId existing hmap
      have hscript : q.keyspace.enqueueScript now documentId id.val correlationId.val =
          ((false, some fields), q.keyspace) := by simp [enqueueScript, hmap, hfields]
      rw [hscript]
      dsimp only
      split
      · exact Or.inl ⟨rfl, by simp⟩
      next job hparse =>
      refine Or.inl ⟨rfl, fun result hresult => ?_⟩
      obtain rfl := Except.ok.inj hresult
      obtain ⟨hjobid, -, -⟩ := parseJob_eq_ok hparse
      refine ⟨rfl, fields.view, viewJobs_eq_some.mpr ⟨fields, ?_, rfl⟩, hdoc⟩
      rw [hjobid, (h.named existing fields hfields).1]
      exact hfields
  | none =>
      have hnone : ¬q.jobs.HasJob documentId := by
        rw [jobs, h.hasJob_iff, hmap]
        simp
      simp only [enqueueScript, hmap]
      split
      · exact Or.inr ⟨hnone, viewJobs_insert _ _ _, by simp⟩
      next job hparse =>
      refine Or.inr ⟨hnone, viewJobs_insert _ _ _, fun result hresult => ?_⟩
      obtain rfl := Except.ok.inj hresult
      exact ⟨rfl, (parseJob_eq_ok hparse).1⟩

theorem claim_law (now : Nat) (workerId : String) (leaseDurationMs : Nat)
    (h : q.keyspace.Indexed issued) :
    (claim q now workerId leaseDurationMs).2.keyspace.Indexed issued ∧
    q.jobs.ClaimCases (claim q now workerId leaseDurationMs).1
      (claim q now workerId leaseDurationMs).2.jobs := by
  unfold claim
  split
  · exact ⟨h, Or.inl ⟨rfl, by simp⟩⟩
  split
  swap
  · exact ⟨h, Or.inl ⟨rfl, by simp⟩⟩
  have hind := indexed_claimScript h now workerId leaseDurationMs
  rcases claimScript_cases h now workerId leaseDurationMs with
    ⟨-, heq⟩ | ⟨jobId, job, ready, leased, -, hjob, heq, -⟩
  · rw [heq]
    exact ⟨h, Or.inl ⟨rfl, by simp⟩⟩
  · rw [heq] at hind ⊢
    have hview := viewJobs_insert q.keyspace.job jobId (claimedJob job now workerId leaseDurationMs)
    have hold := viewJobs_eq_some.mpr ⟨job, hjob, rfl⟩
    dsimp only
    split
    · exact ⟨hind, Or.inr ⟨jobId, job.view, hold, hview, by simp⟩⟩
    next claimed hparse =>
    refine ⟨hind, Or.inr ⟨jobId, job.view, hold, hview, fun result hresult => ?_⟩⟩
    obtain rfl := Except.ok.inj hresult
    obtain ⟨hid, hdoc, htoken⟩ := parseJob_eq_ok hparse
    exact ⟨claimed, rfl, hid.trans (h.named jobId job hjob).1, hdoc, htoken⟩

theorem renew_law (now : Nat) (jobId workerId : String) (fencingToken leaseDurationMs : Nat)
    (h : q.keyspace.Indexed issued) :
    (renew q now jobId workerId fencingToken leaseDurationMs).2.keyspace.Indexed issued ∧
    (renew q now jobId workerId fencingToken leaseDurationMs).2.jobs = q.jobs := by
  have hind := indexed_renewScript h now jobId workerId fencingToken leaseDurationMs
  have hview := viewJobs_renewScript (k := q.keyspace) now jobId workerId fencingToken
    leaseDurationMs
  unfold renew
  split
  · exact ⟨h, rfl⟩
  split
  swap
  · exact ⟨h, rfl⟩
  dsimp only
  split <;> exact ⟨hind, hview⟩

theorem acknowledge_law (now : Nat) (jobId workerId : String) (fencingToken : Option Nat)
    (h : q.keyspace.Indexed issued) :
    (acknowledge q now jobId workerId fencingToken).2.keyspace.Indexed issued ∧
    q.jobs.AcknowledgeCases jobId fencingToken (acknowledge q now jobId workerId fencingToken).1
      (acknowledge q now jobId workerId fencingToken).2.jobs := by
  have hind := indexed_acknowledgeScript h now jobId workerId (fencingToken.getD 0)
  unfold acknowledge
  dsimp only
  split
  · exact ⟨h, Or.inl ⟨rfl, by simp⟩⟩
  rcases acknowledgeScript_cases (k := q.keyspace) now jobId workerId (fencingToken.getD 0) with
    ⟨hrefused, hsame⟩ | ⟨job, hjob, htoken, heq⟩
  · refine ⟨hind, Or.inl ⟨?_, fun hok => absurd hok hrefused⟩⟩
    simp only [jobs, hsame]
  · refine ⟨hind, Or.inr ⟨job.view, viewJobs_eq_some.mpr ⟨job, hjob, rfl⟩, ?_, ?_, ?_⟩⟩
    · rw [heq]
      exact viewJobs_erase _ _
    · rw [heq]
    · rintro token rfl
      exact htoken

theorem release_law (now : Nat) (jobId workerId : String) (availableAt : Int)
    (fencingToken : Option Nat) (h : q.keyspace.Indexed issued) :
    (release q now jobId workerId availableAt fencingToken).2.keyspace.Indexed issued ∧
    (release q now jobId workerId availableAt fencingToken).2.jobs = q.jobs := by
  unfold release
  dsimp only
  split
  · exact ⟨h, rfl⟩
  split
  · exact ⟨indexed_releaseScript h now jobId workerId _ availableAt,
      viewJobs_releaseScript now jobId workerId _ availableAt⟩
  · exact ⟨h, rfl⟩

theorem remove_law (documentId : String) (h : q.keyspace.Indexed issued) :
    (removeForDocument q documentId).2.keyspace.Indexed issued ∧
    q.jobs.RemoveCases documentId (removeForDocument q documentId).1
      (removeForDocument q documentId).2.jobs := by
  unfold removeForDocument removeLookup
  split
  · exact ⟨h, Or.inl ⟨rfl, by simp⟩⟩
  split
  · next hmap =>
      refine ⟨h, Or.inr ⟨rfl, ?_⟩⟩
      -- the document has no job, so the filter drops nothing
      have hnone : ¬q.jobs.HasJob documentId := by
        rw [jobs, h.hasJob_iff, hmap]
        simp
      funext id
      exact (Jobs.removeDocument_of_ne fun job hjob hdoc => hnone ⟨id, job, hjob, hdoc⟩).symm
  · next jobId hmap =>
      obtain ⟨fields, hfields, rfl⟩ := h.mapped documentId jobId hmap
      refine ⟨h.delete hfields, Or.inr ⟨rfl, ?_⟩⟩
      refine (viewJobs_erase q.keyspace.job jobId).trans ?_
      funext id
      by_cases hid : id = jobId
      · subst hid
        rw [Function.update_self]
        exact (Jobs.removeDocument_of_eq (viewJobs_eq_some.mpr ⟨fields, hfields, rfl⟩) rfl).symm
      · rw [Function.update_of_ne hid]
        refine (Jobs.removeDocument_of_ne fun job hjob hdoc => ?_).symm
        obtain ⟨other, hother, rfl⟩ := viewJobs_eq_some.mp hjob
        exact hid (h.unique hother hfields hdoc)

instance : LawfulDocumentProcessingQueue RedisDocumentProcessingQueue where
  empty := empty
  jobs := jobs
  Valid q issued := q.keyspace.Indexed issued
  valid_empty := indexed_empty []
  jobs_empty := by
    funext id
    simp [jobs, viewJobs, empty, Keyspace.empty]
  jobs_issued := by
    intro q issued id job h hjob
    obtain ⟨fields, hfields, -⟩ := viewJobs_eq_some.mp hjob
    exact (h.named id fields hfields).2
  jobs_unique := by
    intro q issued id id' job job' h hjob hjob' hdoc
    obtain ⟨fields, hfields, rfl⟩ := viewJobs_eq_some.mp hjob
    obtain ⟨fields', hfields', rfl⟩ := viewJobs_eq_some.mp hjob'
    exact h.unique hfields hfields' hdoc
  enqueue_law := enqueue_law
  claim_law := claim_law
  renew_law := renew_law
  acknowledge_law := acknowledge_law
  release_law := release_law
  remove_law := remove_law

end RedisDocumentProcessingQueue

end AvantimePlatform.Queue
