import AvantimePlatform.Queue.Laws
import AvantimePlatform.Queue.Local

/-!
# The local queue keeps the laws

`LocalDocumentProcessingQueue` is an instance of `LawfulDocumentProcessingQueue`.
Its invariant is that no two jobs of the file share an id or a document.
-/

namespace AvantimePlatform.Queue

open AvantimePlatform.Documents

/-- What the abstract view shows of a stored job. -/
def StoredDocumentProcessingJob.view (job : StoredDocumentProcessingJob) : JobView :=
  ⟨job.documentId, job.fencingToken⟩

namespace LocalDocumentProcessingQueue

/-- The invariant of the file. -/
structure Valid (q : LocalDocumentProcessingQueue) (issued : List String) : Prop where
  ids : KeyedList.Distinct StoredDocumentProcessingJob.id q.jobs
  documents : KeyedList.Distinct StoredDocumentProcessingJob.documentId q.jobs
  named : ∀ job ∈ q.jobs, job.id ∈ issued

theorem valid_empty : empty.Valid [] :=
  ⟨List.nodup_nil, List.nodup_nil, by simp [empty]⟩

/-- The jobs of a file. -/
def viewJobs (jobs : List StoredDocumentProcessingJob) : Jobs :=
  fun id => (findJob id jobs).map StoredDocumentProcessingJob.view

variable {q : LocalDocumentProcessingQueue} {issued : List String}

theorem viewJobs_eq_some {jobs : List StoredDocumentProcessingJob} {id : String} {job : JobView} :
    viewJobs jobs id = some job ↔ ∃ stored, findJob id jobs = some stored ∧ stored.view = job :=
  Option.map_eq_some_iff

theorem read_eq_ok {jobs : List StoredDocumentProcessingJob} (h : q.read = .ok jobs) :
    jobs = q.jobs := by
  unfold read at h
  split at h
  · cases h
  · exact (Except.ok.inj h).symm

theorem findJob_id {id : String} {jobs : List StoredDocumentProcessingJob}
    {job : StoredDocumentProcessingJob} (h : findJob id jobs = some job) : job.id = id :=
  (KeyedList.find_eq_some h).2

/-- Writing a job back, with the document it had, keeps the invariant. -/
theorem Valid.setJob (h : q.Valid issued) {job old : StoredDocumentProcessingJob}
    (hold : findJob job.id q.jobs = some old) (hdoc : job.documentId = old.documentId) :
    Valid ⟨setJob q.jobs job⟩ issued where
  ids := KeyedList.distinct_put h.ids
  documents := by
    unfold KeyedList.Distinct LocalDocumentProcessingQueue.setJob
    rw [KeyedList.map_put h.ids hold hdoc]
    exact h.documents
  named := by
    intro other hother
    rcases KeyedList.mem_put hother with rfl | ⟨hmem, -⟩
    · have hid := findJob_id hold
      rw [← hid]
      exact h.named old (KeyedList.find_eq_some hold).1
    · exact h.named other hmem

theorem viewJobs_setJob {jobs : List StoredDocumentProcessingJob}
    {job old : StoredDocumentProcessingJob} (hold : findJob job.id jobs = some old) :
    viewJobs (setJob jobs job) = Function.update (viewJobs jobs) job.id (some job.view) := by
  funext id
  unfold viewJobs findJob setJob
  rw [KeyedList.find_put hold]
  by_cases hid : id = job.id
  · simp [hid]
  · rw [if_neg hid, Function.update_of_ne hid]

/-- A write that leaves the document and the token of a job does not show. -/
theorem viewJobs_setJob_same {jobs : List StoredDocumentProcessingJob}
    {job old : StoredDocumentProcessingJob} (hold : findJob job.id jobs = some old)
    (hview : job.view = old.view) : viewJobs (setJob jobs job) = viewJobs jobs := by
  rw [viewJobs_setJob hold, Function.update_eq_self_iff, hview]
  exact (viewJobs_eq_some.mpr ⟨old, hold, rfl⟩).symm

theorem Valid.unique (h : q.Valid issued) {first second : StoredDocumentProcessingJob}
    (hfirst : first ∈ q.jobs) (hsecond : second ∈ q.jobs)
    (hdoc : first.documentId = second.documentId) : first = second := by
  have hleft := KeyedList.find_of_mem h.documents hfirst
  rw [hdoc, KeyedList.find_of_mem h.documents hsecond] at hleft
  exact (Option.some.inj hleft).symm

theorem hasJob_iff (h : q.Valid issued) {documentId : String} :
    (viewJobs q.jobs).HasJob documentId ↔ ∃ job ∈ q.jobs, job.documentId = documentId := by
  constructor
  · rintro ⟨id, job, hjob, rfl⟩
    obtain ⟨stored, hstored, rfl⟩ := viewJobs_eq_some.mp hjob
    exact ⟨stored, (KeyedList.find_eq_some hstored).1, rfl⟩
  · rintro ⟨job, hmem, hdoc⟩
    exact ⟨job.id, job.view,
      viewJobs_eq_some.mpr ⟨job, KeyedList.find_of_mem h.ids hmem, rfl⟩, hdoc⟩

/-! ## The laws -/

/-- The job that a claim takes is one of the file. -/
theorem nextClaimable_mem {now : Nat} {jobs : List StoredDocumentProcessingJob}
    {job : StoredDocumentProcessingJob} (h : nextClaimable now jobs = some job) :
    job ∈ jobs ∧ isClaimable now job = true := by
  have hmem := List.mem_of_mem_head? (Option.mem_def.mpr h)
  rw [List.mem_insertionSort] at hmem
  exact List.mem_filter.mp hmem

theorem enqueue_law (now : Nat) (documentId : String) (id correlationId : Uuid)
    (h : q.Valid issued) (hid : id.val ∉ issued) :
    (enqueue q now documentId id correlationId).2.Valid (id.val :: issued) ∧
    (viewJobs q.jobs).EnqueueCases documentId id.val
      (enqueue q now documentId id correlationId).1
      (viewJobs (enqueue q now documentId id correlationId).2.jobs) := by
  have hissue : q.Valid (id.val :: issued) :=
    ⟨h.ids, h.documents, fun job hjob => List.mem_cons_of_mem _ (h.named job hjob)⟩
  unfold enqueue
  split
  · exact ⟨hissue, Or.inl ⟨rfl, by simp⟩⟩
  split
  · exact ⟨hissue, Or.inl ⟨rfl, by simp⟩⟩
  next jobs hread =>
  obtain rfl := read_eq_ok hread
  split
  · next existing hfind =>
      obtain ⟨hmem, hdoc⟩ := KeyedList.find_eq_some hfind
      refine ⟨hissue, Or.inl ⟨rfl, fun result hresult => ?_⟩⟩
      obtain rfl := Except.ok.inj hresult
      refine ⟨rfl, existing.view, ?_, hdoc⟩
      exact viewJobs_eq_some.mpr ⟨existing, KeyedList.find_of_mem h.ids hmem, rfl⟩
  · next hfind =>
      have hnone : ¬(viewJobs q.jobs).HasJob documentId := by
        rw [hasJob_iff h]
        rintro ⟨job, hmem, hdoc⟩
        exact KeyedList.find_eq_none.mp hfind job hmem hdoc
      have hnew : KeyedList.find StoredDocumentProcessingJob.id id.val q.jobs = none :=
        KeyedList.find_eq_none.mpr fun job hmem heq => hid (heq ▸ h.named job hmem)
      refine ⟨⟨KeyedList.distinct_append_new h.ids hnew,
        KeyedList.distinct_append_new h.documents hfind, fun job hjob => ?_⟩,
        Or.inr ⟨hnone, ?_, fun result hresult => ?_⟩⟩
      · rcases List.mem_append.mp hjob with hmem | hmem
        · exact List.mem_cons_of_mem _ (h.named job hmem)
        · rw [List.mem_singleton.mp hmem]
          exact List.mem_cons_self
      · funext n
        unfold viewJobs findJob
        rw [KeyedList.find_append_new hnew]
        by_cases hn : n = id.val
        · subst hn
          simp [StoredDocumentProcessingJob.view]
        · rw [if_neg hn, Function.update_of_ne hn]
      · obtain rfl := Except.ok.inj hresult
        exact ⟨rfl, rfl⟩

theorem claim_law (now : Nat) (workerId : String) (leaseDurationMs : Nat) (h : q.Valid issued) :
    (claim q now workerId leaseDurationMs).2.Valid issued ∧
    (viewJobs q.jobs).ClaimCases (claim q now workerId leaseDurationMs).1
      (viewJobs (claim q now workerId leaseDurationMs).2.jobs) := by
  unfold claim
  split
  · exact ⟨h, Or.inl ⟨rfl, by simp⟩⟩
  split
  swap
  · exact ⟨h, Or.inl ⟨rfl, by simp⟩⟩
  split
  · exact ⟨h, Or.inl ⟨rfl, by simp⟩⟩
  next jobs hread =>
  obtain rfl := read_eq_ok hread
  split
  · exact ⟨h, Or.inl ⟨rfl, by simp⟩⟩
  next claimable hnext =>
  split
  · exact ⟨h, Or.inl ⟨rfl, by simp⟩⟩
  next leaseExpiresAt _ =>
  have hfind := KeyedList.find_of_mem h.ids (nextClaimable_mem hnext).1
  refine ⟨h.setJob hfind rfl, Or.inr ⟨claimable.id, claimable.view,
    viewJobs_eq_some.mpr ⟨claimable, hfind, rfl⟩, viewJobs_setJob hfind, fun result hresult => ?_⟩⟩
  obtain rfl := Except.ok.inj hresult
  exact ⟨_, rfl, rfl, rfl, rfl⟩

theorem renew_law (now : Nat) (jobId workerId : String) (fencingToken leaseDurationMs : Nat)
    (h : q.Valid issued) :
    (renew q now jobId workerId fencingToken leaseDurationMs).2.Valid issued ∧
    viewJobs (renew q now jobId workerId fencingToken leaseDurationMs).2.jobs =
      viewJobs q.jobs := by
  unfold renew
  split
  · exact ⟨h, rfl⟩
  split
  swap
  · exact ⟨h, rfl⟩
  split
  · exact ⟨h, rfl⟩
  next jobs hread =>
  obtain rfl := read_eq_ok hread
  split
  · exact ⟨h, rfl⟩
  next job hfind =>
  obtain rfl := findJob_id hfind
  split
  swap
  · exact ⟨h, rfl⟩
  split
  swap
  · exact ⟨h, rfl⟩
  split
  · exact ⟨h, rfl⟩
  · exact ⟨h.setJob hfind rfl, viewJobs_setJob_same hfind rfl⟩

theorem acknowledge_law (now : Nat) (jobId workerId : String) (fencingToken : Option Nat)
    (h : q.Valid issued) :
    (acknowledge q now jobId workerId fencingToken).2.Valid issued ∧
    (viewJobs q.jobs).AcknowledgeCases jobId fencingToken
      (acknowledge q now jobId workerId fencingToken).1
      (viewJobs (acknowledge q now jobId workerId fencingToken).2.jobs) := by
  unfold acknowledge
  split
  · exact ⟨h, Or.inl ⟨rfl, by simp⟩⟩
  split
  · exact ⟨h, Or.inl ⟨rfl, by simp⟩⟩
  next jobs hread =>
  obtain rfl := read_eq_ok hread
  split
  · next hfind => exact ⟨h, Or.inl ⟨rfl, fun _ => by simp [viewJobs, hfind]⟩⟩
  next job hfind =>
  split
  swap
  · exact ⟨h, Or.inl ⟨rfl, by simp⟩⟩
  next howner =>
  have hsub : (KeyedList.erase StoredDocumentProcessingJob.id jobId q.jobs).Sublist q.jobs :=
    List.eraseP_sublist
  refine ⟨⟨KeyedList.distinct_erase h.ids, h.documents.sublist (hsub.map _),
    fun other hother => h.named other (hsub.subset hother)⟩,
    Or.inr ⟨job.view, viewJobs_eq_some.mpr ⟨job, hfind, rfl⟩, ?_, rfl, ?_⟩⟩
  · funext id
    unfold viewJobs findJob
    rw [KeyedList.find_erase h.ids]
    by_cases hid : id = jobId
    · simp [hid]
    · rw [if_neg hid, Function.update_of_ne hid]
  · rintro token rfl
    simp only [isClaimOwner, Option.getD_some, Bool.and_eq_true, beq_iff_eq] at howner
    exact howner.2

theorem release_law (now : Nat) (jobId workerId : String) (availableAt : Int)
    (fencingToken : Option Nat) (h : q.Valid issued) :
    (release q now jobId workerId availableAt fencingToken).2.Valid issued ∧
    viewJobs (release q now jobId workerId availableAt fencingToken).2.jobs =
      viewJobs q.jobs := by
  unfold release
  split
  · exact ⟨h, rfl⟩
  split
  swap
  · exact ⟨h, rfl⟩
  split
  · exact ⟨h, rfl⟩
  next jobs hread =>
  obtain rfl := read_eq_ok hread
  split
  · exact ⟨h, rfl⟩
  next job hfind =>
  obtain rfl := findJob_id hfind
  split
  · exact ⟨h.setJob hfind rfl, viewJobs_setJob_same hfind rfl⟩
  · exact ⟨h, rfl⟩

theorem remove_law (documentId : String) (h : q.Valid issued) :
    (removeForDocument q documentId).2.Valid issued ∧
    (viewJobs q.jobs).RemoveCases documentId (removeForDocument q documentId).1
      (viewJobs (removeForDocument q documentId).2.jobs) := by
  unfold removeForDocument
  split
  · exact ⟨h, Or.inl ⟨rfl, by simp⟩⟩
  split
  · exact ⟨h, Or.inl ⟨rfl, by simp⟩⟩
  next jobs hread =>
  obtain rfl := read_eq_ok hread
  have hsub : (q.jobs.filter fun job => job.documentId != documentId).Sublist q.jobs :=
    List.filter_sublist
  refine ⟨⟨h.ids.sublist (hsub.map _), h.documents.sublist (hsub.map _),
    fun job hjob => h.named job (hsub.subset hjob)⟩, Or.inr ⟨rfl, ?_⟩⟩
  funext id
  unfold viewJobs findJob
  rw [KeyedList.find_filter h.ids]
  cases hfind : KeyedList.find StoredDocumentProcessingJob.id id q.jobs with
  | none => simp [Jobs.removeDocument, hfind]
  | some job =>
      simp only [Jobs.removeDocument, hfind, Option.map_some, Option.filter_some,
        StoredDocumentProcessingJob.view]
      by_cases hdoc : job.documentId = documentId
      · simp [hdoc]
      · simp [hdoc, StoredDocumentProcessingJob.view]

instance : LawfulDocumentProcessingQueue LocalDocumentProcessingQueue where
  empty := empty
  jobs q := viewJobs q.jobs
  Valid := Valid
  valid_empty := valid_empty
  jobs_empty := rfl
  jobs_issued := by
    intro q issued id job h hjob
    obtain ⟨stored, hstored, -⟩ := viewJobs_eq_some.mp hjob
    obtain ⟨hmem, rfl⟩ := KeyedList.find_eq_some hstored
    exact h.named stored hmem
  jobs_unique := by
    intro q issued id id' job job' h hjob hjob' hdoc
    obtain ⟨stored, hstored, rfl⟩ := viewJobs_eq_some.mp hjob
    obtain ⟨stored', hstored', rfl⟩ := viewJobs_eq_some.mp hjob'
    obtain ⟨hmem, rfl⟩ := KeyedList.find_eq_some hstored
    obtain ⟨hmem', rfl⟩ := KeyedList.find_eq_some hstored'
    rw [h.unique hmem hmem' hdoc]
  enqueue_law := enqueue_law
  claim_law := claim_law
  renew_law := renew_law
  acknowledge_law := acknowledge_law
  release_law := release_law
  remove_law := remove_law

end LocalDocumentProcessingQueue

end AvantimePlatform.Queue
