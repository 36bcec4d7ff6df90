import AvantimePlatform.Lib.Interleaving
import AvantimePlatform.Queue.Redis

/-!
# The indexes of the Redis queue

One job lives in five Redis structures: its own hash, the documents hash that
maps its document to it, the jobs set, and one of the ready and leased sorted
sets.  `Keyspace.Consistent` says that the five agree.  `Keyspace.Indexed` is the
inductive form of it, which also says at which score a job is filed.

There are four groups.

* Two rules about the keyspace.  `Indexed.update` changes one job hash and files
  it again, `Indexed.delete` drops one job from all five structures.
* One lemma for each script.  Each is an instance of a rule.
* The clients.  Every command of every client is one step of an interleaved
  system; `removeForDocument` is two.
* The result.  `removeForDocument` is the only command that can break the
  indexes, and it does so exactly when, between its `HGET` and its script, the
  document has been given another job.
-/

namespace AvantimePlatform.Queue

open AvantimePlatform.Documents AvantimePlatform.Interleaving AvantimePlatform.Transition

namespace Keyspace

/-- The five structures agree. -/
structure Consistent (k : Keyspace) : Prop where
  /-- The documents hash maps a document to a job hash that exists and carries
  that document. -/
  mapped : ∀ documentId id, k.documents.lookup documentId = some id →
    ∃ job, k.job.lookup id = some job ∧ job.documentId = documentId
  /-- A job hash is mapped by its own document and by no other. -/
  owned : ∀ id job, k.job.lookup id = some job →
    ∀ documentId, k.documents.lookup documentId = some id ↔ documentId = job.documentId
  /-- The jobs set lists job hashes. -/
  listed : ∀ id ∈ k.jobs, ∃ job, k.job.lookup id = some job
  /-- A job is in exactly one of the two sorted sets. -/
  placed : ∀ id job, k.job.lookup id = some job →
    (k.ready.Contains id ∧ ¬k.leased.Contains id) ∨ (¬k.ready.Contains id ∧ k.leased.Contains id)

/-- Where a job is filed: a queued job in `ready` at the instant it becomes
available, a claimed one in `leased` at the deadline of its lease. -/
def Filed (k : Keyspace) (id : String) (job : RedisJob) : Prop :=
  match job.state with
  | .queued => k.ready.Scored id job.availableAtMs ∧ ¬k.leased.Contains id
  | .claimed => ¬k.ready.Contains id ∧
      ∃ deadline : Nat, job.leaseExpiresAtMs = some deadline ∧ k.leased.Scored id deadline

/-- The inductive form of `Consistent`.  `issued` are the ids that
`crypto.randomUUID()` has handed out. -/
structure Indexed (k : Keyspace) (issued : List String) : Prop where
  mapped : ∀ documentId id, k.documents.lookup documentId = some id →
    ∃ job, k.job.lookup id = some job ∧ job.documentId = documentId
  owned : ∀ id job, k.job.lookup id = some job → k.documents.lookup job.documentId = some id
  listed : ∀ id, id ∈ k.jobs ↔ ∃ job, k.job.lookup id = some job
  filed : ∀ id job, k.job.lookup id = some job → k.Filed id job
  members : ∀ id, k.ready.Contains id ∨ k.leased.Contains id → ∃ job, k.job.lookup id = some job
  named : ∀ id job, k.job.lookup id = some job → job.id = id ∧ id ∈ issued

theorem Filed.exactlyOne {k : Keyspace} {id : String} {job : RedisJob} (h : k.Filed id job) :
    (k.ready.Contains id ∧ ¬k.leased.Contains id) ∨
      (¬k.ready.Contains id ∧ k.leased.Contains id) := by
  unfold Filed at h
  split at h
  · exact Or.inl ⟨⟨_, h.1⟩, h.2⟩
  · obtain ⟨hready, deadline, -, hleased⟩ := h
    exact Or.inr ⟨hready, _, hleased⟩

theorem Indexed.consistent {k : Keyspace} {issued : List String} (h : k.Indexed issued) :
    k.Consistent where
  mapped := h.mapped
  owned := by
    intro id job hjob documentId
    constructor
    · intro hmap
      obtain ⟨job', hjob', hdoc⟩ := h.mapped documentId id hmap
      rw [hjob] at hjob'
      rw [← hdoc, Option.some.inj hjob']
    · rintro rfl
      exact h.owned id job hjob
  listed := fun id hid => (h.listed id).mp hid
  placed := fun id job hjob => (h.filed id job hjob).exactlyOne

theorem indexed_empty (issued : List String) : empty.Indexed issued where
  mapped := by simp [empty]
  owned := by simp [empty]
  listed := by simp [empty]
  filed := by simp [empty]
  members := by simp [empty, SortedSet.Contains]
  named := by simp [empty]

/-- Whatever `Filed` says about a job depends on the entries of that job only. -/
theorem Filed.congr {k k' : Keyspace} {id : String} {job : RedisJob}
    (hready : ∀ score, k'.ready.Scored id score ↔ k.ready.Scored id score)
    (hleased : ∀ score, k'.leased.Scored id score ↔ k.leased.Scored id score)
    (h : k.Filed id job) : k'.Filed id job := by
  unfold Filed at h ⊢
  simp only [SortedSet.Contains, hready, hleased] at h ⊢
  exact h

/-! ## The two rules -/

section Rules

variable {k : Keyspace} {issued : List String} {id : String} {job : RedisJob}

/-- Change one job hash and file the job again.  Its id and its document stay. -/
theorem Indexed.update (h : k.Indexed issued) (hjob : k.job.lookup id = some job)
    {job' : RedisJob} {ready leased : SortedSet Int String}
    (hid : job'.id = job.id) (hdoc : job'.documentId = job.documentId)
    (hready : ∀ n, n ≠ id → ∀ score, ready.Scored n score ↔ k.ready.Scored n score)
    (hleased : ∀ n, n ≠ id → ∀ score, leased.Scored n score ↔ k.leased.Scored n score)
    (hfiled : Filed ⟨k.documents, k.jobs, ready, leased, k.job⟩ id job') :
    Indexed ⟨k.documents, k.jobs, ready, leased, k.job.insert id job'⟩ issued where
  mapped := by
    intro documentId n hmap
    obtain ⟨old, hold, holddoc⟩ := h.mapped documentId n hmap
    by_cases hn : n = id
    · subst hn
      refine ⟨job', by simp, ?_⟩
      rw [hdoc, ← holddoc, Option.some.inj (hjob.symm.trans hold)]
    · exact ⟨old, by simp [hn, hold], holddoc⟩
  owned := by
    intro n other hother
    simp only [Table.lookup_insert] at hother
    split at hother
    · next hn =>
        subst hn
        rw [← Option.some.inj hother, hdoc]
        exact h.owned n job hjob
    · exact h.owned n other hother
  listed := by
    intro n
    by_cases hn : n = id
    · subst hn
      simpa [Table.lookup_insert] using (h.listed n).mpr ⟨job, hjob⟩
    · simpa [Table.lookup_insert, hn] using h.listed n
  filed := by
    intro n other hother
    simp only [Table.lookup_insert] at hother
    split at hother
    · next hn =>
        subst hn
        rw [← Option.some.inj hother]
        exact hfiled
    · next hn => exact (h.filed n other hother).congr (hready n hn) (hleased n hn)
  members := by
    intro n hmem
    by_cases hn : n = id
    · subst hn
      exact ⟨job', by simp⟩
    · have hold := h.members n
      simp only [SortedSet.Contains, hready n hn, hleased n hn] at hmem hold
      simpa [Table.lookup_insert, hn] using hold hmem
  named := by
    intro n other hother
    simp only [Table.lookup_insert] at hother
    split at hother
    · next hn =>
        subst hn
        rw [← Option.some.inj hother, hid]
        exact h.named n job hjob
    · exact h.named n other hother

/-- Drop one job, under its own document, from all five structures. -/
theorem Indexed.delete (h : k.Indexed issued) (hjob : k.job.lookup id = some job) :
    (k.removeScript job.documentId id).Indexed issued where
  mapped := by
    intro documentId n hmap
    simp only [removeScript, Table.lookup_erase] at hmap ⊢
    split at hmap
    · cases hmap
    · next hne =>
        obtain ⟨other, hother, hdoc⟩ := h.mapped documentId n hmap
        have hn : n ≠ id := by
          rintro rfl
          exact hne (by rw [← hdoc, Option.some.inj (hjob.symm.trans hother)])
        exact ⟨other, by simp [hn, hother], hdoc⟩
  owned := by
    intro n other hother
    simp only [removeScript, Table.lookup_erase] at hother ⊢
    split at hother
    · cases hother
    · next hn =>
        have hmap := h.owned n other hother
        have hne : other.documentId ≠ job.documentId := by
          intro heq
          rw [heq, h.owned id job hjob] at hmap
          exact hn (Option.some.inj hmap).symm
        simp [hne, hmap]
  listed := by
    intro n
    by_cases hn : n = id <;> simp [removeScript, Table.lookup_erase, hn, h.listed]
  filed := by
    intro n other hother
    simp only [removeScript, Table.lookup_erase] at hother
    split at hother
    · cases hother
    · next hn =>
        exact (h.filed n other hother).congr (by simp [removeScript, hn])
          (by simp [removeScript, hn])
  members := by
    intro n hmem
    simp only [removeScript, SortedSet.contains_zrem, Table.lookup_erase] at hmem ⊢
    rcases hmem with ⟨hn, hmem⟩ | ⟨hn, hmem⟩
    · simpa [hn] using h.members n (Or.inl hmem)
    · simpa [hn] using h.members n (Or.inr hmem)
  named := by
    intro n other hother
    simp only [removeScript, Table.lookup_erase] at hother
    split at hother
    · cases hother
    · exact h.named n other hother

end Rules

/-! ## The scripts -/

section Scripts

variable {k : Keyspace} {issued : List String}

/-- A further id has been handed out. -/
theorem Indexed.issue (h : k.Indexed issued) (id : String) : k.Indexed (id :: issued) where
  mapped := h.mapped
  owned := h.owned
  listed := h.listed
  filed := h.filed
  members := h.members
  named := fun n job hjob => ⟨(h.named n job hjob).1, List.mem_cons_of_mem _ (h.named n job hjob).2⟩

/-- No job hash, no set and no sorted set knows an id that was never issued. -/
theorem Indexed.fresh (h : k.Indexed issued) {id : String} (hid : id ∉ issued) :
    k.job.lookup id = none ∧ id ∉ k.jobs ∧ ¬k.ready.Contains id ∧ ¬k.leased.Contains id := by
  have hnone : ¬∃ job, k.job.lookup id = some job := by
    rintro ⟨job, hjob⟩
    exact hid (h.named id job hjob).2
  refine ⟨Option.eq_none_iff_forall_ne_some.mpr fun job hjob => hnone ⟨job, hjob⟩, ?_, ?_, ?_⟩
  · exact fun hmem => hnone ((h.listed id).mp hmem)
  · exact fun hmem => hnone (h.members id (Or.inl hmem))
  · exact fun hmem => hnone (h.members id (Or.inr hmem))

theorem indexed_enqueueScript (h : k.Indexed issued) {id : String} (hid : id ∉ issued)
    (nowMs : Nat) (documentId correlationId : String) :
    (k.enqueueScript nowMs documentId id correlationId).2.Indexed (id :: issued) := by
  unfold enqueueScript
  split
  · exact h.issue id
  next hfree =>
  obtain ⟨hnone, -, hready, hleased⟩ := h.fresh hid
  -- an older job keeps its id, so it is not the new one
  have hne : ∀ n job, k.job.lookup n = some job → n ≠ id := by
    rintro n job hjob rfl
    rw [hnone] at hjob
    cases hjob
  refine ⟨?_, ?_, ?_, ?_, ?_, ?_⟩
  · intro d n hmap
    simp only [Table.lookup_insert] at hmap ⊢
    split at hmap
    · next hd =>
        subst hd
        rw [Option.some.inj hmap]
        exact ⟨_, if_pos rfl, rfl⟩
    · obtain ⟨job, hjob, hdoc⟩ := h.mapped d n hmap
      exact ⟨job, by simp [hne n job hjob, hjob], hdoc⟩
  · intro n job hjob
    simp only [Table.lookup_insert] at hjob ⊢
    split at hjob
    · next hn =>
        rw [← Option.some.inj hjob, hn]
        simp
    · have hmap := h.owned n job hjob
      have hd : job.documentId ≠ documentId := by
        rintro heq
        rw [heq, hfree] at hmap
        cases hmap
      simp [hd, hmap]
  · intro n
    by_cases hn : n = id <;> simp [Table.lookup_insert, hn, h.listed]
  · intro n job hjob
    simp only [Table.lookup_insert] at hjob
    split at hjob
    · next hn =>
        rw [← Option.some.inj hjob, hn]
        simp [Filed, hleased]
    · next hn => exact (h.filed n job hjob).congr (by simp [hn]) (by simp)
  · intro n hmem
    by_cases hn : n = id
    · subst hn
      exact ⟨_, AList.lookup_insert k.job⟩
    · have hold := h.members n (by simpa [hn] using hmem)
      simpa [Table.lookup_insert, hn] using hold
  · intro n job hjob
    simp only [Table.lookup_insert] at hjob
    split at hjob
    · next hn =>
        rw [← Option.some.inj hjob, hn]
        exact ⟨rfl, List.mem_cons_self⟩
    · exact ⟨(h.named n job hjob).1, List.mem_cons_of_mem _ (h.named n job hjob).2⟩

/-- The candidate of a claim is a member of the set it is taken from. -/
theorem claimCandidate_contains {nowMs : Nat} {jobId : String}
    (h : k.claimCandidate nowMs = some jobId) :
    k.ready.Contains jobId ∨ k.leased.Contains jobId := by
  unfold claimCandidate at h
  split at h
  · next first hfirst =>
      obtain ⟨score, hscore, -⟩ := SortedSet.first_eq_some hfirst
      rw [← Option.some.inj h]
      exact Or.inr ⟨score, hscore⟩
  · obtain ⟨score, hscore, -⟩ := SortedSet.first_eq_some h
    exact Or.inl ⟨score, hscore⟩

/-- A claim of an indexed keyspace either finds nothing and changes nothing, or
takes a job, counts the attempt and files the job at its new deadline. -/
theorem claimScript_cases (h : k.Indexed issued) (nowMs : Nat) (workerId : String)
    (leaseDurationMs : Nat) :
    (k.claimCandidate nowMs = none ∧
      k.claimScript nowMs workerId leaseDurationMs = (none, k)) ∨
    ∃ jobId job ready leased,
      k.claimCandidate nowMs = some jobId ∧ k.job.lookup jobId = some job ∧
      k.claimScript nowMs workerId leaseDurationMs =
        (some (claimedJob job nowMs workerId leaseDurationMs),
          ⟨k.documents, k.jobs, ready, leased,
            k.job.insert jobId (claimedJob job nowMs workerId leaseDurationMs)⟩) ∧
      (∀ n, n ≠ jobId → ∀ score, ready.Scored n score ↔ k.ready.Scored n score) ∧
      (∀ n, n ≠ jobId → ∀ score, leased.Scored n score ↔ k.leased.Scored n score) ∧
      ¬ready.Contains jobId ∧ leased.Scored jobId ((nowMs : Int) + leaseDurationMs) := by
  cases hcand : k.claimCandidate nowMs with
  | none => exact Or.inl ⟨rfl, by simp [claimScript, hcand]⟩
  | some jobId =>
      obtain ⟨job, hjob⟩ := h.members jobId (claimCandidate_contains hcand)
      refine Or.inr ⟨jobId, job, (k.takeCandidate nowMs jobId).ready,
        (k.takeCandidate nowMs jobId).leased.zadd ((nowMs : Int) + leaseDurationMs) jobId,
        rfl, hjob, ?_, ?_, ?_, ?_, by simp⟩
      · have hkeep : (k.takeCandidate nowMs jobId).documents = k.documents ∧
            (k.takeCandidate nowMs jobId).jobs = k.jobs ∧
            (k.takeCandidate nowMs jobId).job = k.job := by
          unfold takeCandidate
          split <;> exact ⟨rfl, rfl, rfl⟩
        simp [claimScript, hcand, hjob, hkeep]
      · intro n hn score
        unfold takeCandidate
        split <;> simp [hn]
      · intro n hn score
        unfold takeCandidate
        split <;> simp [hn]
      · unfold takeCandidate
        split
        · next first hfirst =>
            -- taken from `leased`, so it was not in `ready`
            have hsame : first = jobId := by simpa [claimCandidate, hfirst] using hcand
            obtain ⟨score, hscore, -⟩ := SortedSet.first_eq_some hfirst
            have hleased : k.leased.Contains jobId := ⟨score, hsame ▸ hscore⟩
            rcases (h.filed jobId job hjob).exactlyOne with ⟨-, hnot⟩ | ⟨hnot, -⟩
            · exact absurd hleased hnot
            · exact hnot
        · simp

theorem indexed_claimScript (h : k.Indexed issued) (nowMs : Nat) (workerId : String)
    (leaseDurationMs : Nat) :
    (k.claimScript nowMs workerId leaseDurationMs).2.Indexed issued := by
  rcases claimScript_cases h nowMs workerId leaseDurationMs with
    ⟨-, heq⟩ | ⟨jobId, job, ready, leased, -, hjob, heq, hready, hleased, hnot, hscore⟩
  · rw [heq]
    exact h
  · rw [heq]
    refine h.update hjob rfl rfl hready hleased ⟨hnot, nowMs + leaseDurationMs, rfl, ?_⟩
    push_cast
    exact hscore

theorem leasedJob_eq_ok {nowMs : Nat} {jobId workerId : String} {fencingToken : Nat}
    {job : RedisJob} (h : k.leasedJob nowMs jobId workerId fencingToken = .ok job) :
    k.job.lookup jobId = some job ∧ ownsLease job nowMs workerId fencingToken = true := by
  unfold leasedJob at h
  split at h
  · cases h
  · next other hother =>
      split at h
      · next howns => exact Except.ok.inj h ▸ ⟨hother, howns⟩
      · cases h

theorem ownsLease_iff {job : RedisJob} {nowMs : Nat} {workerId : String} {fencingToken : Nat} :
    ownsLease job nowMs workerId fencingToken = true ↔
      job.state = .claimed ∧ job.workerId = workerId ∧ job.fencingToken = fencingToken ∧
        ∃ deadline, job.leaseExpiresAtMs = some deadline ∧ nowMs < deadline := by
  simp [ownsLease, Option.any_eq_true, and_assoc]

theorem indexed_renewScript (h : k.Indexed issued) (nowMs : Nat) (jobId workerId : String)
    (fencingToken leaseDurationMs : Nat) :
    (k.renewScript nowMs jobId workerId fencingToken leaseDurationMs).2.Indexed issued := by
  unfold renewScript
  split
  · exact h
  next job hlease =>
  obtain ⟨hjob, howns⟩ := leasedJob_eq_ok hlease
  obtain ⟨hstate, -⟩ := ownsLease_iff.mp howns
  have hfiled := h.filed jobId job hjob
  simp only [Filed, hstate] at hfiled
  refine h.update hjob rfl rfl (fun _ _ _ => Iff.rfl) (fun n hn score => by simp [hn]) ?_
  simp only [Filed, hstate]
  exact ⟨hfiled.1, nowMs + leaseDurationMs, rfl, by simp⟩

theorem indexed_acknowledgeScript (h : k.Indexed issued) (nowMs : Nat)
    (jobId workerId : String) (fencingToken : Nat) :
    (k.acknowledgeScript nowMs jobId workerId fencingToken).2.Indexed issued := by
  unfold acknowledgeScript
  split
  · exact h
  next job hlease => exact h.delete (leasedJob_eq_ok hlease).1

theorem indexed_releaseScript (h : k.Indexed issued) (nowMs : Nat) (jobId workerId : String)
    (fencingToken : Nat) (availableAtMs : Int) :
    (k.releaseScript nowMs jobId workerId fencingToken availableAtMs).2.Indexed issued := by
  unfold releaseScript
  split
  · exact h
  next job hlease =>
  refine h.update (leasedJob_eq_ok hlease).1 rfl rfl (fun n hn score => by simp [hn])
    (fun n hn score => by simp [hn]) ?_
  simp [Filed]

/-- The script of `removeForDocument` keeps the indexes when the document still
has the job that the `HGET` returned, or has none.  `hown` is what is left of
that `HGET`: the job has the document, if the job is still there. -/
theorem indexed_removeScript (h : k.Indexed issued) {documentId jobId : String}
    (hown : ∀ job, k.job.lookup jobId = some job → job.documentId = documentId)
    (hsame : ∀ id, k.documents.lookup documentId = some id → id = jobId) :
    (k.removeScript documentId jobId).Indexed issued := by
  cases hjob : k.job.lookup jobId with
  | some job =>
      rw [← hown job hjob]
      exact h.delete hjob
  | none =>
      -- the job has gone already, and its document with it
      have hnone : k.documents.lookup documentId = none := by
        rw [Option.eq_none_iff_forall_ne_some]
        intro id hid
        obtain ⟨job, hother, -⟩ := h.mapped documentId id hid
        rw [hsame id hid, hjob] at hother
        cases hother
      have hdocs : ∀ d, (k.documents.erase documentId).lookup d = k.documents.lookup d := by
        intro d
        by_cases hd : d = documentId
        · subst hd; simp [hnone]
        · simp [hd]
      have hjobs : ∀ n, (k.job.erase jobId).lookup n = k.job.lookup n := by
        intro n
        by_cases hn : n = jobId
        · subst hn; simp [hjob]
        · simp [hn]
      have hne : ∀ n job, k.job.lookup n = some job → n ≠ jobId := by
        rintro n job hn rfl
        rw [hjob] at hn
        cases hn
      refine ⟨?_, ?_, ?_, ?_, ?_, ?_⟩ <;> simp only [removeScript, hdocs, hjobs]
      · exact h.mapped
      · exact h.owned
      · intro n
        by_cases hn : n = jobId
        · subst hn; simp [hjob]
        · simp [hn, h.listed]
      · intro n job hn
        exact (h.filed n job hn).congr (by simp [hne n job hn])
          (by simp [hne n job hn])
      · intro n hmem
        simp only [SortedSet.contains_zrem] at hmem
        exact h.members n (hmem.imp And.right And.right)
      · exact h.named

end Scripts

end Keyspace

end AvantimePlatform.Queue
