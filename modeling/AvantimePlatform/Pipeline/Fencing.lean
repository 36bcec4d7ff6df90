import AvantimePlatform.Pipeline.Writes
import AvantimePlatform.Queue.LocalLaws

/-!
# Fencing tokens in the metadata

Once the record of a document carries a fencing token, no worker that holds a smaller
token for the same job should write it, and the recorded token should not fall while
the job is in the queue.  Both are facts about a run and its history.

Every write of a run that works on its document is fenced by worker id and token.  The
claim transition is not: it comes after the claim of the queue as a step of its own,
and takes whatever token is recorded.  `ClaimInOrder` is the condition that no claim
transition comes too late, and that none lets a superseded run through the fence by
giving the document its worker id and token again.
-/

namespace AvantimePlatform.Pipeline

open AvantimePlatform.Documents AvantimePlatform.Queue AvantimePlatform.Interleaving
open AvantimePlatform.Transition

variable {Q : Type} [LawfulDocumentProcessingQueue Q]

/-- What has happened to the pipeline. -/
abbrev Past (Q : Type) := History (World (Stores Q) Call) (Event Env Call Input)

/-- The write that a step is, if it is a worker's and takes effect. -/
def stepWrite (config : WorkerConfig) (w : World (Stores Q) Call) :
    Event Env Call Input → Option WorkerWrite
  | .advance _ .die => none
  | .advance i input => (w.locals[i]?).bind (workerWrite config w.shared input)
  | _ => none

/-- The writes of the workers, newest first. -/
def writes (config : WorkerConfig) (past : Past Q) : List WorkerWrite :=
  past.filterMap fun entry => stepWrite config entry.1 entry.2

/-- Fencing tokens are respected. -/
structure FencingRespected (config : WorkerConfig) (past : Past Q) (w : World (Stores Q) Call) :
    Prop where
  /-- No write comes from a worker with a smaller token than one that an earlier write
  for the same job left in the record. -/
  ordered : (writes config past).Pairwise fun later earlier =>
    later.documentId = earlier.documentId → later.jobId = earlier.jobId →
      earlier.recorded ≤ later.fencingToken
  /-- While a job is in the queue, the recorded token of its document does not fall. -/
  monotone : ∀ entry ∈ past, ∀ jobId job, entry.1.shared.jobs jobId = some job →
    (∃ job', w.shared.jobs jobId = some job') → ∀ document document',
    entry.1.shared.documents.lookup job.documentId = some document →
    w.shared.documents.lookup job.documentId = some document' →
    document.processingFencingToken ≤ document'.processingFencingToken

/-! ## The condition -/

/-- The token of the run is not behind what was written for the job. -/
def UpToDate (config : WorkerConfig) (past : Past Q) (documentId jobId : String)
    (fencingToken : Nat) : Prop :=
  ∀ write ∈ writes config past, write.documentId = documentId → write.jobId = jobId →
    write.recorded ≤ fencingToken

/-- A claim transition that takes effect does not come too late, and the pair of worker
id and token that it records is not that of a superseded run. -/
def ClaimInOrder (config : WorkerConfig) (past : Past Q) (w : World (Stores Q) Call)
    (run : ClaimedJob) : Prop :=
  ∀ document, w.shared.documents.lookup run.documentId = some document →
    document.status.IsActive →
    UpToDate config past run.documentId run.job.id run.fencingToken ∧
    (w.shared.jobs.HasJob run.documentId → document.processingFencingToken ≤ run.fencingToken) ∧
    ∀ call ∈ w.locals, ∀ other, call.working = some other →
      other.documentId = run.documentId → other.leaseGuard = run.leaseGuard →
      UpToDate config past other.documentId other.job.id other.fencingToken

/-- A worker that dies makes no request. -/
def StepInOrder (config : WorkerConfig) (past : Past Q) (w : World (Stores Q) Call) :
    Event Env Call Input → Prop
  | .advance _ .die => True
  | .advance i _ => ∀ run attempts,
    w.locals[i]? = some (.worker (.transitionProcessing run attempts)) →
    ClaimInOrder config past w run
  | _ => True

/-! ## The invariant -/

/-- The history and the state fit together, and no current run is superseded. -/
structure Fenced (config : WorkerConfig) (past : Past Q) (w : World (Stores Q) Call) : Prop where
  valid : LawfulDocumentProcessingQueue.Valid w.shared.queue w.shared.issued
  jobs : ∀ entry ∈ past, ∀ jobId job, entry.1.shared.jobs jobId = some job →
    jobId ∈ w.shared.issued ∧
      ∀ job', w.shared.jobs jobId = some job' → job'.documentId = job.documentId
  known : ∀ entry ∈ past, ∀ documentId, Known entry.1.shared documentId → Known w.shared documentId
  left : ∀ write ∈ writes config past, LeftUploaded w.shared write.documentId
  respected : FencingRespected config past w
  current : ∀ call ∈ w.locals, ∀ run, call.working = some run → Current w.shared run →
    UpToDate config past run.documentId run.job.id run.fencingToken

variable {config : WorkerConfig} {past : Past Q} {w w' : World (Stores Q) Call}
  {ev : Event Env Call Input}

/-- What a step has to show beyond the queue to keep the invariant. -/
structure WritesInOrder (config : WorkerConfig) (past : Past Q) (w : World (Stores Q) Call)
    (ev : Event Env Call Input) (w' : World (Stores Q) Call) : Prop where
  known : ∀ documentId, Known w.shared documentId → Known w'.shared documentId
  left : ∀ documentId, LeftUploaded w.shared documentId → LeftUploaded w'.shared documentId
  token : ∀ documentId, w.shared.jobs.HasJob documentId → ∀ document document',
    w.shared.documents.lookup documentId = some document →
    w'.shared.documents.lookup documentId = some document' →
    document.processingFencingToken ≤ document'.processingFencingToken
  write : ∀ write ∈ stepWrite config w ev, LeftUploaded w'.shared write.documentId ∧
    UpToDate config past write.documentId write.jobId write.fencingToken
  current : ∀ call ∈ w'.locals, ∀ run, call.working = some run → Current w'.shared run →
    UpToDate config past run.documentId run.job.id run.fencingToken ∧
    ∀ write ∈ stepWrite config w ev, write.documentId = run.documentId →
      write.jobId = run.job.id → write.recorded ≤ run.fencingToken

omit [LawfulDocumentProcessingQueue Q] in
theorem writes_cons : writes config ((w, ev) :: past) =
    (stepWrite config w ev).toList ++ writes config past := by
  unfold writes
  rw [List.filterMap_cons]
  cases stepWrite config w ev <;> rfl

omit [LawfulDocumentProcessingQueue Q] in
theorem mem_writes_cons {write : WorkerWrite} (h : write ∈ writes config ((w, ev) :: past)) :
    write ∈ stepWrite config w ev ∨ write ∈ writes config past := by
  rw [writes_cons, List.mem_append, Option.mem_toList] at h
  exact h

theorem Fenced.next (h : Fenced config past w) (hqueue : QueueGoesOn w.shared w'.shared)
    (horder : WritesInOrder config past w ev w') : Fenced config ((w, ev) :: past) w' where
  valid := hqueue.valid
  jobs := by
    intro entry hentry jobId job hjob
    rcases List.mem_cons.mp hentry with rfl | hmem
    · have hissued := LawfulDocumentProcessingQueue.jobs_issued h.valid hjob
      refine ⟨hqueue.issued hissued, fun job' hjob' => ?_⟩
      obtain ⟨old, hold, hdoc, -⟩ := hqueue.keeps jobId hissued job' hjob'
      obtain rfl := Option.some.inj (hjob.symm.trans hold)
      exact hdoc.symm
    · obtain ⟨hissued, hsame⟩ := h.jobs entry hmem jobId job hjob
      refine ⟨hqueue.issued hissued, fun job' hjob' => ?_⟩
      obtain ⟨old, hold, hdoc, -⟩ := hqueue.keeps jobId hissued job' hjob'
      exact hdoc.symm.trans (hsame old hold)
  known := by
    intro entry hentry documentId hknown
    rcases List.mem_cons.mp hentry with rfl | hmem
    · exact horder.known documentId hknown
    · exact horder.known documentId (h.known entry hmem documentId hknown)
  left := by
    intro write hwrite
    rcases mem_writes_cons hwrite with hnew | hold
    · exact (horder.write write hnew).1
    · exact horder.left _ (h.left write hold)
  respected := by
    refine ⟨?_, fun entry hentry jobId job hjob hjob' document document' hdocument hdocument' => ?_⟩
    · rw [writes_cons]
      cases hstep : stepWrite config w ev with
      | none => exact h.respected.ordered
      | some write =>
          refine List.pairwise_cons.mpr ⟨fun earlier hearlier hd hj => ?_, h.respected.ordered⟩
          exact (horder.write write hstep).2 earlier hearlier hd.symm hj.symm
    · obtain ⟨job', hjob'⟩ := hjob'
      rcases List.mem_cons.mp hentry with rfl | hmem
      · exact horder.token job.documentId ⟨jobId, job, hjob, rfl⟩ document document' hdocument
          hdocument'
      · -- The job has been in the queue all the time, so it is there just before the step.
        obtain ⟨hissued, hsame⟩ := h.jobs entry hmem jobId job hjob
        obtain ⟨between, hbetween, -, -⟩ := hqueue.keeps jobId hissued job' hjob'
        obtain ⟨middle, hmiddle⟩ := h.known entry hmem job.documentId ⟨document, hdocument⟩
        calc document.processingFencingToken
            ≤ middle.processingFencingToken :=
              h.respected.monotone entry hmem jobId job hjob ⟨between, hbetween⟩ document middle
                hdocument hmiddle
          _ ≤ document'.processingFencingToken :=
              horder.token job.documentId ⟨jobId, between, hbetween, hsame between hbetween⟩ middle
                document' hmiddle hdocument'
  current := by
    intro call hcall run hworking hcurrent write hwrite hd hj
    obtain ⟨hold, hnew⟩ := horder.current call hcall run hworking hcurrent
    rcases mem_writes_cons hwrite with hmem | hmem
    · exact hnew write hmem hd hj
    · exact hold write hmem hd hj

/-! ## The steps -/

/-- A step that writes no document.  A run that begins to work is one whose claim is
in order. -/
theorem writesInOrder_of_same (h : Fenced config past w)
    (hdocuments : w'.shared.documents = w.shared.documents)
    (hwrite : stepWrite config w ev = none)
    (hlocals : ∀ call ∈ w'.locals, ∀ run, call.working = some run →
      (∃ old ∈ w.locals, old.working = some run) ∨ ClaimInOrder config past w run) :
    WritesInOrder config past w ev w' where
  known := by
    intro documentId hknown
    unfold Known
    rw [hdocuments]
    exact hknown
  left := by
    intro documentId hleft
    unfold LeftUploaded
    rw [hdocuments]
    exact hleft
  token := by
    intro documentId _ document document' hdocument hdocument'
    rw [hdocuments] at hdocument'
    obtain rfl := Option.some.inj (hdocument.symm.trans hdocument')
    exact Nat.le_refl _
  write := by simp [hwrite]
  current := by
    intro call hcall run hworking hcurrent
    refine ⟨?_, by simp [hwrite]⟩
    obtain ⟨document, hdocument, hprocessing, hholds⟩ := hcurrent
    rw [hdocuments] at hdocument
    rcases hlocals call hcall run hworking with ⟨old, hold, hsame⟩ | hclaim
    · exact h.current old hold run hsame ⟨document, hdocument, hprocessing, hholds⟩
    · exact (hclaim document hdocument (Or.inr hprocessing)).1

omit [LawfulDocumentProcessingQueue Q] in
/-- What an insert for a document leaves of the other facts about documents. -/
theorem lookup_of_insert {documentId : String} {written : DocumentMetadata}
    (hdocuments : w'.shared.documents = w.shared.documents.insert documentId written)
    (d : String) : w'.shared.documents.lookup d =
      if d = documentId then some written else w.shared.documents.lookup d := by
  rw [hdocuments, Table.lookup_insert]

omit [LawfulDocumentProcessingQueue Q] in
theorem known_of_insert {documentId : String} {written : DocumentMetadata}
    (hdocuments : w'.shared.documents = w.shared.documents.insert documentId written) (d : String)
    (hknown : Known w.shared d) : Known w'.shared d := by
  unfold Known
  rw [lookup_of_insert hdocuments]
  split
  · exact ⟨written, rfl⟩
  · exact hknown

omit [LawfulDocumentProcessingQueue Q] in
theorem left_of_insert {documentId : String} {written : DocumentMetadata}
    (hdocuments : w'.shared.documents = w.shared.documents.insert documentId written)
    (hleft : written.status ≠ .uploaded) (d : String) (h : LeftUploaded w.shared d) :
    LeftUploaded w'.shared d := by
  unfold LeftUploaded
  rw [lookup_of_insert hdocuments]
  split
  · exact ⟨written, rfl, hleft⟩
  · exact h

/-- A write that leaves the token, and makes no run current that was not. -/
theorem writesInOrder_of_insert (h : Fenced config past w) {documentId : String}
    {document : DocumentMetadata} {changes : UpdateDocumentMetadata}
    {nextStatus : DocumentProcessingStatus}
    (hdocument : w.shared.documents.lookup documentId = some document)
    (hdocuments : w'.shared.documents =
      w.shared.documents.insert documentId (document.update changes nextStatus))
    (hnext : nextStatus ≠ .uploaded) (htoken : changes.processingFencingToken = none)
    (hholder : nextStatus = .processing →
      document.status = .processing ∧ changes.workerId = none)
    (hwrite : ∀ write ∈ stepWrite config w ev, write.documentId = documentId ∧
      write.recorded = document.processingFencingToken ∧
      UpToDate config past write.documentId write.jobId write.fencingToken)
    (hlocals : ∀ call ∈ w'.locals, ∀ run, call.working = some run →
      ∃ old ∈ w.locals, old.working = some run) :
    WritesInOrder config past w ev w' where
  known := known_of_insert hdocuments
  left := left_of_insert hdocuments hnext
  token := by
    intro d _ old new hold hnew
    rw [lookup_of_insert hdocuments] at hnew
    split at hnew
    · next hd =>
        subst hd
        obtain rfl := Option.some.inj hnew
        obtain rfl := Option.some.inj (hdocument.symm.trans hold)
        simp [DocumentMetadata.update, htoken]
    · obtain rfl := Option.some.inj (hold.symm.trans hnew)
      exact Nat.le_refl _
  write := by
    intro write hmem
    obtain ⟨hd, -, huptodate⟩ := hwrite write hmem
    refine ⟨⟨document.update changes nextStatus, ?_, hnext⟩, huptodate⟩
    rw [lookup_of_insert hdocuments, if_pos hd]
  current := by
    intro call hcall run hworking hcurrent
    obtain ⟨old, hold, hsame⟩ := hlocals call hcall run hworking
    obtain ⟨new, hnew, hprocessing, hholds⟩ := hcurrent
    rw [lookup_of_insert hdocuments] at hnew
    split at hnew
    · next hd =>
        obtain rfl := Option.some.inj hnew
        obtain ⟨hwas, hworker⟩ := hholder hprocessing
        have hheld : run.leaseGuard.Holds document := by
          simpa [DocumentLeaseGuard.Holds, DocumentMetadata.update, htoken, hworker] using hholds
        refine ⟨h.current old hold run hsame ⟨document, hd ▸ hdocument, hwas, hheld⟩,
          fun write hmem _ _ => ?_⟩
        rw [(hwrite write hmem).2.1, hheld.2]
        exact Nat.le_refl _
    · next hd =>
        refine ⟨h.current old hold run hsame ⟨new, hnew, hprocessing, hholds⟩,
          fun write hmem hsamed _ => absurd ((hwrite write hmem).1 ▸ hsamed.symm) hd⟩

/-- A claim transition that is in order. -/
theorem writesInOrder_of_claim (h : Fenced config past w) {run : ClaimedJob} {attempts : Nat}
    {document : DocumentMetadata} (hclaim : ClaimInOrder config past w run)
    (hdocument : w.shared.documents.lookup run.documentId = some document)
    (hstatus : document.status.IsActive)
    (hdocuments : w'.shared.documents = w.shared.documents.insert run.documentId
      (document.update (Worker.claimChanges w.shared.now run attempts) .processing))
    (hwrite : stepWrite config w ev = some (run.wrote
      (document.update (Worker.claimChanges w.shared.now run attempts) .processing)))
    (hlocals : ∀ call ∈ w'.locals, ∀ other, call.working = some other →
      (∃ old ∈ w.locals, old.working = some other) ∨ other = run) :
    WritesInOrder config past w ev w' where
  known := known_of_insert hdocuments
  left := left_of_insert hdocuments nofun
  token := by
    intro d hjob old new hold hnew
    rw [lookup_of_insert hdocuments] at hnew
    split at hnew
    · next hd =>
        subst hd
        obtain rfl := Option.some.inj hnew
        obtain rfl := Option.some.inj (hdocument.symm.trans hold)
        exact (hclaim document hdocument hstatus).2.1 hjob
    · obtain rfl := Option.some.inj (hold.symm.trans hnew)
      exact Nat.le_refl _
  write := by
    intro write hmem
    rw [hwrite] at hmem
    obtain rfl := Option.some.inj hmem
    refine ⟨⟨document.update (Worker.claimChanges w.shared.now run attempts) .processing, ?_,
      nofun⟩, (hclaim document hdocument hstatus).1⟩
    exact (lookup_of_insert hdocuments _).trans (if_pos rfl)
  current := by
    intro call hcall other hworking hcurrent
    obtain ⟨new, hnew, hprocessing, hholds⟩ := hcurrent
    rw [lookup_of_insert hdocuments] at hnew
    rw [hwrite]
    split at hnew
    · next hd =>
        obtain rfl := Option.some.inj hnew
        -- The claim makes current the runs with its own worker id and token.
        have hguard : other.leaseGuard = run.leaseGuard := by
          obtain ⟨hworker, htoken⟩ := hholds
          exact DocumentLeaseGuard.mk.injEq .. ▸
            ⟨(Option.some.inj hworker).symm, htoken.symm⟩
        refine ⟨?_, fun write hmem _ _ => ?_⟩
        · rcases hlocals call hcall other hworking with ⟨old, hold, hsame⟩ | rfl
          · exact (hclaim document hdocument hstatus).2.2 old hold other hsame hd hguard
          · exact (hclaim document hdocument hstatus).1
        · obtain rfl := Option.some.inj hmem
          exact Nat.le_of_eq (congrArg DocumentLeaseGuard.fencingToken hguard).symm
    · next hd =>
        refine ⟨?_, fun write hmem hsamed _ => ?_⟩
        · rcases hlocals call hcall other hworking with ⟨old, hold, hsame⟩ | rfl
          · exact h.current old hold other hsame ⟨new, hnew, hprocessing, hholds⟩
          · exact absurd rfl hd
        · obtain rfl := Option.some.inj hmem
          exact absurd hsamed.symm hd

/-- Time and uploads. -/
theorem writesInOrder_of_env (h : Fenced config past w) (e : Env) :
    WritesInOrder config past w (.env e) { w with shared := envStep w.shared e } := by
  cases e with
  | tick ms =>
      exact writesInOrder_of_same h rfl rfl fun call hcall run hworking =>
        Or.inl ⟨call, hcall, hworking⟩
  | upload documentId =>
      have hkeep : ∀ {d document}, w.shared.documents.lookup d = some document →
          (w.shared.documents.create documentId).2.lookup d = some document :=
        DocumentMetadataRepository.lookup_create_of_lookup
      refine ⟨fun d hd => hd.imp fun document hdocument => hkeep hdocument,
        fun d hd => hd.imp fun document => And.imp_left hkeep,
        fun d _ document document' hdocument hdocument' => ?_, nofun,
        fun call hcall run hworking hcurrent => ⟨?_, nofun⟩⟩
      · obtain rfl := Option.some.inj ((hkeep hdocument).symm.trans hdocument')
        exact Nat.le_refl _
      · obtain ⟨document, hdocument, hprocessing, hholds⟩ := hcurrent
        rcases DocumentMetadataRepository.lookup_create hdocument with hold | ⟨-, rfl, -⟩
        · exact h.current call hcall run hworking ⟨document, hold, hprocessing, hholds⟩
        · cases hprocessing

theorem working_of_isInitial {call : Call} (h : call.isInitial = true) : call.working = none := by
  unfold Call.isInitial at h
  split at h <;> first | rfl | cases h

/-- A step of a call whose claim, if it is one, is in order. -/
theorem writesInOrder_of_advance (h : Fenced config past w) {i : Nat} {input : Input} {call : Call}
    {await : Await Call} {result : Except ThrownError await.Value} {s' : Stores Q}
    (hget : w.locals[i]? = some call) (hinput : input ≠ .die)
    (hclaim : ∀ run attempts, call = .worker (.transitionProcessing run attempts) →
      ClaimInOrder config past w run)
    (hcode : call.code config w.shared.now input = some await)
    (hperform : w.shared.perform input await.request = some (result, s')) :
    WritesInOrder config past w (.advance i input)
      { shared := s', locals := replaceLocal w.locals i (await.resume result) } := by
  have hmem : call ∈ w.locals := List.mem_of_getElem? hget
  have hwrite : stepWrite config w (.advance i input) = workerWrite config w.shared input call := by
    unfold stepWrite
    split
    · next heq => cases heq; exact absurd rfl hinput
    · next heq => cases heq; rw [hget, Option.bind_some]
    · next hno => exact absurd rfl (hno i input)
  have hlocals : ∀ m ∈ replaceLocal w.locals i (await.resume result), ∀ run,
      m.working = some run → (∃ old ∈ w.locals, old.working = some run) ∨
        ∃ attempts, call = .worker (.transitionProcessing run attempts) := by
    intro m hm run hworking
    rcases mem_replaceLocal hm with hnext | hold
    · exact (Call.working_of_resume hcode hnext hworking).imp_left fun hsame => ⟨call, hmem, hsame⟩
    · exact Or.inl ⟨m, hold, hworking⟩
  have hdocument := documentStep hcode hperform
  rw [← hwrite] at hdocument
  generalize hdocuments : s'.documents = documents at hdocument
  generalize hstep : stepWrite config w (.advance i input) = write at hdocument
  cases hdocument with
  | unchanged =>
      refine writesInOrder_of_same h hdocuments hstep fun m hm run hworking => ?_
      exact (hlocals m hm run hworking).imp_right fun ⟨attempts, hcall⟩ => hclaim run attempts hcall
  | called _ documentId document changes nextStatus hcall hlookup hnext huploaded htoken hattempts =>
      refine writesInOrder_of_insert h hlookup hdocuments (by rcases hnext with rfl | rfl <;> nofun)
        htoken (by rcases hnext with rfl | rfl <;> nofun) (by simp [hstep])
        fun m hm run hworking => ?_
      rcases hlocals m hm run hworking with hold | ⟨attempts, rfl⟩
      · exact hold
      · cases hcall
  | queued run document hlookup hstatus =>
      refine writesInOrder_of_insert h hlookup hdocuments nofun rfl nofun (fun write hwrite => ?_)
        fun m hm other hworking => ?_
      · rw [hstep] at hwrite
        obtain rfl := Option.some.inj hwrite
        refine ⟨rfl, rfl, fun earlier hearlier hd _ => ?_⟩
        -- An `UPLOADED` document has not been written by a worker.
        obtain ⟨other, hother, hleft⟩ := h.left earlier hearlier
        rw [show earlier.documentId = run.documentId from hd] at hother
        obtain rfl := Option.some.inj (hlookup.symm.trans hother)
        exact absurd hstatus hleft
      · rcases hlocals m hm other hworking with hold | ⟨attempts, hcall⟩
        · exact hold
        · cases hcall
  | claimed run attempts document hlookup hstatus =>
      refine writesInOrder_of_claim h (hclaim run attempts rfl) hlookup hstatus hdocuments hstep
        fun m hm other hworking => ?_
      rcases hlocals m hm other hworking with hold | ⟨_, hcall⟩
      · exact Or.inl hold
      · cases hcall
        exact Or.inr rfl
  | fenced place run document changes nextStatus hplace hlookup hstatus hguard hnext htoken
      hattempts hworker hqueued =>
      refine writesInOrder_of_insert h hlookup hdocuments hnext.1 htoken
        (fun hprocessing => ⟨hstatus, hworker hprocessing⟩) (fun write hwrite => ?_)
        fun m hm other hworking => ?_
      · rw [hstep] at hwrite
        obtain rfl := Option.some.inj hwrite
        refine ⟨rfl, by simp [ClaimedJob.wrote, DocumentMetadata.update, htoken], ?_⟩
        exact h.current _ hmem run hplace ⟨document, hlookup, hstatus, hguard⟩
      · rcases hlocals m hm other hworking with hold | ⟨attempts, hcall⟩
        · exact hold
        · cases hcall
          cases hplace

theorem fenced_of_step (h : Fenced config past w) (hok : StepInOrder config past w ev)
    (hstep : (pipeline Q config).step w ev w') : Fenced config ((w, ev) :: past) w' := by
  rcases Program.step_cases hstep with ⟨e, rfl, rfl⟩ | ⟨call, rfl, hinitial, rfl⟩ |
    ⟨i, input, call, s', next, rfl, hget, hadvance, rfl⟩
  · refine h.next ?_ (writesInOrder_of_env h e)
    cases e <;> exact .of_queue_eq h.valid rfl rfl
  · refine h.next (.of_queue_eq h.valid rfl rfl)
      (writesInOrder_of_same h rfl rfl fun m hm run hworking => ?_)
    rcases List.mem_append.mp hm with hold | hnew
    · exact Or.inl ⟨m, hold, hworking⟩
    · rw [List.mem_singleton.mp hnew, working_of_isInitial hinitial] at hworking
      cases hworking
  · rcases advance_cases hadvance with
      ⟨rfl, rfl, rfl⟩ | ⟨await, result, hinput, hcode, hperform, rfl⟩
    · refine h.next (.of_queue_eq h.valid rfl rfl)
        (writesInOrder_of_same h rfl rfl fun m hm run hworking => ?_)
      exact Or.inl ⟨m, List.mem_of_mem_eraseIdx hm, hworking⟩
    · refine h.next (queueGoesOn_of_perform h.valid await.request hperform)
        (writesInOrder_of_advance h hget hinput (fun run attempts hcall => ?_) hcode hperform)
      unfold StepInOrder at hok
      split at hok
      · next heq => cases heq; exact absurd rfl hinput
      · next heq =>
          cases heq
          exact hok run attempts (hcall ▸ hget)
      · next hno => exact absurd rfl (hno i input)

/-! ## The result -/

theorem fenced_start (now : Nat) (h : StartedAt now w) : Fenced config [] w := by
  rw [show w = ⟨Stores.start Q now, []⟩ from h]
  have hnone : ∀ {α : Type} {P : α → Prop}, ∀ a ∈ ([] : List α), P a :=
    fun a ha => absurd ha List.not_mem_nil
  exact
    { valid := LawfulDocumentProcessingQueue.valid_empty
      jobs := hnone
      known := hnone
      left := hnone
      respected := ⟨List.Pairwise.nil, hnone⟩
      current := hnone }

/-- When every step of a run is in order, fencing tokens are respected all along it. -/
theorem fencingRespected_of_reachedBy (config : WorkerConfig) (now : Nat) (past : Past Q)
    (w : World (Stores Q) Call)
    (h : ReachedBy (StartedAt now) (StepInOrder config) (pipeline Q config).step past w) :
    FencingRespected config past w :=
  (h.invariant (Fenced config) (fun _ => fenced_start now)
    fun _ _ _ _ hinv hok hstep => fenced_of_step hinv hok hstep).respected

/-- A worker claims an uploaded document with nothing else going on. -/
theorem fencingRespected_of_reachedBy_oneClaim :
    ∃ past w, writes (Q := LocalDocumentProcessingQueue) defaultConfig past =
        [⟨"document", "job-1", 1, 1⟩] ∧ FencingRespected defaultConfig past w := by
  have hmeets : HistoryMeets (pipeline LocalDocumentProcessingQueue defaultConfig).next
      (StepInOrder defaultConfig) [] ⟨Stores.start _ 0, []⟩
      (uploadAndEnqueue ++ claimAndFind 0 "worker-1" ++ [proceed 0]) := by
    refine ⟨trivial, trivial, ?_, ?_, ?_, trivial, ?_, ?_, ?claim, trivial⟩
    case claim =>
      intro run attempts hcall
      cases hcall
      intro document hdocument _
      cases hdocument
      refine ⟨by unfold UpToDate; decide, fun _ => by decide, fun call hcall other hworking => ?_⟩
      rw [List.mem_singleton.mp hcall] at hworking
      cases hworking
    all_goals
      intro run attempts hcall
      cases hcall
  exact ⟨_, _, by decide, fencingRespected_of_reachedBy defaultConfig 0 _ _
    (reachedBy_of_execHistory (.start rfl) hmeets rfl)⟩

/-- A worker claims the job and is paused before its claim transition; its lease
expires, another worker claims the job and the document, and then the first goes on. -/
def lateClaim : List (Event Env Call Input) :=
  uploadAndEnqueue ++ claimAndFind 0 "worker-1" ++ [.env (.tick (defaultLeaseDurationMs + 1))] ++
    claimAndFind 1 "worker-2" ++ [proceed 1, proceed 0]

theorem lateClaim_writes :
    ∃ past w, ReachedBy (StartedAt 0) (fun _ _ _ => True)
        (pipeline LocalDocumentProcessingQueue defaultConfig).step past w ∧
      writes defaultConfig past =
        [⟨"document", "job-1", 1, 1⟩, ⟨"document", "job-1", 2, 2⟩] :=
  exists_reachedBy_of_exec
    (fun past _ => writes (Q := LocalDocumentProcessingQueue) defaultConfig past =
      [⟨"document", "job-1", 1, 1⟩, ⟨"document", "job-1", 2, 2⟩])
    _ lateClaim rfl (by decide)

/-- The write with token 1 comes after the one with token 2. -/
theorem lateClaim_not_fencingRespected :
    ∃ past w, ReachedBy (StartedAt 0) (fun _ _ _ => True)
        (pipeline LocalDocumentProcessingQueue defaultConfig).step past w ∧
      ¬FencingRespected defaultConfig past w := by
  obtain ⟨past, w, hrun, hwrites⟩ := lateClaim_writes
  refine ⟨past, w, hrun, fun h => ?_⟩
  have hordered := h.ordered
  rw [hwrites] at hordered
  exact absurd (List.rel_of_pairwise_cons hordered List.mem_cons_self rfl rfl) (by decide)

end AvantimePlatform.Pipeline
