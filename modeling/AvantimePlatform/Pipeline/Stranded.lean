import AvantimePlatform.Pipeline.Steps
import AvantimePlatform.Queue.LocalLaws

/-!
# Stranded documents

A document is stranded when it is `QUEUED` or `PROCESSING` and the queue has no
job for it: no worker will ever look at it again.  The queue and the metadata are
two stores, and every call writes them one after the other.

The calls have two ways to strand a document, and `KeepsJob` is the condition that
none of them is taken.

* The transition to `QUEUED` of `reprocessDocument` and `retryDocumentProcessing`
  comes after their `enqueue`; a worker may have taken the job away in between.
* An acknowledge or a `removeForDocument` takes the job of the document away while
  another call has already made the document `QUEUED` again.

Everything else is safe, and that needs an argument about `UPLOADED` documents:
nobody takes their job away, since whoever removes a job has seen its document in
another status, and no document ever returns to `UPLOADED`.
-/

namespace AvantimePlatform.Pipeline

open AvantimePlatform.Documents AvantimePlatform.Queue AvantimePlatform.Interleaving
open AvantimePlatform.Transition

variable {Q : Type} [LawfulDocumentProcessingQueue Q] {s s' : Stores Q}

/-- The document is to be processed and has no job. -/
def Stranded (s : Stores Q) (documentId : String) : Prop :=
  ∃ document, s.documents.lookup documentId = some document ∧ document.status.IsActive ∧
    ¬s.jobs.HasJob documentId

/-! ## The condition -/

/-- An accepted acknowledge does not take away the job of a `QUEUED` or
`PROCESSING` document. -/
def AcknowledgeKeepsJob (s : Stores Q) (run : ClaimedJob) : Prop :=
  (∃ job, s.jobs run.job.id = some job) →
  (DocumentProcessingQueue.acknowledge s.queue s.now run.job.id run.workerId
    (some run.fencingToken)).1 = .ok () →
  ∀ document, s.documents.lookup run.documentId = some document → ¬document.status.IsActive

/-- An accepted removal does not take away the job of a `QUEUED` or `PROCESSING`
document. -/
def RemoveKeepsJob (s : Stores Q) (documentId : String) : Prop :=
  s.jobs.HasJob documentId →
  (DocumentProcessingQueue.removeForDocument s.queue documentId).1 = .ok () →
  ∀ document, s.documents.lookup documentId = some document → ¬document.status.IsActive

/-- A document that is about to become `QUEUED` has a job. -/
def QueuedHasJob (s : Stores Q) (documentId : String)
    (expected : List DocumentProcessingStatus) : Prop :=
  ∀ document, s.documents.lookup documentId = some document → document.status ∈ expected →
    s.jobs.HasJob documentId

/-- The next step of the call strands no document.  A heartbeat beside the last
acknowledge makes another request than the acknowledge. -/
def KeepsJob (s : Stores Q) (input : Input) : Call → Prop
  | .enqueueUploaded (.removeAfterConflict documentId) => RemoveKeepsJob s documentId
  | .enqueueUploaded (.removeInCatch documentId) => RemoveKeepsJob s documentId
  | .retry (.transition documentId options _) =>
    QueuedHasJob s documentId (Retry.expected options)
  | .retry (.removeAfterConflict documentId) => RemoveKeepsJob s documentId
  | .retry (.removeInCatch documentId) => RemoveKeepsJob s documentId
  | .reprocess (.transition documentId status _) => QueuedHasJob s documentId [status]
  | .reprocess (.remove documentId) => RemoveKeepsJob s documentId
  | .worker (.acknowledgeSkipped run) => AcknowledgeKeepsJob s run
  | .worker (.processing run _ _ .acknowledgeCompleted) =>
    input ≠ .heartbeat → AcknowledgeKeepsJob s run
  | .worker (.acknowledgeFailed run) => AcknowledgeKeepsJob s run
  | _ => True

/-- Every step of a call keeps the job of an active document.  A worker that dies
makes no request. -/
def StepKeepsJob (w : World (Stores Q) Call) : Event Env Call Input → Prop
  | .advance _ .die => True
  | .advance i input => ∀ call ∈ w.locals[i]?, KeepsJob w.shared input call
  | _ => True

/-! ## The invariant -/

/-- The document exists and has a job for as long as it is `UPLOADED`. -/
def UploadedHasJob (s : Stores Q) (documentId : String) : Prop :=
  ∃ document, s.documents.lookup documentId = some document ∧
    (document.status = .uploaded → s.jobs.HasJob documentId)

/-- The job of a run belongs to the document of the run, if it is still there. -/
def OwnsJob (s : Stores Q) (run : ClaimedJob) : Prop :=
  run.job.id ∈ s.issued ∧
    ∀ job, s.jobs run.job.id = some job → job.documentId = run.documentId

/-- No document is stranded, and jobs and documents are in order. -/
structure Backed (s : Stores Q) : Prop where
  valid : LawfulDocumentProcessingQueue.Valid s.queue s.issued
  known : ∀ id job, s.jobs id = some job → Known s job.documentId
  readable : ∀ documentId document, s.documents.lookup documentId = some document →
    document.id = documentId ∧ validateDocumentMetadata document = .ok ()
  active : ∀ documentId document, s.documents.lookup documentId = some document →
    document.status.IsActive → s.jobs.HasJob documentId

/-- The statuses that `reprocessDocument` starts from. -/
def Finished (status : DocumentProcessingStatus) : Prop :=
  status ∈ [DocumentProcessingStatus.completed, .failed, .quarantined]

/-- What a call has seen at each place. -/
def Seen (s : Stores Q) : Call → Prop
  | .enqueueUploaded (.enqueueQueued documentId) => Known s documentId
  | .enqueueUploaded (.enqueue documentId) => Known s documentId
  | .enqueueUploaded (.transition documentId _) => UploadedHasJob s documentId
  | .enqueueUploaded (.removeAfterConflict documentId) => LeftUploaded s documentId
  | .enqueueUploaded (.removeInCatch documentId) => LeftUploaded s documentId
  | .retry (.enqueue documentId _) => LeftUploaded s documentId
  | .retry (.transition documentId _ _) => LeftUploaded s documentId
  | .retry (.removeAfterConflict documentId) => LeftUploaded s documentId
  | .retry (.removeInCatch documentId) => LeftUploaded s documentId
  | .reprocess (.enqueueOnly documentId) => Known s documentId
  | .reprocess (.enqueue documentId status) => LeftUploaded s documentId ∧ Finished status
  | .reprocess (.transition documentId status _) => LeftUploaded s documentId ∧ Finished status
  | .reprocess (.remove documentId) => LeftUploaded s documentId
  | .worker (.findById run) => OwnsJob s run ∧ UploadedHasJob s run.documentId
  | .worker (.acknowledgeSkipped run) => OwnsJob s run ∧ LeftUploaded s run.documentId
  | .worker (.transitionUploaded run) => OwnsJob s run ∧ UploadedHasJob s run.documentId
  | .worker (.transitionProcessing run _) => OwnsJob s run ∧ LeftUploaded s run.documentId
  | .worker (.processing run _ _ _) => OwnsJob s run ∧ LeftUploaded s run.documentId
  | .worker (.deleteChunks run _ _) => OwnsJob s run ∧ LeftUploaded s run.documentId
  | .worker (.transitionAfterError run _ _) => OwnsJob s run ∧ LeftUploaded s run.documentId
  | .worker (.release run _) => OwnsJob s run ∧ LeftUploaded s run.documentId
  | .worker (.acknowledgeFailed run) => OwnsJob s run ∧ LeftUploaded s run.documentId
  | _ => True

/-- What calls have seen stays true: documents do not vanish or return to
`UPLOADED`, an `UPLOADED` document keeps its job, and a job keeps its document. -/
structure Carries (s s' : Stores Q) : Prop where
  known : ∀ documentId, Known s documentId → Known s' documentId
  left : ∀ documentId, LeftUploaded s documentId → LeftUploaded s' documentId
  uploaded : ∀ documentId, UploadedHasJob s documentId → UploadedHasJob s' documentId
  owns : ∀ run, OwnsJob s run → OwnsJob s' run

theorem Seen.carry {call : Call} (h : Seen s call) (hc : Carries s s') : Seen s' call := by
  cases call with
  | enqueueUploaded place =>
      cases place with
      | findById _ => trivial
      | enqueueQueued _ => exact hc.known _ h
      | enqueue _ => exact hc.known _ h
      | transition _ _ => exact hc.uploaded _ h
      | removeAfterConflict _ => exact hc.left _ h
      | removeInCatch _ => exact hc.left _ h
      | transitionFailed _ => trivial
  | retry place =>
      cases place with
      | findById _ _ => trivial
      | _ => exact hc.left _ h
  | reprocess place =>
      cases place with
      | findById _ _ => trivial
      | enqueueOnly _ => exact hc.known _ h
      | enqueue _ _ => exact h.imp_left (hc.left _)
      | transition _ _ _ => exact h.imp_left (hc.left _)
      | remove _ => exact hc.left _ h
      | deleteText _ => trivial
      | deleteChunks _ => trivial
  | worker place =>
      cases place with
      | claim _ => trivial
      | findById _ => exact ⟨hc.owns _ h.1, hc.uploaded _ h.2⟩
      | transitionUploaded _ => exact ⟨hc.owns _ h.1, hc.uploaded _ h.2⟩
      | _ => exact ⟨hc.owns _ h.1, hc.left _ h.2⟩

/-! ## What a request needs -/

/-- Enough for a request to keep `Backed` and what calls have seen. -/
def Harmless (s : Stores Q) : {α : Type} → Request α → Prop
  | _, .transitionStatus documentId expectedStatuses nextStatus _ _ =>
    nextStatus ≠ .uploaded ∧ (nextStatus.IsActive → QueuedHasJob s documentId expectedStatuses)
  | _, .enqueue documentId => Known s documentId
  | _, .acknowledge jobId workerId fencingToken =>
    (DocumentProcessingQueue.acknowledge s.queue s.now jobId workerId (some fencingToken)).1 =
      .ok () → ∀ job, s.jobs jobId = some job →
    ∃ document, s.documents.lookup job.documentId = some document ∧
      ¬document.status.IsActive ∧ document.status ≠ .uploaded
  | _, .removeForDocument documentId => s.jobs.HasJob documentId →
    (DocumentProcessingQueue.removeForDocument s.queue documentId).1 = .ok () →
    ∃ document, s.documents.lookup documentId = some document ∧
      ¬document.status.IsActive ∧ document.status ≠ .uploaded
  | _, _ => True

/-- An operation of the queue: the documents stay, no job changes its document, and
active and `UPLOADED` documents keep their job. -/
theorem carry_queue (h : Backed s) {queue : Q} {issued : List String}
    (hissued : s.issued ⊆ issued) (hvalid : LawfulDocumentProcessingQueue.Valid queue issued)
    (hkeeps : Jobs.Keeps s.issued s.jobs (LawfulDocumentProcessingQueue.jobs queue))
    (hknown : ∀ id job, LawfulDocumentProcessingQueue.jobs queue id = some job →
      Known s job.documentId)
    (hhas : ∀ documentId document, s.documents.lookup documentId = some document →
      document.status.IsActive ∨ document.status = .uploaded → s.jobs.HasJob documentId →
      (LawfulDocumentProcessingQueue.jobs queue).HasJob documentId) :
    Backed { s with issued := issued, queue := queue } ∧
      Carries s { s with issued := issued, queue := queue } := by
  refine ⟨⟨hvalid, hknown, h.readable, fun documentId document hdocument hactive => ?_⟩,
    ⟨fun _ hd => hd, fun _ hd => hd, fun documentId hd => ?_, fun run hrun => ?_⟩⟩
  · exact hhas documentId document hdocument (Or.inl hactive)
      (h.active documentId document hdocument hactive)
  · obtain ⟨document, hdocument, hjob⟩ := hd
    exact ⟨document, hdocument, fun huploaded =>
      hhas documentId document hdocument (Or.inr huploaded) (hjob huploaded)⟩
  · obtain ⟨hmem, hdoc⟩ := hrun
    refine ⟨hissued hmem, fun job' hjob' => ?_⟩
    obtain ⟨job, hjob, hsame, -⟩ := hkeeps run.job.id hmem job' hjob'
    rw [← hsame]
    exact hdoc job hjob

/-- An operation of the queue that adds no job. -/
theorem carry_keeps (h : Backed s) {queue : Q}
    (hvalid : LawfulDocumentProcessingQueue.Valid queue s.issued)
    (hkeeps : Jobs.Keeps s.issued s.jobs (LawfulDocumentProcessingQueue.jobs queue))
    (hhas : ∀ documentId document, s.documents.lookup documentId = some document →
      document.status.IsActive ∨ document.status = .uploaded → s.jobs.HasJob documentId →
      (LawfulDocumentProcessingQueue.jobs queue).HasJob documentId) :
    Backed { s with queue := queue } ∧ Carries s { s with queue := queue } := by
  refine carry_queue h (List.Subset.refl _) hvalid hkeeps (fun id job hjob => ?_) hhas
  obtain ⟨old, hold, hdoc, -⟩ :=
    hkeeps id (LawfulDocumentProcessingQueue.jobs_issued hvalid hjob) job hjob
  rw [← hdoc]
  exact h.known id old hold

omit [LawfulDocumentProcessingQueue Q] in
/-- A document that is neither active nor `UPLOADED` is another one than a document
that is. -/
theorem ne_of_settled {d documentId : String} {document : DocumentMetadata}
    (hdocument : s.documents.lookup d = some document)
    (hactive : document.status.IsActive ∨ document.status = .uploaded)
    (hsettled : ∃ other, s.documents.lookup documentId = some other ∧
      ¬other.status.IsActive ∧ other.status ≠ .uploaded) : documentId ≠ d := by
  rintro rfl
  obtain ⟨other, hother, hnot, hleft⟩ := hsettled
  obtain rfl := Option.some.inj (hdocument.symm.trans hother)
  rcases hactive with hactive | huploaded
  · exact hnot hactive
  · exact hleft huploaded

/-- A transition, when a document becomes active only while it has a job. -/
theorem carry_transition (h : Backed s) {documentId : String}
    {expectedStatuses : List DocumentProcessingStatus} {nextStatus : DocumentProcessingStatus}
    {changes : UpdateDocumentMetadata} {leaseGuard : Option DocumentLeaseGuard}
    (hne : nextStatus ≠ .uploaded)
    (hjob : nextStatus.IsActive → QueuedHasJob s documentId expectedStatuses)
    {outcome : Except String (Option DocumentMetadata) × DocumentMetadataRepository}
    (hstep : DocumentMetadataRepository.TransitionStep s.documents documentId expectedStatuses
      nextStatus changes leaseGuard outcome) :
    Backed { s with documents := outcome.2 } ∧ Carries s { s with documents := outcome.2 } := by
  cases hstep with
  | thrown message => exact ⟨h, ⟨fun _ h => h, fun _ h => h, fun _ h => h, fun _ h => h⟩⟩
  | missed hmiss => exact ⟨h, ⟨fun _ h => h, fun _ h => h, fun _ h => h, fun _ h => h⟩⟩
  | written document hdocument hstatus hguard hvalid =>
      have hlookup : ∀ d other,
          (s.documents.insert documentId (document.update changes nextStatus)).lookup d =
            some other →
          (d = documentId ∧ other = document.update changes nextStatus) ∨
            (d ≠ documentId ∧ s.documents.lookup d = some other) := by
        intro d other hother
        rw [Table.lookup_insert] at hother
        split at hother
        · next hd => exact Or.inl ⟨hd, (Option.some.inj hother).symm⟩
        · next hd => exact Or.inr ⟨hd, hother⟩
      have hkeep : ∀ d, d ≠ documentId →
          (s.documents.insert documentId (document.update changes nextStatus)).lookup d =
            s.documents.lookup d := by
        intro d hd
        rw [Table.lookup_insert, if_neg hd]
      have hnew : (s.documents.insert documentId (document.update changes nextStatus)).lookup
          documentId = some (document.update changes nextStatus) := AList.lookup_insert _
      refine ⟨⟨h.valid, fun id job hid => ?_, fun d other hother => ?_,
        fun d other hother hactive => ?_⟩,
        ⟨fun d hd => ?_, fun d hd => ?_, fun d hd => ?_, fun _ hrun => hrun⟩⟩
      · obtain ⟨other, hother⟩ := h.known id job hid
        by_cases hd : job.documentId = documentId
        · exact ⟨_, by rw [hd]; exact hnew⟩
        · exact ⟨other, (hkeep _ hd).trans hother⟩
      · rcases hlookup d other hother with ⟨rfl, rfl⟩ | ⟨-, hold⟩
        · exact ⟨(h.readable d document hdocument).1, hvalid⟩
        · exact h.readable d other hold
      · rcases hlookup d other hother with ⟨rfl, rfl⟩ | ⟨-, hold⟩
        · exact hjob hactive document hdocument hstatus
        · exact h.active d other hold hactive
      · obtain ⟨other, hother⟩ := hd
        by_cases hd : d = documentId
        · subst hd
          exact ⟨_, hnew⟩
        · exact ⟨other, (hkeep d hd).trans hother⟩
      · obtain ⟨other, hother, hleft⟩ := hd
        by_cases hd : d = documentId
        · subst hd
          exact ⟨_, hnew, hne⟩
        · exact ⟨other, (hkeep d hd).trans hother, hleft⟩
      · obtain ⟨other, hother, huploaded⟩ := hd
        by_cases hd : d = documentId
        · subst hd
          exact ⟨_, hnew, fun heq => absurd heq hne⟩
        · exact ⟨other, (hkeep d hd).trans hother, huploaded⟩

/-- A harmless request strands nothing and keeps what calls have seen. -/
theorem carry_request (h : Backed s) {input : Input} {α : Type} (request : Request α)
    (hpre : Harmless s request) {result : Except ThrownError α}
    (hperform : s.perform input request = some (result, s')) : Backed s' ∧ Carries s s' := by
  have hsame : Backed s ∧ Carries s s :=
    ⟨h, ⟨fun _ h => h, fun _ h => h, fun _ h => h, fun _ h => h⟩⟩
  cases request with
  | transitionStatus documentId expectedStatuses nextStatus changes leaseGuard =>
      obtain ⟨-, rfl⟩ := Prod.mk.inj (Option.some.inj hperform)
      exact carry_transition h hpre.1 hpre.2 (DocumentMetadataRepository.transitionStep ..)
  | enqueue documentId =>
      simp only [Stores.perform] at hperform
      split at hperform
      swap
      · cases hperform
      next id correlationId =>
      split at hperform
      · cases hperform
      next hid =>
      obtain ⟨-, rfl⟩ := Prod.mk.inj (Option.some.inj hperform)
      obtain ⟨hvalid, hcases⟩ := LawfulDocumentProcessingQueue.enqueue_law s.now documentId id
        correlationId h.valid hid
      have hnew : s.jobs id.val = none := by
        rw [Option.eq_none_iff_forall_ne_some]
        exact fun job hjob => hid (LawfulDocumentProcessingQueue.jobs_issued h.valid hjob)
      refine carry_queue h (List.subset_cons_self _ _) hvalid (hcases.keeps hid)
        (fun n job hjob => ?_) fun d _ _ _ hd => hcases.hasJob hnew hd
      rcases hcases.from n job hjob with rfl | ⟨old, hold, hdoc⟩
      · exact hpre
      · rw [← hdoc]
        exact h.known n old hold
  | claim workerId leaseDurationMs =>
      obtain ⟨-, rfl⟩ := Prod.mk.inj (Option.some.inj hperform)
      obtain ⟨hvalid, hcases⟩ := LawfulDocumentProcessingQueue.claim_law s.now workerId
        leaseDurationMs h.valid
      exact carry_keeps h hvalid hcases.keeps fun d _ _ _ hd => hcases.hasJob hd
  | renew jobId workerId fencingToken leaseDurationMs =>
      obtain ⟨-, rfl⟩ := Prod.mk.inj (Option.some.inj hperform)
      obtain ⟨hvalid, hjobs⟩ := LawfulDocumentProcessingQueue.renew_law s.now jobId workerId
        fencingToken leaseDurationMs h.valid
      refine carry_keeps h hvalid ?_ fun d _ _ _ hd => ?_
      · rw [hjobs]
        exact Jobs.Keeps.refl _ _
      · rw [hjobs]
        exact hd
  | acknowledge jobId workerId fencingToken =>
      obtain ⟨-, rfl⟩ := Prod.mk.inj (Option.some.inj hperform)
      obtain ⟨hvalid, hcases⟩ := LawfulDocumentProcessingQueue.acknowledge_law s.now jobId workerId
        (some fencingToken) h.valid
      refine carry_keeps h hvalid hcases.keeps fun d document hdocument hactive hd => ?_
      exact hcases.hasJob
        (fun hok job hjob => ne_of_settled hdocument hactive (hpre hok job hjob)) hd
  | release jobId workerId availableAt fencingToken =>
      obtain ⟨-, rfl⟩ := Prod.mk.inj (Option.some.inj hperform)
      obtain ⟨hvalid, hjobs⟩ := LawfulDocumentProcessingQueue.release_law s.now jobId workerId
        availableAt (some fencingToken) h.valid
      refine carry_keeps h hvalid ?_ fun d _ _ _ hd => ?_
      · rw [hjobs]
        exact Jobs.Keeps.refl _ _
      · rw [hjobs]
        exact hd
  | removeForDocument documentId =>
      obtain ⟨-, rfl⟩ := Prod.mk.inj (Option.some.inj hperform)
      obtain ⟨hvalid, hcases⟩ := LawfulDocumentProcessingQueue.remove_law documentId h.valid
      refine carry_keeps h hvalid hcases.keeps fun d document hdocument hactive hd => ?_
      refine hcases.hasJob (fun hok => ?_) hd
      rintro rfl
      exact ne_of_settled hdocument hactive (hpre hd hok) rfl
  | findById documentId =>
      obtain ⟨-, rfl⟩ := Prod.mk.inj (Option.some.inj hperform)
      exact hsame
  | assertLease jobId workerId fencingToken =>
      obtain ⟨-, rfl⟩ := Prod.mk.inj (Option.some.inj hperform)
      exact hsame
  | extract =>
      simp only [Stores.perform] at hperform
      split at hperform
      · obtain ⟨-, rfl⟩ := Prod.mk.inj (Option.some.inj hperform)
        exact hsame
      · cases hperform
  | _ =>
      obtain ⟨-, rfl⟩ := Prod.mk.inj (Option.some.inj hperform)
      exact ⟨⟨h.valid, h.known, h.readable, h.active⟩,
        ⟨fun _ h => h, fun _ h => h, fun _ h => h, fun _ h => h⟩⟩

/-! ## The places of the calls -/

/-- The request at a place is harmless, and the call has seen what it must where it
goes next. -/
def SafePlace {Next : Type} (s : Stores Q) (input : Input) (await : Await Next)
    (f : Next → Call) : Prop :=
  Harmless s await.request ∧ Arrives s input await fun s next => Seen s (f next)

/-- A place whose next places ask for no more than has been seen already. -/
theorem safePlace_of_seen (h : Backed s) {Next : Type} {input : Input} {await : Await Next}
    {f : Next → Call} (hpre : Harmless s await.request)
    (hseen : ∀ result next, await.resume result = some next → Seen s (f next)) :
    SafePlace s input await f := by
  refine ⟨hpre, fun result s' hperform next hnext => ?_⟩
  exact (hseen result next hnext).carry (carry_request h await.request hpre hperform).2

/-- After an enqueue that succeeds the document has a job. -/
theorem hasJob_of_enqueue (h : Backed s) {input : Input} {documentId : String}
    {result : DocumentEnqueueResult}
    (hperform : s.perform input (.enqueue documentId) = some (.ok result, s')) :
    s'.jobs.HasJob documentId := by
  simp only [Stores.perform] at hperform
  split at hperform
  swap
  · cases hperform
  next id correlationId =>
  split at hperform
  · cases hperform
  next hid =>
  obtain ⟨hresult, rfl⟩ := Prod.mk.inj (Option.some.inj hperform)
  obtain ⟨-, hcases⟩ := LawfulDocumentProcessingQueue.enqueue_law s.now documentId id
    correlationId h.valid hid
  cases hok : (DocumentProcessingQueue.enqueue s.queue s.now documentId id correlationId).1 with
  | error e =>
      rw [hok] at hresult
      cases hresult
  | ok other => exact hcases.hasJob_of_ok hok

/-- The transition of `enqueueUploadedDocument` does not throw. -/
theorem transition_not_thrown (h : Backed s) {documentId : String} (hknown : Known s documentId)
    (message : String) :
    (s.documents.transitionStatus documentId [.uploaded] .queued
      { nextRetryAt := some none, workerId := some none } none).1 ≠ .error message := by
  obtain ⟨document, hdocument⟩ := hknown
  obtain ⟨rfl, hvalid⟩ := h.readable documentId document hdocument
  have hold := validateDocumentMetadata_eq_ok.mp hvalid
  refine DocumentMetadataRepository.transitionStatus_not_thrown hold.id rfl
    (fun other hother => ?_) message
  obtain rfl := Option.some.inj (hdocument.symm.trans hother)
  exact { hold with
    workerId := by simp [DocumentMetadata.update]
    nextRetryAt := by simp [DocumentMetadata.update] }

theorem enqueueUploaded_place (h : Backed s) {input : Input} (place : EnqueueUploaded)
    (hseen : Seen s (.enqueueUploaded place)) (hok : KeepsJob s input (.enqueueUploaded place)) :
    SafePlace s input (place.code s.now) .enqueueUploaded := by
  cases place with
  | findById documentId =>
      refine ⟨trivial, arrives_findById fun next hnext => ?_⟩
      cases hdocument : s.documents.lookup documentId with
      | none => simp [hdocument] at hnext
      | some document =>
          rw [hdocument] at hnext
          simp only at hnext
          split at hnext
          · obtain rfl := Option.some.inj hnext
            exact ⟨document, hdocument⟩
          · split at hnext
            · obtain rfl := Option.some.inj hnext
              exact ⟨document, hdocument⟩
            · cases hnext
  | enqueueQueued documentId => exact safePlace_of_seen h hseen nofun
  | enqueue documentId =>
      refine ⟨hseen, fun result s' hperform next hnext => ?_⟩
      have hcarry := carry_request h (.enqueue documentId) hseen hperform
      cases result with
      | error e =>
          obtain rfl := Option.some.inj hnext
          trivial
      | ok result =>
          obtain rfl := Option.some.inj hnext
          obtain ⟨document, hdocument⟩ := hcarry.2.known _ hseen
          exact ⟨document, hdocument, fun _ => hasJob_of_enqueue h hperform⟩
  | transition documentId enqueued =>
      obtain ⟨document, hdocument, huploaded⟩ := hseen
      have hjob : QueuedHasJob s documentId [.uploaded] := by
        intro other hother hstatus
        obtain rfl := Option.some.inj (hdocument.symm.trans hother)
        exact huploaded (List.mem_singleton.mp hstatus)
      refine ⟨⟨nofun, fun _ => hjob⟩, arrives_transition (fun message hmessage => ?_)
        (fun hmiss next hnext => ?_) fun _ _ _ _ => nofun⟩
      · exact absurd hmessage (transition_not_thrown h ⟨document, hdocument⟩ message)
      · have hleft : LeftUploaded s documentId :=
          ⟨document, hdocument, fun heq => hmiss document hdocument
            ⟨List.mem_singleton.mpr heq, by simp⟩⟩
        dsimp only at hnext
        split at hnext
        · obtain rfl := Option.some.inj hnext
          exact hleft
        · next hfalse =>
            obtain rfl := Option.some.inj hnext
            simp only [EnqueueUploaded.caught, if_neg hfalse]
            trivial
  | removeAfterConflict documentId =>
      refine safePlace_of_seen h (fun hjob haccepted => ?_) fun result next hnext => ?_
      · obtain ⟨document, hdocument, hleft⟩ := hseen
        exact ⟨document, hdocument, hok hjob haccepted document hdocument, hleft⟩
      · obtain rfl := Option.some.inj hnext
        exact hseen
  | removeInCatch documentId =>
      refine safePlace_of_seen h (fun hjob haccepted => ?_) fun result next hnext => ?_
      · obtain ⟨document, hdocument, hleft⟩ := hseen
        exact ⟨document, hdocument, hok hjob haccepted document hdocument, hleft⟩
      · cases result with
        | error e => cases hnext
        | ok _ =>
            obtain rfl := Option.some.inj hnext
            trivial
  | transitionFailed documentId =>
      have hactive : ¬DocumentProcessingStatus.failed.IsActive := by decide
      refine safePlace_of_seen h ⟨nofun, fun hnot => absurd hnot hactive⟩ fun result next hnext => ?_
      cases hnext

/-- A removal by a call that has seen the document in another status than
`UPLOADED`. -/
theorem harmless_remove {documentId : String} (hleft : LeftUploaded s documentId)
    (hok : RemoveKeepsJob s documentId) : Harmless s (.removeForDocument documentId) := by
  intro hjob haccepted
  obtain ⟨document, hdocument, hne⟩ := hleft
  exact ⟨document, hdocument, hok hjob haccepted document hdocument, hne⟩

theorem mem_expected {options : RetryOptions} {status : DocumentProcessingStatus}
    (h : status ∈ Retry.expected options) : status ≠ .uploaded := by
  obtain ⟨retryable, -, rfl⟩ := List.mem_map.mp h
  cases retryable <;> decide

theorem retry_place (h : Backed s) {input : Input} (place : Retry)
    (hseen : Seen s (.retry place)) (hok : KeepsJob s input (.retry place)) :
    SafePlace s input place.code .retry := by
  cases place with
  | findById documentId options =>
      refine ⟨trivial, arrives_findById fun next hnext => ?_⟩
      cases hdocument : s.documents.lookup documentId with
      | none => simp [hdocument] at hnext
      | some document =>
          rw [hdocument] at hnext
          simp only at hnext
          split at hnext
          · next hstatus =>
              obtain rfl := Option.some.inj hnext
              exact ⟨document, hdocument, mem_expected hstatus.1⟩
          · cases hnext
  | enqueue documentId options =>
      refine safePlace_of_seen h hseen.known fun result next hnext => ?_
      cases result with
      | error e => cases hnext
      | ok _ =>
          obtain rfl := Option.some.inj hnext
          exact hseen
  | transition documentId options enqueued =>
      refine safePlace_of_seen h ⟨nofun, fun _ => hok⟩ fun result next hnext => ?_
      cases result with
      | error e =>
          dsimp only [Retry.code] at hnext
          split at hnext
          · obtain rfl := Option.some.inj hnext
            exact hseen
          · cases hnext
      | ok document =>
          cases document with
          | some _ => cases hnext
          | none =>
              dsimp only [Retry.code] at hnext
              split at hnext
              · obtain rfl := Option.some.inj hnext
                exact hseen
              · cases hnext
  | removeAfterConflict documentId =>
      refine safePlace_of_seen h (harmless_remove hseen hok) fun result next hnext => ?_
      cases result with
      | error e =>
          obtain rfl := Option.some.inj hnext
          exact hseen
      | ok _ => cases hnext
  | removeInCatch documentId =>
      refine safePlace_of_seen h (harmless_remove hseen hok) fun result next hnext => ?_
      cases hnext

theorem reprocess_place (h : Backed s) {input : Input} (place : Reprocess)
    (hseen : Seen s (.reprocess place)) (hok : KeepsJob s input (.reprocess place)) :
    SafePlace s input place.code .reprocess := by
  cases place with
  | findById documentId dryRun =>
      refine ⟨trivial, arrives_findById fun next hnext => ?_⟩
      cases hdocument : s.documents.lookup documentId with
      | none => simp [hdocument] at hnext
      | some document =>
          rw [hdocument] at hnext
          simp only at hnext
          split at hnext
          · cases hnext
          split at hnext
          · obtain rfl := Option.some.inj hnext
            exact ⟨document, hdocument⟩
          split at hnext
          · next hstatus =>
              obtain rfl := Option.some.inj hnext
              refine ⟨⟨document, hdocument, fun heq => ?_⟩, hstatus⟩
              rw [heq] at hstatus
              simp at hstatus
          · cases hnext
  | enqueueOnly documentId =>
      refine safePlace_of_seen h hseen fun result next hnext => ?_
      cases hnext
  | enqueue documentId status =>
      refine safePlace_of_seen h hseen.1.known fun result next hnext => ?_
      cases result with
      | error e => cases hnext
      | ok _ =>
          obtain rfl := Option.some.inj hnext
          exact hseen
  | transition documentId status enqueued =>
      refine safePlace_of_seen h ⟨nofun, fun _ => hok⟩ fun result next hnext => ?_
      cases result with
      | error e => cases hnext
      | ok document =>
          cases document with
          | some _ =>
              obtain rfl := Option.some.inj hnext
              trivial
          | none =>
              dsimp only [Reprocess.code] at hnext
              split at hnext
              · obtain rfl := Option.some.inj hnext
                exact hseen.1
              · cases hnext
  | remove documentId =>
      refine safePlace_of_seen h (harmless_remove hseen hok) fun result next hnext => ?_
      cases hnext
  | deleteText documentId =>
      refine safePlace_of_seen h trivial fun result next hnext => ?_
      cases result with
      | error e => cases hnext
      | ok _ =>
          obtain rfl := Option.some.inj hnext
          trivial
  | deleteChunks documentId =>
      refine safePlace_of_seen h trivial fun result next hnext => ?_
      cases hnext

/-- An acknowledge by a run that has seen its document in another status than
`UPLOADED`. -/
theorem harmless_acknowledge {run : ClaimedJob}
    (hseen : OwnsJob s run ∧ LeftUploaded s run.documentId) (hok : AcknowledgeKeepsJob s run) :
    Harmless s (.acknowledge run.job.id run.workerId run.fencingToken) := by
  intro haccepted job hjob
  obtain ⟨document, hdocument, hne⟩ := hseen.2
  rw [hseen.1.2 job hjob]
  exact ⟨document, hdocument, hok ⟨job, hjob⟩ haccepted document hdocument, hne⟩

/-- A document that is active has a job already. -/
theorem queuedHasJob_of_active (h : Backed s) {documentId : String}
    {expectedStatuses : List DocumentProcessingStatus}
    (hactive : ∀ status ∈ expectedStatuses, status.IsActive) :
    QueuedHasJob s documentId expectedStatuses :=
  fun document hdocument hstatus =>
    h.active documentId document hdocument (hactive document.status hstatus)

/-- What a run that works on its job has seen, wherever it is. -/
theorem seen_of_working {place : Worker} {run : ClaimedJob} (hworking : place.working = some run) :
    Seen s (.worker place) ↔ OwnsJob s run ∧ LeftUploaded s run.documentId := by
  cases place with
  | processing other _ _ _ => rw [Option.some.inj hworking.symm]; rfl
  | deleteChunks other _ _ => rw [Option.some.inj hworking.symm]; rfl
  | transitionAfterError other _ _ => rw [Option.some.inj hworking.symm]; rfl
  | release other _ => rw [Option.some.inj hworking.symm]; rfl
  | acknowledgeFailed other => rw [Option.some.inj hworking.symm]; rfl
  | _ => cases hworking

/-- A transition of a `PROCESSING` document. -/
theorem harmless_fromProcessing (h : Backed s) {documentId : String}
    {nextStatus : DocumentProcessingStatus} {changes : UpdateDocumentMetadata}
    {leaseGuard : Option DocumentLeaseGuard} (hne : nextStatus ≠ .uploaded) :
    Harmless s (.transitionStatus documentId [.processing] nextStatus changes leaseGuard) :=
  ⟨hne, fun _ => queuedHasJob_of_active h (by decide)⟩

/-- The requests of a run that works on its job. -/
theorem working_harmless (h : Backed s) {config : WorkerConfig} {input : Input} {place : Worker}
    {run : ClaimedJob} (hworking : place.working = some run) (hseen : Seen s (.worker place))
    (hok : KeepsJob s input (.worker place)) {await : Await Worker}
    (hcode : place.code config s.now input = some await) : Harmless s await.request := by
  cases place with
  | processing other attempts heartbeat place =>
      by_cases hinput : input = .heartbeat
      · subst hinput
        simp only [Worker.code, Worker.heartbeatCode] at hcode
        split at hcode
        · cases hcode
        split at hcode <;> obtain rfl := Option.some.inj hcode
        · trivial
        · exact harmless_fromProcessing h (by decide)
      · rw [Worker.code_processing hinput] at hcode
        cases place with
        | assertOwned _ =>
            simp only [Worker.processingCode] at hcode
            split at hcode
            · cases hcode
            split at hcode <;> obtain rfl := Option.some.inj hcode <;> trivial
        | transitionCompleted _ =>
            obtain rfl := Option.some.inj hcode
            exact harmless_fromProcessing h (by decide)
        | acknowledgeCompleted =>
            simp only [Worker.processingCode] at hcode
            split at hcode
            · cases hcode
            obtain rfl := Option.some.inj hcode
            exact harmless_acknowledge hseen (hok hinput)
        | deleteText _ =>
            simp only [Worker.processingCode] at hcode
            split at hcode
            · cases hcode
            obtain rfl := Option.some.inj hcode
            trivial
        | _ =>
            obtain rfl := Option.some.inj hcode
            trivial
  | deleteChunks other attempts error =>
      obtain rfl := Option.some.inj hcode
      trivial
  | transitionAfterError other error decision =>
      obtain rfl := Option.some.inj hcode
      exact harmless_fromProcessing h (by cases decision <;> simp [Worker.decidedStatus])
  | release other nextRetryAt =>
      obtain rfl := Option.some.inj hcode
      trivial
  | acknowledgeFailed other =>
      obtain rfl := Option.some.inj hcode
      exact harmless_acknowledge hseen hok
  | _ => cases hworking

/-- After a claim that returns a job, the run owns it. -/
theorem seen_of_claim (h : Backed s) {input : Input} {workerId : String} {leaseDurationMs : Nat}
    {job : DocumentProcessingJob}
    (hperform : s.perform input (.claim workerId leaseDurationMs) = some (.ok (some job), s')) :
    Seen s' (.worker (.findById ⟨workerId, job⟩)) := by
  have hcarry := carry_request h (.claim workerId leaseDurationMs) trivial hperform
  obtain ⟨hresult, rfl⟩ := Prod.mk.inj (Option.some.inj hperform)
  obtain ⟨hvalid, hcases⟩ := LawfulDocumentProcessingQueue.claim_law s.now workerId
    leaseDurationMs h.valid
  cases hclaim : (DocumentProcessingQueue.claim s.queue s.now workerId leaseDurationMs).1 with
  | error e =>
      rw [hclaim] at hresult
      cases hresult
  | ok claimed =>
      rw [hclaim] at hresult
      obtain rfl := Except.ok.inj hresult
      rcases hcases with ⟨-, hnone⟩ | ⟨id, old, hold, hafter, hjob⟩
      · exact absurd hclaim (hnone job)
      obtain ⟨claimed, hsome, rfl, hdoc, -⟩ := hjob _ hclaim
      obtain rfl := Option.some.inj hsome
      have hview : LawfulDocumentProcessingQueue.jobs
          (DocumentProcessingQueue.claim s.queue s.now workerId leaseDurationMs).2 job.id =
          some { old with fencingToken := old.fencingToken + 1 } := by
        rw [hafter, Function.update_self]
      refine ⟨⟨LawfulDocumentProcessingQueue.jobs_issued hvalid hview, fun other hother => ?_⟩, ?_⟩
      · obtain rfl := Option.some.inj (hview.symm.trans hother)
        exact hdoc.symm
      · obtain ⟨document, hdocument⟩ := hcarry.1.known job.id _ hview
        have hdocument' : s.documents.lookup job.documentId = some document := by
          rw [hdoc]
          exact hdocument
        exact ⟨document, hdocument', fun _ => ⟨job.id, _, hview, hdoc.symm⟩⟩

theorem worker_place (h : Backed s) {config : WorkerConfig} {input : Input} (place : Worker)
    (hseen : Seen s (.worker place)) (hok : KeepsJob s input (.worker place)) {await : Await Worker}
    (hcode : place.code config s.now input = some await) : SafePlace s input await .worker := by
  have hworking : ∀ run, place.working = some run → SafePlace s input await .worker := by
    intro run hrun
    refine safePlace_of_seen h (working_harmless h hrun hseen hok hcode) fun result next hnext => ?_
    exact (seen_of_working (Worker.working_resume hrun hcode hnext)).mpr
      ((seen_of_working hrun).mp hseen)
  cases place with
  | claim workerId =>
      obtain rfl := Option.some.inj hcode
      refine ⟨trivial, fun result s' hperform next hnext => ?_⟩
      dsimp only at hnext
      split at hnext
      · obtain rfl := Option.some.inj hnext
        exact seen_of_claim h hperform
      · cases hnext
  | findById run =>
      obtain rfl := Option.some.inj hcode
      obtain ⟨howns, document, hdocument, huploaded⟩ := hseen
      refine ⟨trivial, arrives_findById fun next hnext => ?_⟩
      rw [hdocument] at hnext
      dsimp only at hnext
      split at hnext
      · next hterminal =>
          obtain rfl := Option.some.inj hnext
          refine ⟨howns, document, hdocument, fun heq => ?_⟩
          rw [heq] at hterminal
          simp at hterminal
      split at hnext
      · obtain rfl := Option.some.inj hnext
        exact ⟨howns, document, hdocument, huploaded⟩
      · next hleft =>
          obtain rfl := Option.some.inj hnext
          exact ⟨howns, document, hdocument, hleft⟩
  | acknowledgeSkipped run =>
      obtain rfl := Option.some.inj hcode
      refine safePlace_of_seen h (harmless_acknowledge hseen hok) fun result next hnext => ?_
      cases hnext
  | transitionUploaded run =>
      obtain rfl := Option.some.inj hcode
      obtain ⟨howns, document, hdocument, huploaded⟩ := hseen
      have hjob : QueuedHasJob s run.documentId [.uploaded] := by
        intro other hother hstatus
        obtain rfl := Option.some.inj (hdocument.symm.trans hother)
        exact huploaded (List.mem_singleton.mp hstatus)
      refine ⟨⟨nofun, fun _ => hjob⟩, arrives_transition (fun message _ next hnext => ?_)
        (fun hmiss next hnext => ?_) fun old hold hstatus hguard next hnext => ?_⟩
      · cases hnext
      · obtain rfl := Option.some.inj hnext
        exact ⟨howns, document, hdocument, fun heq => hmiss document hdocument
          ⟨List.mem_singleton.mpr heq, by simp⟩⟩
      · obtain rfl := Option.some.inj hnext
        exact ⟨howns, _, AList.lookup_insert _, nofun⟩
  | transitionProcessing run processingAttempts =>
      obtain rfl := Option.some.inj hcode
      refine safePlace_of_seen h
        ⟨nofun, fun _ => queuedHasJob_of_active h (by decide)⟩ fun result next hnext => ?_
      dsimp only at hnext
      split at hnext
      · obtain rfl := Option.some.inj hnext
        exact hseen
      · obtain rfl := Option.some.inj hnext
        exact hseen
      · cases hnext
  | processing run attempts heartbeat place => exact hworking run rfl
  | deleteChunks run attempts error => exact hworking run rfl
  | transitionAfterError run error decision => exact hworking run rfl
  | release run nextRetryAt => exact hworking run rfl
  | acknowledgeFailed run => exact hworking run rfl

/-- Every place of every call is safe while the calls keep the jobs. -/
theorem call_place (h : Backed s) {config : WorkerConfig} {input : Input} (call : Call)
    (hseen : Seen s call) (hok : KeepsJob s input call) {await : Await Call}
    (hcode : call.code config s.now input = some await) :
    Harmless s await.request ∧ Arrives s input await Seen := by
  cases call with
  | enqueueUploaded place =>
      obtain rfl := Option.some.inj hcode
      exact (enqueueUploaded_place h place hseen hok).imp_right Arrives.map
  | retry place =>
      obtain rfl := Option.some.inj hcode
      exact (retry_place h place hseen hok).imp_right Arrives.map
  | reprocess place =>
      obtain rfl := Option.some.inj hcode
      exact (reprocess_place h place hseen hok).imp_right Arrives.map
  | worker place =>
      obtain ⟨inner, hinner, rfl⟩ := Option.map_eq_some_iff.mp hcode
      exact (worker_place h place hseen hok hinner).imp_right Arrives.map

theorem carry_env (h : Backed s) (e : Env) : Backed (envStep s e) ∧ Carries s (envStep s e) := by
  cases e with
  | tick ms =>
      exact ⟨⟨h.valid, h.known, h.readable, h.active⟩,
        ⟨fun _ h => h, fun _ h => h, fun _ h => h, fun _ h => h⟩⟩
  | upload documentId =>
      have hkeep : ∀ {d document}, s.documents.lookup d = some document →
          (s.documents.create documentId).2.lookup d = some document :=
        DocumentMetadataRepository.lookup_create_of_lookup
      refine ⟨⟨h.valid, fun id job hjob => ?_, fun d document hdocument => ?_,
        fun d document hdocument hactive => ?_⟩, ⟨fun d hd => ?_, fun d hd => ?_, fun d hd => ?_,
        fun _ h => h⟩⟩
      · obtain ⟨document, hdocument⟩ := h.known id job hjob
        exact ⟨document, hkeep hdocument⟩
      · rcases DocumentMetadataRepository.lookup_create hdocument with hold | ⟨-, rfl, hvalid⟩
        · exact h.readable d document hold
        · exact ⟨rfl, hvalid⟩
      · rcases DocumentMetadataRepository.lookup_create hdocument with hold | ⟨-, rfl, -⟩
        · exact h.active d document hold hactive
        · rcases hactive with hstatus | hstatus <;> cases hstatus
      · exact hd.imp fun document hdocument => hkeep hdocument
      · exact hd.imp fun document => And.imp_left hkeep
      · exact hd.imp fun document => And.imp_left hkeep

/-! ## Runs that keep the jobs -/

theorem backed_start (now : Nat) : Backed (Stores.start Q now) where
  valid := LawfulDocumentProcessingQueue.valid_empty
  known := by simp [Stores.start, Stores.jobs, LawfulDocumentProcessingQueue.jobs_empty]
  readable := by simp [Stores.start]
  active := by simp [Stores.start]

/-- The invariant of the runs that keep the jobs. -/
theorem backed_of_reachable {config : WorkerConfig} {now : Nat} {w : World (Stores Q) Call}
    (h : Reachable (StartedAt now) (Guarded StepKeepsJob (pipeline Q config).step) w) :
    Backed w.shared ∧ ∀ call ∈ w.locals, Seen w.shared call := by
  refine pipeline_inv (fun w _ request => Harmless w.shared request) (fun w hw => ?_)
    (fun s e hs => ?_) (fun w call _ hcall => ?_) (fun w i input call await hs hseen hok hget hinput
      hcode => ?_) (fun w input _ request result s' hs hpre hperform => ?_) h
  · rw [show w = ⟨Stores.start Q now, []⟩ from hw]
    exact ⟨backed_start now, rfl⟩
  · obtain ⟨hs', hcarry⟩ := carry_env hs e
    exact ⟨hs', fun m hm => hm.carry hcarry⟩
  · unfold Call.isInitial at hcall
    split at hcall <;> trivial
  · refine call_place hs call hseen ?_ hcode
    unfold StepKeepsJob at hok
    split at hok
    · next heq => cases heq; exact absurd rfl hinput
    · next heq =>
        cases heq
        exact hok call hget
    · next hno => exact absurd rfl (hno i input)
  · obtain ⟨hs', hcarry⟩ := carry_request hs request hpre hperform
    exact ⟨hs', fun m _ hm => hm.carry hcarry⟩

/-! ## What strands a document -/

/-- An active document without a job is stranded. -/
theorem stranded_of_noJob {documentId : String} {document : DocumentMetadata} {queue : Q}
    (hdocument : s.documents.lookup documentId = some document)
    (hactive : document.status.IsActive)
    (hnone : ¬(LawfulDocumentProcessingQueue.jobs queue).HasJob documentId) :
    Stranded { s with queue := queue } documentId :=
  ⟨document, hdocument, hactive, hnone⟩

/-- An acknowledge that takes away the job of an active document strands it. -/
theorem stranded_of_acknowledge (h : Backed s) {run : ClaimedJob} (howns : OwnsJob s run)
    (hbad : ¬AcknowledgeKeepsJob s run) {input : Input} {result : Except ThrownError Unit}
    (hperform : s.perform input (.acknowledge run.job.id run.workerId run.fencingToken) =
      some (result, s')) : Stranded s' run.documentId := by
  obtain ⟨-, rfl⟩ := Prod.mk.inj (Option.some.inj hperform)
  simp only [AcknowledgeKeepsJob, not_forall, not_not] at hbad
  obtain ⟨⟨job, hjob⟩, haccepted, document, hdocument, hactive⟩ := hbad
  refine stranded_of_noJob hdocument hactive ?_
  obtain ⟨-, hcases⟩ := LawfulDocumentProcessingQueue.acknowledge_law s.now run.job.id run.workerId
    (some run.fencingToken) h.valid
  rcases hcases with ⟨-, hnone⟩ | ⟨-, -, hafter, -, -⟩
  · have hno := hnone haccepted
    rw [show LawfulDocumentProcessingQueue.jobs s.queue run.job.id = some job from hjob] at hno
    cases hno
  · rintro ⟨id, other, hother, hdoc⟩
    rw [hafter] at hother
    have hne : id ≠ run.job.id := by
      rintro rfl
      rw [Function.update_self] at hother
      cases hother
    rw [Function.update_of_ne hne] at hother
    exact hne (LawfulDocumentProcessingQueue.jobs_unique h.valid hother hjob
      (hdoc.trans (howns.2 job hjob).symm))

/-- A removal that takes away the job of an active document strands it. -/
theorem stranded_of_remove (h : Backed s) {documentId : String}
    (hbad : ¬RemoveKeepsJob s documentId) {input : Input} {result : Except ThrownError Unit}
    (hperform : s.perform input (.removeForDocument documentId) = some (result, s')) :
    Stranded s' documentId := by
  obtain ⟨-, rfl⟩ := Prod.mk.inj (Option.some.inj hperform)
  simp only [RemoveKeepsJob, not_forall, not_not] at hbad
  obtain ⟨-, haccepted, document, hdocument, hactive⟩ := hbad
  refine stranded_of_noJob hdocument hactive ?_
  obtain ⟨-, hcases⟩ := LawfulDocumentProcessingQueue.remove_law documentId h.valid
  rcases hcases with ⟨-, hrefused⟩ | ⟨-, hafter⟩
  · exact absurd haccepted hrefused
  · rw [hafter]
    rintro ⟨id, other, hother, hdoc⟩
    exact (Jobs.removeDocument_eq_some.mp hother).2 hdoc

/-- A transition to `QUEUED` of a document without a job strands it. -/
theorem stranded_of_transition (h : Backed s) {documentId : String}
    {expectedStatuses : List DocumentProcessingStatus} {changes : UpdateDocumentMetadata}
    (hbad : ¬QueuedHasJob s documentId expectedStatuses)
    (hallowed : expectedStatuses.forM (assertDocumentStatusTransition · .queued) = .ok ())
    (hvalid : ∀ document : DocumentMetadata,
      document.IsValid → (document.update changes .queued).IsValid)
    {input : Input} {result : Except ThrownError (Option DocumentMetadata)}
    (hperform : s.perform input (.transitionStatus documentId expectedStatuses .queued changes
      none) = some (result, s')) : Stranded s' documentId := by
  obtain ⟨-, rfl⟩ := Prod.mk.inj (Option.some.inj hperform)
  simp only [QueuedHasJob, not_forall] at hbad
  obtain ⟨document, hdocument, hstatus, hnone⟩ := hbad
  obtain ⟨hid, hread⟩ := h.readable documentId document hdocument
  have hold := validateDocumentMetadata_eq_ok.mp hread
  have hstep := DocumentMetadataRepository.transitionStep s.documents documentId expectedStatuses
    .queued changes none
  have hno : ∀ message, (s.documents.transitionStatus documentId expectedStatuses .queued changes
      none).1 ≠ .error message := by
    refine DocumentMetadataRepository.transitionStatus_not_thrown (hid ▸ hold.id) hallowed
      fun other hother => ?_
    obtain rfl := Option.some.inj (hdocument.symm.trans hother)
    exact hvalid document hold
  generalize s.documents.transitionStatus documentId expectedStatuses .queued changes none =
    outcome at hstep hno ⊢
  cases hstep with
  | thrown message => exact absurd rfl (hno message)
  | missed hmiss => exact absurd ⟨hstatus, by simp⟩ (hmiss document hdocument)
  | written other hother _ _ _ =>
      exact ⟨_, AList.lookup_insert _, Or.inl rfl, hnone⟩

/-- `retryDocumentProcessing` and `reprocessDocument` start from statuses that may
become `QUEUED`. -/
theorem forM_toQueued {expectedStatuses : List DocumentProcessingStatus}
    (h : ∀ status ∈ expectedStatuses, Finished status) :
    expectedStatuses.forM (assertDocumentStatusTransition · .queued) = .ok () := by
  rw [Checked.forM_eq_ok]
  intro status hstatus
  have hfinished := h status hstatus
  simp only [Finished, List.mem_cons, List.not_mem_nil, or_false] at hfinished
  rcases hfinished with rfl | rfl | rfl <;> rfl

theorem finished_of_expected {options : RetryOptions} {status : DocumentProcessingStatus}
    (h : status ∈ Retry.expected options) : Finished status := by
  obtain ⟨retryable, -, rfl⟩ := List.mem_map.mp h
  cases retryable <;> simp [Finished, RetryableStatus.toStatus]

/-- A step of a call that does not meet the condition strands a document. -/
theorem stranded_of_call (h : Backed s) {config : WorkerConfig} {input : Input} {call : Call}
    (hseen : Seen s call) (hbad : ¬KeepsJob s input call) {await : Await Call}
    (hcode : call.code config s.now input = some await) {result : Except ThrownError await.Value}
    (hperform : s.perform input await.request = some (result, s')) :
    ∃ documentId, Stranded s' documentId := by
  cases call with
  | enqueueUploaded place =>
      obtain rfl := Option.some.inj hcode
      cases place with
      | removeAfterConflict documentId => exact ⟨_, stranded_of_remove h hbad hperform⟩
      | removeInCatch documentId => exact ⟨_, stranded_of_remove h hbad hperform⟩
      | _ => exact absurd trivial hbad
  | retry place =>
      obtain rfl := Option.some.inj hcode
      cases place with
      | transition documentId options enqueued =>
          refine ⟨_, stranded_of_transition h hbad
            (forM_toQueued fun _ => finished_of_expected) (fun document hold => ?_) hperform⟩
          exact { hold with
            lastErrorCode := by simp [DocumentMetadata.update]
            processingCompletedAt := by simp [DocumentMetadata.update]
            nextRetryAt := by simp [DocumentMetadata.update]
            quarantinedAt := by simp [DocumentMetadata.update]
            workerId := by simp [DocumentMetadata.update] }
      | removeAfterConflict documentId => exact ⟨_, stranded_of_remove h hbad hperform⟩
      | removeInCatch documentId => exact ⟨_, stranded_of_remove h hbad hperform⟩
      | _ => exact absurd trivial hbad
  | reprocess place =>
      obtain rfl := Option.some.inj hcode
      cases place with
      | transition documentId status enqueued =>
          have hfinished : ∀ other ∈ [status], Finished other := by
            intro other hother
            rw [List.mem_singleton.mp hother]
            exact hseen.2
          refine ⟨_, stranded_of_transition h hbad (forM_toQueued hfinished)
            (fun document hold => ?_) hperform⟩
          exact { hold with
            lastErrorCode := by simp [DocumentMetadata.update]
            processingStartedAt := by simp [DocumentMetadata.update]
            processingCompletedAt := by simp [DocumentMetadata.update]
            nextRetryAt := by simp [DocumentMetadata.update]
            quarantinedAt := by simp [DocumentMetadata.update]
            workerId := by simp [DocumentMetadata.update] }
      | remove documentId => exact ⟨_, stranded_of_remove h hbad hperform⟩
      | _ => exact absurd trivial hbad
  | worker place =>
      obtain ⟨inner, hinner, rfl⟩ := Option.map_eq_some_iff.mp hcode
      cases place with
      | acknowledgeSkipped run =>
          obtain rfl := Option.some.inj hinner
          exact ⟨_, stranded_of_acknowledge h hseen.1 hbad hperform⟩
      | acknowledgeFailed run =>
          obtain rfl := Option.some.inj hinner
          exact ⟨_, stranded_of_acknowledge h hseen.1 hbad hperform⟩
      | processing run attempts heartbeat place =>
          cases place with
          | acknowledgeCompleted =>
              obtain ⟨hinput, hbad⟩ := Classical.not_imp.mp hbad
              rw [Worker.code_processing hinput] at hinner
              simp only [Worker.processingCode] at hinner
              split at hinner
              · cases hinner
              obtain rfl := Option.some.inj hinner
              exact ⟨_, stranded_of_acknowledge h hseen.1 hbad hperform⟩
          | _ => exact absurd trivial hbad
      | _ => exact absurd trivial hbad

/-! ## The result -/

/-- No document is stranded. -/
def NoneStranded (w : World (Stores Q) Call) : Prop := ∀ documentId, ¬Stranded w.shared documentId

theorem noneStranded_of_reachable {config : WorkerConfig} {now : Nat}
    {w : World (Stores Q) Call}
    (h : Reachable (StartedAt now) (Guarded StepKeepsJob (pipeline Q config).step) w) :
    NoneStranded w := by
  rintro documentId ⟨document, hdocument, hactive, hnone⟩
  exact hnone ((backed_of_reachable h).1.active documentId document hdocument hactive)

theorem not_noneStranded_of_step {config : WorkerConfig} {now : Nat}
    {w w' : World (Stores Q) Call} {ev : Event Env Call Input}
    (h : Reachable (StartedAt now) (Guarded StepKeepsJob (pipeline Q config).step) w)
    (hstep : (pipeline Q config).step w ev w') (hbad : ¬StepKeepsJob w ev) : ¬NoneStranded w' := by
  obtain ⟨hbacked, hseen⟩ := backed_of_reachable h
  rcases Program.step_cases hstep with ⟨e, rfl, -⟩ | ⟨call, rfl, -, -⟩ |
    ⟨i, input, call, s', next, rfl, hget, hadvance, rfl⟩
  · exact absurd trivial hbad
  · exact absurd trivial hbad
  rcases advance_cases hadvance with ⟨rfl, -, -⟩ | ⟨await, result, hinput, hcode, hperform, -⟩
  · exact absurd trivial hbad
  have hcall : ¬KeepsJob w.shared input call := by
    intro hkeeps
    refine hbad ?_
    unfold StepKeepsJob
    split
    · trivial
    · next heq =>
        cases heq
        intro other hother
        obtain rfl := Option.some.inj (hget.symm.trans hother)
        exact hkeeps
    · trivial
  obtain ⟨documentId, hstranded⟩ := stranded_of_call hbacked
    (hseen call (List.mem_of_getElem? hget)) hcall hcode hperform
  exact fun hnone => hnone documentId hstranded

/-- The runs that never strand a document, whether calls are in progress or not,
are those whose steps all keep the jobs of active documents. -/
theorem noneStranded_iff_keepsJob (config : WorkerConfig) (now : Nat) (w : World (Stores Q) Call)
    (run : List (Event Env Call Input × World (Stores Q) Call)) (hstart : StartedAt now w)
    (hrun : Run (pipeline Q config).step w run) :
    AlwaysHolds NoneStranded w run ↔ StepsMeet StepKeepsJob w run :=
  alwaysHolds_iff_stepsMeet (fun _ => noneStranded_of_reachable)
    (fun _ _ _ => not_noneStranded_of_step) hrun (Reachable.start hstart)

/-- The document is reprocessed between the completion and the acknowledge of a
worker, which takes away the job that the reprocessing relies on. -/
def acknowledgeAfterReprocess : List (Event Env Call Input) :=
  uploadAndEnqueue ++ claimAndFind 0 "worker-1" ++ processToCompleted 0 ++
    [.spawn (.reprocess (.findById "document" false)), proceed 1,
      .advance 1 (.ids secondJob correlation), proceed 1, proceed 1, proceed 1, proceed 0]

/-- No call is in progress, the document is `QUEUED`, and the queue is empty. -/
theorem acknowledgeAfterReprocess_strands :
    ∃ w, Reachable (StartedAt 0) (pipeline LocalDocumentProcessingQueue defaultConfig).step w ∧
      w.Quiescent ∧ w.shared.status? "document" = some .queued ∧ w.shared.queue.jobs = [] :=
  exists_reachable_of_exec
    (fun w : World (Stores LocalDocumentProcessingQueue) Call =>
      w.Quiescent ∧ w.shared.status? "document" = some .queued ∧ w.shared.queue.jobs = [])
    _ acknowledgeAfterReprocess rfl (by decide)

theorem acknowledgeAfterReprocess_not_noneStranded :
    ∃ w, Reachable (StartedAt 0) (pipeline LocalDocumentProcessingQueue defaultConfig).step w ∧
      w.Quiescent ∧ ¬NoneStranded w := by
  obtain ⟨w, hw, hquiescent, hstatus, hjobs⟩ := acknowledgeAfterReprocess_strands
  obtain ⟨document, hdocument, hqueued⟩ := Option.map_eq_some_iff.mp hstatus
  refine ⟨w, hw, hquiescent, fun hnone =>
    hnone "document" ⟨document, hdocument, Or.inl hqueued, ?_⟩⟩
  rintro ⟨id, job, hjob, -⟩
  obtain ⟨stored, hstored, -⟩ := LocalDocumentProcessingQueue.viewJobs_eq_some.mp hjob
  rw [hjobs] at hstored
  cases hstored

/-- An upload and its enqueue, in a run of their own, strand nothing. -/
theorem noneStranded_iff_keepsJob_uploadAndEnqueue :
    AlwaysHolds NoneStranded ⟨Stores.start LocalDocumentProcessingQueue 0, []⟩
      (trace (pipeline LocalDocumentProcessingQueue defaultConfig).next ⟨Stores.start _ 0, []⟩
        uploadAndEnqueue) := by
  refine (noneStranded_iff_keepsJob defaultConfig 0 _ _ rfl (run_trace _ _)).mpr ?_
  refine ⟨trivial, trivial, fun call hcall => ?_, fun call hcall => ?_, fun call hcall => ?_,
    trivial⟩ <;> cases hcall <;> trivial

end AvantimePlatform.Pipeline
