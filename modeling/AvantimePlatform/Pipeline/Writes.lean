import AvantimePlatform.Pipeline.Steps

/-!
# Metadata writes

What one step of a call does to the metadata, said once.  `DocumentStep` lists the
four kinds of writes: those of the calls that are no workers, the two unfenced writes
with which a worker takes up its job, and the fenced ones of a run that works on it.
Only the claim transition changes the worker id, the fencing token and the attempts
of a document that stays in processing.

`WorkerWrite` is the record of a worker's write that took effect.
-/

namespace AvantimePlatform.Pipeline

open AvantimePlatform.Documents AvantimePlatform.Queue AvantimePlatform.Interleaving
open AvantimePlatform.Transition

variable {Q : Type}

/-- A metadata write of a worker that took effect: the job and the token of the worker,
and the token that the record carries after it. -/
structure WorkerWrite where
  documentId : String
  jobId : String
  fencingToken : Nat
  recorded : Nat
deriving DecidableEq

/-- The run has written the document. -/
def ClaimedJob.wrote (run : ClaimedJob) (document : DocumentMetadata) : WorkerWrite where
  documentId := run.documentId
  jobId := run.job.id
  fencingToken := run.fencingToken
  recorded := document.processingFencingToken

/-- The document that the request writes, if it takes effect. -/
def Stores.written (s : Stores Q) : {α : Type} → Request α → Option DocumentMetadata
  | _, .transitionStatus documentId expectedStatuses nextStatus changes leaseGuard =>
    match (s.documents.transitionStatus documentId expectedStatuses nextStatus changes
      leaseGuard).1 with
    | .ok written => written
    | .error _ => none
  | _, _ => none

/-- The write that the next step of the call makes, if it is a worker's and takes
effect. -/
def workerWrite (config : WorkerConfig) (s : Stores Q) (input : Input) : Call → Option WorkerWrite
  | .worker place =>
    match place.run?, place.code config s.now input with
    | some run, some await => (s.written await.request).map run.wrote
    | _, _ => none
  | _ => none

/-- What one step of a call does to the documents, and the write that it is. -/
inductive DocumentStep (s : Stores Q) :
    Call → DocumentMetadataRepository → Option WorkerWrite → Prop where
  | unchanged (call : Call) : DocumentStep s call s.documents none
  /-- A transition of a call that is no worker. -/
  | called (call : Call) (documentId : String) (document : DocumentMetadata)
      (changes : UpdateDocumentMetadata) (nextStatus : DocumentProcessingStatus)
      (hcall : call.isWorker = false)
      (hdocument : s.documents.lookup documentId = some document)
      (hnext : nextStatus = .queued ∨ nextStatus = .failed)
      (huploaded : ∀ place, call = .enqueueUploaded place → document.status = .uploaded)
      (htoken : changes.processingFencingToken = none)
      (hattempts : changes.processingAttempts = none) :
      DocumentStep s call (s.documents.insert documentId (document.update changes nextStatus)) none
  /-- A worker makes an `UPLOADED` document `QUEUED`. -/
  | queued (run : ClaimedJob) (document : DocumentMetadata)
      (hdocument : s.documents.lookup run.documentId = some document)
      (hstatus : document.status = .uploaded) :
      DocumentStep s (.worker (.transitionUploaded run))
        (s.documents.insert run.documentId (document.update {} .queued))
        (some (run.wrote (document.update {} .queued)))
  /-- A worker claims the document. -/
  | claimed (run : ClaimedJob) (processingAttempts : Nat) (document : DocumentMetadata)
      (hdocument : s.documents.lookup run.documentId = some document)
      (hstatus : document.status.IsActive) :
      DocumentStep s (.worker (.transitionProcessing run processingAttempts))
        (s.documents.insert run.documentId
          (document.update (Worker.claimChanges s.now run processingAttempts) .processing))
        (some (run.wrote
          (document.update (Worker.claimChanges s.now run processingAttempts) .processing)))
  /-- A worker writes a document that it holds. -/
  | fenced (place : Worker) (run : ClaimedJob) (document : DocumentMetadata)
      (changes : UpdateDocumentMetadata) (nextStatus : DocumentProcessingStatus)
      (hworking : place.working = some run)
      (hdocument : s.documents.lookup run.documentId = some document)
      (hstatus : document.status = .processing) (hguard : run.leaseGuard.Holds document)
      (hnext : nextStatus ≠ .uploaded ∧ nextStatus ≠ .deleted)
      (htoken : changes.processingFencingToken = none)
      (hattempts : changes.processingAttempts = none)
      (hworker : nextStatus = .processing → changes.workerId = none)
      (hqueued : nextStatus = .queued → ∃ error nextRetryAt,
        place = .transitionAfterError run error (.retry nextRetryAt)) :
      DocumentStep s (.worker place)
        (s.documents.insert run.documentId (document.update changes nextStatus))
        (some (run.wrote (document.update changes nextStatus)))

section

variable [DocumentProcessingQueue Q] {s s' : Stores Q} {input : Input}

/-- A transition writes nothing, or the document that it finds. -/
theorem written_cases {documentId : String} {expectedStatuses : List DocumentProcessingStatus}
    {nextStatus : DocumentProcessingStatus} {changes : UpdateDocumentMetadata}
    {leaseGuard : Option DocumentLeaseGuard}
    {result : Except ThrownError (Option DocumentMetadata)}
    (hperform : s.perform input (.transitionStatus documentId expectedStatuses nextStatus changes
      leaseGuard) = some (result, s')) :
    (s'.documents = s.documents ∧ s.written (.transitionStatus documentId expectedStatuses
      nextStatus changes leaseGuard) = none) ∨
    ∃ document, s.documents.lookup documentId = some document ∧
      document.status ∈ expectedStatuses ∧ (∀ guard ∈ leaseGuard, guard.Holds document) ∧
      s'.documents = s.documents.insert documentId (document.update changes nextStatus) ∧
      s.written (.transitionStatus documentId expectedStatuses nextStatus changes leaseGuard) =
        some (document.update changes nextStatus) := by
  obtain ⟨-, rfl⟩ := Prod.mk.inj (Option.some.inj hperform)
  have hstep := DocumentMetadataRepository.transitionStep s.documents documentId expectedStatuses
    nextStatus changes leaseGuard
  simp only [Stores.written]
  generalize s.documents.transitionStatus documentId expectedStatuses nextStatus changes
    leaseGuard = outcome at hstep ⊢
  cases hstep with
  | thrown message => exact Or.inl ⟨rfl, rfl⟩
  | missed hmiss => exact Or.inl ⟨rfl, rfl⟩
  | written document hdocument hstatus hguard _ =>
      exact Or.inr ⟨document, hdocument, hstatus, hguard, rfl, rfl⟩

/-- Only transitions write documents. -/
def Request.IsTransition : {α : Type} → Request α → Prop
  | _, .transitionStatus _ _ _ _ _ => True
  | _, _ => False

theorem documents_of_perform {α : Type} {request : Request α} (hrequest : ¬request.IsTransition)
    {result : Except ThrownError α} (hperform : s.perform input request = some (result, s')) :
    s'.documents = s.documents ∧ s.written request = none := by
  cases request with
  | transitionStatus _ _ _ _ _ => exact absurd trivial hrequest
  | enqueue documentId =>
      simp only [Stores.perform] at hperform
      split at hperform
      · split at hperform
        · cases hperform
        · obtain ⟨-, rfl⟩ := Prod.mk.inj (Option.some.inj hperform)
          exact ⟨rfl, rfl⟩
      · cases hperform
  | extract =>
      simp only [Stores.perform] at hperform
      split at hperform
      · obtain ⟨-, rfl⟩ := Prod.mk.inj (Option.some.inj hperform)
        exact ⟨rfl, rfl⟩
      · cases hperform
  | _ =>
      obtain ⟨-, rfl⟩ := Prod.mk.inj (Option.some.inj hperform)
      exact ⟨rfl, rfl⟩

variable {config : WorkerConfig}

omit [DocumentProcessingQueue Q] in
theorem workerWrite_eq {place : Worker} {run : ClaimedJob} (hrun : place.run? = some run)
    {await : Await Worker} (hcode : place.code config s.now input = some await) :
    workerWrite config s input (.worker place) = (s.written await.request).map run.wrote := by
  simp only [workerWrite, hrun, hcode]

theorem Worker.run?_of_working {place : Worker} {run : ClaimedJob}
    (hworking : place.working = some run) : place.run? = some run := by
  cases place <;> first | exact hworking | cases hworking

/-- A step of a worker that makes no transition. -/
theorem documentStep_other {place : Worker} {await : Await Worker}
    (hcode : place.code config s.now input = some await) (hrequest : ¬await.request.IsTransition)
    {result : Except ThrownError await.Value}
    (hperform : s.perform input await.request = some (result, s')) :
    DocumentStep s (.worker place) s'.documents (workerWrite config s input (.worker place)) := by
  obtain ⟨hdocuments, hwritten⟩ := documents_of_perform hrequest hperform
  have hnone : workerWrite config s input (.worker place) = none := by
    cases hrun : place.run? with
    | none => simp only [workerWrite, hrun]
    | some run => rw [workerWrite_eq hrun hcode, hwritten, Option.map_none]
  rw [hdocuments, hnone]
  exact .unchanged _

/-- A fenced transition of a worker. -/
theorem documentStep_fenced {place : Worker} {run : ClaimedJob}
    {nextStatus : DocumentProcessingStatus} {changes : UpdateDocumentMetadata}
    {resume : Except ThrownError (Option DocumentMetadata) → Option Worker}
    (hworking : place.working = some run)
    (hcode : place.code config s.now input = some ⟨.transitionStatus run.documentId [.processing]
      nextStatus changes (some run.leaseGuard), resume⟩)
    (hnext : nextStatus ≠ .uploaded ∧ nextStatus ≠ .deleted)
    (htoken : changes.processingFencingToken = none)
    (hattempts : changes.processingAttempts = none)
    (hworker : nextStatus = .processing → changes.workerId = none)
    (hqueued : nextStatus = .queued → ∃ error nextRetryAt,
      place = .transitionAfterError run error (.retry nextRetryAt))
    {result : Except ThrownError (Option DocumentMetadata)}
    (hperform : s.perform input (.transitionStatus run.documentId [.processing] nextStatus changes
      (some run.leaseGuard)) = some (result, s')) :
    DocumentStep s (.worker place) s'.documents (workerWrite config s input (.worker place)) := by
  rw [workerWrite_eq (Worker.run?_of_working hworking) hcode]
  rcases written_cases hperform with ⟨hdocuments, hwritten⟩ |
    ⟨document, hdocument, hstatus, hguard, hdocuments, hwritten⟩
  · rw [hdocuments, hwritten]
    exact .unchanged _
  · rw [hdocuments, hwritten]
    exact .fenced place run document changes nextStatus hworking hdocument
      (List.mem_singleton.mp hstatus) (hguard _ rfl) hnext htoken hattempts hworker hqueued

/-- A transition of a call that is no worker. -/
theorem documentStep_called {call : Call} (hcall : call.isWorker = false) {documentId : String}
    {expectedStatuses : List DocumentProcessingStatus} {nextStatus : DocumentProcessingStatus}
    {changes : UpdateDocumentMetadata} (hnext : nextStatus = .queued ∨ nextStatus = .failed)
    (huploaded : ∀ place, call = .enqueueUploaded place → expectedStatuses = [.uploaded])
    (htoken : changes.processingFencingToken = none)
    (hattempts : changes.processingAttempts = none)
    {result : Except ThrownError (Option DocumentMetadata)}
    (hperform : s.perform input (.transitionStatus documentId expectedStatuses nextStatus changes
      none) = some (result, s')) : DocumentStep s call s'.documents none := by
  rcases written_cases hperform with ⟨hdocuments, -⟩ |
    ⟨document, hdocument, hstatus, -, hdocuments, -⟩
  · rw [hdocuments]
    exact .unchanged _
  · rw [hdocuments]
    refine .called call documentId document changes nextStatus hcall hdocument hnext
      (fun place hplace => ?_) htoken hattempts
    rw [huploaded place hplace] at hstatus
    exact List.mem_singleton.mp hstatus

theorem documentStep_worker {place : Worker} {await : Await Worker}
    (hcode : place.code config s.now input = some await)
    {result : Except ThrownError await.Value}
    (hperform : s.perform input await.request = some (result, s')) :
    DocumentStep s (.worker place) s'.documents (workerWrite config s input (.worker place)) := by
  cases place with
  | transitionUploaded run =>
      have hwrite := workerWrite_eq (show (Worker.transitionUploaded run).run? = some run from rfl)
        hcode
      obtain rfl := Option.some.inj hcode
      rw [hwrite]
      rcases written_cases hperform with ⟨hdocuments, hwritten⟩ |
        ⟨document, hdocument, hstatus, -, hdocuments, hwritten⟩
      · rw [hdocuments, hwritten]
        exact .unchanged _
      · rw [hdocuments, hwritten]
        exact .queued run document hdocument (List.mem_singleton.mp hstatus)
  | transitionProcessing run processingAttempts =>
      have hwrite := workerWrite_eq
        (show (Worker.transitionProcessing run processingAttempts).run? = some run from rfl) hcode
      obtain rfl := Option.some.inj hcode
      rw [hwrite]
      rcases written_cases hperform with ⟨hdocuments, hwritten⟩ |
        ⟨document, hdocument, hstatus, -, hdocuments, hwritten⟩
      · rw [hdocuments, hwritten]
        exact .unchanged _
      · rw [hdocuments, hwritten]
        refine .claimed run processingAttempts document hdocument ?_
        simpa [DocumentProcessingStatus.IsActive] using hstatus
  | processing run attempts heartbeat place =>
      by_cases hinput : input = .heartbeat
      · subst hinput
        have hcode' := hcode
        simp only [Worker.code, Worker.heartbeatCode] at hcode
        split at hcode
        · cases hcode
        split at hcode
        · obtain rfl := Option.some.inj hcode
          exact documentStep_other hcode' id hperform
        · obtain rfl := Option.some.inj hcode
          exact documentStep_fenced rfl hcode' (by decide) rfl rfl (fun _ => rfl)
            (fun hqueued => by cases hqueued) hperform
      · have hcode' := hcode
        rw [Worker.code_processing hinput] at hcode
        cases place with
        | transitionCompleted result =>
            obtain rfl := Option.some.inj hcode
            exact documentStep_fenced rfl hcode' (by decide) rfl rfl
              (fun hprocessing => by cases hprocessing) (fun hqueued => by cases hqueued) hperform
        | assertOwned result =>
            simp only [Worker.processingCode] at hcode
            split at hcode
            · cases hcode
            split at hcode <;> obtain rfl := Option.some.inj hcode <;>
              exact documentStep_other hcode' id hperform
        | acknowledgeCompleted =>
            simp only [Worker.processingCode] at hcode
            split at hcode
            · cases hcode
            obtain rfl := Option.some.inj hcode
            exact documentStep_other hcode' id hperform
        | deleteText error =>
            simp only [Worker.processingCode] at hcode
            split at hcode
            · cases hcode
            obtain rfl := Option.some.inj hcode
            exact documentStep_other hcode' id hperform
        | _ =>
            obtain rfl := Option.some.inj hcode
            exact documentStep_other hcode' id hperform
  | transitionAfterError run error decision =>
      have hcode' := hcode
      obtain rfl := Option.some.inj hcode
      refine documentStep_fenced rfl hcode' (by cases decision <;> simp [Worker.decidedStatus])
        (by cases decision <;> rfl) (by cases decision <;> rfl)
        (fun hprocessing => by cases decision <;> cases hprocessing) (fun hqueued => ?_) hperform
      cases decision with
      | retry nextRetryAt => exact ⟨error, nextRetryAt, rfl⟩
      | quarantine => cases hqueued
      | fail => cases hqueued
  | _ =>
      have hcode' := hcode
      obtain rfl := Option.some.inj hcode
      exact documentStep_other hcode' id hperform

/-- The inversion of a step of a call: what it does to the documents. -/
theorem documentStep {call : Call} {await : Await Call}
    (hcode : call.code config s.now input = some await)
    {result : Except ThrownError await.Value}
    (hperform : s.perform input await.request = some (result, s')) :
    DocumentStep s call s'.documents (workerWrite config s input call) := by
  have hunchanged : ∀ call : Call, ¬await.request.IsTransition →
      DocumentStep s call s'.documents none := by
    intro call hrequest
    rw [(documents_of_perform hrequest hperform).1]
    exact .unchanged call
  cases call with
  | enqueueUploaded place =>
      obtain rfl := Option.some.inj hcode
      cases place with
      | transition documentId enqueued =>
          exact documentStep_called rfl (Or.inl rfl) (fun _ _ => rfl) rfl rfl hperform
      | transitionFailed documentId =>
          exact documentStep_called rfl (Or.inr rfl) (fun _ _ => rfl) rfl rfl hperform
      | _ => exact hunchanged _ id
  | retry place =>
      obtain rfl := Option.some.inj hcode
      cases place with
      | transition documentId options enqueued =>
          exact documentStep_called rfl (Or.inl rfl) nofun rfl rfl hperform
      | _ => exact hunchanged _ id
  | reprocess place =>
      obtain rfl := Option.some.inj hcode
      cases place with
      | transition documentId status enqueued =>
          exact documentStep_called rfl (Or.inl rfl) nofun rfl rfl hperform
      | _ => exact hunchanged _ id
  | worker place =>
      obtain ⟨inner, hinner, rfl⟩ := Option.map_eq_some_iff.mp hcode
      exact documentStep_worker hinner hperform

end

end AvantimePlatform.Pipeline
