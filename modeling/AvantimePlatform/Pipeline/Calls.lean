import AvantimePlatform.Pipeline.Stores

/-!
# The calls of the processing pipeline

`enqueueUploadedDocument` and `reprocessDocument` of `document-services.ts`,
`retryDocumentProcessing` of `document-quarantine.ts` and
`DefaultDocumentProcessingWorker.runOnce` of `document-processing-worker.ts`, each
as the places where it awaits an operation.  `code` of a call says what it awaits
at each place and where it goes from there.

Left out are the operations on stores that the pipeline does not read: the
embedding queue and the vectors of `reprocessDocument`, and `afterCompleted`.
-/

namespace AvantimePlatform.Pipeline

open AvantimePlatform.Documents AvantimePlatform.Queue AvantimePlatform.Interleaving

/-! ## `enqueueUploadedDocument` -/

/-- Where a call of `enqueueUploadedDocument` is. -/
inductive EnqueueUploaded where
  | findById (documentId : String)
  | enqueueQueued (documentId : String)
  | enqueue (documentId : String)
  | transition (documentId : String) (enqueued : Bool)
  | removeAfterConflict (documentId : String)
  | removeInCatch (documentId : String)
  | transitionFailed (documentId : String)
deriving DecidableEq

namespace EnqueueUploaded

/-- The `catch` block, with `enqueueResult?.enqueued`. -/
def caught (documentId : String) (enqueued : Bool) : EnqueueUploaded :=
  if enqueued then .removeInCatch documentId else .transitionFailed documentId

def code (now : Nat) : EnqueueUploaded → Await EnqueueUploaded
  | .findById documentId => .mk (.findById documentId) fun
    | .ok (some document) =>
      if document.status = .queued then some (.enqueueQueued documentId)
      else if document.status = .uploaded then some (.enqueue documentId)
      else none
    | _ => none
  | .enqueueQueued documentId => .mk (.enqueue documentId) fun _ => none
  | .enqueue documentId => .mk (.enqueue documentId) fun
    | .ok result => some (.transition documentId result.enqueued)
    | .error _ => some (caught documentId false)
  | .transition documentId enqueued =>
    .mk (.transitionStatus documentId [.uploaded] .queued
      { nextRetryAt := some none, workerId := some none } none) fun
    | .ok (some _) => none
    | .ok none =>
      if enqueued then some (.removeAfterConflict documentId)
      else some (caught documentId enqueued)
    | .error _ => some (caught documentId enqueued)
  | .removeAfterConflict documentId =>
    .mk (.removeForDocument documentId) fun _ => some (caught documentId true)
  | .removeInCatch documentId => .mk (.removeForDocument documentId) fun
    | .ok _ => some (.transitionFailed documentId)
    | .error _ => none
  | .transitionFailed documentId =>
    .mk (.transitionStatus documentId [.uploaded] .failed
      { lastErrorCode := some (some "QUEUE_ENQUEUE_FAILED")
        processingCompletedAt := some (some now) } none) fun _ => none

end EnqueueUploaded

/-! ## `retryDocumentProcessing` -/

/-- `'FAILED' | 'QUARANTINED'`. -/
inductive RetryableStatus where
  | failed
  | quarantined
deriving DecidableEq

def RetryableStatus.toStatus : RetryableStatus → DocumentProcessingStatus
  | .failed => .failed
  | .quarantined => .quarantined

/-- `options` of `retryDocumentProcessing`. -/
structure RetryOptions where
  dryRun : Bool := false
  expectedStatuses : List RetryableStatus := [.failed, .quarantined]
deriving DecidableEq

/-- Where a call of `retryDocumentProcessing` is. -/
inductive Retry where
  | findById (documentId : String) (options : RetryOptions)
  | enqueue (documentId : String) (options : RetryOptions)
  | transition (documentId : String) (options : RetryOptions) (enqueued : Bool)
  | removeAfterConflict (documentId : String)
  | removeInCatch (documentId : String)
deriving DecidableEq

namespace Retry

def expected (options : RetryOptions) : List DocumentProcessingStatus :=
  options.expectedStatuses.map RetryableStatus.toStatus

def code : Retry → Await Retry
  | .findById documentId options => .mk (.findById documentId) fun
    | .ok (some document) =>
      if document.status ∈ expected options ∧ options.dryRun = false then
        some (.enqueue documentId options)
      else none
    | _ => none
  | .enqueue documentId options => .mk (.enqueue documentId) fun
    | .ok result => some (.transition documentId options result.enqueued)
    | .error _ => none
  | .transition documentId options enqueued =>
    .mk (.transitionStatus documentId (expected options) .queued
      { nextRetryAt := some none, quarantinedAt := some none, workerId := some none,
        lastErrorCode := some none, processingCompletedAt := some none } none) fun
    | .ok (some _) => none
    | .ok none => if enqueued then some (.removeAfterConflict documentId) else none
    | .error _ => if enqueued then some (.removeInCatch documentId) else none
  | .removeAfterConflict documentId => .mk (.removeForDocument documentId) fun
    | .ok _ => none
    | .error _ => some (.removeInCatch documentId)
  | .removeInCatch documentId => .mk (.removeForDocument documentId) fun _ => none

end Retry

/-! ## `reprocessDocument` -/

/-- Where a call of `reprocessDocument` is. -/
inductive Reprocess where
  | findById (documentId : String) (dryRun : Bool)
  | enqueueOnly (documentId : String)
  | enqueue (documentId : String) (status : DocumentProcessingStatus)
  | transition (documentId : String) (status : DocumentProcessingStatus) (enqueued : Bool)
  | remove (documentId : String)
  | deleteText (documentId : String)
  | deleteChunks (documentId : String)
deriving DecidableEq

namespace Reprocess

def code : Reprocess → Await Reprocess
  | .findById documentId dryRun => .mk (.findById documentId) fun
    | .ok (some document) =>
      if dryRun = true then none
      else if document.status = .uploaded ∨ document.status = .queued then
        some (.enqueueOnly documentId)
      else if document.status ∈ [DocumentProcessingStatus.completed, .failed, .quarantined] then
        some (.enqueue documentId document.status)
      else none
    | _ => none
  | .enqueueOnly documentId => .mk (.enqueue documentId) fun _ => none
  | .enqueue documentId status => .mk (.enqueue documentId) fun
    | .ok result => some (.transition documentId status result.enqueued)
    | .error _ => none
  | .transition documentId status enqueued =>
    .mk (.transitionStatus documentId [status] .queued
      { lastErrorCode := some none, processingStartedAt := some none,
        processingCompletedAt := some none, nextRetryAt := some none,
        quarantinedAt := some none, workerId := some none } none) fun
    | .ok (some _) => some (.deleteText documentId)
    | .ok none => if enqueued then some (.remove documentId) else none
    | .error _ => none
  | .remove documentId => .mk (.removeForDocument documentId) fun _ => none
  | .deleteText documentId => .mk (.deleteText documentId) fun
    | .ok _ => some (.deleteChunks documentId)
    | .error _ => none
  | .deleteChunks documentId => .mk (.deleteChunks documentId) fun _ => none

end Reprocess

/-! ## `DefaultDocumentProcessingWorker.runOnce` -/

/-- The dependencies of the worker that are values. -/
structure WorkerConfig where
  retryPolicy : DocumentRetryPolicy
  leaseDurationMs : Nat := defaultLeaseDurationMs

/-- The worker and the job it has claimed. -/
structure ClaimedJob where
  workerId : String
  job : DocumentProcessingJob
deriving DecidableEq

namespace ClaimedJob

def documentId (run : ClaimedJob) : String := run.job.documentId

/-- `const fencingToken = job.fencingToken ?? ...`; both adapters set it. -/
def fencingToken (run : ClaimedJob) : Nat := run.job.fencingToken

/-- `leaseGuard`. -/
def leaseGuard (run : ClaimedJob) : DocumentLeaseGuard := ⟨run.workerId, run.fencingToken⟩

end ClaimedJob

/-- `WorkerLeaseHeartbeat`: whether a renewal has failed, and the metadata write
that a renewal still has to make. -/
structure Heartbeat where
  lost : Bool := false
  pending : Option (Option Nat) := none
deriving DecidableEq

/-- Where a run is between the start and the stop of its heartbeat. -/
inductive Processing where
  | extract
  | saveText (result : DocumentProcessingResult)
  | saveChunks (result : DocumentProcessingResult)
  | assertOwned (result : DocumentProcessingResult)
  | transitionCompleted (result : DocumentProcessingResult)
  | deleteConflictText
  | deleteConflictChunks
  | acknowledgeCompleted
  | deleteText (error : ThrownError)
deriving DecidableEq

/-- Where a call of `runOnce` is. -/
inductive Worker where
  | claim (workerId : String)
  | findById (run : ClaimedJob)
  | acknowledgeSkipped (run : ClaimedJob)
  | transitionUploaded (run : ClaimedJob)
  | transitionProcessing (run : ClaimedJob) (processingAttempts : Nat)
  | processing (run : ClaimedJob) (attempts : Nat) (heartbeat : Heartbeat) (place : Processing)
  | deleteChunks (run : ClaimedJob) (attempts : Nat) (error : ThrownError)
  | transitionAfterError (run : ClaimedJob) (error : DocumentProcessingErrorClassification)
      (decision : DocumentRetryDecision)
  | release (run : ClaimedJob) (nextRetryAt : Nat)
  | acknowledgeFailed (run : ClaimedJob)
deriving DecidableEq

namespace Worker

def leaseLost : ThrownError := .ofMessage "Worker lease was lost during heartbeat renewal."

def stateConflict : ThrownError :=
  .documentProcessingError "PROCESSING_STATE_CONFLICT" true
    "Состояние документа изменилось во время обработки."

/-- One step of the heartbeat: the renewal of the lease, then the guarded write of
its new deadline. -/
def heartbeatCode (config : WorkerConfig) (now : Nat) (run : ClaimedJob) (attempts : Nat)
    (heartbeat : Heartbeat) (place : Processing) : Option (Await Worker) :=
  if heartbeat.lost then none
  else
    match heartbeat.pending with
    | none =>
      some (.mk (.renew run.job.id run.workerId run.fencingToken config.leaseDurationMs) fun
        | .ok renewed =>
          some (.processing run attempts { lost := false, pending := some renewed.leaseExpiresAt }
            place)
        | .error _ => some (.processing run attempts { lost := true } place))
    | some leaseExpiresAt =>
      some (.mk (.transitionStatus run.documentId [.processing] .processing
          { workerHeartbeatAt := some (some now), processingLeaseUntil := some leaseExpiresAt }
          (some run.leaseGuard)) fun
        | .ok (some _) => some (.processing run attempts {} place)
        | _ => some (.processing run attempts { lost := true } place))

/-- One step of the run itself while its heartbeat runs.  `assertOwned` and `stop`
wait for a renewal that is under way. -/
def processingCode (now : Nat) (run : ClaimedJob) (attempts : Nat) (heartbeat : Heartbeat) :
    Processing → Option (Await Worker)
  | .extract => some (.mk .extract fun
    | .ok result => some (.processing run attempts heartbeat (.saveText result))
    | .error error => some (.processing run attempts heartbeat (.deleteText error)))
  | .saveText result => some (.mk (.saveText run.documentId result.text) fun
    | .ok _ => some (.processing run attempts heartbeat (.saveChunks result))
    | .error error => some (.processing run attempts heartbeat (.deleteText error)))
  | .saveChunks result => some (.mk (.saveChunks run.documentId result.chunks) fun
    | .ok _ => some (.processing run attempts heartbeat (.assertOwned result))
    | .error error => some (.processing run attempts heartbeat (.deleteText error)))
  | .assertOwned result =>
    if heartbeat.pending.isSome then none
    else if heartbeat.lost then
      some (.mk .settled fun _ => some (.processing run attempts heartbeat (.deleteText leaseLost)))
    else
      some (.mk (.assertLease run.job.id run.workerId run.fencingToken) fun
        | .ok _ => some (.processing run attempts heartbeat (.transitionCompleted result))
        | .error error => some (.processing run attempts heartbeat (.deleteText error)))
  | .transitionCompleted result =>
    some (.mk (.transitionStatus run.documentId [.processing] .completed
        { textLength := some (some result.text.length)
          chunksCount := some (some result.chunks.length)
          processingCompletedAt := some (some now)
          nextRetryAt := some none
          quarantinedAt := some none
          workerId := some none
          workerHeartbeatAt := some none
          processingLeaseUntil := some none
          lastErrorCode := some none }
        (some run.leaseGuard)) fun
      | .ok (some _) => some (.processing run attempts heartbeat .acknowledgeCompleted)
      | .ok none => some (.processing run attempts heartbeat .deleteConflictText)
      | .error error => some (.processing run attempts heartbeat (.deleteText error)))
  | .deleteConflictText => some (.mk (.deleteText run.documentId) fun
    | .ok _ => some (.processing run attempts heartbeat .deleteConflictChunks)
    | .error error => some (.processing run attempts heartbeat (.deleteText error)))
  | .deleteConflictChunks => some (.mk (.deleteChunks run.documentId) fun
    | .ok _ => some (.processing run attempts heartbeat (.deleteText stateConflict))
    | .error error => some (.processing run attempts heartbeat (.deleteText error)))
  | .acknowledgeCompleted =>
    if heartbeat.pending.isSome then none
    else some (.mk (.acknowledge run.job.id run.workerId run.fencingToken) fun _ => none)
  | .deleteText error =>
    if heartbeat.pending.isSome then none
    else some (.mk (.deleteText run.documentId) fun _ => some (.deleteChunks run attempts error))

/-- The changes of the transition with which a run claims its document. -/
def claimChanges (now : Nat) (run : ClaimedJob) (processingAttempts : Nat) :
    UpdateDocumentMetadata :=
  { processingAttempts := some (processingAttempts + 1)
    processingStartedAt := some (some now)
    processingCompletedAt := some none
    nextRetryAt := some none
    quarantinedAt := some none
    workerId := some (some run.workerId)
    processingFencingToken := some run.fencingToken
    workerHeartbeatAt := some (some now)
    processingLeaseUntil := some run.job.leaseExpiresAt
    lastErrorCode := some none }

/-- The status that a decision leads to. -/
def decidedStatus : DocumentRetryDecision → DocumentProcessingStatus
  | .retry _ => .queued
  | .quarantine => .quarantined
  | .fail => .failed

/-- The changes of the transition after an error. -/
def errorChanges (now : Nat) (error : DocumentProcessingErrorClassification) :
    DocumentRetryDecision → UpdateDocumentMetadata
  | .retry nextRetryAt =>
    { lastErrorCode := some (some error.code), processingCompletedAt := some (some now),
      workerId := some none, nextRetryAt := some (some nextRetryAt), quarantinedAt := some none }
  | .quarantine =>
    { lastErrorCode := some (some error.code), processingCompletedAt := some (some now),
      workerId := some none, nextRetryAt := some none, quarantinedAt := some (some now) }
  | .fail =>
    { lastErrorCode := some (some error.code), processingCompletedAt := some (some now),
      workerId := some none, nextRetryAt := some none, quarantinedAt := some none }

/-- What the catch block decides once the derivatives are deleted. -/
def decided (config : WorkerConfig) (now : Nat) (run : ClaimedJob) (attempts : Nat)
    (error : ThrownError) : Option Worker :=
  let classified := classifyDocumentProcessingError error
  match decideDocumentRetry attempts classified config.retryPolicy now with
  | .error _ => none
  | .ok decision => some (.transitionAfterError run classified decision)

def code (config : WorkerConfig) (now : Nat) (input : Input) : Worker → Option (Await Worker)
  | .claim workerId => some (.mk (.claim workerId config.leaseDurationMs) fun
    | .ok (some job) => some (.findById ⟨workerId, job⟩)
    | _ => none)
  | .findById run => some (.mk (.findById run.documentId) fun
    | .ok none => some (.acknowledgeSkipped run)
    | .ok (some document) =>
      if document.status ∈ [DocumentProcessingStatus.completed, .failed, .quarantined] then
        some (.acknowledgeSkipped run)
      else if document.status = .uploaded then some (.transitionUploaded run)
      else some (.transitionProcessing run document.processingAttempts)
    | .error _ => none)
  | .acknowledgeSkipped run =>
    some (.mk (.acknowledge run.job.id run.workerId run.fencingToken) fun _ => none)
  | .transitionUploaded run =>
    some (.mk (.transitionStatus run.documentId [.uploaded] .queued {} none) fun
      | .ok (some document) => some (.transitionProcessing run document.processingAttempts)
      | .ok none => some (.acknowledgeSkipped run)
      | .error _ => none)
  | .transitionProcessing run processingAttempts =>
    some (.mk (.transitionStatus run.documentId [.queued, .processing] .processing
        (claimChanges now run processingAttempts) none) fun
      | .ok (some claimed) =>
        some (.processing run claimed.processingAttempts {} .extract)
      | .ok none => some (.acknowledgeSkipped run)
      | .error _ => none)
  | .processing run attempts heartbeat place =>
    match input with
    | .heartbeat => heartbeatCode config now run attempts heartbeat place
    | _ => processingCode now run attempts heartbeat place
  | .deleteChunks run attempts error => some (.mk (.deleteChunks run.documentId) fun _ =>
    decided config now run attempts error)
  | .transitionAfterError run error decision =>
    some (.mk (.transitionStatus run.documentId [.processing] (decidedStatus decision)
        (errorChanges now error decision) (some run.leaseGuard)) fun
      | .ok (some _) =>
        match decision with
        | .retry nextRetryAt => some (.release run nextRetryAt)
        | _ => some (.acknowledgeFailed run)
      | _ => none)
  | .release run nextRetryAt =>
    some (.mk (.release run.job.id run.workerId nextRetryAt run.fencingToken) fun _ => none)
  | .acknowledgeFailed run =>
    some (.mk (.acknowledge run.job.id run.workerId run.fencingToken) fun _ => none)

/-- The job that a run has claimed. -/
def run? : Worker → Option ClaimedJob
  | .claim _ => none
  | .findById run => some run
  | .acknowledgeSkipped run => some run
  | .transitionUploaded run => some run
  | .transitionProcessing run _ => some run
  | .processing run _ _ _ => some run
  | .deleteChunks run _ _ => some run
  | .transitionAfterError run _ _ => some run
  | .release run _ => some run
  | .acknowledgeFailed run => some run

/-- The job of a run whose claim transition has taken effect. -/
def working : Worker → Option ClaimedJob
  | .processing run _ _ _ => some run
  | .deleteChunks run _ _ => some run
  | .transitionAfterError run _ _ => some run
  | .release run _ => some run
  | .acknowledgeFailed run => some run
  | _ => none

end Worker

/-! ## The interleaved system -/

/-- A call in progress. -/
inductive Call where
  | enqueueUploaded (place : EnqueueUploaded)
  | retry (place : Retry)
  | reprocess (place : Reprocess)
  | worker (place : Worker)
deriving DecidableEq

namespace Call

/-- Where a call begins. -/
def isInitial : Call → Bool
  | .enqueueUploaded (.findById _) => true
  | .retry (.findById _ _) => true
  | .reprocess (.findById _ _) => true
  | .worker (.claim _) => true
  | _ => false

def isWorker : Call → Bool
  | .worker _ => true
  | _ => false

/-- What a call awaits next. -/
def code (config : WorkerConfig) (now : Nat) (input : Input) : Call → Option (Await Call)
  | .enqueueUploaded place => some ((place.code now).map .enqueueUploaded)
  | .retry place => some (place.code.map .retry)
  | .reprocess place => some (place.code.map .reprocess)
  | .worker place => (place.code config now input).map (Await.map .worker)

end Call

/-- What happens beside the calls: time passes, or a document is uploaded. -/
inductive Env where
  | tick (ms : Nat)
  | upload (documentId : String)

variable {Q : Type} [DocumentProcessingQueue Q]

/-- The environment's step. -/
def envStep (s : Stores Q) : Env → Stores Q
  | .tick ms => { s with now := s.now + ms }
  | .upload documentId => { s with documents := (s.documents.create documentId).2 }

/-- One step of a call.  A worker may die at any place. -/
def advance (config : WorkerConfig) (s : Stores Q) (input : Input) (call : Call) :
    Option (Stores Q × Option Call) :=
  match input with
  | .die => if call.isWorker then some (s, none) else none
  | input =>
    match call.code config s.now input with
    | none => none
    | some await =>
      (s.perform input await.request).map fun outcome => (outcome.2, await.resume outcome.1)

/-- Any number of calls over the stores. -/
def pipeline (Q : Type) [DocumentProcessingQueue Q] (config : WorkerConfig) :
    Program (Stores Q) Call Env Input where
  env := envStep
  initial := Call.isInitial
  advance := advance config

end AvantimePlatform.Pipeline
