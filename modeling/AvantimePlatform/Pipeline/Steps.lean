import AvantimePlatform.Pipeline.Calls

/-!
# Steps of the pipeline

How facts about all interleavings of the pipeline are proved.  The rule is
`pipeline_inv`: an invariant of the stores, an assertion for each place of each
call, and a condition `Pre` on the requests.  Per place one shows that the request
made there meets `Pre` and that the call arrives at its next place with that
place's assertion; per request one shows that `Pre` is enough to keep the
invariant and the assertions of all calls in progress.

The second half has the vocabulary of the metadata that the results share:
`Current`, the state in which a run's guarded writes take effect, and what one
request can do to a document.
-/

namespace AvantimePlatform.Pipeline

open AvantimePlatform.Documents AvantimePlatform.Queue AvantimePlatform.Interleaving
open AvantimePlatform.Transition

variable {Q : Type}

/-! ## The rule -/

section Rule

variable [DocumentProcessingQueue Q] {config : WorkerConfig} {s s' : Stores Q} {input : Input}

/-- Everything one step of a call can do: die, or perform what it awaits and go on. -/
theorem advance_cases {call : Call} {next : Option Call}
    (h : advance config s input call = some (s', next)) :
    (input = .die ∧ s' = s ∧ next = none) ∨
    ∃ await result, input ≠ .die ∧ call.code config s.now input = some await ∧
      s.perform input await.request = some (result, s') ∧ next = await.resume result := by
  unfold advance at h
  split at h
  · split at h
    · obtain ⟨rfl, rfl⟩ := Prod.mk.inj (Option.some.inj h)
      exact Or.inl ⟨rfl, rfl, rfl⟩
    · cases h
  next hdie =>
  split at h
  · cases h
  next await hawait =>
  obtain ⟨⟨result, other⟩, hperform, hout⟩ := Option.map_eq_some_iff.mp h
  obtain ⟨rfl, rfl⟩ := Prod.mk.inj hout
  exact Or.inr ⟨await, result, hdie, hawait, hperform, rfl⟩

/-- Where a call goes when its request is performed. -/
def Arrives {Next : Type} (s : Stores Q) (input : Input) (await : Await Next)
    (Post : Stores Q → Next → Prop) : Prop :=
  ∀ result s', s.perform input await.request = some (result, s') →
    ∀ next, await.resume result = some next → Post s' next

theorem Arrives.map {Next Next' : Type} {await : Await Next} {f : Next → Next'}
    {Post : Stores Q → Next' → Prop}
    (h : Arrives s input await fun s next => Post s (f next)) :
    Arrives s input (await.map f) Post := by
  intro result s' hperform next' hnext'
  obtain ⟨next, hnext, rfl⟩ := Option.map_eq_some_iff.mp hnext'
  exact h result s' hperform next hnext

variable {I : Stores Q → Prop} {L : Stores Q → Call → Prop}
  {ok : World (Stores Q) Call → Event Env Call Input → Prop}

/-- The interleaving rule for the pipeline. -/
theorem pipeline_inv {init : World (Stores Q) Call → Prop} {w : World (Stores Q) Call}
    (Pre : World (Stores Q) Call → ∀ {α : Type}, Request α → Prop)
    (hinit : ∀ w, init w → I w.shared ∧ w.locals = [])
    (henv : ∀ s e, I s → I (envStep s e) ∧ ∀ m, L s m → L (envStep s e) m)
    (hspawn : ∀ w call, ok w (.spawn call) → call.isInitial = true → L w.shared call)
    (hplace : ∀ w i input call await, I w.shared → L w.shared call →
      ok w (.advance i input) → w.locals[i]? = some call → input ≠ .die →
      call.code config w.shared.now input = some await →
      Pre w await.request ∧ Arrives w.shared input await L)
    (hrequest : ∀ w input {α : Type} (request : Request α) result s', I w.shared →
      Pre w request → w.shared.perform input request = some (result, s') →
      I s' ∧ ∀ m ∈ w.locals, L w.shared m → L s' m)
    (hr : Reachable init (Guarded ok (pipeline Q config).step) w) :
    I w.shared ∧ ∀ m ∈ w.locals, L w.shared m := by
  refine Program.reachable_inv (fun w hw => ?_) henv (fun w call _ hok hcall => hspawn w call hok hcall)
    (fun w i input call s' next hI hL hok hget hmem hadvance => ?_) hr
  · obtain ⟨hI, hnone⟩ := hinit w hw
    refine ⟨hI, fun m hm => ?_⟩
    rw [hnone] at hm
    cases hm
  · rcases advance_cases hadvance with
      ⟨-, rfl, rfl⟩ | ⟨await, result, hinput, hcode, hperform, rfl⟩
    · exact ⟨hI, nofun, fun m _ h => h⟩
    · obtain ⟨hpre, harrives⟩ :=
        hplace w i input call await hI (hL call hmem) hok hget hinput hcode
      obtain ⟨hI', hkeep⟩ := hrequest w input await.request result s' hI hpre hperform
      exact ⟨hI', fun m hm => harrives result s' hperform m hm, hkeep⟩

/-- `findById` leaves everything as it is. -/
theorem arrives_findById {Next : Type} {documentId : String}
    {resume : Except ThrownError (Option DocumentMetadata) → Option Next}
    {Post : Stores Q → Next → Prop}
    (h : ∀ next, resume (.ok (s.documents.lookup documentId)) = some next → Post s next) :
    Arrives s input ⟨.findById documentId, resume⟩ Post := by
  intro result s' hperform next hnext
  obtain ⟨rfl, rfl⟩ := Prod.mk.inj (Option.some.inj hperform)
  exact h next hnext

/-- The three ways on from a transition. -/
theorem arrives_transition {Next : Type} {documentId : String}
    {expectedStatuses : List DocumentProcessingStatus} {nextStatus : DocumentProcessingStatus}
    {changes : UpdateDocumentMetadata} {leaseGuard : Option DocumentLeaseGuard}
    {resume : Except ThrownError (Option DocumentMetadata) → Option Next}
    {Post : Stores Q → Next → Prop}
    (hthrown : ∀ message, (s.documents.transitionStatus documentId expectedStatuses nextStatus
        changes leaseGuard).1 = .error message →
      ∀ next, resume (.error (.ofMessage message)) = some next → Post s next)
    (hmissed : (∀ document, s.documents.lookup documentId = some document →
        ¬(document.status ∈ expectedStatuses ∧ ∀ guard ∈ leaseGuard, guard.Holds document)) →
      ∀ next, resume (.ok none) = some next → Post s next)
    (hwritten : ∀ document, s.documents.lookup documentId = some document →
      document.status ∈ expectedStatuses → (∀ guard ∈ leaseGuard, guard.Holds document) →
      ∀ next, resume (.ok (some (document.update changes nextStatus))) = some next →
      Post { s with
        documents := s.documents.insert documentId (document.update changes nextStatus) } next) :
    Arrives s input
      ⟨.transitionStatus documentId expectedStatuses nextStatus changes leaseGuard, resume⟩ Post := by
  intro result s' hperform next hnext
  obtain ⟨rfl, rfl⟩ := Prod.mk.inj (Option.some.inj hperform)
  have hstep := DocumentMetadataRepository.transitionStep s.documents documentId expectedStatuses
    nextStatus changes leaseGuard
  generalize houtcome : s.documents.transitionStatus documentId expectedStatuses nextStatus changes
    leaseGuard = outcome at hstep hnext hthrown ⊢
  cases hstep with
  | thrown message => exact hthrown message rfl next hnext
  | missed hmiss => exact hmissed hmiss next hnext
  | written document hdocument hstatus hguard _ =>
      exact hwritten document hdocument hstatus hguard next hnext

end Rule

/-- No call is in progress, there are no documents, and the queue is empty. -/
def StartedAt [LawfulDocumentProcessingQueue Q] (now : Nat) (w : World (Stores Q) Call) : Prop :=
  w = ⟨Stores.start Q now, []⟩

/-! ## Jobs -/

section Jobs

variable [LawfulDocumentProcessingQueue Q] {s s' : Stores Q}

/-- The jobs in the processing queue. -/
abbrev Stores.jobs (s : Stores Q) : Jobs := LawfulDocumentProcessingQueue.jobs s.queue

/-- What every request does to the queue: it stays valid, and an id keeps its document
for ever. -/
structure QueueGoesOn (s s' : Stores Q) : Prop where
  valid : LawfulDocumentProcessingQueue.Valid s'.queue s'.issued
  issued : s.issued ⊆ s'.issued
  keeps : Jobs.Keeps s.issued s.jobs s'.jobs

theorem QueueGoesOn.of_queue_eq (h : LawfulDocumentProcessingQueue.Valid s.queue s.issued)
    (hqueue : s'.queue = s.queue) (hissued : s'.issued = s.issued) : QueueGoesOn s s' where
  valid := by rw [hqueue, hissued]; exact h
  issued := by rw [hissued]; exact List.Subset.refl _
  keeps := by
    rw [show s'.jobs = s.jobs by rw [Stores.jobs, hqueue]]
    exact Jobs.Keeps.refl _ _

theorem queueGoesOn_of_perform (h : LawfulDocumentProcessingQueue.Valid s.queue s.issued)
    {input : Input} {α : Type} (request : Request α) {result : Except ThrownError α}
    (hperform : s.perform input request = some (result, s')) : QueueGoesOn s s' := by
  cases request with
  | enqueue documentId =>
      simp only [Stores.perform] at hperform
      split at hperform
      swap
      · cases hperform
      next id correlationId =>
      split at hperform
      · cases hperform
      next hid =>
      obtain ⟨-, rfl⟩ := Prod.mk.inj (Option.some.inj hperform)
      obtain ⟨hvalid, hcases⟩ := LawfulDocumentProcessingQueue.enqueue_law s.now documentId id
        correlationId h hid
      exact ⟨hvalid, List.subset_cons_self _ _, hcases.keeps hid⟩
  | claim workerId leaseDurationMs =>
      obtain ⟨-, rfl⟩ := Prod.mk.inj (Option.some.inj hperform)
      obtain ⟨hvalid, hcases⟩ := LawfulDocumentProcessingQueue.claim_law s.now workerId
        leaseDurationMs h
      exact ⟨hvalid, List.Subset.refl _, hcases.keeps⟩
  | renew jobId workerId fencingToken leaseDurationMs =>
      obtain ⟨-, rfl⟩ := Prod.mk.inj (Option.some.inj hperform)
      obtain ⟨hvalid, hjobs⟩ := LawfulDocumentProcessingQueue.renew_law s.now jobId workerId
        fencingToken leaseDurationMs h
      exact ⟨hvalid, List.Subset.refl _, by
        dsimp only [Stores.jobs]
        rw [hjobs]
        exact Jobs.Keeps.refl _ _⟩
  | acknowledge jobId workerId fencingToken =>
      obtain ⟨-, rfl⟩ := Prod.mk.inj (Option.some.inj hperform)
      obtain ⟨hvalid, hcases⟩ := LawfulDocumentProcessingQueue.acknowledge_law s.now jobId workerId
        (some fencingToken) h
      exact ⟨hvalid, List.Subset.refl _, hcases.keeps⟩
  | release jobId workerId availableAt fencingToken =>
      obtain ⟨-, rfl⟩ := Prod.mk.inj (Option.some.inj hperform)
      obtain ⟨hvalid, hjobs⟩ := LawfulDocumentProcessingQueue.release_law s.now jobId workerId
        availableAt (some fencingToken) h
      exact ⟨hvalid, List.Subset.refl _, by
        dsimp only [Stores.jobs]
        rw [hjobs]
        exact Jobs.Keeps.refl _ _⟩
  | removeForDocument documentId =>
      obtain ⟨-, rfl⟩ := Prod.mk.inj (Option.some.inj hperform)
      obtain ⟨hvalid, hcases⟩ := LawfulDocumentProcessingQueue.remove_law documentId h
      exact ⟨hvalid, List.Subset.refl _, hcases.keeps⟩
  | extract =>
      simp only [Stores.perform] at hperform
      split at hperform
      · obtain ⟨-, rfl⟩ := Prod.mk.inj (Option.some.inj hperform)
        exact .of_queue_eq h rfl rfl
      · cases hperform
  | _ =>
      obtain ⟨-, rfl⟩ := Prod.mk.inj (Option.some.inj hperform)
      exact .of_queue_eq h rfl rfl

end Jobs

/-! ## Runs of the worker -/

/-- Unless it is the turn of the heartbeat, the run itself goes on. -/
theorem Worker.code_processing {config : WorkerConfig} {now : Nat} {input : Input}
    (hinput : input ≠ .heartbeat) (run : ClaimedJob) (attempts : Nat) (heartbeat : Heartbeat)
    (place : Processing) :
    (Worker.processing run attempts heartbeat place).code config now input =
      Worker.processingCode now run attempts heartbeat place := by
  cases input with
  | heartbeat => exact absurd rfl hinput
  | _ => rfl

/-- A step of the heartbeat leaves the run where it is. -/
theorem Worker.heartbeatCode_resume {config : WorkerConfig} {now : Nat} {run : ClaimedJob}
    {attempts : Nat} {heartbeat : Heartbeat} {place : Processing} {await : Await Worker}
    (hcode : Worker.heartbeatCode config now run attempts heartbeat place = some await)
    {result : Except ThrownError await.Value} {next : Worker}
    (hnext : await.resume result = some next) :
    ∃ heartbeat', next = .processing run attempts heartbeat' place := by
  unfold Worker.heartbeatCode at hcode
  split at hcode
  · cases hcode
  split at hcode
  · obtain rfl := Option.some.inj hcode
    dsimp only at hnext
    split at hnext <;> obtain rfl := Option.some.inj hnext <;> exact ⟨_, rfl⟩
  · obtain rfl := Option.some.inj hcode
    dsimp only at hnext
    split at hnext <;> obtain rfl := Option.some.inj hnext <;> exact ⟨_, rfl⟩

/-- A step of the run itself leaves it working with the same count of attempts, or
ends it. -/
theorem Worker.processingCode_resume {now : Nat} {run : ClaimedJob} {attempts : Nat}
    {heartbeat : Heartbeat} {place : Processing} {await : Await Worker}
    (hcode : Worker.processingCode now run attempts heartbeat place = some await)
    {result : Except ThrownError await.Value} {next : Worker}
    (hnext : await.resume result = some next) :
    (∃ heartbeat' place', next = .processing run attempts heartbeat' place') ∨
      ∃ error, next = .deleteChunks run attempts error := by
  cases place with
  | assertOwned _ =>
      simp only [Worker.processingCode] at hcode
      split at hcode
      · cases hcode
      split at hcode
      · obtain rfl := Option.some.inj hcode
        obtain rfl := Option.some.inj hnext
        exact Or.inl ⟨_, _, rfl⟩
      · obtain rfl := Option.some.inj hcode
        dsimp only at hnext
        split at hnext <;> obtain rfl := Option.some.inj hnext <;> exact Or.inl ⟨_, _, rfl⟩
  | acknowledgeCompleted =>
      simp only [Worker.processingCode] at hcode
      split at hcode
      · cases hcode
      obtain rfl := Option.some.inj hcode
      cases hnext
  | deleteText error =>
      simp only [Worker.processingCode] at hcode
      split at hcode
      · cases hcode
      obtain rfl := Option.some.inj hcode
      obtain rfl := Option.some.inj hnext
      exact Or.inr ⟨error, rfl⟩
  | _ =>
      obtain rfl := Option.some.inj hcode
      dsimp only at hnext
      split at hnext <;> obtain rfl := Option.some.inj hnext <;> exact Or.inl ⟨_, _, rfl⟩

/-- Either step of a run whose heartbeat is running. -/
theorem Worker.processing_resume {config : WorkerConfig} {now : Nat} {input : Input}
    {run : ClaimedJob} {attempts : Nat} {heartbeat : Heartbeat} {place : Processing}
    {await : Await Worker}
    (hcode : (Worker.processing run attempts heartbeat place).code config now input = some await)
    {result : Except ThrownError await.Value} {next : Worker}
    (hnext : await.resume result = some next) :
    (∃ heartbeat' place', next = .processing run attempts heartbeat' place') ∨
      ∃ error, next = .deleteChunks run attempts error := by
  by_cases hinput : input = .heartbeat
  · subst hinput
    obtain ⟨heartbeat', hsame⟩ := Worker.heartbeatCode_resume hcode hnext
    exact Or.inl ⟨heartbeat', place, hsame⟩
  · rw [Worker.code_processing hinput] at hcode
    exact Worker.processingCode_resume hcode hnext

/-- A run that works on its job works on it until it ends. -/
theorem Worker.working_resume {config : WorkerConfig} {now : Nat} {input : Input} {place : Worker}
    {run : ClaimedJob} {await : Await Worker} (hworking : place.working = some run)
    (hcode : place.code config now input = some await)
    {result : Except ThrownError await.Value} {next : Worker}
    (hnext : await.resume result = some next) : next.working = some run := by
  cases place with
  | processing other attempts heartbeat place =>
      obtain rfl := Option.some.inj hworking
      rcases Worker.processing_resume hcode hnext with ⟨_, _, rfl⟩ | ⟨_, rfl⟩ <;> rfl
  | deleteChunks other attempts error =>
      obtain rfl := Option.some.inj hworking
      obtain rfl := Option.some.inj hcode
      simp only [Worker.decided] at hnext
      split at hnext
      · cases hnext
      · obtain rfl := Option.some.inj hnext
        rfl
  | transitionAfterError other error decision =>
      obtain rfl := Option.some.inj hworking
      obtain rfl := Option.some.inj hcode
      dsimp only at hnext
      split at hnext
      · split at hnext <;> obtain rfl := Option.some.inj hnext <;> rfl
      · cases hnext
  | release other nextRetryAt =>
      obtain rfl := Option.some.inj hcode
      cases hnext
  | acknowledgeFailed other =>
      obtain rfl := Option.some.inj hcode
      cases hnext
  | _ => cases hworking

/-- A run begins to work on its job only with its claim transition. -/
theorem Worker.working_of_resume {config : WorkerConfig} {now : Nat} {input : Input}
    {place : Worker} {await : Await Worker} (hcode : place.code config now input = some await)
    {result : Except ThrownError await.Value} {next : Worker}
    (hnext : await.resume result = some next) {run : ClaimedJob}
    (hworking : next.working = some run) :
    place.working = some run ∨ ∃ attempts, place = .transitionProcessing run attempts := by
  cases hplace : place.working with
  | some other =>
      exact Or.inl ((Worker.working_resume hplace hcode hnext).symm.trans hworking)
  | none =>
      cases place with
      | claim workerId =>
          obtain rfl := Option.some.inj hcode
          dsimp only at hnext
          split at hnext
          · obtain rfl := Option.some.inj hnext
            cases hworking
          · cases hnext
      | findById other =>
          obtain rfl := Option.some.inj hcode
          dsimp only at hnext
          split at hnext
          · obtain rfl := Option.some.inj hnext
            cases hworking
          · split at hnext
            · obtain rfl := Option.some.inj hnext
              cases hworking
            split at hnext <;> obtain rfl := Option.some.inj hnext <;> cases hworking
          · cases hnext
      | acknowledgeSkipped other =>
          obtain rfl := Option.some.inj hcode
          cases hnext
      | transitionUploaded other =>
          obtain rfl := Option.some.inj hcode
          dsimp only at hnext
          split at hnext
          · obtain rfl := Option.some.inj hnext
            cases hworking
          · obtain rfl := Option.some.inj hnext
            cases hworking
          · cases hnext
      | transitionProcessing other attempts =>
          obtain rfl := Option.some.inj hcode
          dsimp only at hnext
          split at hnext
          · obtain rfl := Option.some.inj hnext
            obtain rfl := Option.some.inj hworking
            exact Or.inr ⟨attempts, rfl⟩
          · obtain rfl := Option.some.inj hnext
            cases hworking
          · cases hnext
      | _ => cases hplace

/-- The run that a call in progress works on. -/
def Call.working : Call → Option ClaimedJob
  | .worker place => place.working
  | _ => none

/-- A call begins to work on a job only with its claim transition. -/
theorem Call.working_of_resume {config : WorkerConfig} {now : Nat} {input : Input} {call : Call}
    {await : Await Call} (hcode : call.code config now input = some await)
    {result : Except ThrownError await.Value} {next : Call}
    (hnext : await.resume result = some next) {run : ClaimedJob}
    (hworking : next.working = some run) :
    call.working = some run ∨ ∃ attempts, call = .worker (.transitionProcessing run attempts) := by
  cases call with
  | worker place =>
      obtain ⟨inner, hinner, rfl⟩ := Option.map_eq_some_iff.mp hcode
      obtain ⟨inside, hinside, rfl⟩ := Option.map_eq_some_iff.mp hnext
      rcases Worker.working_of_resume hinner hinside hworking with hold | ⟨attempts, rfl⟩
      · exact Or.inl hold
      · exact Or.inr ⟨attempts, rfl⟩
  | _ =>
      obtain rfl := Option.some.inj hcode
      obtain ⟨inside, -, rfl⟩ := Option.map_eq_some_iff.mp hnext
      cases hworking

/-! ## Documents -/

/-- The document exists. -/
def Known (s : Stores Q) (documentId : String) : Prop :=
  ∃ document, s.documents.lookup documentId = some document

/-- The document exists and is no longer `UPLOADED`. -/
def LeftUploaded (s : Stores Q) (documentId : String) : Prop :=
  ∃ document, s.documents.lookup documentId = some document ∧ document.status ≠ .uploaded

theorem LeftUploaded.known {s : Stores Q} {documentId : String} (h : LeftUploaded s documentId) :
    Known s documentId := by
  obtain ⟨document, hdocument, -⟩ := h
  exact ⟨document, hdocument⟩

/-- The guarded writes of the run take effect. -/
def Current (s : Stores Q) (run : ClaimedJob) : Prop :=
  ∃ document, s.documents.lookup run.documentId = some document ∧
    document.status = .processing ∧ run.leaseGuard.Holds document

/-! ## Concrete runs -/

/-- The worker with the default retry policy and lease. -/
def defaultConfig : WorkerConfig := { retryPolicy := defaultDocumentRetryPolicy }

/-- The call at position `i` goes on. -/
def proceed (i : Nat) : Event Env Call Input := .advance i .proceed

/-- What a worker extracts. -/
def extractedResult : DocumentProcessingResult := ⟨"text", [⟨"chunk-1", 0, "text", none, none⟩]⟩

/-- A document is uploaded and enqueued. -/
def uploadAndEnqueue : List (Event Env Call Input) :=
  [.env (.upload "document"), .spawn (.enqueueUploaded (.findById "document")), proceed 0,
    .advance 0 (.ids firstJob correlation), proceed 0]

/-- A worker begins as the call at position `i`, claims the job and finds the document. -/
def claimAndFind (i : Nat) (workerId : String) : List (Event Env Call Input) :=
  [.spawn (.worker (.claim workerId)), proceed i, proceed i]

/-- The worker at position `i` claims the document and completes it, up to its
acknowledge. -/
def processToCompleted (i : Nat) : List (Event Env Call Input) :=
  [proceed i, .advance i (.extracted (.ok extractedResult)), proceed i, proceed i, proceed i,
    proceed i]

end AvantimePlatform.Pipeline
