import AvantimePlatform.Pipeline.Steps
import AvantimePlatform.Queue.LocalLaws

/-!
# Derivatives of completed documents

A document that is `COMPLETED` should have its text and its chunks.  The worker saves
both before its transition to `COMPLETED`, and that transition is fenced by the worker
id and the token; the saves and the deletes are not.

A run *needs* a derivative at the places between its save of it and the transition to
`COMPLETED`.  The invariant is that a current run has what it needs.  Two things
break it, and `KeepsDerivatives` is the condition that they do not happen:

* a delete of a derivative of a `COMPLETED` document, or of one that a current run
  needs (a `reprocessDocument` or a cleanup of a stale run that comes late);
* a claim that makes an old run current again, by the same worker id and token, when
  what it had saved is gone.
-/

namespace AvantimePlatform.Pipeline

open AvantimePlatform.Documents AvantimePlatform.Queue AvantimePlatform.Interleaving
open AvantimePlatform.Transition

variable {Q : Type}

/-- What `LocalDocumentProcessingRepository` stores of a document. -/
inductive Derivative where
  | text
  | chunks
deriving DecidableEq

/-- The derivative is stored. -/
def Stores.Present (s : Stores Q) (documentId : String) : Derivative → Prop
  | .text => ∃ text, s.texts.lookup documentId = some text
  | .chunks => ∃ chunks, s.chunks.lookup documentId = some chunks

/-- Every `COMPLETED` document has its derivatives. -/
def CompletedHasDerivatives (s : Stores Q) : Prop :=
  ∀ documentId document, s.documents.lookup documentId = some document →
    document.status = .completed → ∀ kind, s.Present documentId kind

/-- The run that is between its save of the derivative and its transition to
`COMPLETED`. -/
def Call.needs (kind : Derivative) : Call → Option ClaimedJob
  | .worker (.processing run _ _ place) =>
    match place with
    | .saveChunks _ => if kind = .text then some run else none
    | .assertOwned _ => some run
    | .transitionCompleted _ => some run
    | _ => none
  | _ => none

/-! ## The condition -/

/-- A delete of the derivative touches no `COMPLETED` document and nothing that a
current run needs. -/
def DeleteSafe (w : World (Stores Q) Call) (documentId : String) (kind : Derivative) : Prop :=
  (∀ document, w.shared.documents.lookup documentId = some document →
    document.status ≠ .completed) ∧
  ∀ call ∈ w.locals, ∀ run ∈ call.needs kind, run.documentId = documentId →
    ¬Current w.shared run

/-- A claim of the document gives its pair of worker id and token to no other run
that has lost what it needs. -/
def ClaimSafe (w : World (Stores Q) Call) (run : ClaimedJob) : Prop :=
  ∀ call ∈ w.locals, ∀ kind, ∀ other ∈ call.needs kind, other.documentId = run.documentId →
    other.leaseGuard = run.leaseGuard → w.shared.Present run.documentId kind

/-- The next step of the call takes no derivative from a completed document or from a
run that is about to complete one. -/
def KeepsDerivatives (w : World (Stores Q) Call) (input : Input) : Call → Prop
  | .reprocess (.deleteText documentId) => DeleteSafe w documentId .text
  | .reprocess (.deleteChunks documentId) => DeleteSafe w documentId .chunks
  | .worker (.transitionProcessing run _) => ClaimSafe w run
  | .worker (.processing run _ _ .deleteConflictText) =>
    input ≠ .heartbeat → DeleteSafe w run.documentId .text
  | .worker (.processing run _ _ .deleteConflictChunks) =>
    input ≠ .heartbeat → DeleteSafe w run.documentId .chunks
  | .worker (.processing run _ _ (.deleteText _)) =>
    input ≠ .heartbeat → DeleteSafe w run.documentId .text
  | .worker (.deleteChunks run _ _) => DeleteSafe w run.documentId .chunks
  | _ => True

/-- A worker that dies makes no request. -/
def StepKeepsDerivatives (w : World (Stores Q) Call) : Event Env Call Input → Prop
  | .advance _ .die => True
  | .advance i input => ∀ call ∈ w.locals[i]?, KeepsDerivatives w input call
  | _ => True

/-! ## What a request needs -/

/-- A current run has what it needs. -/
def HasNeeds (s : Stores Q) (call : Call) : Prop :=
  ∀ kind, ∀ run ∈ call.needs kind, Current s run → s.Present run.documentId kind

/-- Enough for a transition: it completes only a document that has its derivatives,
and a run that it makes current has what it needs. -/
def TransitionSafe (w : World (Stores Q) Call) (documentId : String)
    (expectedStatuses : List DocumentProcessingStatus) (nextStatus : DocumentProcessingStatus)
    (changes : UpdateDocumentMetadata) (leaseGuard : Option DocumentLeaseGuard) : Prop :=
  ∀ document, w.shared.documents.lookup documentId = some document →
    document.status ∈ expectedStatuses → (∀ guard ∈ leaseGuard, guard.Holds document) →
    (nextStatus = .completed → ∀ kind, w.shared.Present documentId kind) ∧
    (nextStatus = .processing → ∀ call ∈ w.locals, ∀ kind, ∀ run ∈ call.needs kind,
      run.documentId = documentId → run.leaseGuard.Holds (document.update changes nextStatus) →
      Current w.shared run ∨ w.shared.Present documentId kind)

/-- Enough for a request to keep the derivatives. -/
def RequestSafe (w : World (Stores Q) Call) : {α : Type} → Request α → Prop
  | _, .transitionStatus documentId expectedStatuses nextStatus changes leaseGuard =>
    TransitionSafe w documentId expectedStatuses nextStatus changes leaseGuard
  | _, .deleteText documentId => DeleteSafe w documentId .text
  | _, .deleteChunks documentId => DeleteSafe w documentId .chunks
  | _, _ => True

/-- What was completed has its derivatives, and calls in progress have what they
need. -/
def Kept (w : World (Stores Q) Call) (s' : Stores Q) : Prop :=
  CompletedHasDerivatives s' ∧ ∀ call ∈ w.locals, HasNeeds w.shared call → HasNeeds s' call

variable {w : World (Stores Q) Call} {s' : Stores Q}

/-- The documents stay, and no derivative is taken away. -/
theorem kept_of_present (h : CompletedHasDerivatives w.shared)
    (hdocuments : s'.documents = w.shared.documents)
    (hpresent : ∀ documentId kind, w.shared.Present documentId kind → s'.Present documentId kind) :
    Kept w s' := by
  refine ⟨fun documentId document hdocument hcompleted kind => ?_,
    fun call _ hneeds kind run hrun hcurrent => ?_⟩
  · rw [hdocuments] at hdocument
    exact hpresent documentId kind (h documentId document hdocument hcompleted kind)
  · refine hpresent run.documentId kind (hneeds kind run hrun ?_)
    unfold Current at hcurrent ⊢
    rwa [hdocuments] at hcurrent

/-- A safe delete. -/
theorem kept_of_delete (h : CompletedHasDerivatives w.shared)
    (hdocuments : s'.documents = w.shared.documents) {documentId : String} {kind : Derivative}
    (hsafe : DeleteSafe w documentId kind)
    (hpresent : ∀ d k, ¬(d = documentId ∧ k = kind) → w.shared.Present d k → s'.Present d k) :
    Kept w s' := by
  refine ⟨fun d document hdocument hcompleted k => ?_,
    fun call hcall hneeds k run hrun hcurrent => ?_⟩
  · rw [hdocuments] at hdocument
    refine hpresent d k ?_ (h d document hdocument hcompleted k)
    rintro ⟨rfl, -⟩
    exact hsafe.1 document hdocument hcompleted
  · have hcurrent' : Current w.shared run := by
      unfold Current at hcurrent ⊢
      rwa [hdocuments] at hcurrent
    refine hpresent run.documentId k ?_ (hneeds k run hrun hcurrent')
    rintro ⟨hd, rfl⟩
    exact hsafe.2 call hcall run hrun hd hcurrent'

/-- A safe transition. -/
theorem kept_of_transition (h : CompletedHasDerivatives w.shared) {documentId : String}
    {expectedStatuses : List DocumentProcessingStatus} {nextStatus : DocumentProcessingStatus}
    {changes : UpdateDocumentMetadata} {leaseGuard : Option DocumentLeaseGuard}
    (hsafe : TransitionSafe w documentId expectedStatuses nextStatus changes leaseGuard)
    {outcome : Except String (Option DocumentMetadata) × DocumentMetadataRepository}
    (hstep : DocumentMetadataRepository.TransitionStep w.shared.documents documentId
      expectedStatuses nextStatus changes leaseGuard outcome) :
    Kept w { w.shared with documents := outcome.2 } := by
  cases hstep with
  | thrown message => exact ⟨h, fun _ _ hneeds => hneeds⟩
  | missed hmiss => exact ⟨h, fun _ _ hneeds => hneeds⟩
  | written document hdocument hstatus hguard hvalid =>
      obtain ⟨hcompletes, hclaims⟩ := hsafe document hdocument hstatus hguard
      refine ⟨fun d other hother hcompleted kind => ?_,
        fun call hcall hneeds kind run hrun hcurrent => ?_⟩
      · rw [Table.lookup_insert] at hother
        split at hother
        · next hd =>
            subst hd
            obtain rfl := Option.some.inj hother
            exact hcompletes hcompleted kind
        · exact h d other hother hcompleted kind
      · obtain ⟨other, hother, hprocessing, hholds⟩ := hcurrent
        rw [Table.lookup_insert] at hother
        split at hother
        · next hd =>
            obtain rfl := Option.some.inj hother
            rcases hclaims hprocessing call hcall kind run hrun hd hholds with hcurrent | hpresent
            · exact hneeds kind run hrun hcurrent
            · rw [hd]
              exact hpresent
        · exact hneeds kind run hrun ⟨other, hother, hprocessing, hholds⟩

/-- A safe request keeps the derivatives. -/
theorem kept_of_request [DocumentProcessingQueue Q] (h : CompletedHasDerivatives w.shared)
    {input : Input} {α : Type} (request : Request α) (hsafe : RequestSafe w request)
    {result : Except ThrownError α}
    (hperform : w.shared.perform input request = some (result, s')) : Kept w s' := by
  have hsame : Kept w w.shared := ⟨h, fun _ _ hneeds => hneeds⟩
  cases request with
  | transitionStatus documentId expectedStatuses nextStatus changes leaseGuard =>
      obtain ⟨-, rfl⟩ := Prod.mk.inj (Option.some.inj hperform)
      exact kept_of_transition h hsafe (DocumentMetadataRepository.transitionStep ..)
  | deleteText documentId =>
      obtain ⟨-, rfl⟩ := Prod.mk.inj (Option.some.inj hperform)
      refine kept_of_delete h rfl hsafe fun d kind hother hpresent => ?_
      cases kind with
      | text =>
          obtain ⟨text, htext⟩ := hpresent
          exact ⟨text, by rw [Table.lookup_erase, if_neg fun hd => hother ⟨hd, rfl⟩, htext]⟩
      | chunks => exact hpresent
  | deleteChunks documentId =>
      obtain ⟨-, rfl⟩ := Prod.mk.inj (Option.some.inj hperform)
      refine kept_of_delete h rfl hsafe fun d kind hother hpresent => ?_
      cases kind with
      | text => exact hpresent
      | chunks =>
          obtain ⟨chunks, hchunks⟩ := hpresent
          exact ⟨chunks, by rw [Table.lookup_erase, if_neg fun hd => hother ⟨hd, rfl⟩, hchunks]⟩
  | saveText documentId text =>
      obtain ⟨-, rfl⟩ := Prod.mk.inj (Option.some.inj hperform)
      refine kept_of_present h rfl fun d kind hpresent => ?_
      cases kind with
      | text =>
          obtain ⟨old, hold⟩ := hpresent
          simp only [Stores.Present, Table.lookup_insert]
          split
          · exact ⟨text, rfl⟩
          · exact ⟨old, hold⟩
      | chunks => exact hpresent
  | saveChunks documentId chunks =>
      obtain ⟨-, rfl⟩ := Prod.mk.inj (Option.some.inj hperform)
      refine kept_of_present h rfl fun d kind hpresent => ?_
      cases kind with
      | text => exact hpresent
      | chunks =>
          obtain ⟨old, hold⟩ := hpresent
          simp only [Stores.Present, Table.lookup_insert]
          split
          · exact ⟨chunks, rfl⟩
          · exact ⟨old, hold⟩
  | enqueue documentId =>
      simp only [Stores.perform] at hperform
      split at hperform
      · split at hperform
        · cases hperform
        · obtain ⟨-, rfl⟩ := Prod.mk.inj (Option.some.inj hperform)
          exact kept_of_present h rfl fun _ _ hpresent => hpresent
      · cases hperform
  | extract =>
      simp only [Stores.perform] at hperform
      split at hperform
      · obtain ⟨-, rfl⟩ := Prod.mk.inj (Option.some.inj hperform)
        exact hsame
      · cases hperform
  | _ =>
      obtain ⟨-, rfl⟩ := Prod.mk.inj (Option.some.inj hperform)
      exact kept_of_present h rfl fun _ _ hpresent => hpresent

/-! ## The places of the calls -/

/-- The request at a place is safe, and where the call goes next it has what it
needs there. -/
def NeedsPlace [DocumentProcessingQueue Q] (w : World (Stores Q) Call) (input : Input)
    (await : Await Call) : Prop :=
  RequestSafe w await.request ∧ Arrives w.shared input await HasNeeds

variable [DocumentProcessingQueue Q]

/-- A place whose next places need nothing, or what is needed at the place itself. -/
theorem needsPlace_of_needs (h : CompletedHasDerivatives w.shared) {input : Input} {call : Call}
    (hcall : call ∈ w.locals) (hneeds : HasNeeds w.shared call) {await : Await Call}
    (hsafe : RequestSafe w await.request)
    (hnext : ∀ result next, await.resume result = some next →
      (∀ kind, next.needs kind = none) ∨ ∀ kind, next.needs kind = call.needs kind) :
    NeedsPlace w input await := by
  refine ⟨hsafe, fun result s' hperform next hresume kind run hrun hcurrent => ?_⟩
  obtain ⟨-, hkeep⟩ := kept_of_request h await.request hsafe hperform
  rcases hnext result next hresume with hnone | hsame
  · rw [hnone kind] at hrun
    cases hrun
  · rw [hsame kind] at hrun
    exact hkeep call hcall hneeds kind run hrun hcurrent

omit [DocumentProcessingQueue Q] in
/-- A transition to another status than `COMPLETED` or `PROCESSING`. -/
theorem transitionSafe_of_ne {documentId : String}
    {expectedStatuses : List DocumentProcessingStatus} {nextStatus : DocumentProcessingStatus}
    {changes : UpdateDocumentMetadata} {leaseGuard : Option DocumentLeaseGuard}
    (hcompleted : nextStatus ≠ .completed) (hprocessing : nextStatus ≠ .processing) :
    TransitionSafe w documentId expectedStatuses nextStatus changes leaseGuard :=
  fun _ _ _ _ => ⟨fun heq => absurd heq hcompleted, fun heq => absurd heq hprocessing⟩

/-- The places of the calls that are no workers. -/
theorem needsPlace_of_map (h : CompletedHasDerivatives w.shared) {input : Input} {call : Call}
    (hcall : call ∈ w.locals) (hneeds : HasNeeds w.shared call) {Next : Type} {await : Await Next}
    {f : Next → Call} (hsafe : RequestSafe w await.request)
    (hnone : ∀ next kind, (f next).needs kind = none) : NeedsPlace w input (await.map f) := by
  refine needsPlace_of_needs h hcall hneeds hsafe fun result next hnext => Or.inl fun kind => ?_
  obtain ⟨inner, -, rfl⟩ := Option.map_eq_some_iff.mp hnext
  exact hnone inner kind

omit [DocumentProcessingQueue Q] in
theorem enqueueUploaded_safe {now : Nat} (place : EnqueueUploaded) :
    RequestSafe w (place.code now).request := by
  cases place with
  | transition _ _ => exact transitionSafe_of_ne (by decide) (by decide)
  | transitionFailed _ => exact transitionSafe_of_ne (by decide) (by decide)
  | _ => trivial

omit [DocumentProcessingQueue Q] in
theorem retry_safe (place : Retry) : RequestSafe w place.code.request := by
  cases place with
  | transition _ _ _ => exact transitionSafe_of_ne (by decide) (by decide)
  | _ => trivial

omit [DocumentProcessingQueue Q] in
theorem reprocess_safe {input : Input} (place : Reprocess)
    (hok : KeepsDerivatives w input (.reprocess place)) : RequestSafe w place.code.request := by
  cases place with
  | transition _ _ _ => exact transitionSafe_of_ne (by decide) (by decide)
  | deleteText _ => exact hok
  | deleteChunks _ => exact hok
  | _ => trivial

/-- A run that needs nothing where it goes next, or what it needs already. -/
theorem worker_needsSame (h : CompletedHasDerivatives w.shared) {input : Input} {place : Worker}
    (hcall : .worker place ∈ w.locals) (hneeds : HasNeeds w.shared (.worker place))
    {await : Await Worker} (hsafe : RequestSafe w await.request)
    (hnext : ∀ result next, await.resume result = some next →
      (∀ kind, (Call.worker next).needs kind = none) ∨
        ∀ kind, (Call.worker next).needs kind = (Call.worker place).needs kind) :
    NeedsPlace w input (await.map .worker) := by
  refine needsPlace_of_needs h hcall hneeds hsafe fun result next hresume => ?_
  obtain ⟨inner, hinner, rfl⟩ := Option.map_eq_some_iff.mp hresume
  exact hnext result inner hinner

/-- A run that needs nothing where it goes next. -/
theorem worker_needsNothing (h : CompletedHasDerivatives w.shared) {input : Input} {place : Worker}
    (hcall : .worker place ∈ w.locals) (hneeds : HasNeeds w.shared (.worker place))
    {await : Await Worker} (hsafe : RequestSafe w await.request)
    (hnone : ∀ result next, await.resume result = some next →
      ∀ kind, (Call.worker next).needs kind = none) :
    NeedsPlace w input (await.map .worker) :=
  worker_needsSame h hcall hneeds hsafe fun result next hnext =>
    Or.inl (hnone result next hnext)

/-- The heartbeat leaves the run where it is. -/
theorem heartbeat_place (h : CompletedHasDerivatives w.shared) {config : WorkerConfig} {now : Nat}
    {run : ClaimedJob} {attempts : Nat} {heartbeat : Heartbeat} {place : Processing}
    (hcall : .worker (.processing run attempts heartbeat place) ∈ w.locals)
    (hneeds : HasNeeds w.shared (.worker (.processing run attempts heartbeat place)))
    {await : Await Worker}
    (hcode : Worker.heartbeatCode config now run attempts heartbeat place = some await) :
    NeedsPlace w .heartbeat (await.map .worker) := by
  refine worker_needsSame h hcall hneeds ?_ fun result next hnext => ?_
  swap
  · obtain ⟨_, rfl⟩ := Worker.heartbeatCode_resume hcode hnext
    exact Or.inr fun _ => rfl
  unfold Worker.heartbeatCode at hcode
  split at hcode
  · cases hcode
  split at hcode <;> obtain rfl := Option.some.inj hcode
  · trivial
  · -- The write of the heartbeat keeps the worker and the token of the document.
    intro document hdocument hstatus _
    refine ⟨nofun, fun _ call _ kind other _ hd hholds => Or.inl ?_⟩
    exact ⟨document, by rw [hd]; exact hdocument, List.mem_singleton.mp hstatus, hholds⟩

/-- After a save the derivative is there. -/
theorem saved_text {input : Input} {documentId text : String} {result : Except ThrownError Unit}
    (hperform : w.shared.perform input (.saveText documentId text) = some (result, s')) :
    s'.Present documentId .text := by
  obtain ⟨-, rfl⟩ := Prod.mk.inj (Option.some.inj hperform)
  exact ⟨text, AList.lookup_insert _⟩

theorem saved_chunks {input : Input} {documentId : String} {chunks : List TextChunk}
    {result : Except ThrownError Unit}
    (hperform : w.shared.perform input (.saveChunks documentId chunks) = some (result, s')) :
    s'.Present documentId .chunks := by
  obtain ⟨-, rfl⟩ := Prod.mk.inj (Option.some.inj hperform)
  exact ⟨chunks, AList.lookup_insert _⟩

/-- The run itself goes on. -/
theorem processing_place (h : CompletedHasDerivatives w.shared) {input : Input}
    (hinput : input ≠ .heartbeat) {now : Nat} {run : ClaimedJob} {attempts : Nat}
    {heartbeat : Heartbeat} (place : Processing)
    (hcall : .worker (.processing run attempts heartbeat place) ∈ w.locals)
    (hneeds : HasNeeds w.shared (.worker (.processing run attempts heartbeat place)))
    (hok : KeepsDerivatives w input (.worker (.processing run attempts heartbeat place)))
    {await : Await Worker}
    (hcode : Worker.processingCode now run attempts heartbeat place = some await) :
    NeedsPlace w input (await.map .worker) := by
  cases place with
  | extract =>
      obtain rfl := Option.some.inj hcode
      refine worker_needsNothing h hcall hneeds trivial fun result next hnext kind => ?_
      cases result <;> obtain rfl := Option.some.inj hnext <;> rfl
  | saveText result =>
      obtain rfl := Option.some.inj hcode
      refine ⟨trivial, Arrives.map fun outcome s' hperform next hnext kind other hother _ => ?_⟩
      cases outcome with
      | error _ =>
          obtain rfl := Option.some.inj hnext
          cases hother
      | ok _ =>
          obtain rfl := Option.some.inj hnext
          cases kind with
          | text =>
              obtain rfl := Option.some.inj hother
              exact saved_text hperform
          | chunks => cases hother
  | saveChunks result =>
      obtain rfl := Option.some.inj hcode
      refine ⟨trivial, Arrives.map fun outcome s' hperform next hnext kind other hother hcurrent =>
        ?_⟩
      obtain ⟨-, hkeep⟩ := kept_of_request h (.saveChunks run.documentId result.chunks) trivial
        hperform
      cases outcome with
      | error _ =>
          obtain rfl := Option.some.inj hnext
          cases hother
      | ok _ =>
          obtain rfl := Option.some.inj hnext
          obtain rfl := Option.some.inj hother
          cases kind with
          | text => exact hkeep _ hcall hneeds .text run rfl hcurrent
          | chunks => exact saved_chunks hperform
  | assertOwned result =>
      simp only [Worker.processingCode] at hcode
      split at hcode
      · cases hcode
      split at hcode
      · obtain rfl := Option.some.inj hcode
        refine worker_needsNothing h hcall hneeds trivial fun result next hnext kind => ?_
        obtain rfl := Option.some.inj hnext
        rfl
      · obtain rfl := Option.some.inj hcode
        refine worker_needsSame h hcall hneeds trivial fun outcome next hnext => ?_
        cases outcome with
        | error _ =>
            obtain rfl := Option.some.inj hnext
            exact Or.inl fun _ => rfl
        | ok _ =>
            obtain rfl := Option.some.inj hnext
            exact Or.inr fun _ => rfl
  | transitionCompleted result =>
      obtain rfl := Option.some.inj hcode
      refine worker_needsNothing h hcall hneeds (fun document hdocument hstatus hguard => ?_)
        fun outcome next hnext kind => ?_
      · exact ⟨fun _ kind => hneeds kind run rfl
          ⟨document, hdocument, List.mem_singleton.mp hstatus, hguard _ rfl⟩, fun hne => by cases hne⟩
      · dsimp only at hnext
        split at hnext <;> obtain rfl := Option.some.inj hnext <;> rfl
  | deleteConflictText =>
      obtain rfl := Option.some.inj hcode
      refine worker_needsNothing h hcall hneeds (hok hinput) fun result next hnext kind => ?_
      cases result <;> obtain rfl := Option.some.inj hnext <;> rfl
  | deleteConflictChunks =>
      obtain rfl := Option.some.inj hcode
      refine worker_needsNothing h hcall hneeds (hok hinput) fun result next hnext kind => ?_
      cases result <;> obtain rfl := Option.some.inj hnext <;> rfl
  | acknowledgeCompleted =>
      simp only [Worker.processingCode] at hcode
      split at hcode
      · cases hcode
      obtain rfl := Option.some.inj hcode
      exact worker_needsNothing h hcall hneeds trivial fun _ _ hnext _ => by
        cases hnext
  | deleteText error =>
      simp only [Worker.processingCode] at hcode
      split at hcode
      · cases hcode
      obtain rfl := Option.some.inj hcode
      refine worker_needsNothing h hcall hneeds (hok hinput) fun result next hnext kind => ?_
      obtain rfl := Option.some.inj hnext
      rfl

theorem worker_needsPlace (h : CompletedHasDerivatives w.shared) {config : WorkerConfig}
    {input : Input} (place : Worker) (hcall : .worker place ∈ w.locals)
    (hneeds : HasNeeds w.shared (.worker place)) (hok : KeepsDerivatives w input (.worker place))
    {await : Await Worker} (hcode : place.code config w.shared.now input = some await) :
    NeedsPlace w input (await.map .worker) := by
  cases place with
  | claim workerId =>
      obtain rfl := Option.some.inj hcode
      refine worker_needsNothing h hcall hneeds trivial fun result next hnext kind => ?_
      dsimp only at hnext
      split at hnext
      · obtain rfl := Option.some.inj hnext
        rfl
      · cases hnext
  | findById run =>
      obtain rfl := Option.some.inj hcode
      refine worker_needsNothing h hcall hneeds trivial fun result next hnext kind => ?_
      dsimp only at hnext
      split at hnext
      · obtain rfl := Option.some.inj hnext
        rfl
      · split at hnext
        · obtain rfl := Option.some.inj hnext
          rfl
        split at hnext <;> obtain rfl := Option.some.inj hnext <;> rfl
      · cases hnext
  | acknowledgeSkipped run =>
      obtain rfl := Option.some.inj hcode
      exact worker_needsNothing h hcall hneeds trivial fun _ _ hnext _ => by
        cases hnext
  | transitionUploaded run =>
      obtain rfl := Option.some.inj hcode
      refine worker_needsNothing h hcall hneeds (transitionSafe_of_ne (by decide) (by decide))
        fun result next hnext kind => ?_
      dsimp only at hnext
      split at hnext
      · obtain rfl := Option.some.inj hnext
        rfl
      · obtain rfl := Option.some.inj hnext
        rfl
      · cases hnext
  | transitionProcessing run processingAttempts =>
      obtain rfl := Option.some.inj hcode
      refine worker_needsNothing h hcall hneeds (fun document hdocument hstatus _ => ?_)
        fun result next hnext kind => ?_
      · -- The claim makes current the runs with its own worker id and token.
        refine ⟨fun hne => (by cases hne), fun _ call hmem kind other hother hd hholds => Or.inr ?_⟩
        refine hok call hmem kind other hother hd ?_
        obtain ⟨hworker, htoken⟩ := hholds
        exact DocumentLeaseGuard.mk.injEq .. ▸ ⟨(Option.some.inj hworker).symm, htoken.symm⟩
      · dsimp only at hnext
        split at hnext
        · obtain rfl := Option.some.inj hnext
          rfl
        · obtain rfl := Option.some.inj hnext
          rfl
        · cases hnext
  | processing run attempts heartbeat place =>
      by_cases hinput : input = .heartbeat
      · subst hinput
        exact heartbeat_place h hcall hneeds hcode
      · rw [Worker.code_processing hinput] at hcode
        exact processing_place h hinput place hcall hneeds hok hcode
  | deleteChunks run attempts error =>
      obtain rfl := Option.some.inj hcode
      refine worker_needsNothing h hcall hneeds hok fun result next hnext kind => ?_
      simp only [Worker.decided] at hnext
      split at hnext
      · cases hnext
      · obtain rfl := Option.some.inj hnext
        rfl
  | transitionAfterError run error decision =>
      obtain rfl := Option.some.inj hcode
      refine worker_needsNothing h hcall hneeds
        (transitionSafe_of_ne (by cases decision <;> simp [Worker.decidedStatus]) (by cases decision <;> simp [Worker.decidedStatus]))
        fun result next hnext kind => ?_
      dsimp only at hnext
      split at hnext
      · split at hnext <;> obtain rfl := Option.some.inj hnext <;> rfl
      · cases hnext
  | release run nextRetryAt =>
      obtain rfl := Option.some.inj hcode
      exact worker_needsNothing h hcall hneeds trivial fun _ _ hnext _ => by
        cases hnext
  | acknowledgeFailed run =>
      obtain rfl := Option.some.inj hcode
      exact worker_needsNothing h hcall hneeds trivial fun _ _ hnext _ => by
        cases hnext

/-- Every place of every call is safe while the calls keep the derivatives. -/
theorem call_needsPlace (h : CompletedHasDerivatives w.shared) {config : WorkerConfig}
    {input : Input} {call : Call} (hcall : call ∈ w.locals) (hneeds : HasNeeds w.shared call)
    (hok : KeepsDerivatives w input call) {await : Await Call}
    (hcode : call.code config w.shared.now input = some await) : NeedsPlace w input await := by
  cases call with
  | enqueueUploaded place =>
      obtain rfl := Option.some.inj hcode
      exact needsPlace_of_map h hcall hneeds (enqueueUploaded_safe place) fun _ _ => rfl
  | retry place =>
      obtain rfl := Option.some.inj hcode
      exact needsPlace_of_map h hcall hneeds (retry_safe place) fun _ _ => rfl
  | reprocess place =>
      obtain rfl := Option.some.inj hcode
      exact needsPlace_of_map h hcall hneeds (reprocess_safe place hok) fun _ _ => rfl
  | worker place =>
      obtain ⟨inner, hinner, rfl⟩ := Option.map_eq_some_iff.mp hcode
      exact worker_needsPlace h place hcall hneeds hok hinner

omit [DocumentProcessingQueue Q] in
/-- Time and uploads complete no document and make no run current. -/
theorem kept_of_env {s : Stores Q} (h : CompletedHasDerivatives s) (e : Env) :
    CompletedHasDerivatives (envStep s e) ∧
      ∀ call, HasNeeds s call → HasNeeds (envStep s e) call := by
  cases e with
  | tick ms => exact ⟨h, fun _ hneeds => hneeds⟩
  | upload documentId =>
      refine ⟨fun d document hdocument hcompleted kind => ?_,
        fun call hneeds kind run hrun hcurrent => ?_⟩
      · rcases DocumentMetadataRepository.lookup_create hdocument with hold | ⟨-, rfl, -⟩
        · exact h d document hold hcompleted kind
        · cases hcompleted
      · obtain ⟨document, hdocument, hprocessing, hholds⟩ := hcurrent
        rcases DocumentMetadataRepository.lookup_create hdocument with hold | ⟨-, rfl, -⟩
        · exact hneeds kind run hrun ⟨document, hold, hprocessing, hholds⟩
        · cases hprocessing

/-! ## The result -/

section Result

variable {Q : Type} [LawfulDocumentProcessingQueue Q]

theorem completedHasDerivatives_of_reachable {config : WorkerConfig} {now : Nat}
    {w : World (Stores Q) Call}
    (h : Reachable (StartedAt now) (Guarded StepKeepsDerivatives (pipeline Q config).step) w) :
    CompletedHasDerivatives w.shared := by
  refine (pipeline_inv (I := CompletedHasDerivatives) (L := HasNeeds) RequestSafe (fun w hw => ?_)
    (fun s e hs => kept_of_env hs e) (fun w call _ hcall => ?_)
    (fun w i input call await hs hneeds hok hget hinput hcode => ?_)
    (fun w input _ request result s' hs hpre hperform => kept_of_request hs request hpre hperform)
    h).1
  · rw [show w = ⟨Stores.start Q now, []⟩ from hw]
    exact ⟨by simp [CompletedHasDerivatives, Stores.start], rfl⟩
  · unfold Call.isInitial at hcall
    split at hcall <;> first | (intro kind run hrun; cases hrun) | cases hcall
  · refine call_needsPlace hs (List.mem_of_getElem? hget) hneeds ?_ hcode
    unfold StepKeepsDerivatives at hok
    split at hok
    · next heq => cases heq; exact absurd rfl hinput
    · next heq =>
        cases heq
        exact hok call hget
    · next hno => exact absurd rfl (hno i input)

/-- In a run whose steps all keep the derivatives, every `COMPLETED` document has its
text and its chunks in every state. -/
theorem completedHasDerivatives_of_stepsMeet (config : WorkerConfig) (now : Nat)
    (w : World (Stores Q) Call) (run : List (Event Env Call Input × World (Stores Q) Call))
    (hstart : StartedAt now w) (hrun : Run (pipeline Q config).step w run)
    (hmeet : StepsMeet StepKeepsDerivatives w run) :
    AlwaysHolds (fun w => CompletedHasDerivatives w.shared) w run :=
  alwaysHolds_of_stepsMeet (fun _ => completedHasDerivatives_of_reachable) hrun
    (Reachable.start hstart) hmeet

end Result

/-- A `reprocessDocument` makes a `COMPLETED` document `QUEUED`, a worker completes it
again, and only then come the deletes of the reprocessing. -/
def deletesAfterCompletion : List (Event Env Call Input) :=
  uploadAndEnqueue ++ claimAndFind 0 "worker-1" ++ processToCompleted 0 ++
    [proceed 0, .spawn (.reprocess (.findById "document" false)), proceed 0,
      .advance 0 (.ids secondJob correlation), proceed 0] ++
    claimAndFind 1 "worker-1" ++ processToCompleted 1 ++ [proceed 1, proceed 0, proceed 0]

theorem deletesAfterCompletion_loses :
    ∃ w, Reachable (StartedAt 0) (pipeline LocalDocumentProcessingQueue defaultConfig).step w ∧
      w.Quiescent ∧ w.shared.status? "document" = some .completed ∧
      w.shared.texts.lookup "document" = none :=
  exists_reachable_of_exec
    (fun w : World (Stores LocalDocumentProcessingQueue) Call =>
      w.Quiescent ∧ w.shared.status? "document" = some .completed ∧
        w.shared.texts.lookup "document" = none)
    _ deletesAfterCompletion rfl (by decide)

/-- No call is in progress, and the `COMPLETED` document has lost its text. -/
theorem deletesAfterCompletion_not_completedHasDerivatives :
    ∃ w, Reachable (StartedAt 0) (pipeline LocalDocumentProcessingQueue defaultConfig).step w ∧
      w.Quiescent ∧ ¬CompletedHasDerivatives w.shared := by
  obtain ⟨w, hw, hquiescent, hstatus, htext⟩ := deletesAfterCompletion_loses
  obtain ⟨document, hdocument, hcompleted⟩ := Option.map_eq_some_iff.mp hstatus
  refine ⟨w, hw, hquiescent, fun h => ?_⟩
  obtain ⟨text, hpresent⟩ := h "document" document hdocument hcompleted .text
  rw [htext] at hpresent
  cases hpresent

/-- A worker that completes a document with nothing else going on. -/
theorem completedHasDerivatives_of_stepsMeet_oneRun :
    AlwaysHolds (fun w => CompletedHasDerivatives w.shared)
      ⟨Stores.start LocalDocumentProcessingQueue 0, []⟩
      (trace (pipeline LocalDocumentProcessingQueue defaultConfig).next ⟨Stores.start _ 0, []⟩
        (uploadAndEnqueue ++ claimAndFind 0 "worker-1" ++ processToCompleted 0)) := by
  refine completedHasDerivatives_of_stepsMeet defaultConfig 0 _ _ rfl (run_trace _ _) ?_
  refine ⟨trivial, trivial, ?_, ?_, ?_, trivial, ?_, ?_, ?claim, ?_, ?_, ?_, ?_, ?_, trivial⟩
  case claim =>
    intro call hcall
    cases hcall
    intro other hother kind run hrun
    obtain rfl := List.mem_singleton.mp hother
    cases hrun
  all_goals
    intro call hcall
    cases hcall
    trivial

end AvantimePlatform.Pipeline
