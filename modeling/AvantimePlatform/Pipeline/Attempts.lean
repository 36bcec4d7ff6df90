import AvantimePlatform.Pipeline.Writes
import AvantimePlatform.Queue.LocalLaws

/-!
# The attempts of a document

Each run counts an attempt in the metadata when it claims the document, and the limit
`retryPolicy.maxAttempts` is looked at in the catch block of a run, which decides
between `QUEUED` and an end.  A run that dies in between decides nothing: its document
stays `PROCESSING`, and the next run goes on with one more attempt.

Without retries and reprocessing by an administrator the attempts stay within the limit
along every run in which no worker takes up a `PROCESSING` document that has used them
all.  The invariant is that `UPLOADED` and `QUEUED` documents have attempts left, that a
run about to claim has read a count below the limit, and that a current run knows at
least as many attempts as its document has, which is what makes its decision safe.
-/

namespace AvantimePlatform.Pipeline

open AvantimePlatform.Documents AvantimePlatform.Queue AvantimePlatform.Interleaving
open AvantimePlatform.Transition

variable {Q : Type}

/-! ## The condition -/

/-- No administrator retries or reprocesses a document. -/
def Unattended : Event Env Call Input → Prop
  | .spawn (.retry _) => False
  | .spawn (.reprocess _) => False
  | _ => True

instance : DecidablePred Unattended
  | .env _ => isTrue trivial
  | .spawn (.enqueueUploaded _) => isTrue trivial
  | .spawn (.retry _) => isFalse id
  | .spawn (.reprocess _) => isFalse id
  | .spawn (.worker _) => isTrue trivial
  | .advance _ _ => isTrue trivial

/-- The document is not left `PROCESSING` with all its attempts used. -/
def NotExhausted (config : WorkerConfig) (s : Stores Q) (documentId : String) : Prop :=
  ∀ document, s.documents.lookup documentId = some document → document.status = .processing →
    document.processingAttempts < config.retryPolicy.maxAttempts

/-- No other run that works on the document has the pair of worker id and token. -/
def FreshPair (w : World (Stores Q) Call) (run : ClaimedJob) : Prop :=
  ∀ call ∈ w.locals, ∀ other, call.working = some other →
    other.documentId = run.documentId → other.leaseGuard ≠ run.leaseGuard

/-- A worker does not take up an exhausted document. -/
def TakesUp (config : WorkerConfig) (w : World (Stores Q) Call) : Call → Prop
  | .worker (.findById run) => NotExhausted config w.shared run.documentId
  | .worker (.transitionProcessing run _) =>
    NotExhausted config w.shared run.documentId ∧ FreshPair w run
  | _ => True

/-- A worker that dies makes no request. -/
def StepTakesUp (config : WorkerConfig) (w : World (Stores Q) Call) :
    Event Env Call Input → Prop
  | .advance _ .die => True
  | .advance i _ => ∀ call ∈ w.locals[i]?, TakesUp config w call
  | _ => True

/-! ## The invariant -/

/-- What the metadata says of a document's attempts. -/
structure WithinLimit (maxAttempts : Nat) (document : DocumentMetadata) : Prop where
  attempts : document.processingAttempts ≤ maxAttempts
  left : document.status = .uploaded ∨ document.status = .queued →
    document.processingAttempts < maxAttempts
  notDeleted : document.status ≠ .deleted

/-- Every document is within the limit. -/
def Limited (maxAttempts : Nat) (s : Stores Q) : Prop :=
  ∀ documentId document, s.documents.lookup documentId = some document →
    WithinLimit maxAttempts document

/-- The run of a place, and the largest count at which what it is about to write of its
document is right. -/
def Worker.counted (maxAttempts : Nat) : Worker → Option (ClaimedJob × Nat)
  | .processing run attempts _ _ => some (run, attempts)
  | .deleteChunks run attempts _ => some (run, attempts)
  | .transitionAfterError run _ (.retry _) => some (run, maxAttempts - 1)
  | _ => none

/-- A current run counts no fewer attempts than its document. -/
def Counts (s : Stores Q) (run : ClaimedJob) (attempts : Nat) : Prop :=
  ∀ document, s.documents.lookup run.documentId = some document →
    document.status = .processing → run.leaseGuard.Holds document →
    document.processingAttempts ≤ attempts

/-- What holds of a call at each place. -/
def Counted (maxAttempts : Nat) (s : Stores Q) : Call → Prop
  | .enqueueUploaded _ => True
  | .retry _ => False
  | .reprocess _ => False
  | .worker (.transitionProcessing _ processingAttempts) => processingAttempts < maxAttempts
  | .worker place => ∀ run attempts, place.counted maxAttempts = some (run, attempts) →
    Counts s run attempts

theorem Worker.working_of_counted {maxAttempts : Nat} {place : Worker} {run : ClaimedJob}
    {attempts : Nat} (h : place.counted maxAttempts = some (run, attempts)) :
    place.working = some run := by
  unfold Worker.counted at h
  split at h
  · exact congrArg some (Prod.mk.inj (Option.some.inj h)).1
  · exact congrArg some (Prod.mk.inj (Option.some.inj h)).1
  · exact congrArg some (Prod.mk.inj (Option.some.inj h)).1
  · cases h

/-- Enough for a worker's place other than the claim transition. -/
theorem counted_of_counts {maxAttempts : Nat} {s : Stores Q} {place : Worker}
    (hplace : ∀ run attempts, place ≠ .transitionProcessing run attempts)
    (h : ∀ run attempts, place.counted maxAttempts = some (run, attempts) → Counts s run attempts) :
    Counted maxAttempts s (.worker place) := by
  cases place with
  | transitionProcessing run attempts => exact absurd rfl (hplace run attempts)
  | _ => exact h

/-- What carries `Counted` over to other stores. -/
theorem Counted.carry {maxAttempts : Nat} {s s' : Stores Q} {call : Call}
    (h : Counted maxAttempts s call)
    (hcounts : ∀ run attempts, call.working = some run → Counts s run attempts →
      Counts s' run attempts) : Counted maxAttempts s' call := by
  cases call with
  | worker place =>
      cases place with
      | transitionProcessing _ _ => exact h
      | _ => exact fun run attempts hplace =>
          hcounts run attempts (Worker.working_of_counted hplace) (h run attempts hplace)
  | _ => exact h

/-! ## What a step does -/

variable {maxAttempts : Nat} {w : World (Stores Q) Call}
  {documents : DocumentMetadataRepository}

/-- The documents after a step: within the limit, and counted by the runs in progress. -/
def Bounded (maxAttempts : Nat) (w : World (Stores Q) Call)
    (documents : DocumentMetadataRepository) : Prop :=
  (∀ documentId document, documents.lookup documentId = some document →
    WithinLimit maxAttempts document) ∧
  ∀ call ∈ w.locals, Counted maxAttempts w.shared call →
    ∀ s' : Stores Q, s'.documents = documents → Counted maxAttempts s' call

theorem bounded_of_insert (h : Limited maxAttempts w.shared) {documentId : String}
    {written : DocumentMetadata} (hwritten : WithinLimit maxAttempts written)
    (hholder : ∀ call ∈ w.locals, ∀ run attempts, call.working = some run →
      run.documentId = documentId → Counts w.shared run attempts →
      written.status = .processing → run.leaseGuard.Holds written →
      written.processingAttempts ≤ attempts) :
    Bounded maxAttempts w (w.shared.documents.insert documentId written) := by
  refine ⟨fun d document hdocument => ?_, fun call hcall hcounted s' hdocuments => ?_⟩
  · rw [Table.lookup_insert] at hdocument
    split at hdocument
    · exact Option.some.inj hdocument ▸ hwritten
    · exact h d document hdocument
  · refine hcounted.carry fun run attempts hworking hcounts document hdocument => ?_
    rw [hdocuments, Table.lookup_insert] at hdocument
    split at hdocument
    · next hd =>
        obtain rfl := Option.some.inj hdocument
        exact hholder call hcall run attempts hworking hd hcounts
    · exact hcounts document hdocument

/-- What a step of a call that takes up no exhausted document does. -/
theorem bounded_of_documentStep {config : WorkerConfig}
    (h : Limited config.retryPolicy.maxAttempts w.shared) {call : Call}
    (hmem : call ∈ w.locals) (hcounted : Counted config.retryPolicy.maxAttempts w.shared call)
    (hok : TakesUp config w call) {write : Option WorkerWrite}
    (hpositive : 0 < config.retryPolicy.maxAttempts)
    (hstep : DocumentStep w.shared call documents write) :
    Bounded config.retryPolicy.maxAttempts w documents := by
  cases hstep with
  | unchanged =>
      refine ⟨h, fun other _ hother s' hdocuments => hother.carry fun run attempts _ hcounts => ?_⟩
      unfold Counts at hcounts ⊢
      rw [hdocuments]
      exact hcounts
  | called _ documentId document changes nextStatus hcall hdocument hnext huploaded _ hattempts =>
      have hold := h documentId document hdocument
      have hstatus : document.status = .uploaded := by
        cases call with
        | enqueueUploaded place => exact huploaded place rfl
        | worker place => cases hcall
        | _ => exact hcounted.elim
      have hsame : (document.update changes nextStatus).processingAttempts =
          document.processingAttempts := by simp [DocumentMetadata.update, hattempts]
      refine bounded_of_insert h
        ⟨hsame ▸ hold.attempts, fun _ => hsame ▸ hold.left (Or.inl hstatus), ?_⟩
        fun _ _ _ _ _ _ _ hprocessing => ?_
      · rcases hnext with rfl | rfl <;> nofun
      · rcases hnext with rfl | rfl <;> cases hprocessing
  | queued run document hdocument hstatus =>
      have hold := h run.documentId document hdocument
      exact bounded_of_insert h ⟨hold.attempts, fun _ => hold.left (Or.inl hstatus), nofun⟩
        fun _ _ _ _ _ _ _ hprocessing => nomatch hprocessing
  | claimed run attempts document hdocument hstatus =>
      refine bounded_of_insert h ⟨hcounted, nofun, nofun⟩
        fun other hother holder _ hworking hd _ _ hholds => ?_
      -- No other run has the worker id and the token of the claim.
      refine absurd ?_ (hok.2 other hother holder hworking hd)
      exact DocumentLeaseGuard.mk.injEq .. ▸
        ⟨(Option.some.inj hholds.1).symm, hholds.2.symm⟩
  | fenced place run document changes nextStatus hplace hdocument hstatus hguard hnext htoken
      hattempts hworker hqueued =>
      have hold := h run.documentId document hdocument
      have hsame : (document.update changes nextStatus).processingAttempts =
          document.processingAttempts := by simp [DocumentMetadata.update, hattempts]
      refine bounded_of_insert h ⟨hsame ▸ hold.attempts, fun hleft => ?_, hnext.2⟩
        fun other hother holder count _ hd hcounts hprocessing hholds => ?_
      · rcases hleft with huploaded | hback
        · exact absurd huploaded hnext.1
        · -- The run goes back to the queue only after a decision to retry.
          obtain ⟨error, nextRetryAt, rfl⟩ := hqueued hback
          have hle := hcounted run _ rfl document hdocument hstatus hguard
          rw [hsame]
          omega
      · rw [hsame]
        refine hcounts document (hd ▸ hdocument) hstatus ?_
        simpa [DocumentLeaseGuard.Holds, DocumentMetadata.update, htoken, hworker hprocessing]
          using hholds

/-! ## The places of the calls -/

/-- A run that is to decide knows no more attempts than it did before. -/
theorem Worker.counted_of_resume {config : WorkerConfig} {now : Nat} {input : Input}
    {place : Worker} {run : ClaimedJob} {await : Await Worker}
    (hworking : place.working = some run) (hcode : place.code config now input = some await)
    {result : Except ThrownError await.Value} {next : Worker}
    (hnext : await.resume result = some next) {other : ClaimedJob} {count : Nat}
    (hcounted : next.counted config.retryPolicy.maxAttempts = some (other, count)) :
    ∃ count' ≤ count, place.counted config.retryPolicy.maxAttempts = some (other, count') := by
  cases place with
  | processing run attempts heartbeat place =>
      rcases Worker.processing_resume hcode hnext with ⟨_, _, rfl⟩ | ⟨_, rfl⟩ <;>
        exact ⟨count, Nat.le_refl _, hcounted⟩
  | deleteChunks run attempts error =>
      obtain rfl := Option.some.inj hcode
      simp only [Worker.decided] at hnext
      split at hnext
      · cases hnext
      next decision hdecision =>
      obtain rfl := Option.some.inj hnext
      cases decision with
      | retry nextRetryAt =>
          obtain ⟨rfl, rfl⟩ := Prod.mk.inj (Option.some.inj hcounted)
          have hlt := lt_of_decideDocumentRetry hdecision
          exact ⟨attempts, by omega, rfl⟩
      | fail => cases hcounted
      | quarantine => cases hcounted
  | transitionAfterError run error decision =>
      obtain rfl := Option.some.inj hcode
      dsimp only at hnext
      split at hnext
      · split at hnext <;> obtain rfl := Option.some.inj hnext <;> cases hcounted
      · cases hnext
  | release run nextRetryAt =>
      obtain rfl := Option.some.inj hcode
      cases hnext
  | acknowledgeFailed run =>
      obtain rfl := Option.some.inj hcode
      cases hnext
  | _ => cases hworking

theorem counts_of_counted {s : Stores Q} {place : Worker} {run : ClaimedJob}
    (hworking : place.working = some run) (h : Counted maxAttempts s (.worker place))
    {other : ClaimedJob} {count : Nat} (hcounted : place.counted maxAttempts = some (other, count)) :
    Counts s other count := by
  cases place with
  | transitionProcessing _ _ => cases hworking
  | _ => exact h other count hcounted

/-- Where a run goes next while it works on its job. -/
theorem counted_working {s' : Stores Q} {config : WorkerConfig} {now : Nat} {input : Input}
    {place : Worker} {run : ClaimedJob} {await : Await Worker}
    (hworking : place.working = some run) (hcode : place.code config now input = some await)
    {result : Except ThrownError await.Value} {next : Worker}
    (hnext : await.resume result = some next)
    (h : Counted config.retryPolicy.maxAttempts s' (.worker place)) :
    Counted config.retryPolicy.maxAttempts s' (.worker next) := by
  refine counted_of_counts (fun other attempts heq => ?_) fun other count hcounted => ?_
  · have hstill := Worker.working_resume hworking hcode hnext
    rw [heq] at hstill
    cases hstill
  · obtain ⟨count', hle, hbefore⟩ := Worker.counted_of_resume hworking hcode hnext hcounted
    exact fun document hdocument hstatus hholds =>
      (counts_of_counted hworking h hbefore document hdocument hstatus hholds).trans hle

/-- A place at which nothing has been counted yet. -/
theorem counted_of_none {s : Stores Q} {place : Worker}
    (hplace : ∀ run attempts, place ≠ .transitionProcessing run attempts)
    (hnone : place.counted maxAttempts = none) : Counted maxAttempts s (.worker place) :=
  counted_of_counts hplace fun _ _ hsome => nomatch hnone.symm.trans hsome

variable [DocumentProcessingQueue Q]

/-- Where a worker goes next. -/
theorem worker_counted {config : WorkerConfig} (h : Limited config.retryPolicy.maxAttempts w.shared)
    {input : Input} {place : Worker} (hok : TakesUp config w (.worker place))
    {await : Await Worker} (hcode : place.code config w.shared.now input = some await)
    (hkeeps : ∀ result s', w.shared.perform input await.request = some (result, s') →
      Counted config.retryPolicy.maxAttempts s' (.worker place)) :
    Arrives w.shared input await fun s next =>
      Counted config.retryPolicy.maxAttempts s (.worker next) := by
  have hworking : ∀ run, place.working = some run → Arrives w.shared input await fun s next =>
      Counted config.retryPolicy.maxAttempts s (.worker next) :=
    fun _ hrun result s' hperform _ hnext =>
      counted_working hrun hcode hnext (hkeeps result s' hperform)
  cases place with
  | claim workerId =>
      obtain rfl := Option.some.inj hcode
      intro result s' _ next hnext
      dsimp only at hnext
      split at hnext
      · obtain rfl := Option.some.inj hnext
        exact counted_of_none nofun rfl
      · cases hnext
  | findById run =>
      obtain rfl := Option.some.inj hcode
      refine arrives_findById fun next hnext => ?_
      cases hdocument : w.shared.documents.lookup run.documentId with
      | none =>
          rw [hdocument] at hnext
          obtain rfl := Option.some.inj hnext
          exact counted_of_none nofun rfl
      | some document =>
          rw [hdocument] at hnext
          dsimp only at hnext
          split at hnext
          · obtain rfl := Option.some.inj hnext
            exact counted_of_none nofun rfl
          next hterminal =>
          split at hnext
          · obtain rfl := Option.some.inj hnext
            exact counted_of_none nofun rfl
          next huploaded =>
          obtain rfl := Option.some.inj hnext
          have hlimit := h run.documentId document hdocument
          cases hstatus : document.status with
          | queued => exact hlimit.left (Or.inr hstatus)
          | processing => exact hok document hdocument hstatus
          | uploaded => exact absurd hstatus huploaded
          | deleted => exact absurd hstatus hlimit.notDeleted
          | _ => simp [hstatus] at hterminal
  | acknowledgeSkipped run =>
      obtain rfl := Option.some.inj hcode
      intro _ _ _ _ hnext
      cases hnext
  | transitionUploaded run =>
      obtain rfl := Option.some.inj hcode
      refine arrives_transition (fun _ _ next hnext => ?_) (fun _ next hnext => ?_)
        fun document hdocument hstatus _ next hnext => ?_
      · cases hnext
      · obtain rfl := Option.some.inj hnext
        exact counted_of_none nofun rfl
      · obtain rfl := Option.some.inj hnext
        exact (h run.documentId document hdocument).left (Or.inl (List.mem_singleton.mp hstatus))
  | transitionProcessing run attempts =>
      obtain rfl := Option.some.inj hcode
      refine arrives_transition (fun _ _ next hnext => ?_) (fun _ next hnext => ?_)
        fun document hdocument hstatus _ next hnext => ?_
      · cases hnext
      · obtain rfl := Option.some.inj hnext
        exact counted_of_none nofun rfl
      · obtain rfl := Option.some.inj hnext
        intro other count hcounted found hfound _ _
        obtain ⟨rfl, rfl⟩ := Prod.mk.inj (Option.some.inj hcounted)
        rw [AList.lookup_insert] at hfound
        rw [Option.some.inj hfound]
  | processing run attempts heartbeat place => exact hworking run rfl
  | deleteChunks run attempts error => exact hworking run rfl
  | transitionAfterError run error decision => exact hworking run rfl
  | release run nextRetryAt => exact hworking run rfl
  | acknowledgeFailed run => exact hworking run rfl

omit [DocumentProcessingQueue Q] in
theorem bounded_of_env {s : Stores Q} (h : Limited maxAttempts s) (hpositive : 0 < maxAttempts)
    (e : Env) : Limited maxAttempts (envStep s e) ∧
      ∀ call, Counted maxAttempts s call → Counted maxAttempts (envStep s e) call := by
  cases e with
  | tick ms => exact ⟨h, fun call hcall => hcall.carry fun _ _ _ hcounts => hcounts⟩
  | upload documentId =>
      refine ⟨fun d document hdocument => ?_, fun call hcall =>
        hcall.carry fun run attempts _ hcounts document hdocument hprocessing => ?_⟩
      · rcases DocumentMetadataRepository.lookup_create hdocument with hold | ⟨-, rfl, -⟩
        · exact h d document hold
        · exact ⟨Nat.zero_le _, fun _ => hpositive, nofun⟩
      · rcases DocumentMetadataRepository.lookup_create hdocument with hold | ⟨-, rfl, -⟩
        · exact hcounts document hold hprocessing
        · cases hprocessing

/-- The invariant of the step of a call. -/
theorem limited_of_advance {config : WorkerConfig}
    (hpositive : 0 < config.retryPolicy.maxAttempts)
    (h : Limited config.retryPolicy.maxAttempts w.shared)
    (hall : ∀ m ∈ w.locals, Counted config.retryPolicy.maxAttempts w.shared m) {i : Nat}
    {input : Input} {call : Call} (hok : StepTakesUp config w (.advance i input))
    (hget : w.locals[i]? = some call) {s' : Stores Q} {next : Option Call}
    (hadvance : advance config w.shared input call = some (s', next)) :
    Limited config.retryPolicy.maxAttempts s' ∧
      (∀ m, next = some m → Counted config.retryPolicy.maxAttempts s' m) ∧
      ∀ m ∈ w.locals, Counted config.retryPolicy.maxAttempts w.shared m →
        Counted config.retryPolicy.maxAttempts s' m := by
  have hmem : call ∈ w.locals := List.mem_of_getElem? hget
  rcases advance_cases hadvance with ⟨-, rfl, rfl⟩ | ⟨await, result, hinput, hcode, hperform, rfl⟩
  · exact ⟨h, nofun, fun m _ hm => hm⟩
  have htakes : TakesUp config w call := by
    unfold StepTakesUp at hok
    split at hok
    · next heq => cases heq; exact absurd rfl hinput
    · next heq => cases heq; exact hok call hget
    · next hno => exact absurd rfl (hno i input)
  have hkeeps : ∀ result s', w.shared.perform input await.request = some (result, s') →
      Limited config.retryPolicy.maxAttempts s' ∧
        ∀ m ∈ w.locals, Counted config.retryPolicy.maxAttempts s' m := by
    intro result s' hperform
    obtain ⟨hlimited, hcounted⟩ := bounded_of_documentStep h hmem (hall call hmem) htakes hpositive
      (documentStep hcode hperform)
    exact ⟨hlimited, fun m hm => hcounted m hm (hall m hm) s' rfl⟩
  obtain ⟨hlimited, hcounted⟩ := hkeeps result s' hperform
  refine ⟨hlimited, fun m hm => ?_, fun m hm _ => hcounted m hm⟩
  cases call with
  | enqueueUploaded place =>
      obtain rfl := Option.some.inj hcode
      obtain ⟨inner, -, rfl⟩ := Option.map_eq_some_iff.mp hm
      trivial
  | retry place => exact (hall _ hmem).elim
  | reprocess place => exact (hall _ hmem).elim
  | worker place =>
      obtain ⟨inner, hinner, rfl⟩ := Option.map_eq_some_iff.mp hcode
      obtain ⟨inside, hinside, rfl⟩ := Option.map_eq_some_iff.mp hm
      exact worker_counted h htakes hinner
        (fun result s' hperform => (hkeeps result s' hperform).2 _ hmem) result s' hperform inside
        hinside

/-! ## The result -/

section Result

variable {Q : Type} [LawfulDocumentProcessingQueue Q]

/-- No administrator interferes, and no worker takes up an exhausted document. -/
def WithinBudget (config : WorkerConfig) (w : World (Stores Q) Call)
    (ev : Event Env Call Input) : Prop :=
  Unattended ev ∧ StepTakesUp config w ev

/-- No document has more attempts than the limit, and none that has used them all is
`QUEUED` again. -/
def AttemptsLimited (config : WorkerConfig) (w : World (Stores Q) Call) : Prop :=
  ∀ documentId document, w.shared.documents.lookup documentId = some document →
    document.processingAttempts ≤ config.retryPolicy.maxAttempts ∧
      (document.status = .queued →
        document.processingAttempts < config.retryPolicy.maxAttempts)

/-- A claim transition that takes effect finds attempts left. -/
def ClaimFindsAttempts (config : WorkerConfig) (w : World (Stores Q) Call) :
    Event Env Call Input → Prop
  | .advance _ .die => True
  | .advance i _ => ∀ run attempts,
    w.locals[i]? = some (.worker (.transitionProcessing run attempts)) →
    ∀ document, w.shared.documents.lookup run.documentId = some document →
      document.status.IsActive → document.processingAttempts < config.retryPolicy.maxAttempts
  | _ => True

theorem limited_of_reachable {config : WorkerConfig} {now : Nat} {w : World (Stores Q) Call}
    (hpositive : 0 < config.retryPolicy.maxAttempts)
    (h : Reachable (StartedAt now) (Guarded (WithinBudget config) (pipeline Q config).step) w) :
    Limited config.retryPolicy.maxAttempts w.shared := by
  refine (Program.reachable_inv (I := Limited config.retryPolicy.maxAttempts)
    (L := Counted config.retryPolicy.maxAttempts) (fun w hw => ?_)
    (fun s e hs => bounded_of_env hs hpositive e) (fun w call _ hok hcall => ?_)
    (fun w i input call s' next hs hall hok hget _ hadvance =>
      limited_of_advance hpositive hs hall hok.2 hget hadvance) h).1
  · rw [show w = ⟨Stores.start Q now, []⟩ from hw]
    exact ⟨by simp [Limited, Stores.start], fun m hm => absurd hm List.not_mem_nil⟩
  · change call.isInitial = true at hcall
    unfold Call.isInitial at hcall
    split at hcall
    · trivial
    · exact hok.1
    · exact hok.1
    · exact counted_of_none nofun rfl
    · cases hcall

omit [LawfulDocumentProcessingQueue Q] in
theorem claimFindsAttempts_of_limited {config : WorkerConfig} {w : World (Stores Q) Call}
    {ev : Event Env Call Input} (h : Limited config.retryPolicy.maxAttempts w.shared)
    (hok : StepTakesUp config w ev) : ClaimFindsAttempts config w ev := by
  unfold ClaimFindsAttempts
  split
  · trivial
  · next i input hinput =>
      intro run attempts hget document hdocument hactive
      have htakes : TakesUp config w (.worker (.transitionProcessing run attempts)) := by
        unfold StepTakesUp at hok
        split at hok
        · next heq => cases heq; exact (hinput rfl).elim
        · next heq => cases heq; exact hok _ hget
        · next hno => exact absurd rfl (hno i input)
      rcases hactive with hqueued | hprocessing
      · exact (h run.documentId document hdocument).left (Or.inr hqueued)
      · exact htakes.1 document hdocument hprocessing
  · trivial

/-- Along a run in which no administrator interferes and no worker takes up an
exhausted document, no transition records more attempts than the limit, and a document
that has used them all is neither queued nor claimed again. -/
theorem attemptsLimited_of_stepsMeet (config : WorkerConfig) (now : Nat)
    (w : World (Stores Q) Call) (run : List (Event Env Call Input × World (Stores Q) Call))
    (hpolicy : validateDocumentRetryPolicy config.retryPolicy = .ok ())
    (hstart : StartedAt now w) (hrun : Run (pipeline Q config).step w run)
    (hmeet : StepsMeet (WithinBudget config) w run) :
    AlwaysHolds (AttemptsLimited config) w run ∧
      StepsMeet (ClaimFindsAttempts config) w run := by
  have hpositive := maxAttempts_pos hpolicy
  constructor
  · refine alwaysHolds_of_stepsMeet (fun s hs documentId document hdocument => ?_) hrun
      (Reachable.start hstart) hmeet
    have hlimit := limited_of_reachable hpositive hs documentId document hdocument
    exact ⟨hlimit.attempts, fun hqueued => hlimit.left (Or.inr hqueued)⟩
  · exact stepsMeet_of_stepsMeet
      (fun s l hs hok => claimFindsAttempts_of_limited (limited_of_reachable hpositive hs) hok.2)
      hrun (Reachable.start hstart) hmeet

end Result

/-- A worker claims an uploaded document with nothing else going on. -/
theorem attemptsLimited_of_stepsMeet_oneClaim :
    AlwaysHolds (AttemptsLimited defaultConfig)
        ⟨Stores.start LocalDocumentProcessingQueue 0, []⟩
        (trace (pipeline LocalDocumentProcessingQueue defaultConfig).next ⟨Stores.start _ 0, []⟩
          (uploadAndEnqueue ++ claimAndFind 0 "worker-1" ++ [proceed 0])) ∧
      StepsMeet (ClaimFindsAttempts defaultConfig)
        ⟨Stores.start LocalDocumentProcessingQueue 0, []⟩
        (trace (pipeline LocalDocumentProcessingQueue defaultConfig).next ⟨Stores.start _ 0, []⟩
          (uploadAndEnqueue ++ claimAndFind 0 "worker-1" ++ [proceed 0])) := by
  refine attemptsLimited_of_stepsMeet defaultConfig 0 _ _ rfl rfl (run_trace _ _) ?_
  refine ⟨⟨trivial, trivial⟩, ⟨trivial, trivial⟩, ⟨trivial, ?_⟩, ⟨trivial, ?_⟩, ⟨trivial, ?_⟩,
    ⟨trivial, trivial⟩, ⟨trivial, ?_⟩, ⟨trivial, ?found⟩, ⟨trivial, ?claim⟩, trivial⟩
  case found =>
    intro call hcall
    cases hcall
    intro document hdocument hprocessing
    cases hdocument
    cases hprocessing
  case claim =>
    intro call hcall
    cases hcall
    refine ⟨fun document hdocument hprocessing => ?_, fun call hcall other hworking => ?_⟩
    · cases hdocument
      cases hprocessing
    · rw [List.mem_singleton.mp hcall] at hworking
      cases hworking
  all_goals
    intro call hcall
    cases hcall
    trivial

/-- A worker claims the document and dies, and its lease expires. -/
def claimAndDie : List (Event Env Call Input) :=
  claimAndFind 0 "worker-1" ++
    [proceed 0, .advance 0 .die, .env (.tick (defaultLeaseDurationMs + 1))]

/-- Four workers take up the document, and each dies. -/
def fourCrashes : List (Event Env Call Input) :=
  uploadAndEnqueue ++ claimAndDie ++ claimAndDie ++ claimAndDie ++ claimAndDie

theorem fourCrashes_attempts :
    ∃ w, Reachable (StartedAt 0) (Guarded (fun _ ev => Unattended ev)
        (pipeline LocalDocumentProcessingQueue defaultConfig).step) w ∧
      (w.shared.documents.lookup "document").map DocumentMetadata.processingAttempts = some 4 :=
  exists_guarded_of_exec
    (fun w : World (Stores LocalDocumentProcessingQueue) Call =>
      (w.shared.documents.lookup "document").map DocumentMetadata.processingAttempts = some 4)
    _ fourCrashes rfl (by decide) (by decide)

/-- The limit is three attempts, and the document has four. -/
theorem fourCrashes_not_attemptsLimited :
    ∃ w, Reachable (StartedAt 0) (Guarded (fun _ ev => Unattended ev)
        (pipeline LocalDocumentProcessingQueue defaultConfig).step) w ∧
      ¬AttemptsLimited defaultConfig w := by
  obtain ⟨w, hw, hattempts⟩ := fourCrashes_attempts
  obtain ⟨document, hdocument, hfour⟩ := Option.map_eq_some_iff.mp hattempts
  refine ⟨w, hw, fun h => ?_⟩
  have hle := (h "document" document hdocument).1
  rw [hfour] at hle
  exact absurd hle (by decide)

end AvantimePlatform.Pipeline
