import AvantimePlatform.Ai.CostControllers
import AvantimePlatform.Ai.MemoryBudget
import AvantimePlatform.Lib.InterleavingHoldings
import AvantimePlatform.Rag.Configuration

/-!
# The AI gateway

`DefaultAiGateway` of `ai-gateway.ts`.  A call asks the rate limiter, reserves its cost, asks the
provider once or twice, and books what was used or gives the reservation back.  Any number of
calls run over one cost controller, each of them split into its awaited steps.  What the rate
limiter and the provider answer is free, and so is whether a statement of the controller fails.

* `open_reservations_held`: what is reserved behind a run is what the calls in progress hold, and
  what calls left behind whose release failed.
* `granted_once`: over the tables, no two calls of one type and one correlation id are granted
  their reservation.
-/

namespace AvantimePlatform.Ai

open AvantimePlatform.Documents AvantimePlatform.Interleaving AvantimePlatform.Transition
open AvantimePlatform.Rag (CodeUnit RagGenerationRequest codeUnits)
open AvantimePlatform.Rag.Loading (RagConfiguration)

/-! ## Errors -/

inductive AiGatewayErrorCode where
  | configurationInvalid | providerUnavailable | rateLimited | budgetExceeded | timeout
  | invalidResponse | requestRejected
deriving DecidableEq

structure AiGatewayError where
  code : AiGatewayErrorCode
  transient : Bool
  safeMessage : String
deriving DecidableEq

/-- What can be thrown: an `AiGatewayError`, an error with a status that is a number, or another
one. -/
inductive ThrownError where
  | gateway (error : AiGatewayError)
  | status (value : ℚ)
  | error (message : String)

def classifyProviderError : ThrownError → AiGatewayError
  | .gateway error => error
  | .status value =>
    if value = 429 ∨ 500 ≤ value then
      ⟨.providerUnavailable, true, "AI provider временно недоступен."⟩
    else ⟨.requestRejected, false, "AI provider отклонил запрос."⟩
  | .error _ => ⟨.requestRejected, false, "AI provider отклонил запрос."⟩

/-! ## Requests and results -/

inductive EmbeddingPurpose where
  | document | query
deriving DecidableEq

structure EmbeddingRequest where
  tenant : DocumentTenantContext
  texts : List (List CodeUnit)
  model : String
  dimensions : Nat
  purpose : EmbeddingPurpose
  correlationId : String
  usageIdempotencyKey : Option String

structure AiUsage where
  inputTokens : Nat
  outputTokens : Nat
  estimatedCostEur : ℚ

structure EmbeddingResult where
  vectors : List (List JsNumber)
  model : String
  dimensions : Nat
  usage : AiUsage

structure RagGenerationResult where
  answer : String
  model : String
  usage : AiUsage

/-- What the gateway is asked for. -/
inductive GatewayRequest where
  | embed (request : EmbeddingRequest)
  | generate (tenant : DocumentTenantContext) (correlationId : String)
      (request : RagGenerationRequest)

/-- What it returns. -/
inductive GatewayResult where
  | embedding (result : EmbeddingResult)
  | answer (result : RagGenerationResult)

def GatewayResult.usage : GatewayResult → AiUsage
  | .embedding result => result.usage
  | .answer result => result.usage

namespace GatewayRequest

def tenant : GatewayRequest → DocumentTenantContext
  | embed request => request.tenant
  | generate tenant _ _ => tenant

def correlationId : GatewayRequest → String
  | embed request => request.correlationId
  | generate _ correlationId _ => correlationId

def requestType : GatewayRequest → AiRequestType
  | embed request =>
    match request.purpose with
    | .document => .documentEmbedding
    | .query => .queryEmbedding
  | generate _ _ _ => .ragAnswer

/-- The units of the embedding that the usage counts. -/
def embeddingUnits : GatewayRequest → Nat
  | embed request => request.texts.length
  | generate _ _ _ => 0

end GatewayRequest

def estimateTokens (texts : List (List CodeUnit)) : Nat :=
  ((texts.map List.length).sum + 3) / 4

def estimateCost (inputTokens outputTokens : Nat) : ℚ := (inputTokens + 4 * outputTokens) / 1000000

def validateEmbeddingResult (result : EmbeddingResult) (expectedCount expectedDimensions : Nat) :
    Except AiGatewayError Unit :=
  if result.vectors.length ≠ expectedCount ∨ result.dimensions ≠ expectedDimensions ∨
      (result.vectors.any fun vector =>
        vector.length != expectedDimensions || vector.any fun value => !value.isFinite) = true then
    .error ⟨.invalidResponse, false, "Embedding provider вернул несовместимый результат."⟩
  else .ok ()

/-! ## The calls -/

/-- `DefaultAiGateway`: its configuration, and the ids of its providers. -/
structure DefaultAiGateway where
  configuration : RagConfiguration
  embeddingProviderId : String
  answerProviderId : String

/-- What the world answers a step with: the rate limiter, the provider, a fresh id, the time, and
the error of a statement of the cost controller that fails. -/
structure GatewayAnswer where
  limiter : Option Bool
  embed : Except ThrownError EmbeddingResult
  generate : Except ThrownError RagGenerationResult
  id : String
  now : IsoInstant
  failure : Option ThrownError

/-- The awaited step that a call is at. -/
inductive GatewayStep where
  | limit
  | reserve
  | provide (attempt : Nat) (reservation : AiBudgetReservation)
  | record (reservation : AiBudgetReservation) (result : GatewayResult)
  | release (reservation : AiBudgetReservation) (error : AiGatewayError)

structure GatewayCall where
  request : GatewayRequest
  step : GatewayStep

/-- Where a step leaves a call. -/
inductive GatewayOutcome where
  | next (step : GatewayStep)
  | returned (result : GatewayResult)
  | thrown (error : ThrownError)

namespace DefaultAiGateway

variable (gateway : DefaultAiGateway)

/-! ### The source -/

def createDocumentEmbeddings (tenant : DocumentTenantContext) (texts : List (List CodeUnit))
    (purpose : EmbeddingPurpose) (correlationId : String) (usageIdempotencyKey : Option String) :
    GatewayCall where
  request := .embed
    { tenant := tenant
      texts := texts
      model := gateway.configuration.embedding.model
      dimensions := gateway.configuration.embedding.dimensions
      purpose := purpose
      correlationId := correlationId
      usageIdempotencyKey := usageIdempotencyKey }
  step := .limit

def createQueryEmbedding (tenant : DocumentTenantContext) (query : List CodeUnit)
    (correlationId : String) : GatewayCall :=
  gateway.createDocumentEmbeddings tenant [query] .query correlationId none

def generateRagAnswer (tenant : DocumentTenantContext) (correlationId : String)
    (request : RagGenerationRequest) : GatewayCall where
  request := .generate tenant correlationId request
  step := .limit

/-- What `authorize` reserves. -/
def reservationRequest (request : GatewayRequest) (usageIdempotencyKey : Option String) :
    AiBudgetReservationRequest where
  tenant := request.tenant
  provider :=
    match request with
    | .embed _ => gateway.embeddingProviderId
    | .generate _ _ _ => gateway.answerProviderId
  model :=
    match request with
    | .embed request => request.model
    | .generate _ _ _ => gateway.configuration.answer.model
  requestType := request.requestType
  correlationId := request.correlationId
  idempotencyKey :=
    usageIdempotencyKey.getD (request.requestType.text ++ ":" ++ request.correlationId)
  estimatedCostEur :=
    match request with
    | .embed request => estimateCost (estimateTokens request.texts) 0
    | .generate _ _ request =>
      let texts := codeUnits request.question :: codeUnits request.systemInstructions ::
        request.sources.map fun source => source.excerpt
      estimateCost (estimateTokens texts) gateway.configuration.answer.maximumOutputTokens

/-- What the provider answers: it throws, or its result is checked. -/
def provided (answer : GatewayAnswer) :
    GatewayRequest → Except ThrownError (Except AiGatewayError GatewayResult)
  | .embed request => answer.embed.map fun result =>
    (validateEmbeddingResult result request.texts.length request.dimensions).map fun _ =>
      .embedding result
  | .generate _ _ _ => answer.generate.map fun result =>
    if Text.trim result.answer = "" then
      .error ⟨.invalidResponse, false, "AI provider не вернул ответ."⟩
    else .ok (.answer result)

/-- What `recordUsage` books. -/
def usageEvent (request : GatewayRequest) (reservation : AiBudgetReservation)
    (usage : AiUsage) : AiUsageLedgerEvent where
  reservation := reservation
  inputTokens := usage.inputTokens
  outputTokens := usage.outputTokens
  embeddingUnits := request.embeddingUnits
  estimatedCostEur := usage.estimatedCostEur
  actualCostEur := none
  status := .succeeded

section Steps

variable {C : Type} [AiCostController C] (controller : C) (answer : GatewayAnswer)
  (request : GatewayRequest)

/-- The rate limiter's part of `authorize`, behind the check of `embed`. -/
def limit : GatewayOutcome :=
  match request with
  | .embed ⟨_, [], _, _, _, _, _⟩ =>
    .thrown (.gateway ⟨.requestRejected, false, "Embedding input is empty."⟩)
  | _ =>
    match answer.limiter with
    | none =>
      .thrown (.gateway ⟨.rateLimited, true, "Distributed AI rate limiter недоступен."⟩)
    | some false =>
      .thrown (.gateway ⟨.rateLimited, true, "Лимит AI-запросов временно исчерпан."⟩)
    | some true => .next .reserve

/-- The cost controller's part of `authorize`.  No caller hands its usage key on. -/
def reserve : C × GatewayOutcome :=
  match answer.failure with
  | some error => (controller, .thrown error)
  | none =>
    match AiCostController.reserve controller (gateway.reservationRequest request none) answer.id
        answer.now with
    | .error message => (controller, .thrown (.error message))
    | .ok (controller, none) =>
      (controller, .thrown (.gateway ⟨.budgetExceeded, false, "Бюджет AI исчерпан."⟩))
    | .ok (controller, some reservation) => (controller, .next (.provide 1 reservation))

/-- A round of `withRetry`, and the check of what it returns. -/
def provide (attempt : Nat) (reservation : AiBudgetReservation) : GatewayOutcome :=
  match provided answer request with
  | .error thrown =>
    let error := classifyProviderError thrown
    if error.transient = false ∨ attempt = 2 then .next (.release reservation error)
    else .next (.provide (attempt + 1) reservation)
  | .ok (.error error) => .next (.release reservation error)
  | .ok (.ok result) => .next (.record reservation result)

def record (reservation : AiBudgetReservation) (result : GatewayResult) : C × GatewayOutcome :=
  match answer.failure with
  | some error => (controller, .next (.release reservation (classifyProviderError error)))
  | none =>
    match AiCostController.reconcile controller (usageEvent request reservation result.usage)
        answer.now with
    | .error message =>
      (controller, .next (.release reservation (classifyProviderError (.error message))))
    | .ok controller => (controller, .returned result)

/-- The `catch`. -/
def release (reservation : AiBudgetReservation) (error : AiGatewayError) : C × GatewayOutcome :=
  match answer.failure with
  | some failure => (controller, .thrown failure)
  | none => (AiCostController.release controller reservation, .thrown (.gateway error))

def advance : GatewayStep → C × GatewayOutcome
  | .limit => (controller, limit answer request)
  | .reserve => gateway.reserve controller answer request
  | .provide attempt reservation => (controller, provide answer request attempt reservation)
  | .record reservation result => record controller answer request reservation result
  | .release reservation error => release controller answer reservation error

end Steps

end DefaultAiGateway

/-- Where a call goes on, if it does. -/
def GatewayOutcome.call? (request : GatewayRequest) : GatewayOutcome → Option GatewayCall
  | .next step => some ⟨request, step⟩
  | .returned _ => none
  | .thrown _ => none

/-- The calls of a gateway, over one cost controller. -/
def DefaultAiGateway.program (C : Type) [AiCostController C] (gateway : DefaultAiGateway) :
    Program C GatewayCall Empty GatewayAnswer where
  env _ nothing := nothing.elim
  initial call :=
    match call.step with
    | .limit => true
    | _ => false
  advance controller answer call :=
    let outcome := gateway.advance controller answer call.request call.step
    some (outcome.1, outcome.2.call? call.request)

/-! ## What is reserved -/

section Reserved

/-- What a call holds reserved. -/
def GatewayStep.held : GatewayStep → Option OpenReservation
  | limit => none
  | reserve => none
  | provide _ reservation => some reservation.held
  | record reservation _ => some reservation.held
  | release reservation _ => some reservation.held

def GatewayCall.held (call : GatewayCall) : Option OpenReservation := call.step.held

/-- What a call leaves behind when its release fails. -/
def leftBehind {C : Type} (_ : C) (answer : GatewayAnswer) (call : GatewayCall) :
    Option OpenReservation :=
  match call.step, answer.failure with
  | .release reservation _, some _ => some reservation.held
  | _, _ => none

variable {C : Type} [AiCostController C] {gateway : DefaultAiGateway} {c : C}
  {answer : GatewayAnswer} {request : GatewayRequest} {rest : List OpenReservation}

open AiCostController

/-- What is open behind a step is what the call holds then, what was open beside the call, and
what the call left behind. -/
def Accounts (rest left : List OpenReservation) (request : GatewayRequest)
    (outcome : C × GatewayOutcome) : Prop :=
  Sound outcome.1 ∧ (opens outcome.1).Perm
    (((outcome.2.call? request).bind GatewayCall.held).toList ++ (rest ++ left))

/-- A step that leaves the controller as it is, and the call with what it holds. -/
theorem accounts_of_held (step : GatewayStep) {outcome : GatewayOutcome} (hc : Sound c)
    (hopens : (opens c).Perm (step.held.toList ++ rest))
    (hheld : (outcome.call? request).bind GatewayCall.held = step.held) :
    Accounts rest [] request (c, outcome) := by
  refine ⟨hc, ?_⟩
  rw [hheld, List.append_nil]
  exact hopens

theorem limit_accounts (hc : Sound c) (hopens : (opens c).Perm rest) :
    Accounts rest [] request (c, DefaultAiGateway.limit answer request) := by
  refine accounts_of_held .limit hc hopens ?_
  unfold DefaultAiGateway.limit
  split
  · rfl
  · split <;> rfl

theorem reserve_accounts (hc : Sound c) (hopens : (opens c).Perm rest) :
    Accounts rest [] request (gateway.reserve c answer request) := by
  unfold DefaultAiGateway.reserve
  split
  · exact accounts_of_held .reserve hc hopens rfl
  · split
    · exact accounts_of_held .reserve hc hopens rfl
    · next hrefused =>
        rw [reserve_refused hrefused]
        exact accounts_of_held .reserve hc hopens rfl
    · next hgranted =>
        obtain ⟨hc', hopens'⟩ := reserve_granted hc hgranted
        exact accounts_of_held (.provide 1 _) hc'
          (hopens'.trans (hopens.cons _)) rfl

theorem provide_accounts {attempt : Nat} {reservation : AiBudgetReservation} (hc : Sound c)
    (hopens : (opens c).Perm (reservation.held :: rest)) :
    Accounts rest [] request
      (c, DefaultAiGateway.provide answer request attempt reservation) := by
  refine accounts_of_held (.provide attempt reservation) hc hopens ?_
  unfold DefaultAiGateway.provide
  split
  · dsimp only
    split <;> rfl
  · rfl
  · rfl

theorem record_accounts {reservation : AiBudgetReservation} {result : GatewayResult}
    (hc : Sound c) (hopens : (opens c).Perm (reservation.held :: rest)) :
    Accounts rest [] request
      (DefaultAiGateway.record c answer request reservation result) := by
  unfold DefaultAiGateway.record
  split
  · exact accounts_of_held (.record reservation result) hc hopens rfl
  · split
    · exact accounts_of_held (.record reservation result) hc hopens rfl
    · next hreconciled =>
        obtain ⟨hc', hopens'⟩ := reconcile_closes hc hopens hreconciled
        exact accounts_of_held .limit hc' hopens' rfl

/-- A release closes the reservation or leaves it behind. -/
theorem release_accounts {reservation : AiBudgetReservation} {error : AiGatewayError}
    (hc : Sound c) (hopens : (opens c).Perm (reservation.held :: rest)) :
    Accounts rest (leftBehind c answer ⟨request, .release reservation error⟩).toList request
      (DefaultAiGateway.release c answer reservation error) := by
  unfold DefaultAiGateway.release leftBehind
  cases answer.failure with
  | some failure =>
      refine ⟨hc, hopens.trans ?_⟩
      exact (List.perm_append_singleton reservation.held rest).symm
  | none =>
      obtain ⟨hc', hopens'⟩ := release_closes hc hopens
      exact accounts_of_held .limit hc' hopens' rfl

theorem advance_accounts {step : GatewayStep} (hc : Sound c)
    (hopens : (opens c).Perm (step.held.toList ++ rest)) :
    Accounts rest (leftBehind c answer ⟨request, step⟩).toList request
      (gateway.advance c answer request step) := by
  cases step with
  | limit => exact limit_accounts hc hopens
  | reserve => exact reserve_accounts hc hopens
  | provide attempt reservation => exact provide_accounts hc hopens
  | record reservation result => exact record_accounts hc hopens
  | release reservation error => exact release_accounts hc hopens

/-- What is reserved behind a run is what the calls in progress hold, what was reserved before
it, and what its calls left behind because their release failed. -/
theorem open_reservations_held {w : World C GatewayCall}
    {run : List (Event Empty GatewayCall GatewayAnswer × World C GatewayCall)}
    (hw : Sound w.shared) (hidle : w.Quiescent) (hrun : Run (gateway.program C).step w run) :
    (opens (stateBehind w run).shared).Perm
      ((stateBehind w run).locals.filterMap GatewayCall.held ++
        (opens w.shared ++ happenings (Program.dropping leftBehind) w run)) := by
  have hstart : Program.Holds opens GatewayCall.held Sound (opens w.shared) w := by
    refine ⟨hw, ?_⟩
    rw [show w.locals = [] from hidle]
    exact List.Perm.refl _
  refine (Program.holds_run nofun ?_ ?_ hrun hstart).taken
  · intro call hinitial
    obtain ⟨request, step⟩ := call
    cases step with
    | limit => rfl
    | reserve => cases hinitial
    | provide _ _ => cases hinitial
    | record _ _ => cases hinitial
    | release _ _ => cases hinitial
  · intro c answer call c' call' rest hc hadvance hopens
    obtain ⟨rfl, rfl⟩ := Prod.mk.inj (Option.some.inj hadvance)
    exact advance_accounts hc hopens

end Reserved

/-! ## What is granted over the tables -/

section Granted

/-- What a reservation is granted for. -/
structure GrantKey where
  companyId : String
  requestType : AiRequestType
  correlationId : String
deriving DecidableEq

def GatewayRequest.grantKey (request : GatewayRequest) : GrantKey where
  companyId := request.tenant.companyId
  requestType := request.requestType
  correlationId := request.correlationId

/-- The key of a row. -/
def AiBudgetReservationRow.rowKey (row : AiBudgetReservationRow) : String × String :=
  (row.companyId, row.idempotencyKey)

/-- There is a reservation for it, in whatever state. -/
def AiCostLedger.HasKey (ledger : AiCostLedger) (key : GrantKey) : Prop :=
  (key.companyId, key.requestType.text ++ ":" ++ key.correlationId) ∈
    ledger.tables.reservations.map AiBudgetReservationRow.rowKey

/-- The grant that a step of the system makes. -/
def DefaultAiGateway.granted (gateway : DefaultAiGateway) (w : World AiCostLedger GatewayCall) :
    Event Empty GatewayCall GatewayAnswer → Option GrantKey
  | .env _ => none
  | .spawn _ => none
  | .advance i answer => (w.locals[i]?).bind fun call =>
    match call.step with
    | .reserve =>
      match (gateway.reserve w.shared answer call.request).2 with
      | .next _ => some call.request.grantKey
      | _ => none
    | _ => none

variable {gateway : DefaultAiGateway} {ledger : AiCostLedger} {answer : GatewayAnswer}
  {request : GatewayRequest} {key : GrantKey}

theorem isReservedKey_iff :
    ledger.tables.isReservedKey (gateway.reservationRequest request none) = true ↔
      ledger.HasKey request.grantKey := by
  unfold AiCostTables.isReservedKey AiCostLedger.HasKey
  rw [List.any_eq_true, List.mem_map]
  refine exists_congr fun row => and_congr_right fun _ => ?_
  rw [Bool.and_eq_true, beq_iff_eq, beq_iff_eq]
  exact Prod.mk.injEq _ _ _ _ ▸ Iff.rfl

theorem hasKey_settle {reservation : AiBudgetReservation} {status : AiReservationStatus}
    {tables : AiCostTables} :
    (tables.settle reservation status).reservations.map AiBudgetReservationRow.rowKey =
      tables.reservations.map AiBudgetReservationRow.rowKey := by
  unfold AiCostTables.settle KeyedList.updateMany
  rw [List.map_map]
  refine List.map_congr_left fun row _ => ?_
  show AiBudgetReservationRow.rowKey (if _ then _ else row) = row.rowKey
  split <;> rfl

/-- What `reserve` does: it grants a key that is not there, or changes nothing. -/
theorem gateway_reserve_cases (gateway : DefaultAiGateway) (ledger : AiCostLedger)
    (answer : GatewayAnswer) (request : GatewayRequest) :
    (¬ledger.HasKey request.grantKey ∧
      (gateway.reserve ledger answer request).1.tables.reservations.map
          AiBudgetReservationRow.rowKey =
        ledger.tables.reservations.map AiBudgetReservationRow.rowKey ++
          [(request.grantKey.companyId,
            request.grantKey.requestType.text ++ ":" ++ request.grantKey.correlationId)]) ∨
      (gateway.reserve ledger answer request).1 = ledger ∧
        ∃ thrown, (gateway.reserve ledger answer request).2 = .thrown thrown := by
  unfold DefaultAiGateway.reserve
  split
  · exact Or.inr ⟨rfl, _, rfl⟩
  · split
    · exact Or.inr ⟨rfl, _, rfl⟩
    · next hrefused =>
        rcases AiCostLedger.reserve_cases hrefused with ⟨hsame, -⟩ | ⟨-, -, -, hgranted⟩
        · exact Or.inr ⟨hsame, _, rfl⟩
        · cases hgranted
    · next hgranted =>
        rcases AiCostLedger.reserve_cases hgranted with ⟨-, hnone⟩ | ⟨hfree, -, rfl, -⟩
        · cases hnone
        · refine Or.inl ⟨fun hkey => ?_, List.map_append⟩
          rw [isReservedKey_iff.mpr hkey] at hfree
          cases hfree

theorem hasKey_reserve (h : ledger.HasKey key) :
    (gateway.reserve ledger answer request).1.HasKey key := by
  rcases gateway_reserve_cases gateway ledger answer request with ⟨-, hkeys⟩ | ⟨hsame, -⟩
  · unfold AiCostLedger.HasKey
    rw [hkeys]
    exact List.mem_append_left _ h
  · rw [hsame]
    exact h

/-- No step takes a key out of the tables. -/
theorem hasKey_advance (gateway : DefaultAiGateway) (answer : GatewayAnswer)
    (request : GatewayRequest) (step : GatewayStep) (h : ledger.HasKey key) :
    (gateway.advance ledger answer request step).1.HasKey key := by
  cases step with
  | limit => exact h
  | reserve => exact hasKey_reserve h
  | provide attempt reservation => exact h
  | record reservation result =>
      show (DefaultAiGateway.record ledger answer request reservation result).1.HasKey key
      unfold DefaultAiGateway.record
      split
      · exact h
      · split
        · exact h
        · next hreconciled =>
            rw [← Except.ok.inj hreconciled]
            show _ ∈ (ledger.tables.reconcile _ _).reservations.map _
            unfold AiCostTables.reconcile
            rw [hasKey_settle]
            exact h
  | release reservation error =>
      show (DefaultAiGateway.release ledger answer reservation error).1.HasKey key
      unfold DefaultAiGateway.release
      split
      · exact h
      · show _ ∈ (ledger.tables.release reservation false).reservations.map _
        unfold AiCostTables.release
        rw [hasKey_settle]
        exact h

/-- The tables of the world have the key. -/
def Taken (w : World AiCostLedger GatewayCall) (key : GrantKey) : Prop := w.shared.HasKey key

/-- A step that grants a key finds it free, and takes it. -/
theorem granted_cases {w w' : World AiCostLedger GatewayCall}
    {event : Event Empty GatewayCall GatewayAnswer}
    (hstep : (gateway.program AiCostLedger).step w event w')
    (hgranted : gateway.granted w event = some key) :
    ¬Taken w key ∧ Taken w' key := by
  rcases Program.step_cases hstep with ⟨nothing, -, -⟩ | ⟨call, rfl, -, -⟩ |
    ⟨i, answer, call, ledger, next, rfl, hcall, hadvance, rfl⟩
  · exact nothing.elim
  · cases hgranted
  · obtain ⟨request, step⟩ := call
    rw [DefaultAiGateway.granted, hcall, Option.bind_some] at hgranted
    obtain ⟨rfl, -⟩ := Prod.mk.inj (Option.some.inj hadvance)
    cases step with
    | reserve =>
        dsimp only at hgranted
        rcases gateway_reserve_cases gateway w.shared answer request with
          ⟨hfree, hkeys⟩ | ⟨-, thrown, hthrown⟩
        · have hkey : request.grantKey = key := by
            split at hgranted
            · exact Option.some.inj hgranted
            · cases hgranted
          rw [← hkey]
          refine ⟨hfree, ?_⟩
          show _ ∈ (gateway.reserve w.shared answer request).1.tables.reservations.map _
          rw [hkeys]
          exact List.mem_append_right _ List.mem_cons_self
        · rw [hthrown] at hgranted
          cases hgranted
    | limit => cases hgranted
    | provide _ _ => cases hgranted
    | record _ _ => cases hgranted
    | release _ _ => cases hgranted

theorem taken_step {w w' : World AiCostLedger GatewayCall}
    {event : Event Empty GatewayCall GatewayAnswer}
    (hstep : (gateway.program AiCostLedger).step w event w') (h : Taken w key) : Taken w' key := by
  rcases Program.step_cases hstep with ⟨nothing, -, -⟩ | ⟨call, -, -, rfl⟩ |
    ⟨i, answer, call, ledger, next, -, -, hadvance, rfl⟩
  · exact nothing.elim
  · exact h
  · obtain ⟨rfl, -⟩ := Prod.mk.inj (Option.some.inj hadvance)
    exact hasKey_advance _ _ _ _ h

/-- Along a run each key is granted at most once, and none that was in the tables before it,
whatever became of the call that it was granted to. -/
theorem granted_once {w : World AiCostLedger GatewayCall}
    {run : List (Event Empty GatewayCall GatewayAnswer × World AiCostLedger GatewayCall)}
    (hrun : Run (gateway.program AiCostLedger).step w run) :
    (happenings gateway.granted w run).Nodup ∧
      ∀ key ∈ happenings gateway.granted w run, ¬Taken w key := by
  have hkeep : ∀ w event w' key, True → (gateway.program AiCostLedger).step w event w' →
      Taken w key → Taken w' key := fun _ _ _ _ _ hstep h => taken_step hstep h
  have hopen : ∀ w event w' key, True → (gateway.program AiCostLedger).step w event w' →
      gateway.granted w event = some key → ¬Taken w key :=
    fun _ _ _ _ _ hstep hgranted => (granted_cases hstep hgranted).1
  have hcloses : ∀ w event w' key, True → (gateway.program AiCostLedger).step w event w' →
      gateway.granted w event = some key → Taken w' key :=
    fun _ _ _ _ _ hstep hgranted => (granted_cases hstep hgranted).2
  constructor
  · exact nodup_happenings (fun _ _ _ _ _ => trivial) hkeep hopen hcloses hrun trivial
  · intro key hkey hclosed
    exact not_mem_happenings_of_closed (fun _ _ _ _ _ => trivial) hkeep hopen hrun trivial
      hclosed hkey

end Granted

/-! ## Two calls of one document -/

section Sample

def sampleGateway : DefaultAiGateway where
  configuration :=
    { production := false
      requiredForReadiness := false
      dataDirectory := "/data"
      embedding := ⟨.fake, "model", 1, "v1", 2, 30000, 3, 1000, 60000⟩
      vector := .memory
      embeddingQueue := ⟨.local, 300000, 1000⟩
      hybrid := ⟨1, 1, 12, 3, 0, 0⟩
      answer := ⟨.fake, "model", 12000, 1000, 30000⟩
      limits := ⟨2000, 30, 1000, 10, 0, 0⟩ }
  embeddingProviderId := "fake"
  answerProviderId := "fake"

/-- No reservation, and no limit. -/
def sampleWorld : World AiCostLedger GatewayCall where
  shared := { controller := ⟨0, 0, id⟩, tables := {} }
  locals := []

def sampleCall : GatewayCall :=
  sampleGateway.createDocumentEmbeddings ⟨"acme", "ada"⟩ [[72]] .document "job-1" none

/-- Everything goes well, but for the provider. -/
def sampleAnswer : GatewayAnswer where
  limiter := some true
  embed := .error (.status 503)
  generate := .error (.status 503)
  id := "reservation-1"
  now := MemoryBudgetRun.noon
  failure := none

/-- A call fails at the provider twice, and its release fails as well.  Then the same call is made
again. -/
def sampleEvents : List (Event Empty GatewayCall GatewayAnswer) :=
  [.spawn sampleCall, .advance 0 sampleAnswer, .advance 0 sampleAnswer, .advance 0 sampleAnswer,
    .advance 0 sampleAnswer,
    .advance 0 { sampleAnswer with failure := some (.error "connection lost") },
    .spawn sampleCall, .advance 0 sampleAnswer,
    .advance 0 { sampleAnswer with id := "reservation-2" }]

def sampleRun : List (Event Empty GatewayCall GatewayAnswer × World AiCostLedger GatewayCall) :=
  trace (sampleGateway.program AiCostLedger).next sampleWorld sampleEvents

theorem open_reservations_held_sample :
    (AiCostController.opens (stateBehind sampleWorld sampleRun).shared).Perm
      ((stateBehind sampleWorld sampleRun).locals.filterMap GatewayCall.held ++
        (AiCostController.opens sampleWorld.shared ++
          happenings (Program.dropping leftBehind) sampleWorld sampleRun)) ∧
      happenings (Program.dropping leftBehind) sampleWorld sampleRun =
        [⟨"acme", "document_embedding:job-1", "reservation-1"⟩] := by
  refine ⟨?_, by decide +kernel⟩
  have hsound : AiCostController.Sound sampleWorld.shared := List.nodup_nil
  exact open_reservations_held hsound rfl (run_trace sampleWorld sampleEvents)

theorem granted_once_sample :
    (happenings sampleGateway.granted sampleWorld sampleRun).Nodup ∧
      (∀ key ∈ happenings sampleGateway.granted sampleWorld sampleRun, ¬Taken sampleWorld key) ∧
      happenings sampleGateway.granted sampleWorld sampleRun =
        [⟨"acme", .documentEmbedding, "job-1"⟩] := by
  obtain ⟨hnodup, hfree⟩ :=
    granted_once (run_trace sampleWorld sampleEvents :
      Run (sampleGateway.program AiCostLedger).step sampleWorld sampleRun)
  exact ⟨hnodup, hfree, by decide +kernel⟩

end Sample

end AvantimePlatform.Ai
