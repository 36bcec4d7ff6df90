import AvantimePlatform.Documents.Identifiers
import AvantimePlatform.Lib.IsoInstant
import AvantimePlatform.Lib.KeyedList
import AvantimePlatform.Lib.Separators
import AvantimePlatform.Lib.Table

/-!
# The AI cost controller

The requests, reservations and usage events of `ai-control.ts`, and
`MemoryAiCostController`.  Costs are exact rationals.  A map key is the company,
a colon and the rest, as the source writes it, so that two companies can share a
key where the strings coincide.
-/

namespace AvantimePlatform.Ai

open AvantimePlatform.Documents

inductive AiRequestType where
  | documentEmbedding | queryEmbedding | ragAnswer
deriving DecidableEq

/-- The text of a request type in a key. -/
def AiRequestType.text : AiRequestType → String
  | .documentEmbedding => "document_embedding"
  | .queryEmbedding => "query_embedding"
  | .ragAnswer => "rag_answer"

structure AiBudgetReservationRequest where
  tenant : DocumentTenantContext
  provider : String
  model : String
  requestType : AiRequestType
  correlationId : String
  idempotencyKey : String
  estimatedCostEur : ℚ
deriving DecidableEq

structure AiBudgetReservation extends AiBudgetReservationRequest where
  id : String
  reservedCostEur : ℚ
deriving DecidableEq

inductive AiUsageStatus where
  | succeeded | failed
deriving DecidableEq

structure AiUsageLedgerEvent where
  reservation : AiBudgetReservation
  inputTokens : Nat
  outputTokens : Nat
  embeddingUnits : Nat
  estimatedCostEur : ℚ
  actualCostEur : Option ℚ
  status : AiUsageStatus
deriving DecidableEq

/-- The cost that an event books: `actualCostEur ?? estimatedCostEur`. -/
def AiUsageLedgerEvent.cost (event : AiUsageLedgerEvent) : ℚ :=
  event.actualCostEur.getD event.estimatedCostEur

/-- `assertCost`: every rational is finite. -/
def assertCost (value : ℚ) (name : String) : Except String Unit :=
  if value < 0 then .error (name ++ " must be non-negative.") else .ok ()

@[simp] theorem assertCost_eq_ok {value : ℚ} {name : String} :
    assertCost value name = .ok () ↔ 0 ≤ value := by
  unfold assertCost
  by_cases h : value < 0
  · simp [h]
  · simp [h, not_lt.mp h]

/-- The reservation that a granted request becomes. -/
def AiBudgetReservationRequest.grant (request : AiBudgetReservationRequest) (id : String) :
    AiBudgetReservation :=
  { request with id := id, reservedCostEur := request.estimatedCostEur }

/-! ## Keys -/

/-- The key of a company's entry in a map. -/
def companyKey (companyId rest : String) : String := companyId ++ ":" ++ rest

def AiBudgetReservationRequest.key (request : AiBudgetReservationRequest) : String :=
  companyKey request.tenant.companyId request.idempotencyKey

/-- The entry for the day of an instant. -/
def dayKey (companyId : String) (now : IsoInstant) : String :=
  companyKey companyId (String.ofList now.dayText)

/-- The entry for the month of an instant. -/
def monthKey (companyId : String) (now : IsoInstant) : String :=
  companyKey companyId (String.ofList now.monthText)

theorem companyKey_inj {a b : String} {u v : List Char} (hu : ':' ∉ u) (hv : ':' ∉ v)
    (h : companyKey a (String.ofList u) = companyKey b (String.ofList v)) : a = b ∧ u = v := by
  have hlist : a.toList ++ ':' :: u = b.toList ++ ':' :: v := by
    simpa [companyKey] using congrArg String.toList h
  obtain ⟨hcompany, hrest⟩ := Separators.append_cons_inj hu hv hlist
  exact ⟨String.toList_inj.mp hcompany, hrest⟩

theorem dayKey_inj {a b : String} {s t : IsoInstant} (h : dayKey a s = dayKey b t) :
    a = b ∧ s.dayText = t.dayText :=
  companyKey_inj s.colon_notMem_dayText t.colon_notMem_dayText h

theorem monthKey_inj {a b : String} {s t : IsoInstant} (h : monthKey a s = monthKey b t) :
    a = b ∧ s.monthText = t.monthText :=
  companyKey_inj s.colon_notMem_monthText t.colon_notMem_monthText h

theorem dayKey_eq_iff {a b : String} {t : IsoInstant} : dayKey a t = dayKey b t ↔ a = b :=
  ⟨fun h => (dayKey_inj h).1, fun h => by rw [h]⟩

theorem monthKey_eq_iff {a b : String} {t : IsoInstant} : monthKey a t = monthKey b t ↔ a = b :=
  ⟨fun h => (monthKey_inj h).1, fun h => by rw [h]⟩

/-- Days and months have names of different lengths. -/
theorem dayKey_ne_monthKey (a b : String) (s t : IsoInstant) : dayKey a s ≠ monthKey b t := by
  intro h
  have htext := (companyKey_inj s.colon_notMem_dayText t.colon_notMem_monthText h).2
  have hlength := congrArg List.length htext
  simp at hlength

/-! ## `MemoryAiCostController` -/

/-- The controller's two limits and its two maps. -/
structure MemoryAiCostController where
  dailyLimitEur : ℚ
  monthlyLimitEur : ℚ
  reservations : List (String × AiBudgetReservation) := []
  usage : Table String ℚ := ∅

namespace MemoryAiCostController

/-- The constructor, with the default of the monthly limit. -/
def new (dailyLimitEur : ℚ) (monthlyLimitEur : Option ℚ) : MemoryAiCostController where
  dailyLimitEur := dailyLimitEur
  monthlyLimitEur := monthlyLimitEur.getD (if 0 < dailyLimitEur then dailyLimitEur * 31 else 0)

/-- The reservation under a key. -/
def reservation? (c : MemoryAiCostController) (key : String) : Option AiBudgetReservation :=
  (KeyedList.find Prod.fst key c.reservations).map Prod.snd

/-- What is booked under a key of the usage map. -/
def booked (c : MemoryAiCostController) (key : String) : ℚ := (c.usage.lookup key).getD 0

/-- The sum of the live reservations of a company. -/
def reserved (c : MemoryAiCostController) (companyId : String) : ℚ :=
  ((c.reservations.filter fun entry => entry.2.tenant.companyId == companyId).map
    fun entry => entry.2.reservedCostEur).sum

/-- A limit, when it is positive, is short of what is asked for. -/
def exceeds (limit current reserved requested : ℚ) : Bool :=
  decide (0 < limit) && decide (limit < current + reserved + requested)

def reserve (c : MemoryAiCostController) (request : AiBudgetReservationRequest) (id : String)
    (now : IsoInstant) : Except String (MemoryAiCostController × Option AiBudgetReservation) := do
  assertCost request.estimatedCostEur "estimatedCostEur"
  let companyId := request.tenant.companyId
  if (c.reservation? request.key).isSome then
    return (c, none)
  if exceeds c.dailyLimitEur (c.booked (dayKey companyId now)) (c.reserved companyId)
        request.estimatedCostEur ||
      exceeds c.monthlyLimitEur (c.booked (monthKey companyId now)) (c.reserved companyId)
        request.estimatedCostEur then
    return (c, none)
  return ({ c with reservations := c.reservations ++ [(request.key, request.grant id)] },
    some (request.grant id))

/-- Drop the reservation under a key. -/
def delete (c : MemoryAiCostController) (key : String) : MemoryAiCostController :=
  { c with reservations := KeyedList.erase Prod.fst key c.reservations }

/-- Add a cost to what is booked under a key. -/
def book (c : MemoryAiCostController) (key : String) (cost : ℚ) : MemoryAiCostController :=
  { c with usage := c.usage.insert key (c.booked key + cost) }

def reconcile (c : MemoryAiCostController) (event : AiUsageLedgerEvent) (now : IsoInstant) :
    Except String MemoryAiCostController := do
  assertCost event.estimatedCostEur "estimatedCostEur"
  let companyId := event.reservation.tenant.companyId
  if (c.reservation? event.reservation.key).isNone then
    return c
  return ((c.delete event.reservation.key).book (dayKey companyId now) event.cost).book
    (monthKey companyId now) event.cost

def release (c : MemoryAiCostController) (reservation : AiBudgetReservation) :
    MemoryAiCostController :=
  c.delete reservation.key

end MemoryAiCostController
end AvantimePlatform.Ai
