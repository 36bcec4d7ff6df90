import AvantimePlatform.Ai.CostControl
import AvantimePlatform.Lib.RowSums

/-!
# `PostgreSQLAiCostController`

The tables `AiBudgetPolicy`, `AiUsageLedger` and `AiBudgetReservation`, and what each
statement of the controller does to them.  Costs are exact rationals.  The timestamps of a
statement are given by the instant `startedAt` at which its transaction began; the session
is in UTC, so that `date_trunc` cuts at the days and months of `IsoInstant`.

Left out: the columns that no statement reads back, and the float8 rounding of the sums.
-/

namespace AvantimePlatform.Ai

open AvantimePlatform.Documents AvantimePlatform.RowSums

/-- A row of `AiBudgetPolicy`, with the checks of its table. -/
structure AiBudgetPolicy where
  dailyLimitEur : ℚ
  monthlyLimitEur : ℚ
  providerLimits : Table String ℚ
  hardStopThreshold : ℚ
  limits_nonneg : 0 ≤ dailyLimitEur ∧ 0 ≤ monthlyLimitEur
  threshold_pos : 0 < hardStopThreshold
  threshold_le : hardStopThreshold ≤ 1

/-- A row of `AiUsageLedger`. -/
structure AiUsageLedgerRow where
  companyId : String
  idempotencyKey : String
  provider : String
  estimatedCostEur : ℚ
  actualCostEur : Option ℚ
  status : AiUsageStatus
  occurredAt : IsoInstant
deriving DecidableEq

/-- `COALESCE("actualCostEur", "estimatedCostEur")`. -/
def AiUsageLedgerRow.cost (row : AiUsageLedgerRow) : ℚ :=
  row.actualCostEur.getD row.estimatedCostEur

inductive AiReservationStatus where
  | reserved | reconciled | failed | cancelled
deriving DecidableEq

/-- A row of `AiBudgetReservation`. -/
structure AiBudgetReservationRow where
  id : String
  companyId : String
  provider : String
  idempotencyKey : String
  estimatedCostEur : ℚ
  status : AiReservationStatus
  expiresAt : IsoInstant
deriving DecidableEq

/-- The three tables, in insertion order. -/
structure AiCostTables where
  policies : Table String AiBudgetPolicy := ∅
  ledger : List AiUsageLedgerRow := []
  reservations : List AiBudgetReservationRow := []

/-- The controller's defaults, and its `CURRENT_TIMESTAMP + reservationTtlMs`. -/
structure PostgreSQLAiCostController where
  defaultDailyLimitEur : ℚ
  defaultMonthlyLimitEur : ℚ
  expiresAt : IsoInstant → IsoInstant

namespace AiCostTables

variable (t : AiCostTables) (companyId : String) (startedAt : IsoInstant)

/-- The `WHERE` of the usage subquery. -/
def isUsage (row : AiUsageLedgerRow) : Bool :=
  row.companyId == companyId && row.status == .succeeded &&
    decide (startedAt.monthNumber ≤ row.occurredAt.monthNumber)

/-- `SUM(CASE WHEN … THEN cost ELSE 0 END)` over the ledger. -/
def usage (counts : AiUsageLedgerRow → Bool) : ℚ :=
  sumWhere (isUsage companyId startedAt) (fun row => if counts row then row.cost else 0) t.ledger

/-- The `WHERE` of the reservation subquery. -/
def isReserved (row : AiBudgetReservationRow) : Bool :=
  row.companyId == companyId && row.status == .reserved &&
    decide (startedAt.rank < row.expiresAt.rank)

/-- `SUM(CASE WHEN … THEN "estimatedCostEur" ELSE 0 END)` over the reservations. -/
def reserved (counts : AiBudgetReservationRow → Bool) : ℚ :=
  sumWhere (isReserved companyId startedAt)
    (fun row => if counts row then row.estimatedCostEur else 0) t.reservations

/-- The key of a request is in the table. -/
def isReservedKey (request : AiBudgetReservationRequest) : Bool :=
  t.reservations.any fun row =>
    row.companyId == request.tenant.companyId && row.idempotencyKey == request.idempotencyKey

end AiCostTables

/-- The row of totals. -/
structure AiBudgetTotals where
  dailyLimit : ℚ
  monthlyLimit : ℚ
  providerLimit : Option ℚ
  hardStopThreshold : ℚ
  dailyUsage : ℚ
  monthlyUsage : ℚ
  providerUsage : ℚ
  reserved : ℚ
  providerReserved : ℚ

/-- `exceeds`, with the threshold that it closes over. -/
def exceeds (hardStop current reserved requested limit : ℚ) : Bool :=
  decide (0 < limit) && decide (limit * hardStop < current + reserved + requested)

/-- The three checks of `reserve` against the totals. -/
def AiBudgetTotals.exceeded (totals : AiBudgetTotals) (estimatedCostEur : ℚ) : Bool :=
  exceeds totals.hardStopThreshold totals.dailyUsage totals.reserved estimatedCostEur
      totals.dailyLimit ||
    exceeds totals.hardStopThreshold totals.monthlyUsage totals.reserved estimatedCostEur
      totals.monthlyLimit ||
    match totals.providerLimit with
    | none => false
    | some providerLimit =>
        exceeds totals.hardStopThreshold totals.providerUsage totals.providerReserved
          estimatedCostEur providerLimit

namespace PostgreSQLAiCostController

variable (c : PostgreSQLAiCostController)

/-- The query for the totals. -/
def totals (t : AiCostTables) (companyId provider : String) (startedAt : IsoInstant) :
    AiBudgetTotals :=
  let policy := t.policies.lookup companyId
  { dailyLimit := (policy.map AiBudgetPolicy.dailyLimitEur).getD c.defaultDailyLimitEur
    monthlyLimit := (policy.map AiBudgetPolicy.monthlyLimitEur).getD c.defaultMonthlyLimitEur
    providerLimit := policy.bind fun row => row.providerLimits.lookup provider
    hardStopThreshold := (policy.map AiBudgetPolicy.hardStopThreshold).getD 1
    dailyUsage := t.usage companyId startedAt fun row =>
      decide (startedAt.dayNumber ≤ row.occurredAt.dayNumber)
    monthlyUsage := t.usage companyId startedAt fun _ => true
    providerUsage := t.usage companyId startedAt fun row => row.provider == provider
    reserved := t.reserved companyId startedAt fun _ => true
    providerReserved := t.reserved companyId startedAt fun row => row.provider == provider }

/-- The row that a request is stored as. -/
def reservationRow (request : AiBudgetReservationRequest) (id : String)
    (startedAt : IsoInstant) : AiBudgetReservationRow where
  id := id
  companyId := request.tenant.companyId
  provider := request.provider
  idempotencyKey := request.idempotencyKey
  estimatedCostEur := request.estimatedCostEur
  status := .reserved
  expiresAt := c.expiresAt startedAt

/-- The insertion of a reservation: a taken id makes the statement fail, a taken key
makes it do nothing. -/
def insertReservation (t : AiCostTables) (request : AiBudgetReservationRequest) (id : String)
    (startedAt : IsoInstant) : Except String (AiCostTables × Option AiBudgetReservation) :=
  if t.isReservedKey request then
    .ok (t, none)
  else if t.reservations.any fun row => row.id == id then
    .error "duplicate key value violates unique constraint"
  else
    .ok ({ t with reservations := t.reservations ++ [c.reservationRow request id startedAt] },
      some (request.grant id))

/-- All of `reserve` at one instant. -/
def reserve (t : AiCostTables) (request : AiBudgetReservationRequest) (id : String)
    (startedAt : IsoInstant) : Except String (AiCostTables × Option AiBudgetReservation) := do
  assertCost request.estimatedCostEur "estimatedCostEur"
  if (c.totals t request.tenant.companyId request.provider startedAt).exceeded
      request.estimatedCostEur then
    return (t, none)
  c.insertReservation t request id startedAt

end PostgreSQLAiCostController

namespace AiCostTables

/-- `WHERE "id" = … AND "companyId" = … AND "status" = 'RESERVED'`. -/
def isOpen (reservation : AiBudgetReservation) (row : AiBudgetReservationRow) : Bool :=
  row.id == reservation.id && row.companyId == reservation.tenant.companyId &&
    row.status == .reserved

theorem isOpen_iff {reservation : AiBudgetReservation} {row : AiBudgetReservationRow} :
    isOpen reservation row = true ↔ row.id = reservation.id ∧
      row.companyId = reservation.tenant.companyId ∧ row.status = .reserved := by
  simp only [isOpen, Bool.and_eq_true, beq_iff_eq, and_assoc]

/-- Settle the open reservation of an id and a company. -/
def settle (t : AiCostTables) (reservation : AiBudgetReservation)
    (status : AiReservationStatus) : AiCostTables :=
  { t with
    reservations := KeyedList.updateMany (isOpen reservation)
      (fun row => { row with status := status }) t.reservations }

/-- The ledger already has the key of a reservation. -/
def isBooked (t : AiCostTables) (reservation : AiBudgetReservation) : Bool :=
  t.ledger.any fun row =>
    row.companyId == reservation.tenant.companyId &&
      row.idempotencyKey == reservation.idempotencyKey

/-- The ledger's row for an event. -/
def ledgerRow (event : AiUsageLedgerEvent) (startedAt : IsoInstant) : AiUsageLedgerRow where
  companyId := event.reservation.tenant.companyId
  idempotencyKey := event.reservation.idempotencyKey
  provider := event.reservation.provider
  estimatedCostEur := event.estimatedCostEur
  actualCostEur := event.actualCostEur
  status := event.status
  occurredAt := startedAt

/-- The statement of `reconcile` books a cost. -/
def books (t : AiCostTables) (event : AiUsageLedgerEvent) : Bool :=
  event.status == .succeeded && !t.isBooked event.reservation

/-- The statement of `reconcile`: book the event unless its key is booked, and settle the
reservation, each whatever the other does. -/
def reconcile (t : AiCostTables) (event : AiUsageLedgerEvent) (startedAt : IsoInstant) :
    AiCostTables :=
  { t.settle event.reservation .reconciled with
    ledger :=
      if t.isBooked event.reservation then t.ledger else t.ledger ++ [ledgerRow event startedAt] }

/-- The statement of `release`, for the two states that a caller may name. -/
def release (t : AiCostTables) (reservation : AiBudgetReservation) (cancelled : Bool) :
    AiCostTables :=
  t.settle reservation (if cancelled then .cancelled else .failed)

end AiCostTables

end AvantimePlatform.Ai
