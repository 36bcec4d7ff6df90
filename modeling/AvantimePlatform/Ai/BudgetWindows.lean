import AvantimePlatform.Ai.CostLedger

/-!
# The windows of a budget

The day, the month and each provider that has a limit.  `Room` is the room that a
company's limits leave above what is booked and reserved: what `reserve` checks
(`room_of_exceeded_eq_false`), what time only adds to (`Room.later`), what a new reservation
takes (`Room.insert`), and what a reconciliation of a live reservation at no more than its
estimate does not touch (`Room.reconcile`).
-/

namespace AvantimePlatform.Ai

open AvantimePlatform.Documents AvantimePlatform.RowSums

inductive BudgetWindow where
  | daily
  | monthly
  | provider (name : String)
deriving DecidableEq

namespace BudgetWindow

/-- The window is about a provider. -/
def covers (provider : String) : BudgetWindow → Bool
  | .provider name => provider == name
  | _ => true

/-- Within the usage subquery, the rows that count for a window. -/
def counts (startedAt : IsoInstant) : BudgetWindow → AiUsageLedgerRow → Bool
  | .daily, row => decide (startedAt.dayNumber ≤ row.occurredAt.dayNumber)
  | w, row => w.covers row.provider

/-- The rows of the ledger that belong to a window's current day or month. -/
def isCurrent (now : IsoInstant) : BudgetWindow → AiUsageLedgerRow → Bool
  | .daily, row => row.occurredAt.dayNumber == now.dayNumber
  | w, row => row.occurredAt.monthNumber == now.monthNumber && w.covers row.provider

end BudgetWindow

namespace PostgreSQLAiCostController

variable (c : PostgreSQLAiCostController) (t : AiCostTables) (companyId : String)

/-- A company's limit for a window. -/
def limit : BudgetWindow → Option ℚ
  | .daily => some (((t.policies.lookup companyId).map AiBudgetPolicy.dailyLimitEur).getD
      c.defaultDailyLimitEur)
  | .monthly => some (((t.policies.lookup companyId).map AiBudgetPolicy.monthlyLimitEur).getD
      c.defaultMonthlyLimitEur)
  | .provider name => (t.policies.lookup companyId).bind fun row => row.providerLimits.lookup name

end PostgreSQLAiCostController

namespace AiCostTables

variable (t : AiCostTables) (companyId : String)

/-- A company's hard stop. -/
def hardStop : ℚ :=
  ((t.policies.lookup companyId).map AiBudgetPolicy.hardStopThreshold).getD 1

theorem hardStop_pos : 0 < t.hardStop companyId := by
  unfold hardStop
  cases t.policies.lookup companyId with
  | none => exact one_pos
  | some policy => exact policy.threshold_pos

/-- What a company has spent in a window's current day or month. -/
def spent (now : IsoInstant) (w : BudgetWindow) : ℚ :=
  sumWhere (fun row => row.companyId == companyId && row.status == .succeeded &&
    w.isCurrent now row) AiUsageLedgerRow.cost t.ledger

/-- What a company's unexpired reservations hold of a window. -/
def held (now : IsoInstant) (w : BudgetWindow) : ℚ :=
  sumWhere (fun row => row.companyId == companyId && row.status == .reserved &&
    decide (now.rank < row.expiresAt.rank) && w.covers row.provider)
    AiBudgetReservationRow.estimatedCostEur t.reservations

/-- The usage that the query finds for a window. -/
def used (now : IsoInstant) (w : BudgetWindow) : ℚ := t.usage companyId now (w.counts now)

theorem reserved_eq_held (now : IsoInstant) (w : BudgetWindow) :
    t.reserved companyId now (fun row => w.covers row.provider) = t.held companyId now w := by
  refine sumWhere_congr fun row _ => ?_
  unfold isReserved
  by_cases h : w.covers row.provider = true
  · simp [h]
  · simp [h]

/-- Every amount in the tables is one. -/
structure NonNegative : Prop where
  cost : ∀ row ∈ t.ledger, row.status = .succeeded → 0 ≤ row.cost
  estimate : ∀ row ∈ t.reservations, 0 ≤ row.estimatedCostEur

variable {t companyId}

/-! ## Time -/

variable {now now' : IsoInstant} {w : BudgetWindow}

theorem cost_nonneg_of_isUsage (h : t.NonNegative) {row : AiUsageLedgerRow}
    (hrow : row ∈ t.ledger) (hwhere : isUsage companyId now row = true) : 0 ≤ row.cost := by
  simp only [isUsage, Bool.and_eq_true, beq_iff_eq] at hwhere
  exact h.cost row hrow hwhere.1.2

/-- What counts at a later instant counts at an earlier one. -/
theorem isUsage_of_later (hclock : now.rank ≤ now'.rank) {row : AiUsageLedgerRow}
    (h : isUsage companyId now' row = true) : isUsage companyId now row = true := by
  have hmonth := IsoInstant.monthNumber_mono hclock
  simp only [isUsage, Bool.and_eq_true, decide_eq_true_eq] at h ⊢
  exact ⟨h.1, hmonth.trans h.2⟩

theorem counts_of_later (hclock : now.rank ≤ now'.rank) {row : AiUsageLedgerRow}
    (h : w.counts now' row = true) : w.counts now row = true := by
  have hday := IsoInstant.dayNumber_mono hclock
  cases w with
  | daily =>
      simp only [BudgetWindow.counts, decide_eq_true_eq] at h ⊢
      exact hday.trans h
  | monthly => exact h
  | provider name => exact h

theorem used_later (h : t.NonNegative) (hclock : now.rank ≤ now'.rank) (companyId : String)
    (w : BudgetWindow) : t.used companyId now' w ≤ t.used companyId now w := by
  refine sumWhere_le fun row hrow => ?_
  by_cases hlater : isUsage companyId now' row = true
  · have hnow := isUsage_of_later hclock hlater
    have hcost := cost_nonneg_of_isUsage h hrow hnow
    rw [if_pos hlater, if_pos hnow]
    by_cases hcounts : w.counts now' row = true
    · rw [if_pos hcounts, if_pos (counts_of_later hclock hcounts)]
    · rw [if_neg hcounts]
      split
      · exact hcost
      · exact le_refl 0
  · rw [if_neg hlater]
    split
    · next hnow =>
      split
      · exact cost_nonneg_of_isUsage h hrow hnow
      · exact le_refl 0
    · exact le_refl 0

theorem held_later (h : t.NonNegative) (hclock : now.rank ≤ now'.rank) (companyId : String)
    (w : BudgetWindow) : t.held companyId now' w ≤ t.held companyId now w := by
  refine sumWhere_le fun row hrow => ?_
  have hestimate := h.estimate row hrow
  split
  · next hlater =>
    simp only [Bool.and_eq_true, decide_eq_true_eq] at hlater
    have hexpires : now.rank < row.expiresAt.rank := lt_of_le_of_lt hclock hlater.1.2
    rw [if_pos (by simp [hlater.1.1, hlater.2, hexpires])]
  · split
    · exact hestimate
    · exact le_refl 0

/-- What is spent in the current day or month is part of what the query finds. -/
theorem spent_le_used (h : t.NonNegative) (companyId : String) (now : IsoInstant)
    (w : BudgetWindow) : t.spent companyId now w ≤ t.used companyId now w := by
  refine sumWhere_le fun row hrow => ?_
  split
  · next hcurrent =>
    simp only [Bool.and_eq_true] at hcurrent
    obtain ⟨⟨hcompany, hstatus⟩, hcurrent⟩ := hcurrent
    have hmonth : now.monthNumber ≤ row.occurredAt.monthNumber ∧ w.counts now row = true := by
      cases w with
      | daily =>
          have hday : row.occurredAt.dayNumber = now.dayNumber := by
            simpa [BudgetWindow.isCurrent] using hcurrent
          have hmonth := IsoInstant.monthNumber_eq_of_dayNumber hday
          exact ⟨hmonth.ge, by simp [BudgetWindow.counts, hday]⟩
      | monthly =>
          simp only [BudgetWindow.isCurrent, Bool.and_eq_true, beq_iff_eq] at hcurrent
          exact ⟨hcurrent.1.ge, hcurrent.2⟩
      | provider name =>
          simp only [BudgetWindow.isCurrent, Bool.and_eq_true, beq_iff_eq] at hcurrent
          exact ⟨hcurrent.1.ge, hcurrent.2⟩
    rw [if_pos (by simp [isUsage, hcompany, hstatus, hmonth.1]), if_pos hmonth.2]
  · split
    · next hwhere =>
      have hcost := cost_nonneg_of_isUsage h hrow hwhere
      split
      · exact hcost
      · exact le_refl 0
    · exact le_refl 0

end AiCostTables

/-! ## Room -/

open AiCostTables

namespace PostgreSQLAiCostController

/-- Each of a company's positive limits leaves room for an amount. -/
def Room (c : PostgreSQLAiCostController) (t : AiCostTables) (companyId : String)
    (now : IsoInstant) (amount : BudgetWindow → ℚ) : Prop :=
  ∀ w limit, c.limit t companyId w = some limit → 0 < limit →
    t.used companyId now w + t.held companyId now w + amount w ≤ limit * t.hardStop companyId

/-- What a request takes of each window. -/
def taken (request : AiBudgetReservationRequest) (w : BudgetWindow) : ℚ :=
  if w.covers request.provider then request.estimatedCostEur else 0

variable {c : PostgreSQLAiCostController} {t t' : AiCostTables} {companyId : String}
  {now now' : IsoInstant} {amount : BudgetWindow → ℚ}

/-- Empty books leave room. -/
theorem room_empty (policies : Table String AiBudgetPolicy) :
    c.Room { policies := policies } companyId now fun _ => 0 := by
  intro w limit _ hpos
  have hstop := AiCostTables.hardStop_pos { policies := policies } companyId
  have hproduct := mul_pos hpos hstop
  show (0 : ℚ) + 0 + 0 ≤ _
  linarith

theorem Room.later (h : c.Room t companyId now amount) (hnonneg : t.NonNegative)
    (hclock : now.rank ≤ now'.rank) : c.Room t companyId now' amount := by
  intro w limit hlimit hpos
  have hbefore := h w limit hlimit hpos
  have hused := used_later hnonneg hclock companyId w
  have hheld := held_later hnonneg hclock companyId w
  linarith

theorem exceeds_eq_false {hardStop current reserved requested limit : ℚ} :
    exceeds hardStop current reserved requested limit = false ↔
      (0 < limit → current + reserved + requested ≤ limit * hardStop) := by
  unfold exceeds
  by_cases h : 0 < limit
  · simp [h]
  · simp [h]

/-- A request that does not exceed the totals of an earlier instant fits into every window. -/
theorem room_of_exceeded_eq_false {request : AiBudgetReservationRequest}
    {startedAt : IsoInstant} (hnonneg : t.NonNegative) (hclock : startedAt.rank ≤ now.rank)
    (hroom : c.Room t request.tenant.companyId now fun _ => 0)
    (h : (c.totals t request.tenant.companyId request.provider startedAt).exceeded
      request.estimatedCostEur = false) :
    c.Room t request.tenant.companyId now (taken request) := by
  unfold AiBudgetTotals.exceeded at h
  simp only [Bool.or_eq_false_iff, exceeds_eq_false] at h
  obtain ⟨⟨hdaily, hmonthly⟩, hprovider⟩ := h
  -- The windows that the request takes from, at the earlier instant.
  have hfits : ∀ w limit, c.limit t request.tenant.companyId w = some limit → 0 < limit →
      w.covers request.provider = true →
        t.used request.tenant.companyId startedAt w + t.held request.tenant.companyId startedAt w +
          request.estimatedCostEur ≤ limit * t.hardStop request.tenant.companyId := by
    intro w limit hlimit hpos hcovers
    rw [← t.reserved_eq_held request.tenant.companyId startedAt w]
    cases w with
    | daily =>
        obtain rfl := Option.some.inj hlimit
        exact hdaily hpos
    | monthly =>
        obtain rfl := Option.some.inj hlimit
        exact hmonthly hpos
    | provider name =>
        obtain rfl : request.provider = name := by simpa [BudgetWindow.covers] using hcovers
        have hsome : (c.totals t request.tenant.companyId request.provider
            startedAt).providerLimit = some limit := hlimit
        rw [hsome] at hprovider
        exact exceeds_eq_false.mp hprovider hpos
  intro w limit hlimit hpos
  by_cases hcovers : w.covers request.provider = true
  · have hthen := hfits w limit hlimit hpos hcovers
    have hused := used_later hnonneg hclock request.tenant.companyId w
    have hheld := held_later hnonneg hclock request.tenant.companyId w
    have htaken : taken request w = request.estimatedCostEur := if_pos hcovers
    linarith
  · have hother := hroom w limit hlimit hpos
    have htaken : taken request w = 0 := if_neg hcovers
    rw [htaken]
    exact hother

end PostgreSQLAiCostController

/-! ## Settling -/

namespace AiCostTables

variable {t : AiCostTables} {companyId : String} {now : IsoInstant} {w : BudgetWindow}
  {reservation : AiBudgetReservation} {status : AiReservationStatus}

/-- What a row weighs in what is held. -/
def heldWeight (companyId : String) (now : IsoInstant) (w : BudgetWindow)
    (row : AiBudgetReservationRow) : ℚ :=
  if row.companyId == companyId && row.status == .reserved &&
      decide (now.rank < row.expiresAt.rank) && w.covers row.provider then
    row.estimatedCostEur
  else 0

theorem heldWeight_nonneg {row : AiBudgetReservationRow} (h : 0 ≤ row.estimatedCostEur) :
    0 ≤ heldWeight companyId now w row := by
  unfold heldWeight
  split
  · exact h
  · exact le_refl 0

/-- A row that is settled weighs nothing. -/
theorem heldWeight_settled (hstatus : status ≠ .reserved) (row : AiBudgetReservationRow) :
    heldWeight companyId now w { row with status := status } = 0 := by
  simp [heldWeight, hstatus]

theorem heldWeight_settle_le (hstatus : status ≠ .reserved) {row : AiBudgetReservationRow}
    (h : 0 ≤ row.estimatedCostEur) :
    heldWeight companyId now w
        (if isOpen reservation row then { row with status := status } else row) ≤
      heldWeight companyId now w row := by
  split
  · rw [heldWeight_settled hstatus]
    exact heldWeight_nonneg h
  · exact le_refl _

theorem held_settle (reservation : AiBudgetReservation) (status : AiReservationStatus) :
    (t.settle reservation status).held companyId now w =
      sumWhere (fun _ => true) (fun row => heldWeight companyId now w
        (if isOpen reservation row then { row with status := status } else row))
        t.reservations := by
  unfold held settle KeyedList.updateMany
  rw [sumWhere_map]
  exact sumWhere_congr fun row _ => rfl

theorem held_eq : t.held companyId now w =
    sumWhere (fun _ => true) (heldWeight companyId now w) t.reservations :=
  sumWhere_congr fun _ _ => rfl

theorem held_settle_le (h : t.NonNegative) (hstatus : status ≠ .reserved)
    (reservation : AiBudgetReservation) (companyId : String) (now : IsoInstant)
    (w : BudgetWindow) :
    (t.settle reservation status).held companyId now w ≤ t.held companyId now w := by
  rw [held_settle, held_eq]
  exact sumWhere_le fun row hrow => heldWeight_settle_le hstatus (h.estimate row hrow)

/-- Settling an open reservation gives back what it held. -/
theorem held_settle_add_le (h : t.NonNegative) (hstatus : status ≠ .reserved)
    {row : AiBudgetReservationRow} (hrow : row ∈ t.reservations)
    (hopen : isOpen reservation row = true) (companyId : String) (now : IsoInstant)
    (w : BudgetWindow) :
    (t.settle reservation status).held companyId now w + heldWeight companyId now w row ≤
      t.held companyId now w := by
  rw [held_settle, held_eq]
  refine sumWhere_add_le hrow ?_ fun row hrow =>
    heldWeight_settle_le hstatus (h.estimate row hrow)
  rw [if_pos rfl, if_pos hopen, if_pos rfl, heldWeight_settled hstatus, zero_add]

theorem NonNegative.settle (h : t.NonNegative) (reservation : AiBudgetReservation)
    (status : AiReservationStatus) : (t.settle reservation status).NonNegative where
  cost := h.cost
  estimate := by
    intro row hrow
    rcases KeyedList.mem_updateMany hrow with ⟨hold, -⟩ | ⟨old, hold, -, rfl⟩
    · exact h.estimate row hold
    · exact h.estimate old hold

/-! ## Booking -/

variable {event : AiUsageLedgerEvent} {startedAt : IsoInstant}

@[simp] theorem reservations_reconcile :
    (t.reconcile event startedAt).reservations =
      (t.settle event.reservation .reconciled).reservations := rfl

theorem held_reconcile : (t.reconcile event startedAt).held companyId now w =
    (t.settle event.reservation .reconciled).held companyId now w := rfl

/-- An event that books nothing leaves the usage as it is. -/
theorem used_reconcile_of_not_books (h : t.books event = false) :
    (t.reconcile event startedAt).used companyId now w = t.used companyId now w := by
  unfold used usage reconcile
  dsimp only
  split
  · rfl
  · next hfree =>
    have hfailed : (event.status == .succeeded) = false := by
      simpa [books, hfree] using h
    rw [sumWhere_append_one, if_neg (by simp [isUsage, ledgerRow, hfailed]), add_zero]

/-- An event adds at most its cost, to the windows of its company and provider. -/
theorem used_reconcile_le (t : AiCostTables) (hcost : 0 ≤ event.cost) (startedAt : IsoInstant)
    (companyId : String) (now : IsoInstant) (w : BudgetWindow) :
    (t.reconcile event startedAt).used companyId now w ≤ t.used companyId now w +
      if event.reservation.tenant.companyId = companyId ∧
        w.covers event.reservation.provider = true then event.cost else 0 := by
  unfold used usage reconcile
  dsimp only
  have hadds : (0 : ℚ) ≤ if event.reservation.tenant.companyId = companyId ∧
      w.covers event.reservation.provider = true then event.cost else 0 := by
    split
    · exact hcost
    · exact le_refl 0
  split
  · linarith
  · rw [sumWhere_append_one]
    refine add_le_add (le_refl _) ?_
    split
    · next hwhere =>
      have hcompany : event.reservation.tenant.companyId = companyId := by
        simp only [isUsage, ledgerRow, Bool.and_eq_true, beq_iff_eq] at hwhere
        exact hwhere.1.1
      split
      · next hcounts =>
        have hcovers : w.covers event.reservation.provider = true := by
          cases w with
          | daily => rfl
          | monthly => rfl
          | provider name => exact hcounts
        rw [if_pos ⟨hcompany, hcovers⟩]
        exact le_refl event.cost
      · exact hadds
    · exact hadds

theorem NonNegative.reconcile (h : t.NonNegative)
    (hcost : t.books event = true → 0 ≤ event.cost) :
    (t.reconcile event startedAt).NonNegative where
  cost := by
    intro row hrow hsucceeded
    have hbooked : row ∈ t.ledger ∨ (t.isBooked event.reservation = false ∧
        row = ledgerRow event startedAt) := by
      unfold AiCostTables.reconcile at hrow
      dsimp only at hrow
      split at hrow
      · exact Or.inl hrow
      · next hfree => simpa [hfree] using hrow
    rcases hbooked with hold | ⟨hfree, rfl⟩
    · exact h.cost row hold hsucceeded
    · have hstatus : event.status = .succeeded := hsucceeded
      exact hcost (by simp [books, hfree, hstatus])
  estimate := (h.settle event.reservation .reconciled).estimate

end AiCostTables

namespace PostgreSQLAiCostController

variable {c : PostgreSQLAiCostController} {t t' : AiCostTables} {companyId : String}
  {now : IsoInstant} {amount : BudgetWindow → ℚ}

theorem Room.settle (h : c.Room t companyId now amount) (hnonneg : t.NonNegative)
    {reservation : AiBudgetReservation} {status : AiReservationStatus}
    (hstatus : status ≠ .reserved) :
    c.Room (t.settle reservation status) companyId now amount := by
  intro w limit hlimit hpos
  have hbefore := h w limit hlimit hpos
  have hheld := held_settle_le hnonneg hstatus reservation companyId now w
  show t.used companyId now w + _ + amount w ≤ limit * t.hardStop companyId
  linarith

/-- The reservation of an event is open, not expired, and covers the cost. -/
def CoversCost (t : AiCostTables) (event : AiUsageLedgerEvent) (now : IsoInstant) : Prop :=
  ∃ row ∈ t.reservations, isOpen event.reservation row = true ∧
    now.rank < row.expiresAt.rank ∧ row.provider = event.reservation.provider ∧
    event.cost ≤ row.estimatedCostEur

/-- A cost that is booked takes the place of what its reservation held. -/
theorem Room.reconcile (h : c.Room t companyId now amount) (hnonneg : t.NonNegative)
    {event : AiUsageLedgerEvent} {startedAt : IsoInstant}
    (hbooks : t.books event = true → 0 ≤ event.cost ∧ CoversCost t event now) :
    c.Room (t.reconcile event startedAt) companyId now amount := by
  intro w limit hlimit hpos
  have hbefore := h w limit hlimit hpos
  show _ + _ + amount w ≤ limit * t.hardStop companyId
  rw [held_reconcile]
  cases hbook : t.books event with
  | false =>
      rw [used_reconcile_of_not_books hbook]
      have hstatus : AiReservationStatus.reconciled ≠ .reserved := by decide
      have hheld := held_settle_le hnonneg hstatus event.reservation companyId now w
      linarith
  | true =>
      obtain ⟨hcost, row, hrow, hopen, hexpires, hprovider, hcovers⟩ := hbooks hbook
      have hused := used_reconcile_le t hcost startedAt companyId now w
      have hsettled : AiReservationStatus.reconciled ≠ .reserved := by decide
      have hheld := held_settle_add_le hnonneg hsettled hrow hopen companyId now w
      obtain ⟨-, hcompany, hstatus⟩ := isOpen_iff.mp hopen
      have hweight : (if event.reservation.tenant.companyId = companyId ∧
          w.covers event.reservation.provider = true then event.cost else 0) ≤
          heldWeight companyId now w row := by
        split
        · next hwindow =>
          have hsame : row.companyId = companyId := hcompany.trans hwindow.1
          have hin : w.covers row.provider = true := hprovider ▸ hwindow.2
          simpa [heldWeight, hsame, hstatus, hexpires, hin] using hcovers
        · exact heldWeight_nonneg (hnonneg.estimate row hrow)
      linarith

/-! ## Inserting -/

variable {request : AiBudgetReservationRequest} {id : String} {startedAt : IsoInstant}
  {granted : Option AiBudgetReservation}

theorem insertReservation_cases
    (h : c.insertReservation t request id startedAt = .ok (t', granted)) :
    (t' = t ∧ granted = none) ∨
      ((∀ row ∈ t.reservations, row.id ≠ id) ∧
        t' = { t with
          reservations := t.reservations ++ [c.reservationRow request id startedAt] } ∧
        granted = some (request.grant id)) := by
  unfold insertReservation at h
  split at h
  · have hsame := Prod.mk.inj (Except.ok.inj h)
    exact Or.inl ⟨hsame.1.symm, hsame.2.symm⟩
  · split at h
    · cases h
    · next hfree =>
      have hnew := Prod.mk.inj (Except.ok.inj h)
      refine Or.inr ⟨fun row hrow hid => hfree ?_, hnew.1.symm, hnew.2.symm⟩
      exact List.any_eq_true.mpr ⟨row, hrow, by simpa using hid⟩

theorem held_insert (w : BudgetWindow) :
    ({ t with reservations := t.reservations ++ [c.reservationRow request id startedAt] } :
        AiCostTables).held companyId now w =
      t.held companyId now w +
        heldWeight companyId now w (c.reservationRow request id startedAt) := by
  rw [held_eq, held_eq, sumWhere_append_one, if_pos rfl]

/-- The new reservation takes the room that was left for it. -/
theorem Room.insert (h : c.Room t request.tenant.companyId now (taken request))
    (hcost : 0 ≤ request.estimatedCostEur) :
    c.Room { t with reservations := t.reservations ++ [c.reservationRow request id startedAt] }
      request.tenant.companyId now fun _ => 0 := by
  intro w limit hlimit hpos
  have hbefore := h w limit hlimit hpos
  rw [held_insert]
  have hweight : heldWeight request.tenant.companyId now w
      (c.reservationRow request id startedAt) ≤ taken request w := by
    unfold heldWeight taken
    split
    · next hcounts =>
      have hcovers : w.covers request.provider = true := (Bool.and_eq_true_iff.mp hcounts).2
      rw [if_pos hcovers]
      exact le_refl request.estimatedCostEur
    · split
      · exact hcost
      · exact le_refl 0
  show t.used _ now w + _ + 0 ≤ limit * t.hardStop _
  linarith

/-- Another company's room stays as it is. -/
theorem Room.insert_other (h : c.Room t companyId now amount)
    (hother : request.tenant.companyId ≠ companyId) :
    c.Room { t with reservations := t.reservations ++ [c.reservationRow request id startedAt] }
      companyId now amount := by
  intro w limit hlimit hpos
  have hbefore := h w limit hlimit hpos
  have hweight : heldWeight companyId now w (c.reservationRow request id startedAt) = 0 := by
    simp [heldWeight, reservationRow, hother]
  rw [held_insert, hweight, add_zero]
  exact hbefore

end PostgreSQLAiCostController

theorem AiCostTables.NonNegative.insert {t : AiCostTables} (h : t.NonNegative)
    {c : PostgreSQLAiCostController} {request : AiBudgetReservationRequest} {id : String}
    {startedAt : IsoInstant} (hcost : 0 ≤ request.estimatedCostEur) :
    ({ t with reservations := t.reservations ++ [c.reservationRow request id startedAt] } :
      AiCostTables).NonNegative where
  cost := h.cost
  estimate := by
    intro row hrow
    rcases List.mem_append.mp hrow with hold | hnew
    · exact h.estimate row hold
    · rw [List.mem_singleton.mp hnew]
      exact hcost

end AvantimePlatform.Ai
