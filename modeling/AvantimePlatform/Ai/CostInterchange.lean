import AvantimePlatform.Ai.CostLedger
import AvantimePlatform.Ai.MemoryBudget

/-!
# The two cost controllers side by side

One caller makes the same calls on `MemoryAiCostController` and on
`PostgreSQLAiCostController`, with the same limits, no budget policy, the same clock and
the same new ids.  The table keeps every key that was ever granted, the map only the live
ones.  So the two grant the same calls (`grants_agree`) as long as no key is used again
once it is settled, no two live reservations have keys with one text, and every event is
booked by both or by neither; see `Meets`.
-/

namespace AvantimePlatform.Ai

open AvantimePlatform AvantimePlatform.Documents AvantimePlatform.RowSums
  AvantimePlatform.Transition
open AiCostTables

/-- A call of either controller; `reserve` carries the id that `randomUUID` gives. -/
inductive AiCostCall where
  | reserve (request : AiBudgetReservationRequest) (id : String)
  | reconcile (event : AiUsageLedgerEvent)
  | release (reservation : AiBudgetReservation) (cancelled : Bool)
deriving DecidableEq

/-- The two controllers and the clock they share. -/
structure BothCostControllers where
  now : IsoInstant
  memory : MemoryAiCostController
  tables : AiCostTables

namespace BothCostControllers

/-- Both are new, with the same limits. -/
def start (c : PostgreSQLAiCostController) (now : IsoInstant) : BothCostControllers where
  now := now
  memory :=
    { dailyLimitEur := c.defaultDailyLimitEur, monthlyLimitEur := c.defaultMonthlyLimitEur }
  tables := {}

/-- What a call leaves in memory; a call that throws changes nothing. -/
def memoryAfter (s : BothCostControllers) (time : IsoInstant) :
    AiCostCall → MemoryAiCostController
  | .reserve request id =>
      match s.memory.reserve request id time with
      | .ok (memory, _) => memory
      | .error _ => s.memory
  | .reconcile event =>
      match s.memory.reconcile event time with
      | .ok memory => memory
      | .error _ => s.memory
  | .release reservation _ => s.memory.release reservation

/-- What a call leaves in the tables; a call that throws changes nothing. -/
def tablesAfter (c : PostgreSQLAiCostController) (s : BothCostControllers) (time : IsoInstant) :
    AiCostCall → AiCostTables
  | .reserve request id =>
      match c.reserve s.tables request id time with
      | .ok (tables, _) => tables
      | .error _ => s.tables
  | .reconcile event => s.tables.reconcile event time
  | .release reservation cancelled => s.tables.release reservation cancelled

/-- The id that a call draws is a new one. -/
def NewId (s : BothCostControllers) : AiCostCall → Prop
  | .reserve _ id => ∀ row ∈ s.tables.reservations, row.id ≠ id
  | _ => True

instance (s : BothCostControllers) : DecidablePred s.NewId := by
  intro call
  cases call with
  | reserve request id => exact inferInstanceAs (Decidable (∀ row ∈ _, _))
  | reconcile event => exact isTrue trivial
  | release reservation cancelled => exact isTrue trivial

/-- Every reservation that is open at an instant has not expired. -/
def InTime (s : BothCostControllers) (time : IsoInstant) : Prop :=
  ∀ row ∈ s.tables.reservations, row.status = .reserved → time.rank < row.expiresAt.rank

instance (s : BothCostControllers) (time : IsoInstant) : Decidable (s.InTime time) :=
  inferInstanceAs (Decidable (∀ row ∈ _, _))

/-- One call on both.  The clock does not go back, ids are new, and reservations are
settled before they expire. -/
def next (c : PostgreSQLAiCostController) (s : BothCostControllers)
    (step : IsoInstant × AiCostCall) : Option BothCostControllers :=
  if s.now.rank ≤ step.1.rank ∧ s.NewId step.2 ∧ s.InTime step.1 then
    some
      { now := step.1
        memory := s.memoryAfter step.1 step.2
        tables := tablesAfter c s step.1 step.2 }
  else none

abbrev step (c : PostgreSQLAiCostController) :
    BothCostControllers → IsoInstant × AiCostCall → BothCostControllers → Prop :=
  stepOf (next c)

/-- A reserve call is answered alike: both grant the same reservation, both refuse, or both
throw. -/
def GrantAlike (c : PostgreSQLAiCostController) (s : BothCostControllers)
    (step : IsoInstant × AiCostCall) (_ : BothCostControllers) : Prop :=
  ∀ request id, step.2 = .reserve request id →
    (s.memory.reserve request id step.1).map Prod.snd =
      (c.reserve s.tables request id step.1).map Prod.snd

/-! ## The condition -/

/-- The text of a row's key in the map. -/
def rowKey (row : AiBudgetReservationRow) : String := companyKey row.companyId row.idempotencyKey

/-- A key that is in the table is still reserved, and no other open reservation has a key
with the same text. -/
def KeyIsNew (t : AiCostTables) (request : AiBudgetReservationRequest) : Prop :=
  ∀ row ∈ t.reservations,
    (row.companyId = request.tenant.companyId → row.idempotencyKey = request.idempotencyKey →
      row.status = .reserved) ∧
    (row.status = .reserved → rowKey row = request.key →
      row.companyId = request.tenant.companyId ∧ row.idempotencyKey = request.idempotencyKey)

/-- A settling call names an open reservation, by its id and by its key. -/
def SettlesBoth (t : AiCostTables) (reservation : AiBudgetReservation) : Prop :=
  ∃ row ∈ t.reservations, isOpen reservation row = true ∧
    row.idempotencyKey = reservation.idempotencyKey

/-- A settling call names no open reservation, neither by its id nor by its key. -/
def SettlesNeither (t : AiCostTables) (reservation : AiBudgetReservation) : Prop :=
  ∀ row ∈ t.reservations, row.status = .reserved →
    isOpen reservation row = false ∧ rowKey row ≠ reservation.key

/-- What a call has to meet for the two to go on alike:

* the year has four digits, so that the texts of the map name the day and the month,
* a key that is reserved is new, or still reserved,
* an event finds its reservation open and is booked by the table (or costs nothing), or
  finds none and is not booked (or costs nothing),
* a release names an open reservation by its id and its key, or names none. -/
def Meets (s : BothCostControllers) (step : IsoInstant × AiCostCall) : Prop :=
  IsoInstant.IsPlain step.1.year ∧
    match step.2 with
    | .reserve request _ => KeyIsNew s.tables request
    | .reconcile event =>
        (SettlesBoth s.tables event.reservation ∧ 0 ≤ event.estimatedCostEur ∧
            (s.tables.books event = true ∨ event.cost = 0)) ∨
          (SettlesNeither s.tables event.reservation ∧
            (s.tables.books event = false ∨ event.cost = 0))
    | .release reservation _ =>
        SettlesBoth s.tables reservation ∨ SettlesNeither s.tables reservation

instance (s : BothCostControllers) (step : IsoInstant × AiCostCall) : Decidable (s.Meets step) := by
  obtain ⟨time, call⟩ := step
  unfold Meets KeyIsNew SettlesBoth SettlesNeither
  cases call with
  | reserve request id => exact inferInstanceAs (Decidable (_ ∧ ∀ row ∈ _, _))
  | reconcile event => exact inferInstanceAs (Decidable (_ ∧ (_ ∨ _)))
  | release reservation cancelled => exact inferInstanceAs (Decidable (_ ∧ (_ ∨ _)))

/-! ## The invariant -/

/-- The rows that are still reserved. -/
def openRows (t : AiCostTables) : List AiBudgetReservationRow :=
  t.reservations.filter fun row => row.status == .reserved

/-- What an entry of the map shows of its reservation. -/
def entryShows (entry : String × AiBudgetReservation) : String × String × ℚ :=
  (entry.1, entry.2.tenant.companyId, entry.2.reservedCostEur)

/-- What an open row shows of its reservation. -/
def rowShows (row : AiBudgetReservationRow) : String × String × ℚ :=
  (rowKey row, row.companyId, row.estimatedCostEur)

/-- What the ledger has for a company on the days that `p` selects. -/
def ledgerSum (t : AiCostTables) (companyId : String) (p : IsoInstant → Bool) : ℚ :=
  sumWhere (fun row => row.companyId == companyId && row.status == .succeeded && p row.occurredAt)
    AiUsageLedgerRow.cost t.ledger

/-- The two controllers hold and have booked the same. -/
structure Alike (c : PostgreSQLAiCostController) (s : BothCostControllers) : Prop where
  daily : s.memory.dailyLimitEur = c.defaultDailyLimitEur
  monthly : s.memory.monthlyLimitEur = c.defaultMonthlyLimitEur
  policies : s.tables.policies = ∅
  entries : s.memory.reservations.map entryShows = (openRows s.tables).map rowShows
  keys : KeyedList.Distinct rowKey (openRows s.tables)
  ids : KeyedList.Distinct AiBudgetReservationRow.id s.tables.reservations
  bookedDay : ∀ companyId t, IsoInstant.IsPlain t.year →
    s.memory.booked (dayKey companyId t) =
      ledgerSum s.tables companyId fun occurredAt => occurredAt.dayNumber == t.dayNumber
  bookedMonth : ∀ companyId t, IsoInstant.IsPlain t.year →
    s.memory.booked (monthKey companyId t) =
      ledgerSum s.tables companyId fun occurredAt => occurredAt.monthNumber == t.monthNumber
  past : ∀ row ∈ s.tables.ledger, row.occurredAt.rank ≤ s.now.rank

theorem alike_start (c : PostgreSQLAiCostController) (now : IsoInstant) : Alike c (start c now) where
  daily := rfl
  monthly := rfl
  policies := rfl
  entries := rfl
  keys := List.nodup_nil
  ids := List.nodup_nil
  bookedDay := fun _ _ _ => rfl
  bookedMonth := fun _ _ _ => rfl
  past := by
    intro row hrow
    cases hrow

section Sums

variable {c : PostgreSQLAiCostController} {s : BothCostControllers} {time : IsoInstant}
  {companyId : String}

theorem mem_openRows {t : AiCostTables} {row : AiBudgetReservationRow} :
    row ∈ openRows t ↔ row ∈ t.reservations ∧ row.status = .reserved := by
  simp [openRows]

/-- The keys of the map are the texts of the open rows. -/
theorem Alike.map_key (h : Alike c s) :
    s.memory.reservations.map Prod.fst = (openRows s.tables).map rowKey := by
  have hfst := congrArg (List.map Prod.fst) h.entries
  rw [List.map_map, List.map_map] at hfst
  exact hfst

/-- A key is in the map when an open row has it. -/
theorem Alike.reservation_isSome (h : Alike c s) (key : String) :
    (s.memory.reservation? key).isSome = true ↔
      ∃ row ∈ s.tables.reservations, row.status = .reserved ∧ rowKey row = key := by
  have hmem : key ∈ s.memory.reservations.map Prod.fst ↔
      key ∈ (openRows s.tables).map rowKey := by rw [h.map_key]
  constructor
  · intro hsome
    obtain ⟨live, hlive⟩ := Option.isSome_iff_exists.mp hsome
    obtain ⟨entry, hfound, -⟩ := Option.map_eq_some_iff.mp hlive
    obtain ⟨hentry, hkey⟩ := KeyedList.find_eq_some hfound
    obtain ⟨row, hrow, hsame⟩ := List.mem_map.mp
      (hmem.mp (List.mem_map.mpr ⟨entry, hentry, hkey⟩))
    obtain ⟨hstored, hstatus⟩ := mem_openRows.mp hrow
    exact ⟨row, hstored, hstatus, hsame⟩
  · rintro ⟨row, hrow, hstatus, hkey⟩
    obtain ⟨entry, hentry, hsame⟩ := List.mem_map.mp
      (hmem.mpr (List.mem_map.mpr ⟨row, mem_openRows.mpr ⟨hrow, hstatus⟩, hkey⟩))
    by_contra hnone
    have hmissing : KeyedList.find Prod.fst key s.memory.reservations = none := by
      simpa [MemoryAiCostController.reservation?] using hnone
    exact KeyedList.find_eq_none.mp hmissing entry hentry hsame

/-- Both hold the same of a company. -/
theorem Alike.reserved (h : Alike c s) (hintime : s.InTime time) (companyId : String) :
    s.memory.reserved companyId = s.tables.reserved companyId time fun _ => true := by
  have hmap : s.memory.reserved companyId =
      sumWhere (fun shown => shown.2.1 == companyId) (fun shown => shown.2.2)
        (s.memory.reservations.map entryShows) := by
    rw [sumWhere_map]
    rfl
  rw [hmap, h.entries, sumWhere_map]
  unfold openRows
  rw [sumWhere_filter]
  refine sumWhere_congr fun row hrow => ?_
  show (if row.companyId == companyId && row.status == .reserved then row.estimatedCostEur else 0) =
    if isReserved companyId time row then row.estimatedCostEur else 0
  unfold isReserved
  by_cases hstatus : row.status = .reserved
  · have hexpires := hintime row hrow hstatus
    simp [hexpires]
  · simp [hstatus]

/-- What the query finds for the day is what is booked under its text. -/
theorem Alike.daily_usage (h : Alike c s) (hclock : s.now.rank ≤ time.rank)
    (hplain : IsoInstant.IsPlain time.year) (companyId : String) :
    s.memory.booked (dayKey companyId time) = s.tables.usage companyId time fun row =>
      decide (time.dayNumber ≤ row.occurredAt.dayNumber) := by
  rw [h.bookedDay companyId time hplain]
  refine sumWhere_congr fun row hrow => ?_
  have hpast := IsoInstant.dayNumber_mono ((h.past row hrow).trans hclock)
  unfold isUsage
  by_cases hday : row.occurredAt.dayNumber = time.dayNumber
  · have hmonth := IsoInstant.monthNumber_eq_of_dayNumber hday
    simp [hday, hmonth]
  · have hbefore : ¬time.dayNumber ≤ row.occurredAt.dayNumber := by omega
    simp [hday, hbefore]

theorem Alike.monthly_usage (h : Alike c s) (hclock : s.now.rank ≤ time.rank)
    (hplain : IsoInstant.IsPlain time.year) (companyId : String) :
    s.memory.booked (monthKey companyId time) = s.tables.usage companyId time fun _ => true := by
  rw [h.bookedMonth companyId time hplain]
  refine sumWhere_congr fun row hrow => ?_
  have hpast := IsoInstant.monthNumber_mono ((h.past row hrow).trans hclock)
  unfold isUsage
  by_cases hmonth : row.occurredAt.monthNumber = time.monthNumber
  · simp [hmonth]
  · have hbefore : ¬time.monthNumber ≤ row.occurredAt.monthNumber := by omega
    simp [hmonth, hbefore]

end Sums

/-! ## Reserving -/

section Reserving

variable {c : PostgreSQLAiCostController} {s : BothCostControllers} {time : IsoInstant}
  {request : AiBudgetReservationRequest} {id : String}

/-- The map refuses a request. -/
def memoryRefuses (m : MemoryAiCostController) (request : AiBudgetReservationRequest)
    (time : IsoInstant) : Bool :=
  (m.reservation? request.key).isSome ||
    (MemoryAiCostController.exceeds m.dailyLimitEur
        (m.booked (dayKey request.tenant.companyId time)) (m.reserved request.tenant.companyId)
        request.estimatedCostEur ||
      MemoryAiCostController.exceeds m.monthlyLimitEur
        (m.booked (monthKey request.tenant.companyId time)) (m.reserved request.tenant.companyId)
        request.estimatedCostEur)

theorem memory_reserve_eq (m : MemoryAiCostController) (request : AiBudgetReservationRequest)
    (id : String) (time : IsoInstant) :
    m.reserve request id time =
      (assertCost request.estimatedCostEur "estimatedCostEur").map fun _ =>
        if memoryRefuses m request time then (m, none)
        else ({ m with reservations := m.reservations ++ [(request.key, request.grant id)] },
          some (request.grant id)) := by
  unfold MemoryAiCostController.reserve memoryRefuses
  cases assertCost request.estimatedCostEur "estimatedCostEur" with
  | error e => rfl
  | ok u =>
      dsimp only [bind, Except.bind]
      cases (m.reservation? request.key).isSome with
      | true => rfl
      | false =>
          cases (MemoryAiCostController.exceeds m.dailyLimitEur
              (m.booked (dayKey request.tenant.companyId time))
              (m.reserved request.tenant.companyId) request.estimatedCostEur ||
            MemoryAiCostController.exceeds m.monthlyLimitEur
              (m.booked (monthKey request.tenant.companyId time))
              (m.reserved request.tenant.companyId) request.estimatedCostEur) with
          | true => rfl
          | false => rfl

/-- The tables refuse a request. -/
def tablesRefuse (c : PostgreSQLAiCostController) (t : AiCostTables)
    (request : AiBudgetReservationRequest) (time : IsoInstant) : Bool :=
  t.isReservedKey request ||
    (c.totals t request.tenant.companyId request.provider time).exceeded request.estimatedCostEur

theorem postgres_reserve_eq (c : PostgreSQLAiCostController) (t : AiCostTables)
    (request : AiBudgetReservationRequest) (time : IsoInstant)
    (hnew : ∀ row ∈ t.reservations, row.id ≠ id) :
    c.reserve t request id time =
      (assertCost request.estimatedCostEur "estimatedCostEur").map fun _ =>
        if tablesRefuse c t request time then (t, none)
        else ({ t with reservations := t.reservations ++ [c.reservationRow request id time] },
          some (request.grant id)) := by
  have hfree : (t.reservations.any fun row => row.id == id) = false := by
    simpa using hnew
  unfold PostgreSQLAiCostController.reserve PostgreSQLAiCostController.insertReservation
    tablesRefuse
  cases assertCost request.estimatedCostEur "estimatedCostEur" with
  | error e => rfl
  | ok u =>
      rw [hfree]
      cases (c.totals t request.tenant.companyId request.provider time).exceeded
          request.estimatedCostEur with
      | true =>
          cases t.isReservedKey request with
          | true => rfl
          | false => rfl
      | false =>
          cases t.isReservedKey request with
          | true => rfl
          | false => rfl

/-- A new key, or one that is still reserved, is in the map when it is in the table. -/
theorem Alike.isReservedKey (h : Alike c s) (hkey : KeyIsNew s.tables request) :
    (s.memory.reservation? request.key).isSome = s.tables.isReservedKey request := by
  rw [Bool.eq_iff_iff, h.reservation_isSome]
  unfold AiCostTables.isReservedKey
  simp only [List.any_eq_true, Bool.and_eq_true, beq_iff_eq]
  constructor
  · rintro ⟨row, hrow, hstatus, htext⟩
    exact ⟨row, hrow, (hkey row hrow).2 hstatus htext⟩
  · rintro ⟨row, hrow, hcompany, hsame⟩
    refine ⟨row, hrow, (hkey row hrow).1 hcompany hsame, ?_⟩
    unfold rowKey AiBudgetReservationRequest.key
    rw [hcompany, hsame]

/-- The limits are exceeded on both or on neither. -/
theorem Alike.exceeded (h : Alike c s) (hclock : s.now.rank ≤ time.rank)
    (hintime : s.InTime time) (hplain : IsoInstant.IsPlain time.year) :
    (c.totals s.tables request.tenant.companyId request.provider time).exceeded
        request.estimatedCostEur =
      (MemoryAiCostController.exceeds s.memory.dailyLimitEur
          (s.memory.booked (dayKey request.tenant.companyId time))
          (s.memory.reserved request.tenant.companyId) request.estimatedCostEur ||
        MemoryAiCostController.exceeds s.memory.monthlyLimitEur
          (s.memory.booked (monthKey request.tenant.companyId time))
          (s.memory.reserved request.tenant.companyId) request.estimatedCostEur) := by
  rw [h.daily_usage hclock hplain, h.monthly_usage hclock hplain, h.reserved hintime, h.daily,
    h.monthly]
  have hnone : s.tables.policies.lookup request.tenant.companyId = none := by
    rw [h.policies]
    rfl
  unfold AiBudgetTotals.exceeded PostgreSQLAiCostController.totals
  simp only [hnone, Option.map_none, Option.getD_none, Option.bind_none, Bool.or_false]
  unfold exceeds MemoryAiCostController.exceeds
  simp only [mul_one]

theorem Alike.refuses (h : Alike c s) (hclock : s.now.rank ≤ time.rank)
    (hintime : s.InTime time) (hplain : IsoInstant.IsPlain time.year)
    (hkey : KeyIsNew s.tables request) :
    memoryRefuses s.memory request time = tablesRefuse c s.tables request time := by
  unfold memoryRefuses tablesRefuse
  rw [h.isReservedKey hkey, h.exceeded hclock hintime hplain]

/-- A reservation that both grant leaves them alike. -/
theorem Alike.granted (h : Alike c s) (hclock : s.now.rank ≤ time.rank)
    (hnew : ∀ row ∈ s.tables.reservations, row.id ≠ id)
    (hfree : (s.memory.reservation? request.key).isSome = false) :
    Alike c
      { now := time
        memory := { s.memory with
          reservations := s.memory.reservations ++ [(request.key, request.grant id)] }
        tables := { s.tables with
          reservations := s.tables.reservations ++ [c.reservationRow request id time] } } where
  daily := h.daily
  monthly := h.monthly
  policies := h.policies
  entries := by
    show List.map _ (s.memory.reservations ++ _) = List.map _ (openRows _)
    unfold openRows
    rw [List.map_append, h.entries, List.filter_append, List.map_append]
    rfl
  keys := by
    unfold openRows
    rw [List.filter_append]
    refine KeyedList.distinct_append_new h.keys ?_
    refine KeyedList.find_eq_none.mpr fun row hrow hsame => ?_
    obtain ⟨hstored, hstatus⟩ := mem_openRows.mp hrow
    have hsome := (h.reservation_isSome request.key).mpr ⟨row, hstored, hstatus, hsame⟩
    rw [hfree] at hsome
    cases hsome
  ids := KeyedList.distinct_append_new h.ids (KeyedList.find_eq_none.mpr hnew)
  bookedDay := h.bookedDay
  bookedMonth := h.bookedMonth
  past := fun row hrow => (h.past row hrow).trans hclock

theorem Alike.later (h : Alike c s) (hclock : s.now.rank ≤ time.rank) :
    Alike c { s with now := time } :=
  { h with past := fun row hrow => (h.past row hrow).trans hclock }

end Reserving

/-! ## Settling -/

section Settling

variable {c : PostgreSQLAiCostController} {s : BothCostControllers}
  {reservation : AiBudgetReservation} {status : AiReservationStatus}

/-- What is open after a reservation was settled. -/
theorem openRows_settle (t : AiCostTables) (hstatus : status ≠ .reserved) :
    openRows (t.settle reservation status) =
      (openRows t).filter fun row => !isOpen reservation row := by
  unfold openRows settle KeyedList.updateMany
  dsimp only
  induction t.reservations with
  | nil => rfl
  | cons row rows ih =>
      by_cases hopen : isOpen reservation row = true
      · obtain ⟨-, -, hreserved⟩ := isOpen_iff.mp hopen
        simp [hopen, hstatus, hreserved, ih]
      · by_cases hreserved : row.status = .reserved
        · simp [hopen, hreserved, ih]
        · simp [hopen, hreserved, ih]

/-- When a settling call names an open reservation, the id and the key select it. -/
theorem Alike.isOpen_iff_key (h : Alike c s) (hboth : SettlesBoth s.tables reservation)
    {row : AiBudgetReservationRow} (hrow : row ∈ openRows s.tables) :
    isOpen reservation row = (rowKey row == reservation.key) := by
  obtain ⟨named, hnamed, hopen, hkey⟩ := hboth
  obtain ⟨hid, hcompany, hstatus⟩ := isOpen_iff.mp hopen
  have htext : rowKey named = reservation.key := by
    unfold rowKey AiBudgetReservationRequest.key
    rw [hcompany, hkey]
  have hnamedOpen : named ∈ openRows s.tables := mem_openRows.mpr ⟨hnamed, hstatus⟩
  rw [Bool.eq_iff_iff, beq_iff_eq]
  constructor
  · intro hthis
    have hsame : row = named := KeyedList.eq_of_key h.ids (mem_openRows.mp hrow).1 hnamed
      ((isOpen_iff.mp hthis).1.trans hid.symm)
    rw [hsame]
    exact htext
  · intro hthis
    have hsame : row = named := KeyedList.eq_of_key h.keys hrow hnamedOpen
      (hthis.trans htext.symm)
    rw [hsame]
    exact hopen

theorem Alike.distinct_map (h : Alike c s) : KeyedList.Distinct Prod.fst s.memory.reservations := by
  unfold KeyedList.Distinct
  rw [h.map_key]
  exact h.keys

theorem distinct_ids_settle (h : Alike c s) (reservation : AiBudgetReservation)
    (status : AiReservationStatus) : KeyedList.Distinct AiBudgetReservationRow.id
      (s.tables.settle reservation status).reservations := by
  have hkey : ∀ row : AiBudgetReservationRow, ({ row with status := status }).id = row.id :=
    fun _ => rfl
  exact KeyedList.distinct_updateMany hkey h.ids

/-- Both settle the reservation. -/
theorem Alike.settle (h : Alike c s) (status : AiReservationStatus) (hstatus : status ≠ .reserved)
    (hboth : SettlesBoth s.tables reservation) :
    Alike c { s with
      memory := s.memory.delete reservation.key
      tables := s.tables.settle reservation status } where
  daily := h.daily
  monthly := h.monthly
  policies := h.policies
  entries := by
    show List.map entryShows (KeyedList.erase Prod.fst reservation.key s.memory.reservations) =
      List.map rowShows (openRows (s.tables.settle reservation status))
    have hmemory : (s.memory.reservations.filter fun entry => !(entry.1 == reservation.key)).map
        entryShows = (s.memory.reservations.map entryShows).filter fun shown =>
          !(shown.1 == reservation.key) := by
      rw [List.filter_map]
      rfl
    have hrows : ((openRows s.tables).map rowShows).filter (fun shown =>
        !(shown.1 == reservation.key)) = ((openRows s.tables).filter fun row =>
          !(rowKey row == reservation.key)).map rowShows := by
      rw [List.filter_map]
      rfl
    rw [KeyedList.erase_eq_filter h.distinct_map, openRows_settle s.tables hstatus, hmemory,
      h.entries, hrows]
    congr 1
    refine List.filter_congr fun row hrow => ?_
    rw [h.isOpen_iff_key hboth hrow]
  keys := by
    show KeyedList.Distinct rowKey (openRows (s.tables.settle reservation status))
    rw [openRows_settle s.tables hstatus]
    exact h.keys.sublist (List.filter_sublist.map rowKey)
  ids := distinct_ids_settle h reservation status
  bookedDay := h.bookedDay
  bookedMonth := h.bookedMonth
  past := h.past

/-- Neither has anything to settle. -/
theorem Alike.settle_neither (h : Alike c s) (status : AiReservationStatus)
    (hneither : SettlesNeither s.tables reservation) :
    s.memory.reservation? reservation.key = none ∧
      s.tables.settle reservation status = s.tables := by
  constructor
  · have hnot : ¬(s.memory.reservation? reservation.key).isSome = true := by
      rw [h.reservation_isSome]
      rintro ⟨row, hrow, hstatus, hkey⟩
      exact (hneither row hrow hstatus).2 hkey
    simpa using hnot
  · have hsame : (s.tables.settle reservation status).reservations = s.tables.reservations := by
      refine (List.map_congr_left fun row hrow => ?_).trans (List.map_id _)
      refine if_neg fun hopen => ?_
      have hnot := (hneither row hrow (isOpen_iff.mp hopen).2.2).1
      rw [hopen] at hnot
      cases hnot
    show ({ s.tables with
      reservations := (s.tables.settle reservation status).reservations } : AiCostTables) = s.tables
    rw [hsame]

end Settling

/-! ## Booking -/

section Booking

variable {c : PostgreSQLAiCostController} {s : BothCostControllers} {time : IsoInstant}
  {event : AiUsageLedgerEvent}

/-- What an event adds to a sum over the ledger. -/
theorem ledgerSum_reconcile (t : AiCostTables) (event : AiUsageLedgerEvent) (time : IsoInstant)
    (companyId : String) (p : IsoInstant → Bool) :
    ledgerSum (t.reconcile event time) companyId p = ledgerSum t companyId p +
      if t.books event = true ∧ event.reservation.tenant.companyId = companyId ∧ p time = true then
        event.cost
      else 0 := by
  unfold ledgerSum AiCostTables.reconcile books
  dsimp only
  cases hbooked : t.isBooked event.reservation with
  | true => simp
  | false =>
      rw [if_neg (by decide), sumWhere_append_one]
      congr 1
      by_cases hcounts : event.status = .succeeded ∧
          event.reservation.tenant.companyId = companyId ∧ p time = true
      · obtain ⟨hstatus, hcompany, hp⟩ := hcounts
        rw [if_pos (by simp [ledgerRow, hstatus, hcompany, hp]),
          if_pos (by simp [hstatus, hcompany, hp])]
        rfl
      · rw [if_neg, if_neg]
        · rintro ⟨hstatus, hcompany, hp⟩
          exact hcounts ⟨by simpa using hstatus, hcompany, hp⟩
        · intro hwhere
          simp only [ledgerRow, Bool.and_eq_true, beq_iff_eq] at hwhere
          exact hcounts ⟨hwhere.1.2, hwhere.1.1, hwhere.2⟩

theorem past_reconcile (h : Alike c s) (hclock : s.now.rank ≤ time.rank) :
    ∀ row ∈ (s.tables.reconcile event time).ledger, row.occurredAt.rank ≤ time.rank := by
  intro row hrow
  unfold AiCostTables.reconcile at hrow
  dsimp only at hrow
  split at hrow
  · exact (h.past row hrow).trans hclock
  · rcases List.mem_append.mp hrow with hold | hnew
    · exact (h.past row hold).trans hclock
    · rw [List.mem_singleton.mp hnew]
      exact le_refl time.rank

/-- Both settle the reservation and book its event. -/
theorem Alike.reconcile (h : Alike c s) (hclock : s.now.rank ≤ time.rank)
    (hplain : IsoInstant.IsPlain time.year) (hboth : SettlesBoth s.tables event.reservation)
    (hbooks : s.tables.books event = true ∨ event.cost = 0) :
    Alike c
      { now := time
        memory := ((s.memory.delete event.reservation.key).book
          (dayKey event.reservation.tenant.companyId time) event.cost).book
            (monthKey event.reservation.tenant.companyId time) event.cost
        tables := s.tables.reconcile event time } := by
  have hsettled := h.settle .reconciled (by decide) hboth
  -- The cost that the table adds is the cost that the map adds.
  have hadds : ∀ (companyId : String) (p : IsoInstant → Bool),
      ledgerSum (s.tables.reconcile event time) companyId p = ledgerSum s.tables companyId p +
        if event.reservation.tenant.companyId = companyId ∧ p time = true then event.cost
        else 0 := by
    intro companyId p
    rw [ledgerSum_reconcile]
    congr 1
    rcases hbooks with hbooks | hcost
    · simp [hbooks]
    · simp [hcost]
  exact
    { daily := h.daily
      monthly := h.monthly
      policies := h.policies
      entries := hsettled.entries
      keys := hsettled.keys
      ids := hsettled.ids
      bookedDay := by
        intro companyId t ht
        rw [MemoryAiCostController.booked_book, MemoryAiCostController.booked_book,
          if_neg (dayKey_ne_monthKey _ _ _ _), add_zero, hadds, ← h.bookedDay companyId t ht]
        congr 1
        refine if_congr ?_ rfl rfl
        rw [beq_iff_eq]
        constructor
        · intro hkey
          obtain ⟨hcompany, htext⟩ := dayKey_inj hkey
          exact ⟨hcompany.symm, ((IsoInstant.dayText_eq_iff ht hplain).mp htext).symm⟩
        · rintro ⟨rfl, hday⟩
          rw [dayKey, dayKey, (IsoInstant.dayText_eq_iff ht hplain).mpr hday.symm]
      bookedMonth := by
        intro companyId t ht
        rw [MemoryAiCostController.booked_book, MemoryAiCostController.booked_book,
          if_neg (dayKey_ne_monthKey _ _ _ _).symm, add_zero, hadds, ← h.bookedMonth companyId t ht]
        congr 1
        refine if_congr ?_ rfl rfl
        rw [beq_iff_eq]
        constructor
        · intro hkey
          obtain ⟨hcompany, htext⟩ := monthKey_inj hkey
          exact ⟨hcompany.symm, ((IsoInstant.monthText_eq_iff ht hplain).mp htext).symm⟩
        · rintro ⟨rfl, hmonth⟩
          rw [monthKey, monthKey, (IsoInstant.monthText_eq_iff ht hplain).mpr hmonth.symm]
      past := past_reconcile h hclock }

/-- Neither settles anything, and nothing is booked. -/
theorem Alike.reconcile_neither (h : Alike c s) (hclock : s.now.rank ≤ time.rank)
    (hneither : SettlesNeither s.tables event.reservation)
    (hbooks : s.tables.books event = false ∨ event.cost = 0) :
    Alike c { now := time, memory := s.memory, tables := s.tables.reconcile event time } := by
  obtain ⟨-, hsame⟩ := h.settle_neither .reconciled hneither
  have hrows : (s.tables.reconcile event time).reservations = s.tables.reservations := by
    show (s.tables.settle event.reservation .reconciled).reservations = _
    rw [hsame]
  have hopen : openRows (s.tables.reconcile event time) = openRows s.tables := by
    unfold openRows
    rw [hrows]
  have hadds : ∀ (companyId : String) (p : IsoInstant → Bool),
      ledgerSum (s.tables.reconcile event time) companyId p = ledgerSum s.tables companyId p := by
    intro companyId p
    rw [ledgerSum_reconcile]
    rcases hbooks with hbooks | hcost
    · simp [hbooks]
    · simp [hcost]
  exact
    { daily := h.daily
      monthly := h.monthly
      policies := h.policies
      entries := by
        show s.memory.reservations.map entryShows = _
        rw [hopen]
        exact h.entries
      keys := by
        show KeyedList.Distinct rowKey (openRows (s.tables.reconcile event time))
        rw [hopen]
        exact h.keys
      ids := by
        show KeyedList.Distinct _ (s.tables.reconcile event time).reservations
        rw [hrows]
        exact h.ids
      bookedDay := fun companyId t ht => (h.bookedDay companyId t ht).trans (hadds _ _).symm
      bookedMonth := fun companyId t ht => (h.bookedMonth companyId t ht).trans (hadds _ _).symm
      past := past_reconcile h hclock }

end Booking

/-! ## Whole sequences of calls -/

section Runs

variable {c : PostgreSQLAiCostController} {s s' : BothCostControllers} {time : IsoInstant}

theorem step_eq {call : AiCostCall} (h : step c s (time, call) s') :
    (s.now.rank ≤ time.rank ∧ s.NewId call ∧ s.InTime time) ∧
      s' = { now := time, memory := s.memoryAfter time call, tables := tablesAfter c s time call } := by
  simp only [step, stepOf, next] at h
  split at h
  · next hcall => exact ⟨hcall, (Option.some.inj h).symm⟩
  · cases h

theorem grantAlike_of_alike (h : Alike c s) {call : AiCostCall} (hstep : step c s (time, call) s')
    (hmeets : s.Meets (time, call)) : GrantAlike c s (time, call) s' := by
  obtain ⟨⟨hclock, hnew, hintime⟩, -⟩ := step_eq hstep
  rintro request id rfl
  have hrefuses := h.refuses hclock hintime hmeets.1 hmeets.2
  dsimp only
  rw [memory_reserve_eq, postgres_reserve_eq c s.tables request time hnew, hrefuses]
  cases assertCost request.estimatedCostEur "estimatedCostEur" with
  | error e => rfl
  | ok u =>
      cases tablesRefuse c s.tables request time with
      | true => rfl
      | false => rfl

theorem Alike.reserve_step (h : Alike c s) (hclock : s.now.rank ≤ time.rank)
    (hintime : s.InTime time) {request : AiBudgetReservationRequest} {id : String}
    (hnew : ∀ row ∈ s.tables.reservations, row.id ≠ id)
    (hmeets : s.Meets (time, .reserve request id)) :
    Alike c
      { now := time, memory := s.memoryAfter time (.reserve request id),
        tables := tablesAfter c s time (.reserve request id) } := by
  have hrefuses := h.refuses hclock hintime hmeets.1 hmeets.2
  unfold memoryAfter tablesAfter
  dsimp only
  rw [memory_reserve_eq, postgres_reserve_eq c s.tables request time hnew, hrefuses]
  cases assertCost request.estimatedCostEur "estimatedCostEur" with
  | error e => exact h.later hclock
  | ok u =>
      cases hrefused : tablesRefuse c s.tables request time with
      | true => exact h.later hclock
      | false =>
          have hfree : (s.memory.reservation? request.key).isSome = false := by
            rw [hrefused] at hrefuses
            exact (Bool.or_eq_false_iff.mp hrefuses).1
          exact h.granted hclock hnew hfree

/-- What `reconcile` leaves in memory when the key is live. -/
theorem memoryAfter_reconcile_of_live {event : AiUsageLedgerEvent}
    (hcost : 0 ≤ event.estimatedCostEur)
    (hlive : (s.memory.reservation? event.reservation.key).isSome = true) :
    s.memoryAfter time (.reconcile event) =
      ((s.memory.delete event.reservation.key).book
        (dayKey event.reservation.tenant.companyId time) event.cost).book
          (monthKey event.reservation.tenant.companyId time) event.cost := by
  have hcheck : assertCost event.estimatedCostEur "estimatedCostEur" = .ok () :=
    assertCost_eq_ok.mpr hcost
  obtain ⟨live, hlive⟩ := Option.isSome_iff_exists.mp hlive
  unfold memoryAfter MemoryAiCostController.reconcile
  dsimp only [bind, Except.bind]
  rw [hcheck, hlive]
  rfl

/-- What `reconcile` leaves in memory when the key is not live. -/
theorem memoryAfter_reconcile_of_none {event : AiUsageLedgerEvent}
    (hnone : s.memory.reservation? event.reservation.key = none) :
    s.memoryAfter time (.reconcile event) = s.memory := by
  unfold memoryAfter MemoryAiCostController.reconcile
  dsimp only [bind, Except.bind]
  rw [hnone]
  cases assertCost event.estimatedCostEur "estimatedCostEur" with
  | error e => rfl
  | ok u => rfl

theorem Alike.isSome_of_settlesBoth (h : Alike c s) {reservation : AiBudgetReservation}
    (hboth : SettlesBoth s.tables reservation) :
    (s.memory.reservation? reservation.key).isSome = true := by
  obtain ⟨row, hrow, hopen, hkey⟩ := hboth
  obtain ⟨-, hcompany, hstatus⟩ := isOpen_iff.mp hopen
  refine (h.reservation_isSome _).mpr ⟨row, hrow, hstatus, ?_⟩
  unfold rowKey AiBudgetReservationRequest.key
  rw [hcompany, hkey]

theorem Alike.reconcile_step (h : Alike c s) (hclock : s.now.rank ≤ time.rank)
    {event : AiUsageLedgerEvent} (hmeets : s.Meets (time, .reconcile event)) :
    Alike c
      { now := time, memory := s.memoryAfter time (.reconcile event),
        tables := tablesAfter c s time (.reconcile event) } := by
  obtain ⟨hplain, ⟨hboth, hcost, hbooks⟩ | ⟨hneither, hbooks⟩⟩ := hmeets
  · rw [memoryAfter_reconcile_of_live hcost (h.isSome_of_settlesBoth hboth)]
    exact h.reconcile hclock hplain hboth hbooks
  · obtain ⟨hnone, -⟩ := h.settle_neither .reconciled hneither
    rw [memoryAfter_reconcile_of_none hnone]
    exact h.reconcile_neither hclock hneither hbooks

theorem Alike.release_step (h : Alike c s) (hclock : s.now.rank ≤ time.rank)
    {reservation : AiBudgetReservation} {cancelled : Bool}
    (hmeets : s.Meets (time, .release reservation cancelled)) :
    Alike c
      { now := time, memory := s.memoryAfter time (.release reservation cancelled),
        tables := tablesAfter c s time (.release reservation cancelled) } := by
  have hstatus : (if cancelled then AiReservationStatus.cancelled else .failed) ≠ .reserved := by
    cases cancelled
    · decide
    · decide
  rcases hmeets.2 with hboth | hneither
  · exact (h.settle _ hstatus hboth).later hclock
  · obtain ⟨hnone, hsame⟩ := h.settle_neither
      (if cancelled then AiReservationStatus.cancelled else .failed) hneither
    have hmemory : s.memoryAfter time (.release reservation cancelled) = s.memory :=
      MemoryAiCostController.delete_of_none hnone
    have htables : tablesAfter c s time (.release reservation cancelled) = s.tables := hsame
    rw [hmemory, htables]
    exact h.later hclock

/-- A call that meets the condition leaves the two alike. -/
theorem alike_of_step (h : Alike c s) {call : AiCostCall} (hstep : step c s (time, call) s')
    (hmeets : s.Meets (time, call)) : Alike c s' := by
  obtain ⟨⟨hclock, hnew, hintime⟩, rfl⟩ := step_eq hstep
  cases call with
  | reserve request id => exact h.reserve_step hclock hintime hnew hmeets
  | reconcile event => exact h.reconcile_step hclock hmeets
  | release reservation cancelled => exact h.release_step hclock hmeets

theorem allSteps_of_alike {run : List ((IsoInstant × AiCostCall) × BothCostControllers)}
    (hrun : Run (step c) s run) (h : Alike c s) (hmeets : StepsMeet Meets s run) :
    AllSteps (GrantAlike c) s run := by
  induction hrun with
  | nil s => trivial
  | cons hstep _ ih =>
      exact ⟨grantAlike_of_alike h hstep hmeets.1, ih (alike_of_step h hstep hmeets.1) hmeets.2⟩

end Runs

/-! ## A key that is used again -/

/-- A controller with a daily limit of eleven and reservations of five minutes. -/
def eleven : PostgreSQLAiCostController where
  defaultDailyLimitEur := 11
  defaultMonthlyLimitEur := 341
  expiresAt t :=
    { t with msOfDay := min (t.msOfDay + 300000) 86399999, ms_lt := by omega }

/-- One is reserved and booked; two more are asked for under other keys. -/
def threeKeys : List (IsoInstant × AiCostCall) :=
  let request (key : String) (cost : ℚ) : AiBudgetReservationRequest :=
    { MemoryBudgetRun.requestOf cost with idempotencyKey := key }
  [(MemoryBudgetRun.noon, .reserve (request "a" 1) "first"),
    (MemoryBudgetRun.noon, .reconcile (MemoryBudgetRun.eventOf ((request "a" 1).grant "first"))),
    (MemoryBudgetRun.noon, .reserve (request "b" 10) "second"),
    (MemoryBudgetRun.noon, .reserve (request "c" 1) "third"),
    (MemoryBudgetRun.noon, .release ((request "b" 10).grant "second") false)]

/-- One is reserved and booked under a key. -/
def settledOnce : List (IsoInstant × AiCostCall) :=
  [(MemoryBudgetRun.noon, .reserve (MemoryBudgetRun.requestOf 1) "first"),
    (MemoryBudgetRun.noon,
      .reconcile (MemoryBudgetRun.eventOf ((MemoryBudgetRun.requestOf 1).grant "first")))]

end BothCostControllers
end AvantimePlatform.Ai
