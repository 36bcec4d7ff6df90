import AvantimePlatform.Ai.CostControl
import AvantimePlatform.Lib.Checked
import AvantimePlatform.Lib.Transition

/-!
# The budget of the memory cost controller

Runs of `reserve`, `reconcile` and `release` over a clock that does not go back.
A reservation is not tied to a day, while usage is booked to the day and the month
of the call, so the invariant speaks of the current instant and of every later
one: what is booked to a day that has not begun is nothing.

`reconcile` finds the live reservation by its key alone.  When a key is reserved
again, the event of the earlier reservation consumes the new one, and books the
cost of the old.  As long as every event books at most what the reservation it
finds had reserved, the limits hold (`budget_safe`).
-/

namespace AvantimePlatform.Ai

open AvantimePlatform.Transition

namespace MemoryAiCostController

variable {c c' : MemoryAiCostController}

/-! ## What the calls do -/

theorem reserve_cases {request : AiBudgetReservationRequest} {id : String} {now : IsoInstant}
    {granted : Option AiBudgetReservation}
    (h : c.reserve request id now = .ok (c', granted)) :
    (c' = c ∧ granted = none) ∨
      (0 ≤ request.estimatedCostEur ∧ c.reservation? request.key = none ∧
        exceeds c.dailyLimitEur (c.booked (dayKey request.tenant.companyId now))
          (c.reserved request.tenant.companyId) request.estimatedCostEur = false ∧
        exceeds c.monthlyLimitEur (c.booked (monthKey request.tenant.companyId now))
          (c.reserved request.tenant.companyId) request.estimatedCostEur = false ∧
        c' = { c with reservations := c.reservations ++ [(request.key, request.grant id)] } ∧
        granted = some (request.grant id)) := by
  obtain ⟨_, hcost, h⟩ := Checked.bind_eq_ok.mp h
  dsimp only at h
  split at h
  · exact Or.inl (by simpa [pure, Except.pure, eq_comm] using h)
  · next hfree =>
    split at h
    · exact Or.inl (by simpa [pure, Except.pure, eq_comm] using h)
    · next hlimits =>
      rw [Bool.not_eq_true, Bool.or_eq_false_iff] at hlimits
      obtain ⟨rfl, rfl⟩ : _ = c' ∧ _ = granted := by simpa [pure, Except.pure] using h
      exact Or.inr ⟨assertCost_eq_ok.mp hcost, by simpa using hfree, hlimits.1, hlimits.2, rfl, rfl⟩

theorem reconcile_cases {event : AiUsageLedgerEvent} {now : IsoInstant}
    (h : c.reconcile event now = .ok c') :
    c' = c ∨ ∃ live, c.reservation? event.reservation.key = some live ∧
      c' = ((c.delete event.reservation.key).book
          (dayKey event.reservation.tenant.companyId now) event.cost).book
        (monthKey event.reservation.tenant.companyId now) event.cost := by
  obtain ⟨_, hcost, h⟩ := Checked.bind_eq_ok.mp h
  dsimp only at h
  split at h
  · exact Or.inl (Except.ok.inj h).symm
  · next hlive =>
    obtain ⟨live, hlive⟩ := Option.ne_none_iff_exists'.mp (by simpa using hlive)
    exact Or.inr ⟨live, hlive, (Except.ok.inj h).symm⟩

/-! ## What they change in the two sums -/

theorem reserved_append (c : MemoryAiCostController) (entry : String × AiBudgetReservation)
    (companyId : String) :
    ({ c with reservations := c.reservations ++ [entry] } : MemoryAiCostController).reserved
        companyId =
      c.reserved companyId +
        if entry.2.tenant.companyId = companyId then entry.2.reservedCostEur else 0 := by
  unfold reserved
  by_cases h : entry.2.tenant.companyId = companyId
  · simp [h]
  · simp [h]

theorem reserved_delete {key : String} {live : AiBudgetReservation}
    (h : c.reservation? key = some live) (companyId : String) :
    c.reserved companyId =
      (c.delete key).reserved companyId +
        if live.tenant.companyId = companyId then live.reservedCostEur else 0 := by
  obtain ⟨entry, hfound, rfl⟩ := Option.map_eq_some_iff.mp h
  have hperm := KeyedList.perm_cons_erase hfound
  have hsum := ((hperm.filter fun entry => entry.2.tenant.companyId == companyId).map
    fun entry => entry.2.reservedCostEur).sum_eq
  show _ = ((c.delete key).reservations.filter _ |>.map _).sum + _
  rw [reserved, hsum]
  by_cases hcompany : entry.2.tenant.companyId = companyId
  · simp [delete, hcompany, add_comm]
  · simp [delete, hcompany]

theorem delete_of_none {key : String} (h : c.reservation? key = none) : c.delete key = c := by
  have hnone : KeyedList.find Prod.fst key c.reservations = none := Option.map_eq_none_iff.mp h
  have herase : KeyedList.erase Prod.fst key c.reservations = c.reservations := by
    refine List.eraseP_of_forall_not fun entry hentry => ?_
    simpa using KeyedList.find_eq_none.mp hnone entry hentry
  unfold delete
  rw [herase]

theorem booked_book (c : MemoryAiCostController) (key key' : String) (cost : ℚ) :
    (c.book key cost).booked key' = c.booked key' + if key' = key then cost else 0 := by
  unfold booked book
  rw [Table.lookup_insert]
  by_cases h : key' = key
  · rw [h]
    simp [booked]
  · simp [h]

/-! ## The invariant -/

/-- What is booked under a key of each company and what is reserved is within a limit,
when there is one. -/
def Within (c : MemoryAiCostController) (limit : ℚ) (key : String → String) : Prop :=
  0 < limit → ∀ companyId, c.booked (key companyId) + c.reserved companyId ≤ limit

/-- The budget holds at an instant. -/
def WithinLimits (c : MemoryAiCostController) (now : IsoInstant) : Prop :=
  c.Within c.dailyLimitEur (dayKey · now) ∧ c.Within c.monthlyLimitEur (monthKey · now)

/-- Usage is booked only to days and months that have begun. -/
def Begun (c : MemoryAiCostController) (now : IsoInstant) : Prop :=
  ∀ key cost, c.usage.lookup key = some cost → ∃ companyId t, t.rank ≤ now.rank ∧
    (key = dayKey companyId t ∨ key = monthKey companyId t)

/-- The invariant: the budget holds, and no sum is negative. -/
structure Sound (c : MemoryAiCostController) (now : IsoInstant) : Prop where
  reserved_nonneg : ∀ entry ∈ c.reservations, 0 ≤ entry.2.reservedCostEur
  booked_nonneg : ∀ key, 0 ≤ c.booked key
  begun : c.Begun now
  limits : c.WithinLimits now

variable {now now' : IsoInstant}

theorem Within.reserve {limit : ℚ} {key : String → String} (h : c.Within limit key)
    {request : AiBudgetReservationRequest} {id : String}
    (hlimit : exceeds limit (c.booked (key request.tenant.companyId))
      (c.reserved request.tenant.companyId) request.estimatedCostEur = false) :
    ({ c with reservations := c.reservations ++ [(request.key, request.grant id)] } :
      MemoryAiCostController).Within limit key := by
  intro hpos companyId
  rw [reserved_append]
  show c.booked (key companyId) + _ ≤ _
  by_cases hcompany : request.tenant.companyId = companyId
  · have hroom : ¬limit < c.booked (key companyId) + c.reserved companyId +
        request.estimatedCostEur := by
      rw [← hcompany]
      simpa [exceeds, hpos] using hlimit
    have hgrant : (request.grant id).tenant.companyId = companyId := hcompany
    rw [if_pos hgrant, ← add_assoc]
    exact not_lt.mp hroom
  · have hgrant : ¬(request.grant id).tenant.companyId = companyId := hcompany
    rw [if_neg hgrant, add_zero]
    exact h hpos companyId

theorem reserved_delete_le (hnonneg : ∀ entry ∈ c.reservations, 0 ≤ entry.2.reservedCostEur)
    (key companyId : String) : (c.delete key).reserved companyId ≤ c.reserved companyId := by
  cases hlive : c.reservation? key with
  | none => rw [delete_of_none hlive]
  | some live =>
      rw [reserved_delete hlive companyId]
      obtain ⟨entry, hfound, rfl⟩ := Option.map_eq_some_iff.mp hlive
      have hentry := hnonneg entry (KeyedList.find_eq_some hfound).1
      split
      · linarith
      · linarith

/-- The cost that is booked is taken from the reservation that is dropped. -/
theorem Within.reconcile {limit : ℚ} {key : String → String} (h : c.Within limit key)
    {booked : MemoryAiCostController} {k : String} {live : AiBudgetReservation} {cost : ℚ}
    (hlive : c.reservation? k = some live) (hcost : cost ≤ live.reservedCostEur)
    (hreserved : ∀ companyId, booked.reserved companyId = (c.delete k).reserved companyId)
    (hbooked : ∀ companyId, booked.booked (key companyId) = c.booked (key companyId) +
      if companyId = live.tenant.companyId then cost else 0) :
    booked.Within limit key := by
  intro hpos companyId
  have hbefore := h hpos companyId
  rw [reserved_delete hlive companyId] at hbefore
  rw [hreserved, hbooked]
  by_cases hcompany : companyId = live.tenant.companyId
  · rw [if_pos hcompany]
    rw [if_pos hcompany.symm] at hbefore
    linarith
  · rw [if_neg hcompany]
    rw [if_neg (fun heq => hcompany heq.symm)] at hbefore
    linarith

/-! ## The clock -/

/-- A name of a day or of a month that is used at two instants is used at all instants
between them; a later name than any used has nothing booked to it. -/
theorem Within.later {limit : ℚ} (key : IsoInstant → String → String)
    (hcontiguous : ∀ companyId companyId' t, t.rank ≤ now.rank →
      key now' companyId = key t companyId' → key now' companyId = key now companyId)
    (hbegun : ∀ companyId cost, c.usage.lookup (key now' companyId) = some cost →
      ∃ companyId' t, t.rank ≤ now.rank ∧ key now' companyId = key t companyId')
    (hnonneg : ∀ k, 0 ≤ c.booked k) (h : c.Within limit (key now)) :
    c.Within limit (key now') := by
  intro hpos companyId
  have hbefore := h hpos companyId
  cases hlookup : c.usage.lookup (key now' companyId) with
  | none =>
      have hzero : c.booked (key now' companyId) = 0 := by simp [booked, hlookup]
      have := hnonneg (key now companyId)
      rw [hzero]
      linarith
  | some cost =>
      obtain ⟨companyId', t, ht, hkey⟩ := hbegun companyId cost hlookup
      rw [hcontiguous companyId companyId' t ht hkey]
      exact hbefore

theorem Sound.later (h : c.Sound now) (hclock : now.rank ≤ now'.rank) : c.Sound now' where
  reserved_nonneg := h.reserved_nonneg
  booked_nonneg := h.booked_nonneg
  begun := by
    intro key cost hlookup
    obtain ⟨companyId, t, ht, hkey⟩ := h.begun key cost hlookup
    exact ⟨companyId, t, ht.trans hclock, hkey⟩
  limits := by
    constructor
    · refine h.limits.1.later (fun now companyId => dayKey companyId now) ?_ ?_
        h.booked_nonneg
      · intro companyId companyId' t ht hkey
        obtain ⟨_, htext⟩ := dayKey_inj hkey
        have hbetween := IsoInstant.dayText_between ht hclock htext.symm
        show dayKey companyId now' = dayKey companyId now
        rw [dayKey, dayKey, htext, hbetween]
      · intro companyId cost hlookup
        obtain ⟨companyId', t, ht, hday | hmonth⟩ := h.begun _ cost hlookup
        · exact ⟨companyId', t, ht, hday⟩
        · exact absurd hmonth (dayKey_ne_monthKey _ _ _ _)
    · refine h.limits.2.later (fun now companyId => monthKey companyId now) ?_ ?_
        h.booked_nonneg
      · intro companyId companyId' t ht hkey
        obtain ⟨_, htext⟩ := monthKey_inj hkey
        have hbetween := IsoInstant.monthText_between ht hclock htext.symm
        show monthKey companyId now' = monthKey companyId now
        rw [monthKey, monthKey, htext, hbetween]
      · intro companyId cost hlookup
        obtain ⟨companyId', t, ht, hday | hmonth⟩ := h.begun _ cost hlookup
        · exact absurd hday.symm (dayKey_ne_monthKey _ _ _ _)
        · exact ⟨companyId', t, ht, hmonth⟩

/-! ## The calls keep it -/

theorem Sound.delete (h : c.Sound now) (key : String) : (c.delete key).Sound now where
  reserved_nonneg := by
    intro entry hentry
    exact h.reserved_nonneg entry (List.mem_of_mem_eraseP hentry)
  booked_nonneg := h.booked_nonneg
  begun := h.begun
  limits := by
    have hless := reserved_delete_le h.reserved_nonneg key
    constructor
    · intro hpos companyId
      have hbefore := h.limits.1 hpos companyId
      show c.booked (dayKey companyId now) + _ ≤ c.dailyLimitEur
      have := hless companyId
      linarith
    · intro hpos companyId
      have hbefore := h.limits.2 hpos companyId
      show c.booked (monthKey companyId now) + _ ≤ c.monthlyLimitEur
      have := hless companyId
      linarith

theorem Sound.reserve (h : c.Sound now) {request : AiBudgetReservationRequest} {id : String}
    {granted : Option AiBudgetReservation}
    (hreserve : c.reserve request id now = .ok (c', granted)) : c'.Sound now := by
  rcases reserve_cases hreserve with ⟨rfl, -⟩ | ⟨hcost, -, hdaily, hmonthly, rfl, -⟩
  · exact h
  · exact
      { reserved_nonneg := by
          intro entry hentry
          rcases List.mem_append.mp hentry with hold | hnew
          · exact h.reserved_nonneg entry hold
          · rw [List.mem_singleton.mp hnew]
            exact hcost
        booked_nonneg := h.booked_nonneg
        begun := h.begun
        limits := ⟨h.limits.1.reserve hdaily, h.limits.2.reserve hmonthly⟩ }

/-- An event books to the company of the reservation that it finds, and at most what
that reservation had reserved. -/
def BooksWhatIsReserved (c : MemoryAiCostController) (event : AiUsageLedgerEvent) : Prop :=
  ∀ live, c.reservation? event.reservation.key = some live →
    live.tenant.companyId = event.reservation.tenant.companyId ∧
      0 ≤ event.cost ∧ event.cost ≤ live.reservedCostEur

theorem booked_nonneg_book (h : ∀ k, 0 ≤ c.booked k) {cost : ℚ} (hcost : 0 ≤ cost)
    (key k : String) : 0 ≤ (c.book key cost).booked k := by
  rw [booked_book]
  have := h k
  split
  · linarith
  · linarith

theorem begun_book (h : c.Begun now) {companyId : String} {key : String}
    (hkey : key = dayKey companyId now ∨ key = monthKey companyId now) (cost : ℚ) :
    (c.book key cost).Begun now := by
  intro k v hlookup
  rw [book, Table.lookup_insert] at hlookup
  split at hlookup
  · next hk => exact ⟨companyId, now, le_refl _, hk ▸ hkey⟩
  · exact h k v hlookup

theorem Sound.reconcile (h : c.Sound now) {event : AiUsageLedgerEvent}
    (hbooks : c.BooksWhatIsReserved event) (hreconcile : c.reconcile event now = .ok c') :
    c'.Sound now := by
  rcases reconcile_cases hreconcile with rfl | ⟨live, hlive, rfl⟩
  · exact h
  · obtain ⟨hcompany, hnonneg, hcost⟩ := hbooks live hlive
    rw [← hcompany]
    have hless := h.delete event.reservation.key
    exact
      { reserved_nonneg := hless.reserved_nonneg
        booked_nonneg := booked_nonneg_book (booked_nonneg_book hless.booked_nonneg hnonneg _)
          hnonneg _
        begun := begun_book (begun_book hless.begun (Or.inl rfl) _) (Or.inr rfl) _
        limits := by
          constructor
          · refine h.limits.1.reconcile hlive hcost (fun _ => rfl) fun companyId => ?_
            -- The month's entry is another one.
            rw [booked_book, booked_book, if_neg (dayKey_ne_monthKey _ _ _ _), add_zero]
            simp only [dayKey_eq_iff]
            rfl
          · refine h.limits.2.reconcile hlive hcost (fun _ => rfl) fun companyId => ?_
            rw [booked_book, booked_book, if_neg (dayKey_ne_monthKey _ _ _ _).symm, add_zero]
            simp only [monthKey_eq_iff]
            rfl }

end MemoryAiCostController

/-! ## Runs -/

/-- A controller and the clock it was last called at. -/
structure MemoryBudgetRun where
  controller : MemoryAiCostController
  now : IsoInstant

/-- A call of the controller; `reserve` carries the id that `randomUUID` gives. -/
inductive CostCall where
  | reserve (request : AiBudgetReservationRequest) (id : String)
  | reconcile (event : AiUsageLedgerEvent)
  | release (reservation : AiBudgetReservation)
  /-- Time goes by. -/
  | wait

/-- What a call leaves; a call that throws changes nothing. -/
def CostCall.run (c : MemoryAiCostController) (now : IsoInstant) : CostCall → MemoryAiCostController
  | .reserve request id =>
      match c.reserve request id now with
      | .ok (c', _) => c'
      | .error _ => c
  | .reconcile event =>
      match c.reconcile event now with
      | .ok c' => c'
      | .error _ => c
  | .release reservation => c.release reservation
  | .wait => c

/-- An event reconciles at most what its reservation had reserved. -/
def CostCall.IsAdmissible : CostCall → Prop
  | .reconcile event => event.cost ≤ event.reservation.reservedCostEur
  | _ => True

instance : DecidablePred CostCall.IsAdmissible := by
  intro call
  cases call with
  | reconcile event => exact inferInstanceAs (Decidable (_ ≤ _))
  | reserve => exact isTrue trivial
  | release => exact isTrue trivial
  | wait => exact isTrue trivial

namespace MemoryBudgetRun

/-- A fresh controller with any limits. -/
def IsInitial (s : MemoryBudgetRun) : Prop :=
  ∃ daily monthly, s.controller = MemoryAiCostController.new daily monthly

/-- One call, at an instant that is not before the last. -/
def next (s : MemoryBudgetRun) (step : IsoInstant × CostCall) : Option MemoryBudgetRun :=
  if s.now.rank ≤ step.1.rank ∧ step.2.IsAdmissible then
    some { controller := step.2.run s.controller step.1, now := step.1 }
  else none

/-- The condition on a call: an event that finds a reservation books what that one had
reserved, or less. -/
def BooksWhatIsReserved (s : MemoryBudgetRun) (step : IsoInstant × CostCall) : Prop :=
  ∀ event, step.2 = .reconcile event → s.controller.BooksWhatIsReserved event

theorem sound_new (daily : ℚ) (monthly : Option ℚ) (now : IsoInstant) :
    (MemoryAiCostController.new daily monthly).Sound now where
  reserved_nonneg := by
    intro entry hentry
    cases hentry
  booked_nonneg := by
    intro key
    exact le_refl _
  begun := by
    intro key cost hlookup
    cases hlookup
  limits := by
    constructor
    · intro hpos companyId
      show (0 : ℚ) + 0 ≤ _
      rw [add_zero]
      exact hpos.le
    · intro hpos companyId
      show (0 : ℚ) + 0 ≤ _
      rw [add_zero]
      exact hpos.le

theorem sound_step {s s' : MemoryBudgetRun} {step : IsoInstant × CostCall}
    (h : s.controller.Sound s.now) (hbooks : BooksWhatIsReserved s step)
    (hstep : next s step = some s') : s'.controller.Sound s'.now := by
  obtain ⟨now, call⟩ := step
  unfold next at hstep
  split at hstep
  · next hclock =>
    obtain rfl := Option.some.inj hstep
    have hlater := h.later hclock.1
    show (call.run s.controller now).Sound now
    cases call with
    | reserve request id =>
        simp only [CostCall.run]
        split
        · next c' granted hreserve => exact hlater.reserve hreserve
        · exact hlater
    | reconcile event =>
        simp only [CostCall.run]
        split
        · next c' hreconcile => exact hlater.reconcile (hbooks event rfl) hreconcile
        · exact hlater
    | release reservation => exact hlater.delete reservation.key
    | wait => exact hlater
  · cases hstep

/-- In every run whose events book no more than the reservation they find had reserved,
the budget of every company holds in every state. -/
theorem budget_safe {s : MemoryBudgetRun}
    (h : Reachable IsInitial (Guarded BooksWhatIsReserved (stepOf next)) s) :
    s.controller.WithinLimits s.now := by
  have hsound : s.controller.Sound s.now := by
    refine h.invariant (fun s => s.controller.Sound s.now) ?_ ?_
    · rintro s ⟨daily, monthly, hnew⟩
      rw [hnew]
      exact sound_new daily monthly s.now
    · intro s step s' hsound hstep
      exact sound_step hsound hstep.1 hstep.2
  exact hsound.limits

/-! ## A key that is reserved again -/

theorem year_noon : (2026 : Int).natAbs < 1000000 := by decide

theorem month_noon : 1 < 13 := by decide

theorem day_noon : 15 < 32 := by decide

theorem ms_noon : 43200000 < 86400000 := by decide

/-- Noon of a day. -/
def noon : IsoInstant where
  year := 2026
  month := 1
  day := 15
  msOfDay := 43200000
  year_lt := year_noon
  month_lt := month_noon
  day_lt := day_noon
  ms_lt := ms_noon

/-- A request of a cost under one and the same key. -/
def requestOf (cost : ℚ) : AiBudgetReservationRequest where
  tenant := { companyId := "company", userId := "user" }
  provider := "mock"
  model := "model"
  requestType := .documentEmbedding
  correlationId := "correlation"
  idempotencyKey := "key"
  estimatedCostEur := cost

/-- The event that books all of a reservation. -/
def eventOf (reservation : AiBudgetReservation) : AiUsageLedgerEvent where
  reservation := reservation
  inputTokens := 1
  outputTokens := 0
  embeddingUnits := 1
  estimatedCostEur := reservation.reservedCostEur
  actualCostEur := none
  status := .succeeded

/-- A fresh controller with a daily limit of eleven. -/
def limitEleven : MemoryBudgetRun where
  controller := MemoryAiCostController.new 11 none
  now := noon

/-- Ten are reserved and reconciled; one is reserved under the same key; the event of
the ten comes once more. -/
def reconciledTwice : List (IsoInstant × CostCall) :=
  [(noon, .reserve (requestOf 10) "first"),
    (noon, .reconcile (eventOf ((requestOf 10).grant "first"))),
    (noon, .reserve (requestOf 1) "second"),
    (noon, .reconcile (eventOf ((requestOf 10).grant "first")))]

/-- The limits hold when the ten are reserved. -/
theorem budget_safe_tenReserved :
    ∃ s, next limitEleven (noon, .reserve (requestOf 10) "first") = some s ∧
      s.controller.WithinLimits s.now := by
  have hstart : Reachable IsInitial (Guarded BooksWhatIsReserved (stepOf next)) limitEleven :=
    Reachable.start ⟨11, none, rfl⟩
  obtain ⟨s, hs⟩ := Option.isSome_iff_exists.mp
    (show (next limitEleven (noon, .reserve (requestOf 10) "first")).isSome = true by decide)
  have hok : BooksWhatIsReserved limitEleven (noon, .reserve (requestOf 10) "first") := by
    intro event hevent
    cases hevent
  exact ⟨s, hs, budget_safe (hstart.next ⟨hok, hs⟩)⟩

/-- Twenty are booked to one day. -/
theorem daily_limit_exceeded :
    ∃ s, Reachable IsInitial (stepOf next) s ∧ ¬s.controller.WithinLimits s.now := by
  obtain ⟨s, hreachable, hlimit, hbooked⟩ := exists_reachable_of_exec
    (fun s : MemoryBudgetRun => s.controller.dailyLimitEur = 11 ∧
      11 < s.controller.booked (dayKey "company" s.now) + s.controller.reserved "company")
    next (s := limitEleven) reconciledTwice (show IsInitial limitEleven from ⟨11, none, rfl⟩)
    (by decide +kernel)
  refine ⟨s, hreachable, fun hwithin => ?_⟩
  have hday := hwithin.1 (by rw [hlimit]; norm_num) "company"
  rw [hlimit] at hday
  exact absurd hbooked (not_lt.mpr hday)

end MemoryBudgetRun
end AvantimePlatform.Ai
