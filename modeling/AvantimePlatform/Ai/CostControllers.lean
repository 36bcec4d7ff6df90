import AvantimePlatform.Ai.BudgetWindows
import AvantimePlatform.Ai.CostInterchange

/-!
# Cost controllers

The interface `AiCostController`, and its two implementations as instances of it.  The laws say
what a call does to the reservations that are open: a granted one is opened, and the one that is
reconciled or released is closed, with no other.
-/

namespace AvantimePlatform.Ai

/-- What is reserved: the company, the key and the id. -/
structure OpenReservation where
  companyId : String
  idempotencyKey : String
  id : String
deriving DecidableEq

/-- What a reservation holds open. -/
def AiBudgetReservation.held (reservation : AiBudgetReservation) : OpenReservation where
  companyId := reservation.tenant.companyId
  idempotencyKey := reservation.idempotencyKey
  id := reservation.id

/-- `AiCostController`.  `opens` are the reservations that count against a budget. -/
class AiCostController (C : Type) where
  reserve : C → AiBudgetReservationRequest → (id : String) → (now : IsoInstant) →
    Except String (C × Option AiBudgetReservation)
  reconcile : C → AiUsageLedgerEvent → (now : IsoInstant) → Except String C
  release : C → AiBudgetReservation → C
  opens : C → List OpenReservation
  Sound : C → Prop
  reserve_refused : ∀ {c c' : C} {request : AiBudgetReservationRequest} {id : String}
    {now : IsoInstant}, reserve c request id now = .ok (c', none) → c' = c
  reserve_granted : ∀ {c c' : C} {request : AiBudgetReservationRequest} {id : String}
    {now : IsoInstant} {reservation : AiBudgetReservation}, Sound c →
    reserve c request id now = .ok (c', some reservation) →
      Sound c' ∧ (opens c').Perm (reservation.held :: opens c)
  reconcile_closes : ∀ {c c' : C} {event : AiUsageLedgerEvent} {now : IsoInstant}
    {rest : List OpenReservation}, Sound c → (opens c).Perm (event.reservation.held :: rest) →
    reconcile c event now = .ok c' → Sound c' ∧ (opens c').Perm rest
  release_closes : ∀ {c : C} {reservation : AiBudgetReservation} {rest : List OpenReservation},
    Sound c → (opens c).Perm (reservation.held :: rest) →
      Sound (release c reservation) ∧ (opens (release c reservation)).Perm rest

namespace MemoryAiCostController

/-- What an entry of the map holds open. -/
def entryHeld (entry : String × AiBudgetReservation) : OpenReservation := entry.2.held

/-- Each entry stands under the key of its reservation. -/
structure Keyed (c : MemoryAiCostController) : Prop where
  distinct : KeyedList.Distinct Prod.fst c.reservations
  keys : ∀ entry ∈ c.reservations, entry.1 = entry.2.key

/-- What is open is found under its key. -/
theorem find_of_open {c : MemoryAiCostController} {reservation : AiBudgetReservation}
    {rest : List OpenReservation} (hc : c.Keyed)
    (hopens : (c.reservations.map entryHeld).Perm (reservation.held :: rest)) :
    ∃ entry, KeyedList.find Prod.fst reservation.key c.reservations = some entry ∧
      entryHeld entry = reservation.held := by
  obtain ⟨entry, hentry, hheld⟩ := List.mem_map.mp (hopens.mem_iff.mpr List.mem_cons_self)
  have hkey : entry.1 = reservation.key := by
    rw [hc.keys entry hentry]
    unfold AiBudgetReservationRequest.key
    rw [show entry.2.tenant.companyId = reservation.tenant.companyId from
      congrArg OpenReservation.companyId hheld,
      show entry.2.idempotencyKey = reservation.idempotencyKey from
        congrArg OpenReservation.idempotencyKey hheld]
  refine ⟨entry, ?_, hheld⟩
  rw [← hkey]
  exact KeyedList.find_of_mem hc.distinct hentry

theorem delete_closes {c : MemoryAiCostController} {reservation : AiBudgetReservation}
    {rest : List OpenReservation} (hc : c.Keyed)
    (hopens : (c.reservations.map entryHeld).Perm (reservation.held :: rest)) :
    (c.delete reservation.key).Keyed ∧
      ((c.delete reservation.key).reservations.map entryHeld).Perm rest := by
  obtain ⟨entry, hfind, hheld⟩ := find_of_open hc hopens
  constructor
  · exact ⟨KeyedList.distinct_erase hc.distinct, fun other hother =>
      hc.keys other (List.mem_of_mem_eraseP hother)⟩
  · have hperm := (KeyedList.perm_cons_erase hfind).map entryHeld
    rw [List.map_cons, hheld] at hperm
    exact List.Perm.cons_inv (hperm.symm.trans hopens)

theorem keyed_append {c : MemoryAiCostController} {request : AiBudgetReservationRequest}
    {id : String} (hc : c.Keyed) (hnew : (c.reservation? request.key).isSome = false) :
    ({ c with reservations := c.reservations ++ [(request.key, request.grant id)] } :
      MemoryAiCostController).Keyed := by
  have hfind : KeyedList.find Prod.fst request.key c.reservations = none := by
    unfold reservation? at hnew
    rw [Option.isSome_map] at hnew
    exact Option.not_isSome_iff_eq_none.mp (by rw [hnew]; exact Bool.false_ne_true)
  constructor
  · exact KeyedList.distinct_append_new hc.distinct hfind
  · intro entry hentry
    rcases List.mem_append.mp hentry with hold | hnewest
    · exact hc.keys entry hold
    · rw [List.mem_singleton.mp hnewest]
      rfl

instance : AiCostController MemoryAiCostController where
  reserve := reserve
  reconcile := reconcile
  release := release
  opens c := c.reservations.map entryHeld
  Sound := Keyed
  reserve_refused := by
    intro c c' request id now h
    rw [BothCostControllers.memory_reserve_eq] at h
    obtain ⟨u, -, hresult⟩ := Checked.map_eq_ok.mp h
    split at hresult
    · exact (Prod.mk.inj hresult).1.symm
    · cases (Prod.mk.inj hresult).2
  reserve_granted := by
    intro c c' request id now reservation hc h
    rw [BothCostControllers.memory_reserve_eq] at h
    obtain ⟨u, -, hresult⟩ := Checked.map_eq_ok.mp h
    split at hresult
    · cases (Prod.mk.inj hresult).2
    · next hroom =>
        obtain ⟨rfl, hgranted⟩ := Prod.mk.inj hresult
        obtain rfl := Option.some.inj hgranted
        have hnew : (c.reservation? request.key).isSome = false := by
          unfold BothCostControllers.memoryRefuses at hroom
          rw [Bool.or_eq_true, not_or] at hroom
          exact Bool.eq_false_iff.mpr hroom.1
        refine ⟨keyed_append hc hnew, ?_⟩
        rw [List.map_append]
        exact List.perm_append_singleton _ _
  reconcile_closes := by
    intro c c' event now rest hc hopens h
    unfold reconcile at h
    obtain ⟨-, h⟩ := Checked.seq_eq_ok.mp h
    obtain ⟨hkeyed, hperm⟩ := delete_closes hc hopens
    split at h
    · next hnone =>
        -- What the call holds is in the map.
        obtain ⟨entry, hfind, -⟩ := find_of_open hc hopens
        unfold reservation? at hnone
        rw [hfind] at hnone
        cases hnone
    · rw [← Except.ok.inj h]
      exact ⟨⟨hkeyed.distinct, hkeyed.keys⟩, hperm⟩
  release_closes := delete_closes

end MemoryAiCostController

/-- `PostgreSQLAiCostController` with its tables. -/
structure AiCostLedger where
  controller : PostgreSQLAiCostController
  tables : AiCostTables

namespace AiCostLedger

open AiCostTables BothCostControllers

/-- What a row holds open. -/
def rowHeld (row : AiBudgetReservationRow) : OpenReservation :=
  ⟨row.companyId, row.idempotencyKey, row.id⟩

def reserve (ledger : AiCostLedger) (request : AiBudgetReservationRequest) (id : String)
    (now : IsoInstant) : Except String (AiCostLedger × Option AiBudgetReservation) :=
  (ledger.controller.reserve ledger.tables request id now).map fun outcome =>
    ({ ledger with tables := outcome.1 }, outcome.2)

/-- What `reserve` does to the tables. -/
theorem reserve_cases {ledger ledger' : AiCostLedger} {request : AiBudgetReservationRequest}
    {id : String} {now : IsoInstant} {granted : Option AiBudgetReservation}
    (h : ledger.reserve request id now = .ok (ledger', granted)) :
    (ledger' = ledger ∧ granted = none) ∨
      ledger.tables.isReservedKey request = false ∧
      (∀ row ∈ ledger.tables.reservations, row.id ≠ id) ∧
      ledger' = { ledger with
        tables := { ledger.tables with
          reservations := ledger.tables.reservations ++
            [ledger.controller.reservationRow request id now] } } ∧
      granted = some (request.grant id) := by
  unfold reserve at h
  obtain ⟨⟨tables, granted'⟩, hreserve, houtcome⟩ := Checked.map_eq_ok.mp h
  obtain ⟨rfl, rfl⟩ := Prod.mk.inj houtcome
  unfold PostgreSQLAiCostController.reserve at hreserve
  obtain ⟨-, hreserve⟩ := Checked.seq_eq_ok.mp hreserve
  split at hreserve
  · obtain ⟨rfl, rfl⟩ := Prod.mk.inj (Except.ok.inj hreserve)
    exact Or.inl ⟨rfl, rfl⟩
  · unfold PostgreSQLAiCostController.insertReservation at hreserve
    split at hreserve
    · obtain ⟨rfl, rfl⟩ := Prod.mk.inj (Except.ok.inj hreserve)
      exact Or.inl ⟨rfl, rfl⟩
    · next hkey =>
        split at hreserve
        · cases hreserve
        · next hfree =>
            obtain ⟨rfl, rfl⟩ := Prod.mk.inj (Except.ok.inj hreserve)
            refine Or.inr ⟨Bool.eq_false_iff.mpr hkey, fun row hrow hid => hfree ?_, rfl, rfl⟩
            exact List.any_eq_true.mpr ⟨row, hrow, by simpa using hid⟩

theorem settle_closes {ledger : AiCostLedger} {reservation : AiBudgetReservation}
    {status : AiReservationStatus} {rest : List OpenReservation}
    (hids : KeyedList.Distinct AiBudgetReservationRow.id ledger.tables.reservations)
    (hstatus : status ≠ .reserved)
    (hopens : ((openRows ledger.tables).map rowHeld).Perm (reservation.held :: rest)) :
    KeyedList.Distinct AiBudgetReservationRow.id
        (ledger.tables.settle reservation status).reservations ∧
      ((openRows (ledger.tables.settle reservation status)).map rowHeld).Perm rest := by
  constructor
  · have hkey : ∀ row : AiBudgetReservationRow,
        ({ row with status := status } : AiBudgetReservationRow).id = row.id := fun _ => rfl
    exact KeyedList.distinct_updateMany hkey hids
  · obtain ⟨row, hrow, hheld⟩ := List.mem_map.mp (hopens.mem_iff.mpr List.mem_cons_self)
    have hdistinct : KeyedList.Distinct AiBudgetReservationRow.id (openRows ledger.tables) :=
      hids.sublist (List.filter_sublist.map AiBudgetReservationRow.id)
    have hid : row.id = reservation.id := congrArg OpenReservation.id hheld
    have hcompany : row.companyId = reservation.tenant.companyId :=
      congrArg OpenReservation.companyId hheld
    have hselects : ∀ other ∈ openRows ledger.tables,
        (!isOpen reservation other) = !(other.id == reservation.id) := by
      intro other hother
      cases hsame : other.id == reservation.id with
      | false =>
          have hnot : isOpen reservation other = false := by
            unfold isOpen
            rw [hsame, Bool.false_and, Bool.false_and]
          rw [hnot]
      | true =>
          have hrows : other = row := KeyedList.eq_of_key hdistinct hother hrow (by
            rw [hid]
            simpa using hsame)
          have hopen : isOpen reservation other = true := by
            rw [isOpen_iff, hrows]
            exact ⟨hid, hcompany, (mem_openRows.mp hrow).2⟩
          rw [hopen]
    have hfind : KeyedList.find AiBudgetReservationRow.id reservation.id
        (openRows ledger.tables) = some row := by
      rw [← hid]
      exact KeyedList.find_of_mem hdistinct hrow
    rw [openRows_settle _ hstatus, List.filter_congr hselects,
      ← KeyedList.erase_eq_filter hdistinct]
    have hperm := (KeyedList.perm_cons_erase hfind).map rowHeld
    rw [List.map_cons, hheld] at hperm
    exact List.Perm.cons_inv (hperm.symm.trans hopens)

instance : AiCostController AiCostLedger where
  reserve := reserve
  reconcile ledger event now :=
    .ok { ledger with tables := ledger.tables.reconcile event now }
  release ledger reservation := { ledger with tables := ledger.tables.release reservation false }
  opens ledger := (openRows ledger.tables).map rowHeld
  Sound ledger := KeyedList.Distinct AiBudgetReservationRow.id ledger.tables.reservations
  reserve_refused := by
    intro ledger ledger' request id now h
    rcases reserve_cases h with ⟨hsame, -⟩ | ⟨-, -, -, hgranted⟩
    · exact hsame
    · cases hgranted
  reserve_granted := by
    intro ledger ledger' request id now reservation hc h
    rcases reserve_cases h with ⟨-, hnone⟩ | ⟨-, hnew, rfl, hgranted⟩
    · cases hnone
    · obtain rfl := Option.some.inj hgranted
      constructor
      · refine KeyedList.distinct_append_new hc (KeyedList.find_eq_none.mpr fun row hrow => ?_)
        exact hnew row hrow
      · dsimp only
        unfold openRows
        rw [List.filter_append, List.map_append]
        exact List.perm_append_singleton _ _
  reconcile_closes := by
    intro ledger ledger' event now rest hc hopens h
    rw [← Except.ok.inj h]
    exact settle_closes hc nofun hopens
  release_closes := fun hc hopens => settle_closes hc nofun hopens

end AiCostLedger

end AvantimePlatform.Ai
