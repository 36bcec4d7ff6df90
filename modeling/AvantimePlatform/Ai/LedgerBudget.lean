import AvantimePlatform.Ai.BudgetWindows
import AvantimePlatform.Ai.MemoryBudget
import AvantimePlatform.Lib.InterleavingPairs

/-!
# The budget of the PostgreSQL cost controller

Calls of `reserve`, `reconcile` and `release` at the same time.  A reservation is made in a
transaction that waits for its company's advisory lock; its timestamps are those of the
instant at which it began.  The other two calls are one statement each and take no lock.

While a transaction has the lock, only it can add to what its company holds, so the room
that its totals show is still there when it inserts.  What it saw may be of an earlier
instant, and time only adds to the room.

`reconcile` books an event whether or not the reservation that it names is still reserved.
Where that one was released, its room may have been given away.  As long as every cost that
is booked finds its reservation still reserved, the limits hold in every state
(`ledger_budget_safe`).
-/

namespace AvantimePlatform.Ai

open AvantimePlatform.Documents AvantimePlatform.Interleaving AvantimePlatform.Transition
open AiCostTables PostgreSQLAiCostController

/-- The database, the clock, and the reservations that calls have returned. -/
structure CostServer where
  now : IsoInstant
  tables : AiCostTables
  /-- The transaction that has each advisory lock. -/
  locks : Table Int Nat := ∅
  nextTransaction : Nat := 0
  granted : List AiBudgetReservation := []

/-- Where a call is. -/
inductive CostCallState where
  | reserve (request : AiBudgetReservationRequest)
  | lock (request : AiBudgetReservationRequest) (transaction : Nat) (startedAt : IsoInstant)
  | totals (request : AiBudgetReservationRequest) (transaction : Nat) (startedAt : IsoInstant)
  | insert (request : AiBudgetReservationRequest) (transaction : Nat) (startedAt : IsoInstant)
  | reconcile (event : AiUsageLedgerEvent)
  | writeUsage (event : AiUsageLedgerEvent) (startedAt : IsoInstant)
  | release (reservation : AiBudgetReservation) (cancelled : Bool)
deriving DecidableEq

/-- How a statement ends: it takes effect, with the id that `randomUUID` gave, or it fails
and its transaction is rolled back. -/
inductive CostAnswer where
  | done (id : String)
  | fails
deriving DecidableEq

/-- The transaction of a call. -/
def CostCallState.transaction : CostCallState → Option Nat
  | .lock _ transaction _ => some transaction
  | .totals _ transaction _ => some transaction
  | .insert _ transaction _ => some transaction
  | _ => none

namespace CostServer

variable (c : PostgreSQLAiCostController) (hashtextextended : String → Int)

/-- The end of a transaction releases its lock. -/
def unlock (s : CostServer) (request : AiBudgetReservationRequest) : CostServer :=
  { s with locks := s.locks.erase (hashtextextended request.tenant.companyId) }

/-- One step of a call. -/
def advance (s : CostServer) (answer : CostAnswer) :
    CostCallState → Option (CostServer × Option CostCallState)
  | .reserve request =>
      match assertCost request.estimatedCostEur "estimatedCostEur" with
      | .error _ => some (s, none)
      | .ok _ =>
          some ({ s with nextTransaction := s.nextTransaction + 1 },
            some (.lock request s.nextTransaction s.now))
  | .lock request transaction startedAt =>
      match answer with
      | .fails => some (s, none)
      | .done _ =>
          -- The statement waits while another transaction has the lock.
          if (s.locks.lookup (hashtextextended request.tenant.companyId)).isNone then
            some ({ s with
              locks := s.locks.insert (hashtextextended request.tenant.companyId) transaction },
              some (.totals request transaction startedAt))
          else none
  | .totals request transaction startedAt =>
      match answer with
      | .fails => some (s.unlock hashtextextended request, none)
      | .done _ =>
          if (c.totals s.tables request.tenant.companyId request.provider startedAt).exceeded
              request.estimatedCostEur then
            some (s.unlock hashtextextended request, none)
          else some (s, some (.insert request transaction startedAt))
  | .insert request _ startedAt =>
      match answer with
      | .fails => some (s.unlock hashtextextended request, none)
      | .done id =>
          match c.insertReservation s.tables request id startedAt with
          | .error _ => some (s.unlock hashtextextended request, none)
          | .ok (tables, granted) =>
              some ({ s.unlock hashtextextended request with
                tables := tables, granted := s.granted ++ granted.toList }, none)
  | .reconcile event => some (s, some (.writeUsage event s.now))
  | .writeUsage event startedAt =>
      match answer with
      | .fails => some (s, none)
      | .done _ => some ({ s with tables := s.tables.reconcile event startedAt }, none)
  | .release reservation cancelled =>
      match answer with
      | .fails => some (s, none)
      | .done _ => some ({ s with tables := s.tables.release reservation cancelled }, none)

/-- The clock moves on. -/
def tick (s : CostServer) (now : IsoInstant) : CostServer :=
  if s.now.rank ≤ now.rank then { s with now := now } else s

/-- The code of the calls. -/
def costCalls : Program CostServer CostCallState IsoInstant CostAnswer where
  env := tick
  initial
    | .reserve _ => true
    | .reconcile _ => true
    | .release _ _ => true
    | _ => false
  advance := advance c hashtextextended

/-- Nothing is booked or reserved, under any budget policies, and no call is in progress. -/
def IsInitial (w : World CostServer CostCallState) : Prop :=
  (∃ now policies, w.shared = { now := now, tables := { policies := policies } }) ∧
    w.locals = []

/-- The budget: for each company and each of its positive limits, what is spent in the
window and what the unexpired reservations hold. -/
def WithinBudget (s : CostServer) : Prop :=
  ∀ companyId w limit, c.limit s.tables companyId w = some limit → 0 < limit →
    s.tables.spent companyId s.now w + s.tables.held companyId s.now w ≤
      limit * s.tables.hardStop companyId

/-- The event that a step sends to the ledger. -/
def writtenUsage (w : World CostServer CostCallState) :
    Event IsoInstant CostCallState CostAnswer → Option AiUsageLedgerEvent
  | .advance i _ =>
      match w.locals[i]? with
      | some (.writeUsage usage _) => some usage
      | _ => none
  | _ => none

/-- What the callers promise: reservations are settled before they expire, and what is
reconciled is a reservation that was granted, at no more than its estimate. -/
def Promised (w : World CostServer CostCallState)
    (event : Event IsoInstant CostCallState CostAnswer) : Prop :=
  (∀ row ∈ w.shared.tables.reservations, row.status = .reserved →
    w.shared.now.rank < row.expiresAt.rank) ∧
  ∀ usage ∈ writtenUsage w event,
    usage.reservation ∈ w.shared.granted ∧ usage.cost ≤ usage.reservation.reservedCostEur

/-- The condition: a cost that is booked is not negative, and its reservation is still
reserved. -/
def BooksWhatIsReserved (w : World CostServer CostCallState)
    (event : Event IsoInstant CostCallState CostAnswer) : Prop :=
  ∀ usage ∈ writtenUsage w event, w.shared.tables.books usage = true →
    0 ≤ usage.cost ∧ ∃ row ∈ w.shared.tables.reservations,
      isOpen usage.reservation row = true

instance (w : World CostServer CostCallState)
    (event : Event IsoInstant CostCallState CostAnswer) : Decidable (Promised w event) :=
  inferInstanceAs (Decidable (_ ∧ _))

instance (w : World CostServer CostCallState)
    (event : Event IsoInstant CostCallState CostAnswer) :
    Decidable (BooksWhatIsReserved w event) :=
  inferInstanceAs (Decidable (∀ usage ∈ writtenUsage w event, _))

/-! ## The invariant -/

/-- No amount is negative, every company is within its budget, and what was granted is in
the table as it was granted. -/
structure Sound (s : CostServer) : Prop where
  nonneg : s.tables.NonNegative
  room : ∀ companyId, c.Room s.tables companyId s.now fun _ => 0
  granted_stored : ∀ reservation ∈ s.granted, ∃ row ∈ s.tables.reservations,
    row.id = reservation.id
  granted_same : ∀ reservation ∈ s.granted, ∀ row ∈ s.tables.reservations,
    row.id = reservation.id → row.provider = reservation.provider ∧
      row.estimatedCostEur = reservation.reservedCostEur

/-- A transaction has the lock of its company. -/
def HasLock (s : CostServer) (request : AiBudgetReservationRequest) (transaction : Nat) : Prop :=
  s.locks.lookup (hashtextextended request.tenant.companyId) = some transaction

/-- A request in its transaction. -/
def InTransaction (s : CostServer) (request : AiBudgetReservationRequest) (transaction : Nat)
    (startedAt : IsoInstant) : Prop :=
  0 ≤ request.estimatedCostEur ∧ startedAt.rank ≤ s.now.rank ∧ transaction < s.nextTransaction

/-- What holds where a call is: from the lock to the end of its transaction it has the lock,
and after the totals the room for its request. -/
def Expects (s : CostServer) : CostCallState → Prop
  | .lock request transaction startedAt => s.InTransaction request transaction startedAt
  | .totals request transaction startedAt =>
      s.InTransaction request transaction startedAt ∧
        s.HasLock hashtextextended request transaction
  | .insert request transaction startedAt =>
      s.InTransaction request transaction startedAt ∧
        s.HasLock hashtextextended request transaction ∧
        c.Room s.tables request.tenant.companyId s.now (taken request)
  | _ => True

/-- Two calls are not in one transaction. -/
def Apart (l m : CostCallState) : Prop :=
  ∀ transaction, l.transaction = some transaction → m.transaction ≠ some transaction

theorem apart_symm (l m : CostCallState) (h : Apart l m) : Apart m l := by
  intro transaction hm hl
  exact h transaction hl hm

variable {c hashtextextended} {s s' : CostServer} {l m : CostCallState}
  {request other : AiBudgetReservationRequest} {transaction transaction' : Nat}

/-- One transaction has a lock. -/
theorem HasLock.eq (h : s.HasLock hashtextextended request transaction)
    (h' : s.HasLock hashtextextended other transaction')
    (hcompany : hashtextextended request.tenant.companyId =
      hashtextextended other.tenant.companyId) : transaction = transaction' := by
  unfold HasLock at h h'
  rw [hcompany, h'] at h
  exact (Option.some.inj h).symm

/-- What keeps the locks of a call and the room of the companies whose lock it has keeps
what it expects. -/
theorem Expects.mono (h : s.Expects c hashtextextended m)
    (hnow : s.now.rank ≤ s'.now.rank) (hnext : s.nextTransaction ≤ s'.nextTransaction)
    (hlock : ∀ request transaction, m.transaction = some transaction →
      s.HasLock hashtextextended request transaction →
        s'.HasLock hashtextextended request transaction)
    (hroom : ∀ request transaction, m.transaction = some transaction →
      s.HasLock hashtextextended request transaction → ∀ amount,
        c.Room s.tables request.tenant.companyId s.now amount →
          c.Room s'.tables request.tenant.companyId s'.now amount) :
    s'.Expects c hashtextextended m := by
  have hin : ∀ request transaction startedAt, s.InTransaction request transaction startedAt →
      s'.InTransaction request transaction startedAt := by
    intro request transaction startedAt hin
    exact ⟨hin.1, hin.2.1.trans hnow, lt_of_lt_of_le hin.2.2 hnext⟩
  cases m with
  | lock request transaction startedAt => exact hin _ _ _ h
  | totals request transaction startedAt => exact ⟨hin _ _ _ h.1, hlock _ _ rfl h.2⟩
  | insert request transaction startedAt =>
      exact ⟨hin _ _ _ h.1, hlock _ _ rfl h.2.1, hroom _ _ rfl h.2.1 _ h.2.2⟩
  | reserve request => trivial
  | reconcile event => trivial
  | writeUsage event startedAt => trivial
  | release reservation cancelled => trivial

/-! ## The clock -/

theorem Sound.tick (h : s.Sound c) (now : IsoInstant) : (s.tick now).Sound c := by
  unfold CostServer.tick
  split
  · next hclock =>
    exact
      { nonneg := h.nonneg
        room := fun companyId => (h.room companyId).later h.nonneg hclock
        granted_stored := h.granted_stored
        granted_same := h.granted_same }
  · exact h

theorem Expects.tick (hs : s.Sound c) (h : s.Expects c hashtextextended m) (now : IsoInstant) :
    (s.tick now).Expects c hashtextextended m := by
  unfold CostServer.tick
  split
  · next hclock =>
    exact h.mono hclock (le_refl _) (fun _ _ _ hlock => hlock)
      fun _ _ _ _ _ hroom => hroom.later hs.nonneg hclock
  · exact h

/-! ## The end of a transaction -/

theorem Sound.unlock (h : s.Sound c) (hashtextextended : String → Int)
    (request : AiBudgetReservationRequest) :
    (s.unlock hashtextextended request).Sound c :=
  { nonneg := h.nonneg, room := h.room, granted_stored := h.granted_stored,
    granted_same := h.granted_same }

/-- The end of one transaction leaves the locks of the others. -/
theorem HasLock.unlock (h : s.HasLock hashtextextended other transaction')
    (hlock : s.HasLock hashtextextended request transaction)
    (hne : transaction ≠ transaction') :
    (s.unlock hashtextextended request).HasLock hashtextextended other transaction' := by
  have hkey : hashtextextended other.tenant.companyId ≠
      hashtextextended request.tenant.companyId := fun hkey => hne (hlock.eq h hkey.symm)
  unfold HasLock CostServer.unlock
  rw [Table.lookup_erase, if_neg hkey]
  exact h

theorem Expects.unlock (h : s.Expects c hashtextextended m)
    (hlock : s.HasLock hashtextextended request transaction)
    (hother : m.transaction ≠ some transaction) :
    (s.unlock hashtextextended request).Expects c hashtextextended m := by
  refine h.mono (le_refl _) (le_refl _) (fun other transaction' hm hhas => ?_)
    fun _ _ _ _ _ hroom => hroom
  refine hhas.unlock hlock fun heq => hother ?_
  rw [heq]
  exact hm

/-! ## The statements -/

/-- Settling changes neither the provider nor the estimate of a row. -/
theorem row_of_settle {t : AiCostTables} {reservation : AiBudgetReservation}
    {status : AiReservationStatus} {row : AiBudgetReservationRow}
    (h : row ∈ (t.settle reservation status).reservations) :
    ∃ old ∈ t.reservations, row.id = old.id ∧ row.provider = old.provider ∧
      row.estimatedCostEur = old.estimatedCostEur := by
  rcases KeyedList.mem_updateMany h with ⟨hold, -⟩ | ⟨old, hold, -, rfl⟩
  · exact ⟨row, hold, rfl, rfl, rfl⟩
  · exact ⟨old, hold, rfl, rfl, rfl⟩

theorem stored_of_settle {t : AiCostTables} {reservation : AiBudgetReservation}
    {row : AiBudgetReservationRow} (h : row ∈ t.reservations) (status : AiReservationStatus) :
    ∃ new ∈ (t.settle reservation status).reservations, new.id = row.id := by
  by_cases hopen : isOpen reservation row = true
  · exact ⟨{ row with status := status }, List.mem_map.mpr ⟨row, h, if_pos hopen⟩, rfl⟩
  · exact ⟨row, KeyedList.mem_updateMany_of_not h hopen, rfl⟩

/-- Tables whose reservations were settled keep the invariant, if they keep the sums. -/
theorem Sound.settled (h : s.Sound c) {tables : AiCostTables} {reservation : AiBudgetReservation}
    {status : AiReservationStatus}
    (hsettle : tables.reservations = (s.tables.settle reservation status).reservations)
    (hnonneg : tables.NonNegative)
    (hroom : ∀ companyId, c.Room tables companyId s.now fun _ => 0) :
    ({ s with tables := tables } : CostServer).Sound c where
  nonneg := hnonneg
  room := hroom
  granted_stored := by
    intro g hg
    obtain ⟨row, hrow, hid⟩ := h.granted_stored g hg
    obtain ⟨new, hnew, hsame⟩ :
        ∃ new ∈ (s.tables.settle reservation status).reservations, new.id = row.id :=
      stored_of_settle hrow status
    exact ⟨new, by rw [hsettle]; exact hnew, hsame.trans hid⟩
  granted_same := by
    intro g hg row hrow hid
    have hrow' : row ∈ (s.tables.settle reservation status).reservations := by
      rw [← hsettle]
      exact hrow
    obtain ⟨old, hold, hsame, hprovider, hestimate⟩ := row_of_settle hrow'
    rw [hprovider, hestimate]
    exact h.granted_same g hg old hold (hsame.symm.trans hid)

theorem Sound.release (h : s.Sound c) (reservation : AiBudgetReservation) (cancelled : Bool) :
    ({ s with tables := s.tables.release reservation cancelled } : CostServer).Sound c := by
  have hstatus : (if cancelled then AiReservationStatus.cancelled else .failed) ≠ .reserved := by
    cases cancelled
    · decide
    · decide
  exact h.settled rfl (h.nonneg.settle _ _) fun companyId => (h.room companyId).settle h.nonneg
    hstatus

theorem Expects.release (hs : s.Sound c) (h : s.Expects c hashtextextended m)
    (reservation : AiBudgetReservation) (cancelled : Bool) :
    ({ s with tables := s.tables.release reservation cancelled } : CostServer).Expects c
      hashtextextended m := by
  have hstatus : (if cancelled then AiReservationStatus.cancelled else .failed) ≠ .reserved := by
    cases cancelled
    · decide
    · decide
  exact h.mono (le_refl _) (le_refl _) (fun _ _ _ hlock => hlock)
    fun _ _ _ _ _ hroom => hroom.settle hs.nonneg hstatus

variable {usage : AiUsageLedgerEvent}

/-- A promised event whose reservation is open has its cost covered. -/
theorem coversCost (hs : s.Sound c)
    (hintime : ∀ row ∈ s.tables.reservations, row.status = .reserved →
      s.now.rank < row.expiresAt.rank)
    (hgranted : usage.reservation ∈ s.granted)
    (hcost : usage.cost ≤ usage.reservation.reservedCostEur)
    {row : AiBudgetReservationRow} (hrow : row ∈ s.tables.reservations)
    (hopen : isOpen usage.reservation row = true) : CoversCost s.tables usage s.now := by
  obtain ⟨hid, hcompany, hstatus⟩ := isOpen_iff.mp hopen
  obtain ⟨hprovider, hestimate⟩ := hs.granted_same _ hgranted row hrow hid
  refine ⟨row, hrow, hopen, hintime row hrow hstatus, hprovider, ?_⟩
  rw [hestimate]
  exact hcost

theorem Sound.writeUsage (h : s.Sound c) (startedAt : IsoInstant)
    (hbooks : s.tables.books usage = true → 0 ≤ usage.cost ∧ CoversCost s.tables usage s.now) :
    ({ s with tables := s.tables.reconcile usage startedAt } : CostServer).Sound c :=
  h.settled rfl (h.nonneg.reconcile fun hbook => (hbooks hbook).1)
    fun companyId => (h.room companyId).reconcile h.nonneg hbooks

theorem Expects.writeUsage (hs : s.Sound c) (h : s.Expects c hashtextextended m)
    (startedAt : IsoInstant)
    (hbooks : s.tables.books usage = true → 0 ≤ usage.cost ∧ CoversCost s.tables usage s.now) :
    ({ s with tables := s.tables.reconcile usage startedAt } : CostServer).Expects c
      hashtextextended m :=
  h.mono (le_refl _) (le_refl _) (fun _ _ _ hlock => hlock)
    fun _ _ _ _ _ hroom => hroom.reconcile hs.nonneg hbooks

theorem Sound.insert (h : s.Sound c) (startedAt : IsoInstant) {id : String}
    (hcost : 0 ≤ request.estimatedCostEur)
    (hroom : c.Room s.tables request.tenant.companyId s.now (taken request))
    (hnew : ∀ row ∈ s.tables.reservations, row.id ≠ id) :
    ({ s with
      tables := { s.tables with
        reservations := s.tables.reservations ++ [c.reservationRow request id startedAt] }
      granted := s.granted ++ [request.grant id] } : CostServer).Sound c where
  nonneg := h.nonneg.insert hcost
  room := by
    intro companyId
    by_cases hcompany : request.tenant.companyId = companyId
    · rw [← hcompany]
      exact hroom.insert hcost
    · exact (h.room companyId).insert_other hcompany
  granted_stored := by
    intro g hg
    rcases List.mem_append.mp hg with hold | hlast
    · obtain ⟨row, hrow, hid⟩ := h.granted_stored g hold
      exact ⟨row, List.mem_append_left _ hrow, hid⟩
    · rw [List.mem_singleton.mp hlast]
      exact ⟨_, List.mem_append_right _ List.mem_cons_self, rfl⟩
  granted_same := by
    intro g hg row hrow hid
    rcases List.mem_append.mp hrow with hrow | hrow
    · rcases List.mem_append.mp hg with hold | hlast
      · exact h.granted_same g hold row hrow hid
      · rw [List.mem_singleton.mp hlast] at hid
        exact absurd hid (hnew row hrow)
    · rw [List.mem_singleton.mp hrow] at hid ⊢
      rcases List.mem_append.mp hg with hold | hlast
      · -- The id is new.
        obtain ⟨old, hstored, hsame⟩ := h.granted_stored g hold
        exact absurd (hsame.trans hid.symm) (hnew old hstored)
      · rw [List.mem_singleton.mp hlast]
        exact ⟨rfl, rfl⟩

/-! ## One step of a call -/

/-- What a step of a call has to keep. -/
def Keeps (c : PostgreSQLAiCostController) (hashtextextended : String → Int) (s : CostServer)
    (l : CostCallState) (s' : CostServer) (next : Option CostCallState) : Prop :=
  s'.Sound c ∧ (∀ m, next = some m → s'.Expects c hashtextextended m) ∧
    ∀ m, Apart l m → s.Expects c hashtextextended m →
      s'.Expects c hashtextextended m ∧ ∀ n, next = some n → Apart n m

/-- A step that only ends a transaction. -/
theorem keeps_unlock (hs : s.Sound c) (hlock : s.HasLock hashtextextended request transaction)
    (hl : l.transaction = some transaction) :
    Keeps c hashtextextended s l (s.unlock hashtextextended request) none := by
  refine ⟨hs.unlock hashtextextended request, by simp, fun m hapart hm => ⟨?_, by simp⟩⟩
  exact hm.unlock hlock (hapart transaction hl)

/-- A step that leaves the server as it is. -/
theorem keeps_same (hs : s.Sound c) {next : Option CostCallState}
    (hexpects : ∀ m, next = some m → s.Expects c hashtextextended m)
    (hnext : ∀ n, next = some n → n.transaction = l.transaction ∨ n.transaction = none) :
    Keeps c hashtextextended s l s next := by
  refine ⟨hs, hexpects, fun m hapart hm => ⟨hm, fun n hn tx htx => ?_⟩⟩
  rcases hnext n hn with hsame | hnone
  · exact hapart tx (hsame.symm.trans htx)
  · rw [hnone] at htx
    cases htx

theorem keeps_reserve (hs : s.Sound c) {answer : CostAnswer} {next : Option CostCallState}
    (h : s.advance c hashtextextended answer (.reserve request) = some (s', next)) :
    Keeps c hashtextextended s (.reserve request) s' next := by
  simp only [CostServer.advance] at h
  split at h
  · obtain ⟨rfl, rfl⟩ := Prod.mk.inj (Option.some.inj h)
    exact keeps_same hs (by simp) (by simp)
  · next hcost =>
    obtain ⟨rfl, rfl⟩ := Prod.mk.inj (Option.some.inj h)
    have hnonneg : 0 ≤ request.estimatedCostEur := assertCost_eq_ok.mp hcost
    refine ⟨⟨hs.nonneg, hs.room, hs.granted_stored, hs.granted_same⟩, fun m hm => ?_,
      fun m hapart hm => ⟨?_, fun n hn tx htx hmtx => ?_⟩⟩
    · rw [← Option.some.inj hm]
      exact ⟨hnonneg, le_refl _, Nat.lt_succ_self _⟩
    · exact hm.mono (le_refl _) (Nat.le_succ _) (fun _ _ _ hlock => hlock)
        fun _ _ _ _ _ hroom => hroom
    · -- The number of the new transaction is above all others.
      rw [← Option.some.inj hn] at htx
      have hnew : s.nextTransaction = tx := Option.some.inj htx
      have hbelow : tx < s.nextTransaction := by
        cases m with
        | lock r tx' at' => exact (Option.some.inj hmtx) ▸ hm.2.2
        | totals r tx' at' => exact (Option.some.inj hmtx) ▸ hm.1.2.2
        | insert r tx' at' => exact (Option.some.inj hmtx) ▸ hm.1.2.2
        | reserve r => cases hmtx
        | reconcile e => cases hmtx
        | writeUsage e at' => cases hmtx
        | release r b => cases hmtx
      omega

variable {answer : CostAnswer} {next : Option CostCallState} {startedAt : IsoInstant}

theorem keeps_lock (hs : s.Sound c)
    (hl : s.Expects c hashtextextended (.lock request transaction startedAt))
    (h : s.advance c hashtextextended answer (.lock request transaction startedAt) =
      some (s', next)) :
    Keeps c hashtextextended s (.lock request transaction startedAt) s' next := by
  cases answer with
  | fails =>
      obtain ⟨rfl, rfl⟩ := Prod.mk.inj (Option.some.inj h)
      exact keeps_same hs (by simp) (by simp)
  | done id =>
      simp only [CostServer.advance] at h
      split at h
      · next hfree =>
        obtain ⟨rfl, rfl⟩ := Prod.mk.inj (Option.some.inj h)
        have hnone : s.locks.lookup (hashtextextended request.tenant.companyId) = none := by
          simpa using hfree
        refine ⟨⟨hs.nonneg, hs.room, hs.granted_stored, hs.granted_same⟩, fun m hm => ?_,
          fun m hapart hm => ⟨?_, fun n hn => ?_⟩⟩
        · rw [← Option.some.inj hm]
          refine ⟨hl, ?_⟩
          unfold HasLock
          dsimp only
          rw [Table.lookup_insert, if_pos rfl]
        · refine hm.mono (le_refl _) (le_refl _) (fun other tx _ hlock => ?_)
            fun _ _ _ _ _ hroom => hroom
          have hkey : hashtextextended other.tenant.companyId ≠
              hashtextextended request.tenant.companyId := by
            intro hkey
            unfold HasLock at hlock
            rw [hkey, hnone] at hlock
            cases hlock
          unfold HasLock
          dsimp only
          rw [Table.lookup_insert, if_neg hkey]
          exact hlock
        · rw [← Option.some.inj hn]
          exact hapart
      · cases h

theorem keeps_totals (hs : s.Sound c)
    (hl : s.Expects c hashtextextended (.totals request transaction startedAt))
    (h : s.advance c hashtextextended answer (.totals request transaction startedAt) =
      some (s', next)) :
    Keeps c hashtextextended s (.totals request transaction startedAt) s' next := by
  obtain ⟨hin, hlock⟩ := hl
  cases answer with
  | fails =>
      obtain ⟨rfl, rfl⟩ := Prod.mk.inj (Option.some.inj h)
      exact keeps_unlock hs hlock rfl
  | done id =>
      simp only [CostServer.advance] at h
      split at h
      · obtain ⟨rfl, rfl⟩ := Prod.mk.inj (Option.some.inj h)
        exact keeps_unlock hs hlock rfl
      · next hfits =>
        obtain ⟨rfl, rfl⟩ := Prod.mk.inj (Option.some.inj h)
        refine keeps_same hs (fun m hm => ?_) fun n hn => ?_
        · rw [← Option.some.inj hm]
          exact ⟨hin, hlock, room_of_exceeded_eq_false hs.nonneg hin.2.1 (hs.room _)
            (by simpa using hfits)⟩
        · rw [← Option.some.inj hn]
          exact Or.inl rfl

theorem keeps_insert (hs : s.Sound c)
    (hl : s.Expects c hashtextextended (.insert request transaction startedAt))
    (h : s.advance c hashtextextended answer (.insert request transaction startedAt) =
      some (s', next)) :
    Keeps c hashtextextended s (.insert request transaction startedAt) s' next := by
  obtain ⟨hin, hlock, hroom⟩ := hl
  cases answer with
  | fails =>
      obtain ⟨rfl, rfl⟩ := Prod.mk.inj (Option.some.inj h)
      exact keeps_unlock hs hlock rfl
  | done id =>
      simp only [CostServer.advance] at h
      split at h
      · obtain ⟨rfl, rfl⟩ := Prod.mk.inj (Option.some.inj h)
        exact keeps_unlock hs hlock rfl
      · next tables granted hinsert =>
        obtain ⟨rfl, rfl⟩ := Prod.mk.inj (Option.some.inj h)
        rcases insertReservation_cases hinsert with ⟨rfl, rfl⟩ | ⟨hnew, rfl, rfl⟩
        · have hsame : s.granted ++ (none : Option AiBudgetReservation).toList = s.granted :=
            List.append_nil _
          rw [hsame]
          exact keeps_unlock hs hlock rfl
        · have hsound := (hs.insert startedAt hin.1 hroom hnew).unlock hashtextextended request
          refine ⟨hsound, by simp, fun m hapart hm => ⟨?_, by simp⟩⟩
          refine (hm.unlock hlock (hapart transaction rfl)).mono (le_refl _) (le_refl _)
            (fun _ _ _ hhas => hhas) fun other tx htx hhas amount hother => ?_
          -- A call that has a lock after this one has left has the lock of another company.
          refine Room.insert_other hother fun hcompany => ?_
          unfold HasLock CostServer.unlock at hhas
          rw [Table.lookup_erase, hcompany, if_pos rfl] at hhas
          cases hhas

theorem keeps_release (hs : s.Sound c) {reservation : AiBudgetReservation} {cancelled : Bool}
    (h : s.advance c hashtextextended answer (.release reservation cancelled) =
      some (s', next)) :
    Keeps c hashtextextended s (.release reservation cancelled) s' next := by
  cases answer with
  | fails =>
      obtain ⟨rfl, rfl⟩ := Prod.mk.inj (Option.some.inj h)
      exact keeps_same hs (by simp) (by simp)
  | done id =>
      obtain ⟨rfl, rfl⟩ := Prod.mk.inj (Option.some.inj h)
      exact ⟨hs.release reservation cancelled, by simp,
        fun m _ hm => ⟨hm.release hs reservation cancelled, by simp⟩⟩

theorem keeps_writeUsage (hs : s.Sound c)
    (hbooks : s.tables.books usage = true → 0 ≤ usage.cost ∧ CoversCost s.tables usage s.now)
    (h : s.advance c hashtextextended answer (.writeUsage usage startedAt) = some (s', next)) :
    Keeps c hashtextextended s (.writeUsage usage startedAt) s' next := by
  cases answer with
  | fails =>
      obtain ⟨rfl, rfl⟩ := Prod.mk.inj (Option.some.inj h)
      exact keeps_same hs (by simp) (by simp)
  | done id =>
      obtain ⟨rfl, rfl⟩ := Prod.mk.inj (Option.some.inj h)
      exact ⟨hs.writeUsage startedAt hbooks, by simp,
        fun m _ hm => ⟨hm.writeUsage hs startedAt hbooks, by simp⟩⟩

variable {w : World CostServer CostCallState}

/-- Every step of a call keeps the invariant and what the calls expect. -/
theorem keeps_advance {i : Nat} (hs : w.shared.Sound c)
    (hl : w.shared.Expects c hashtextextended l)
    (hpromised : Promised w (.advance i answer)) (hok : BooksWhatIsReserved w (.advance i answer))
    (hi : w.locals[i]? = some l)
    (h : w.shared.advance c hashtextextended answer l = some (s', next)) :
    Keeps c hashtextextended w.shared l s' next := by
  cases l with
  | reserve request => exact keeps_reserve hs h
  | lock request transaction startedAt => exact keeps_lock hs hl h
  | totals request transaction startedAt => exact keeps_totals hs hl h
  | insert request transaction startedAt => exact keeps_insert hs hl h
  | reconcile event =>
      obtain ⟨rfl, rfl⟩ := Prod.mk.inj (Option.some.inj h)
      refine keeps_same hs (fun m hm => ?_) fun n hn => ?_
      · rw [← Option.some.inj hm]
        trivial
      · rw [← Option.some.inj hn]
        exact Or.inr rfl
  | writeUsage usage startedAt =>
      refine keeps_writeUsage hs (fun hbook => ?_) h
      have hwritten : usage ∈ writtenUsage w (.advance i answer) := by
        simp [writtenUsage, hi]
      obtain ⟨hgranted, hcost⟩ := hpromised.2 usage hwritten
      obtain ⟨hnonneg, row, hrow, hopen⟩ := hok usage hwritten hbook
      exact ⟨hnonneg, coversCost hs hpromised.1 hgranted hcost hrow hopen⟩
  | release reservation cancelled => exact keeps_release hs h

/-! ## Whole runs -/

theorem sound_initial {now : IsoInstant} {policies : Table String AiBudgetPolicy} :
    ({ now := now, tables := { policies := policies } } : CostServer).Sound c where
  nonneg := ⟨by simp, by simp⟩
  room := fun _ => room_empty policies
  granted_stored := by simp
  granted_same := by simp

/-- In every state of a run whose costs are booked for reservations that are still
reserved, every company is within its budget. -/
theorem ledger_budget_safe
    (h : Reachable IsInitial
      (Guarded (fun w event => Promised w event ∧ BooksWhatIsReserved w event)
        (costCalls c hashtextextended).step) w) :
    w.shared.WithinBudget c := by
  have hinv := Program.reachable_inv_apart (P := costCalls c hashtextextended)
    (I := Sound c) (L := Expects c hashtextextended) apart_symm
    (fun w hw => by
      obtain ⟨⟨now, policies, hshared⟩, hlocals⟩ := hw
      rw [hshared, hlocals]
      exact ⟨sound_initial, by simp, pairsApart_nil⟩)
    (fun s now hs => ⟨hs.tick now, fun m hm => hm.tick hs now⟩)
    (fun w l hs _ hl => by
      have hnone : l.transaction = none ∧ w.shared.Expects c hashtextextended l := by
        cases l with
        | reserve request => exact ⟨rfl, trivial⟩
        | reconcile event => exact ⟨rfl, trivial⟩
        | release reservation cancelled => exact ⟨rfl, trivial⟩
        | lock request transaction startedAt => cases hl
        | totals request transaction startedAt => cases hl
        | insert request transaction startedAt => cases hl
        | writeUsage event startedAt => cases hl
      refine ⟨hnone.2, fun m _ _ tx htx => ?_⟩
      rw [hnone.1] at htx
      cases htx)
    (fun w i answer l s' next hs hl hok hi hadv =>
      keeps_advance hs hl hok.1 hok.2 hi hadv) h
  intro companyId window limit hlimit hpos
  have hroom := hinv.1.room companyId window limit hlimit hpos
  have hspent := spent_le_used hinv.1.nonneg companyId w.shared.now window
  linarith

/-! ## A reservation that is reconciled after its release -/

/-- Five minutes later, on the same day. -/
theorem ms_later (t : IsoInstant) : min (t.msOfDay + 300000) 86399999 < 86400000 := by
  omega

/-- A controller with a daily limit of ten and reservations of five minutes. -/
def limitTen : PostgreSQLAiCostController where
  defaultDailyLimitEur := 10
  defaultMonthlyLimitEur := 310
  expiresAt t :=
    { t with msOfDay := min (t.msOfDay + 300000) 86399999, ms_lt := ms_later t }

/-- A hash of company names. -/
def hashLength (name : String) : Int := name.length

/-- Ten are asked for under a key. -/
def requestTen (key : String) : AiBudgetReservationRequest where
  tenant := { companyId := "company", userId := "user" }
  provider := "openai"
  model := "model"
  requestType := .ragAnswer
  correlationId := key
  idempotencyKey := key
  estimatedCostEur := 10

/-- The event that books all ten. -/
def usageTen (key id : String) : AiUsageLedgerEvent where
  reservation := (requestTen key).grant id
  inputTokens := 1
  outputTokens := 1
  embeddingUnits := 0
  estimatedCostEur := 10
  actualCostEur := none
  status := .succeeded

/-- The server at noon, without a call. -/
def atNoon : World CostServer CostCallState where
  shared := { now := MemoryBudgetRun.noon, tables := {} }
  locals := []

theorem isInitial_atNoon : IsInitial atNoon := ⟨⟨_, _, rfl⟩, rfl⟩

/-- A reservation from its start to its end. -/
def reserving (key id : String) : List (Event IsoInstant CostCallState CostAnswer) :=
  [.spawn (.reserve (requestTen key)), .advance 0 (.done ""), .advance 0 (.done ""),
    .advance 0 (.done ""), .advance 0 (.done id)]

/-- Ten are reserved, and the budget holds. -/
theorem ledger_budget_safe_reserved :
    ∃ w : World CostServer CostCallState,
      w.shared.granted = [(requestTen "a").grant "first"] ∧ w.shared.WithinBudget limitTen := by
  obtain ⟨w, hw, hgranted⟩ := exists_guarded_of_exec_guarded
    (fun w event => Promised w event ∧ BooksWhatIsReserved w event)
    (fun w : World CostServer CostCallState => w.shared.granted = [(requestTen "a").grant "first"])
    (costCalls limitTen hashLength).next (reserving "a" "first") isInitial_atNoon
    (by decide +kernel)
  exact ⟨w, hgranted, ledger_budget_safe hw⟩

/-- Ten are reserved and released, ten are reserved again, and the first ten are
reconciled. -/
def reconciledAfterRelease : List (Event IsoInstant CostCallState CostAnswer) :=
  reserving "a" "first" ++
    [.spawn (.release ((requestTen "a").grant "first") false), .advance 0 (.done "")] ++
    reserving "b" "second" ++
    [.spawn (.reconcile (usageTen "a" "first")), .advance 0 (.done ""), .advance 0 (.done "")]

/-- Ten are spent and ten held of a limit of ten. -/
theorem ledger_budget_exceeded :
    ∃ w, Reachable IsInitial (Guarded Promised (costCalls limitTen hashLength).step) w ∧
      ¬w.shared.WithinBudget limitTen := by
  obtain ⟨w, hw, hlimit, hexceeded⟩ := exists_guarded_of_exec_guarded Promised
    (fun w : World CostServer CostCallState =>
      limitTen.limit w.shared.tables "company" .daily = some 10 ∧
        10 * w.shared.tables.hardStop "company" <
          w.shared.tables.spent "company" w.shared.now .daily +
            w.shared.tables.held "company" w.shared.now .daily)
    (costCalls limitTen hashLength).next reconciledAfterRelease isInitial_atNoon
    (by decide +kernel)
  refine ⟨w, hw, fun hwithin => ?_⟩
  have hday := hwithin "company" .daily 10 hlimit (by norm_num)
  exact absurd hexceeded (not_lt.mpr hday)

end CostServer
end AvantimePlatform.Ai
