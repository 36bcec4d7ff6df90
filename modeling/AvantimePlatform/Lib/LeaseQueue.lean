import AvantimePlatform.Lib.Interleaving
import AvantimePlatform.Lib.KeyedList

/-!
# Queues of leased records

A table of records that workers claim, work off and give back.  A claim takes a batch of
records under a fresh token and counts an attempt of each.  The outcome of a claim is
recorded only while the record still carries the token of the claim.  A claim also buries
the records whose last lease ran out and that have no attempts left.

`View` says how the records of a table are read, `Act` what a step does to the table, and
`View.Moves` which changes of the records that covers.  `Queue` is a system with such a
table.  The rule is `Queue.obeys`: when each step of the system moves the table as its act
says, and an outcome is recorded exactly when its lease is held, the system obeys the
protocol, for every history whose claims draw distinct tokens.  `Workers.obeys` is the rule
for interleaved calls over the table.

`ClaimRules` is the claim itself, as two updates of the table: it buries, chooses, and
claims.  `ClaimRules.moves` is what it does to each record.

Nothing here names a component of the platform.
-/

namespace AvantimePlatform.LeaseQueue

open AvantimePlatform AvantimePlatform.Interleaving AvantimePlatform.Transition

universe u v w x y

/-- Where a record stands. -/
inductive Phase where
  | waiting
  | processing
  | finished
  | dead
deriving DecidableEq

/-- How the records of a table are read.  No record may have more than `limit`
attempts. -/
structure View (Row : Type u) (Key : Type v) (Token : Type w) where
  key : Row → Key
  phase : Row → Phase
  attempts : Row → Nat
  maxAttempts : Row → Nat
  token : Row → Option Token
  limit : Nat

/-- What a step does to the table. -/
inductive Act (Key : Type v) (Token : Type w) where
  /-- It claims the records of `batch` under `token`. -/
  | claim (token : Token) (batch : List Key)
  /-- It records the outcome of the claim of `key` under `token`. -/
  | settle (key : Key) (token : Token)
  /-- An operator starts the record over. -/
  | retry (key : Key)
  /-- An operator buries the record. -/
  | giveUp (key : Key)
  /-- It adds a record, or leaves the table as it is. -/
  | other

namespace Act

variable {Key : Type v} {Token : Type w}

/-- The claims that the step makes. -/
def claims : Act Key Token → List (Key × Token)
  | .claim token batch => batch.map fun key => (key, token)
  | _ => []

/-- The claim whose outcome the step records. -/
def outcome : Act Key Token → Option (Key × Token)
  | .settle key token => some (key, token)
  | _ => none

/-- The token that the step draws. -/
def drawn : Act Key Token → Option Token
  | .claim token _ => some token
  | _ => none

theorem drawn_of_mem_claims {act : Act Key Token} {entry : Key × Token} (h : entry ∈ act.claims) :
    act.drawn = some entry.2 := by
  cases act with
  | claim token batch =>
      obtain ⟨key, -, rfl⟩ := List.mem_map.mp h
      rfl
  | settle key token => cases h
  | retry key => cases h
  | giveUp key => cases h
  | other => cases h

end Act

variable {Row : Type u} {Key : Type v} {Token : Type w}

namespace View

variable (V : View Row Key Token)

/-- The record is claimed under the token. -/
def HeldAs (key : Key) (token : Token) (row : Row) : Prop :=
  V.key row = key ∧ V.phase row = .processing ∧ V.token row = some token

/-- The attempts of a record are within its bounds. -/
structure WithinBounds (row : Row) : Prop where
  attempts_le : V.attempts row ≤ V.maxAttempts row
  one_le : 1 ≤ V.maxAttempts row
  le_limit : V.maxAttempts row ≤ V.limit

/-- The change does not touch what a record is. -/
structure SameRecord (row row' : Row) : Prop where
  key : V.key row' = V.key row
  maxAttempts : V.maxAttempts row' = V.maxAttempts row

/-- The records that the step does not have to change. -/
def Leaves (row : Row) : Act Key Token → Prop
  | .claim _ batch => V.key row ∉ batch
  | .settle key token => ¬V.HeldAs key token row
  | _ => True

/-- What a step may do to one record. -/
inductive RowStep : Act Key Token → Row → Row → Prop where
  | same {act : Act Key Token} {row : Row} (hleaves : V.Leaves row act) : RowStep act row row
  | exhausted {token : Token} {batch : List Key} {row row' : Row} (hsame : V.SameRecord row row')
      (hnot : V.key row ∉ batch) (hphase : V.phase row = .processing)
      (hattempts : V.attempts row' = V.attempts row) (hdead : V.phase row' = .dead)
      (htoken : V.token row' = none) : RowStep (.claim token batch) row row'
  | claimed {token : Token} {batch : List Key} {row row' : Row} (hsame : V.SameRecord row row')
      (hin : V.key row ∈ batch) (hleft : V.attempts row < V.maxAttempts row)
      (hphase : V.phase row = .waiting ∨ V.phase row = .processing)
      (hattempts : V.attempts row' = V.attempts row + 1) (hprocessing : V.phase row' = .processing)
      (htoken : V.token row' = some token) : RowStep (.claim token batch) row row'
  | settled {key : Key} {token : Token} {row row' : Row} (hsame : V.SameRecord row row')
      (hheld : V.HeldAs key token row) (hattempts : V.attempts row' = V.attempts row)
      (htoken : V.token row' = none) : RowStep (.settle key token) row row'
  | retried {key : Key} {row row' : Row} (hsame : V.SameRecord row row') (hkey : V.key row = key)
      (hphase : V.phase row = .waiting ∨ V.phase row = .dead) (hattempts : V.attempts row' = 0)
      (htoken : V.token row' = none) : RowStep (.retry key) row row'
  | givenUp {key : Key} {row row' : Row} (hsame : V.SameRecord row row') (hkey : V.key row = key)
      (hphase : V.phase row = .waiting) (hattempts : V.attempts row' = V.attempts row)
      (htoken : V.token row' = none) : RowStep (.giveUp key) row row'

/-- What a step may do to the table. -/
inductive Moves (rows : List Row) : Act Key Token → List Row → Prop where
  | update {act : Act Key Token} (f : Row → Row) (h : ∀ row ∈ rows, V.RowStep act row (f row)) :
      Moves rows act (rows.map f)
  | insert (row : Row) (hkey : ∀ other ∈ rows, V.key other ≠ V.key row)
      (htoken : V.token row = none) (hbounds : V.WithinBounds row) :
      Moves rows .other (rows ++ [row])

variable {V}

theorem RowStep.sameRecord {act : Act Key Token} {row row' : Row} (h : V.RowStep act row row') :
    V.SameRecord row row' := by
  cases h with
  | same _ => exact ⟨rfl, rfl⟩
  | exhausted hsame => exact hsame
  | claimed hsame => exact hsame
  | settled hsame => exact hsame
  | retried hsame => exact hsame
  | givenUp hsame => exact hsame

/-- The attempts of a record stay within its bounds. -/
theorem RowStep.withinBounds {act : Act Key Token} {row row' : Row} (h : V.RowStep act row row')
    (hrow : V.WithinBounds row) : V.WithinBounds row' := by
  have hmax : V.maxAttempts row' = V.maxAttempts row := h.sameRecord.maxAttempts
  have hle : V.attempts row' ≤ V.maxAttempts row := by
    have hold := hrow.attempts_le
    cases h with
    | same _ => exact hold
    | exhausted _ _ _ hattempts => omega
    | claimed _ _ hleft _ hattempts => omega
    | settled _ _ hattempts => omega
    | retried _ _ _ hattempts => omega
    | givenUp _ _ _ hattempts => omega
  exact ⟨hmax ▸ hle, hmax ▸ hrow.one_le, hmax ▸ hrow.le_limit⟩

/-- A record with a token is claimed under it, before the step or by the step. -/
theorem RowStep.token_eq_some {act : Act Key Token} {row row' : Row} {token : Token}
    (h : V.RowStep act row row') (htoken : V.token row' = some token) :
    row' = row ∧ V.Leaves row act ∨
      V.phase row' = .processing ∧ ∃ batch, act = .claim token batch ∧ V.key row ∈ batch := by
  cases h with
  | same hleaves => exact Or.inl ⟨rfl, hleaves⟩
  | claimed _ hin _ _ _ hprocessing hclaim =>
      rw [hclaim] at htoken
      cases htoken
      exact Or.inr ⟨hprocessing, _, rfl, hin⟩
  | exhausted _ _ _ _ _ hnone => rw [hnone] at htoken; cases htoken
  | settled _ _ _ hnone => rw [hnone] at htoken; cases htoken
  | retried _ _ _ _ hnone => rw [hnone] at htoken; cases htoken
  | givenUp _ _ _ _ hnone => rw [hnone] at htoken; cases htoken

/-- No step changes a record that is worked off. -/
theorem RowStep.finished {act : Act Key Token} {row row' : Row} (h : V.RowStep act row row')
    (hphase : V.phase row = .finished) : row' = row := by
  cases h with
  | same _ => rfl
  | exhausted _ _ hp => rw [hphase] at hp; cases hp
  | claimed _ _ _ hp => rw [hphase] at hp; rcases hp with hp | hp <;> cases hp
  | settled _ hheld =>
      have hp := hheld.2.1
      rw [hphase] at hp
      cases hp
  | retried _ _ hp => rw [hphase] at hp; rcases hp with hp | hp <;> cases hp
  | givenUp _ _ hp => rw [hphase] at hp; cases hp

/-- Only an operator's retry changes a buried record. -/
theorem RowStep.dead {act : Act Key Token} {row row' : Row} (h : V.RowStep act row row')
    (hphase : V.phase row = .dead) : row' = row ∨ act = .retry (V.key row) := by
  cases h with
  | same _ => exact Or.inl rfl
  | exhausted _ _ hp => rw [hphase] at hp; cases hp
  | claimed _ _ _ hp => rw [hphase] at hp; rcases hp with hp | hp <;> cases hp
  | settled _ hheld =>
      have hp := hheld.2.1
      rw [hphase] at hp
      cases hp
  | retried _ hkey => exact Or.inr (by rw [hkey])
  | givenUp _ _ hp => rw [hphase] at hp; cases hp

namespace Moves

variable {rows rows' : List Row} {act : Act Key Token}

theorem refl (h : ∀ row ∈ rows, V.Leaves row act) : V.Moves rows act rows := by
  have hmoves : V.Moves rows act (rows.map id) := Moves.update id fun row hrow =>
    RowStep.same (h row hrow)
  rwa [List.map_id] at hmoves

/-- A record of the new table is one of the old table that took a step, or it is new. -/
theorem mem (h : V.Moves rows act rows') {row' : Row} (hrow' : row' ∈ rows') :
    (∃ row ∈ rows, V.RowStep act row row') ∨
      V.token row' = none ∧ V.WithinBounds row' ∧ act = .other := by
  cases h with
  | update f hstep =>
      obtain ⟨row, hrow, rfl⟩ := List.mem_map.mp hrow'
      exact Or.inl ⟨row, hrow, hstep row hrow⟩
  | insert new hkey htoken hbounds =>
      rcases List.mem_append.mp hrow' with hold | hnew
      · exact Or.inl ⟨row', hold, .same trivial⟩
      · rw [List.mem_singleton.mp hnew]
        exact Or.inr ⟨htoken, hbounds, rfl⟩

/-- Every record takes a step. -/
theorem of_mem (h : V.Moves rows act rows') {row : Row} (hrow : row ∈ rows) :
    ∃ row' ∈ rows', V.RowStep act row row' := by
  cases h with
  | update f hstep => exact ⟨f row, List.mem_map_of_mem hrow, hstep row hrow⟩
  | insert new => exact ⟨row, List.mem_append_left _ hrow, .same trivial⟩

theorem withinBounds (h : V.Moves rows act rows') (hrows : ∀ row ∈ rows, V.WithinBounds row) :
    ∀ row' ∈ rows', V.WithinBounds row' := by
  intro row' hrow'
  rcases h.mem hrow' with ⟨row, hrow, hstep⟩ | ⟨-, hbounds, -⟩
  · exact hstep.withinBounds (hrows row hrow)
  · exact hbounds

theorem distinct [DecidableEq Key] (h : V.Moves rows act rows')
    (hd : KeyedList.Distinct V.key rows) : KeyedList.Distinct V.key rows' := by
  cases h with
  | update f hstep =>
      unfold KeyedList.Distinct
      have hkeys : (rows.map f).map V.key = rows.map V.key := by
        rw [List.map_map]
        exact List.map_congr_left fun row hrow => (hstep row hrow).sameRecord.key
      rw [hkeys]
      exact hd
  | insert new hkey =>
      exact KeyedList.distinct_append_new hd (KeyedList.find_eq_none.mpr hkey)

end Moves

end View

/-! ## The protocol -/

/-- A step tries to record the outcome of a claim, and its guarded update answers. -/
structure Attempt (Key : Type v) (Token : Type w) where
  key : Key
  token : Token
  answer : Except String Unit

/-- A system with a table of leased records. -/
structure Queue (State : Type x) (Label : Type y) (Store : Type*) (Row : Type u) (Key : Type v)
    (Token : Type w) extends View Row Key Token where
  store : State → Store
  rows : Store → List Row
  /-- What the step does to the table. -/
  act : State → Label → Act Key Token
  /-- The outcome that the step tries to record. -/
  tried : State → Label → Option (Attempt Key Token)
  /-- The error of a stale worker. -/
  lost : String

namespace Queue

variable {State : Type x} {Label : Type y} {Store : Type*} [DecidableEq Key]
  (Q : Queue State Label Store Row Key Token)

/-- The claims of a history, newest first. -/
def claims (past : History State Label) : List (Key × Token) :=
  past.flatMap fun entry => (Q.act entry.1 entry.2).claims

/-- The token of the latest claim of a record. -/
def latestClaim (past : History State Label) (key : Key) : Option Token :=
  ((Q.claims past).find? fun entry => entry.1 == key).map (·.2)

/-- The claims of a history whose outcomes are recorded. -/
def outcomes (past : History State Label) : List (Key × Token) :=
  past.filterMap fun entry => (Q.act entry.1 entry.2).outcome

/-- The step draws no token again. -/
def Fresh (past : History State Label) (s : State) (l : Label) : Prop :=
  ∀ token ∈ (Q.act s l).drawn, ∀ entry ∈ past, (Q.act entry.1 entry.2).drawn ≠ some token

/-- Some record is claimed under the token. -/
def Held (s : State) (key : Key) (token : Token) : Prop :=
  ∃ row ∈ Q.rows (Q.store s), Q.HeldAs key token row

/-- The protocol, in one state and for its history. -/
structure Sound (past : History State Label) (s : State) : Prop where
  /-- The attempts are within their bounds. -/
  bounds : ∀ row ∈ Q.rows (Q.store s), Q.WithinBounds row
  /-- A token is that of the latest claim. -/
  latest : ∀ row ∈ Q.rows (Q.store s), Q.phase row = .processing →
    ∀ token, Q.token row = some token → Q.latestClaim past (Q.key row) = some token
  /-- What has an outcome is a claim. -/
  claimed : ∀ entry ∈ Q.outcomes past, entry ∈ Q.claims past
  /-- Each claim has at most one outcome. -/
  once : (Q.outcomes past).Nodup

/-- The protocol, for one step. -/
structure SoundStep (s : State) (l : Label) (s' : State) : Prop where
  /-- A record that is worked off never changes again. -/
  finished : ∀ row ∈ Q.rows (Q.store s), Q.phase row = .finished → row ∈ Q.rows (Q.store s')
  /-- A buried record is left only by the retry of it. -/
  dead : ∀ row ∈ Q.rows (Q.store s), Q.phase row = .dead →
    row ∈ Q.rows (Q.store s') ∨ Q.act s l = .retry (Q.key row)
  /-- An outcome under the lease is recorded. -/
  held : ∀ attempt ∈ Q.tried s l, Q.Held s attempt.key attempt.token →
    attempt.answer = .ok () ∧ Q.act s l = .settle attempt.key attempt.token
  /-- Any other one fails and changes nothing. -/
  lost : ∀ attempt ∈ Q.tried s l, ¬Q.Held s attempt.key attempt.token →
    attempt.answer = .error Q.lost ∧ Q.store s' = Q.store s

/-- The system obeys the protocol in every state that a history of steps with `ok` and
with distinct tokens leads to. -/
def Obeys (init : State → Prop) (ok : State → Label → Prop)
    (step : State → Label → State → Prop) : Prop :=
  ∀ past s, ReachedBy init (fun past s l => Q.Fresh past s l ∧ ok s l) step past s →
    Q.Sound past s ∧ ∀ l s', ok s l → step s l s' → Q.SoundStep s l s'

variable {Q} {past : History State Label} {s s' : State} {l : Label}

omit [DecidableEq Key] in
theorem claims_cons : Q.claims ((s, l) :: past) = (Q.act s l).claims ++ Q.claims past :=
  List.flatMap_cons

omit [DecidableEq Key] in
theorem exists_drawn_of_mem_claims {entry : Key × Token} (h : entry ∈ Q.claims past) :
    ∃ e ∈ past, (Q.act e.1 e.2).drawn = some entry.2 := by
  obtain ⟨e, he, hentry⟩ := List.mem_flatMap.mp h
  exact ⟨e, he, Act.drawn_of_mem_claims hentry⟩

theorem mem_claims_of_latestClaim {key : Key} {token : Token}
    (h : Q.latestClaim past key = some token) : (key, token) ∈ Q.claims past := by
  obtain ⟨entry, hfind, htoken⟩ := Option.map_eq_some_iff.mp h
  have hkey : entry.1 = key := by simpa using List.find?_some hfind
  have hentry : entry = (key, token) := Prod.ext hkey htoken
  exact hentry ▸ List.mem_of_find?_eq_some hfind

/-- The claim of a batch is the latest of each of its records. -/
theorem latestClaim_of_mem {key : Key} {token : Token} {batch : List Key}
    (hact : Q.act s l = .claim token batch) (hin : key ∈ batch) :
    Q.latestClaim ((s, l) :: past) key = some token := by
  have hfind : (batch.find? fun k => k == key) = some key := by
    have hsome : (batch.find? fun k => k == key).isSome = true :=
      List.find?_isSome.mpr ⟨key, hin, beq_self_eq_true key⟩
    obtain ⟨found, hfound⟩ := Option.isSome_iff_exists.mp hsome
    have hkey : found = key := by simpa using List.find?_some hfound
    rw [hfound, hkey]
  unfold latestClaim
  have hclaim : ((batch.map fun k => (k, token)).find? fun entry => entry.1 == key) =
      some (key, token) := by
    rw [List.find?_map]
    show (batch.find? fun k => k == key).map (fun k => (k, token)) = some (key, token)
    rw [hfind, Option.map_some]
  rw [claims_cons, hact, Act.claims, List.find?_append, hclaim]
  rfl

/-- A record that the step does not claim keeps its latest claim. -/
theorem latestClaim_of_leaves {row : Row} (hleaves : Q.Leaves row (Q.act s l)) :
    Q.latestClaim ((s, l) :: past) (Q.key row) = Q.latestClaim past (Q.key row) := by
  have hnone : ((Q.act s l).claims.find? fun entry => entry.1 == Q.key row) = none := by
    refine List.find?_eq_none.mpr fun entry hentry hkey => ?_
    cases hact : Q.act s l with
    | claim token batch =>
        rw [hact] at hentry hleaves
        obtain ⟨key, hin, rfl⟩ := List.mem_map.mp hentry
        have hsame : key = Q.key row := by simpa using hkey
        exact hleaves (hsame ▸ hin)
    | settle key token => rw [hact] at hentry; cases hentry
    | retry key => rw [hact] at hentry; cases hentry
    | giveUp key => rw [hact] at hentry; cases hentry
    | other => rw [hact] at hentry; cases hentry
  unfold latestClaim
  rw [claims_cons, List.find?_append, hnone, Option.none_or]

/-- The invariant of the protocol. -/
structure Tracked (Q : Queue State Label Store Row Key Token) (past : History State Label)
    (s : State) : Prop where
  bounds : ∀ row ∈ Q.rows (Q.store s), Q.WithinBounds row
  /-- A record with a token is in work, and the token is that of its latest claim. -/
  token : ∀ row ∈ Q.rows (Q.store s), ∀ token, Q.token row = some token →
    Q.phase row = .processing ∧ Q.latestClaim past (Q.key row) = some token
  /-- A claim with an outcome is over: no record carries its token. -/
  outcome : ∀ entry ∈ Q.outcomes past, entry ∈ Q.claims past ∧
    ∀ row ∈ Q.rows (Q.store s), Q.key row = entry.1 → Q.token row ≠ some entry.2
  once : (Q.outcomes past).Nodup

theorem Tracked.sound (h : Q.Tracked past s) : Q.Sound past s where
  bounds := h.bounds
  latest row hrow _ token htoken := (h.token row hrow token htoken).2
  claimed entry hentry := (h.outcome entry hentry).1
  once := h.once

/-- A step that moves the table as its act says keeps the invariant. -/
theorem Tracked.next (h : Q.Tracked past s) (hfresh : Q.Fresh past s l)
    (hmoves : Q.Moves (Q.rows (Q.store s)) (Q.act s l) (Q.rows (Q.store s')))
    (hsettle : ∀ key token, Q.act s l = .settle key token → Q.Held s key token) :
    Q.Tracked ((s, l) :: past) s' := by
  refine ⟨hmoves.withinBounds h.bounds, fun row' hrow' token htoken => ?_,
    fun entry hentry => ?_, ?_⟩
  · rcases hmoves.mem hrow' with ⟨row, hrow, hstep⟩ | ⟨hnone, -, -⟩
    · rcases hstep.token_eq_some htoken with ⟨rfl, hleaves⟩ | ⟨hphase, batch, hact, hin⟩
      · rw [latestClaim_of_leaves hleaves]
        exact h.token row' hrow token htoken
      · rw [hstep.sameRecord.key]
        exact ⟨hphase, latestClaim_of_mem hact hin⟩
    · rw [hnone] at htoken
      cases htoken
  · -- The claim with an outcome: an old one, or the one of this step.
    have hcarried : (entry ∈ Q.outcomes past ∨ Q.act s l = .settle entry.1 entry.2) := by
      unfold outcomes at hentry
      rw [List.filterMap_cons] at hentry
      cases hact : Q.act s l with
      | settle key token =>
          rw [hact] at hentry
          rcases List.mem_cons.mp hentry with rfl | hold
          · exact Or.inr rfl
          · exact Or.inl hold
      | claim token batch => rw [hact] at hentry; exact Or.inl hentry
      | retry key => rw [hact] at hentry; exact Or.inl hentry
      | giveUp key => rw [hact] at hentry; exact Or.inl hentry
      | other => rw [hact] at hentry; exact Or.inl hentry
    have hclaim : entry ∈ Q.claims past := by
      rcases hcarried with hold | hact
      · exact (h.outcome entry hold).1
      · obtain ⟨row, hrow, hkey, -, htoken⟩ := hsettle _ _ hact
        have hlatest := (h.token row hrow _ htoken).2
        rw [hkey] at hlatest
        exact mem_claims_of_latestClaim hlatest
    refine ⟨?_, fun row' hrow' hkey htoken => ?_⟩
    · rw [claims_cons]
      exact List.mem_append_right _ hclaim
    · rcases hmoves.mem hrow' with ⟨row, hrow, hstep⟩ | ⟨hnone, -, -⟩
      · rcases hstep.token_eq_some htoken with ⟨rfl, hleaves⟩ | ⟨-, batch, hact, -⟩
        · rcases hcarried with hold | hact
          · exact (h.outcome entry hold).2 row' hrow hkey htoken
          · rw [hact] at hleaves
            exact hleaves ⟨hkey, (h.token row' hrow _ htoken).1, htoken⟩
        · -- A claim draws no token that was drawn before.
          obtain ⟨e, he, hdrawn⟩ := exists_drawn_of_mem_claims hclaim
          have hnew : (Q.act s l).drawn = some entry.2 := by rw [hact]; rfl
          exact hfresh entry.2 (by rw [hnew]; rfl) e he hdrawn
      · rw [hnone] at htoken
        cases htoken
  · unfold outcomes
    rw [List.filterMap_cons]
    cases hact : Q.act s l with
    | settle key token =>
        refine List.nodup_cons.mpr ⟨fun hold => ?_, h.once⟩
        obtain ⟨row, hrow, hkey, -, htoken⟩ := hsettle key token hact
        exact (h.outcome _ hold).2 row hrow hkey htoken
    | claim token batch => exact h.once
    | retry key => exact h.once
    | giveUp key => exact h.once
    | other => exact h.once

/-- The rule.  Each step moves the table as its act says, and an outcome is recorded
exactly when its lease is held. -/
theorem obeys {init : State → Prop} {ok : State → Label → Prop}
    {step : State → Label → State → Prop} (Inv : State → Prop)
    (hinit : ∀ s, init s → Inv s ∧
      ∀ row ∈ Q.rows (Q.store s), Q.token row = none ∧ Q.WithinBounds row)
    (hinv : ∀ s l s', Inv s → ok s l → step s l s' → Inv s')
    (hmoves : ∀ s l s', Inv s → ok s l → step s l s' →
      Q.Moves (Q.rows (Q.store s)) (Q.act s l) (Q.rows (Q.store s')))
    (hsettle : ∀ s l s' key token, Inv s → ok s l → step s l s' → Q.act s l = .settle key token →
      Q.Held s key token)
    (htried : ∀ s l s' attempt, Inv s → ok s l → step s l s' → attempt ∈ Q.tried s l →
      (Q.Held s attempt.key attempt.token →
        attempt.answer = .ok () ∧ Q.act s l = .settle attempt.key attempt.token) ∧
      (¬Q.Held s attempt.key attempt.token →
        attempt.answer = .error Q.lost ∧ Q.store s' = Q.store s)) :
    Q.Obeys init ok step := by
  intro past s hreached
  have hall : Inv s ∧ Q.Tracked past s := by
    refine hreached.invariant (fun past s => Inv s ∧ Q.Tracked past s) (fun s hs => ?_)
      fun past s l s' hold hok hstep => ?_
    · obtain ⟨hInv, hrows⟩ := hinit s hs
      refine ⟨hInv, fun row hrow => (hrows row hrow).2, fun row hrow token htoken => ?_,
        fun entry hentry => ?_, List.nodup_nil⟩
      · rw [(hrows row hrow).1] at htoken
        cases htoken
      · cases hentry
    · have hnext := hold.2.next hok.1 (hmoves s l s' hold.1 hok.2 hstep)
        fun key token hact => hsettle s l s' key token hold.1 hok.2 hstep hact
      exact ⟨hinv s l s' hold.1 hok.2 hstep, hnext⟩
  refine ⟨hall.2.sound, fun l s' hok hstep => ?_⟩
  have hmove := hmoves s l s' hall.1 hok hstep
  refine ⟨fun row hrow hphase => ?_, fun row hrow hphase => ?_, fun attempt hattempt hheld => ?_,
    fun attempt hattempt hlost => ?_⟩
  · obtain ⟨row', hrow', hrowStep⟩ := hmove.of_mem hrow
    rwa [hrowStep.finished hphase] at hrow'
  · obtain ⟨row', hrow', hrowStep⟩ := hmove.of_mem hrow
    rcases hrowStep.dead hphase with hsame | hretry
    · exact Or.inl (hsame ▸ hrow')
    · exact Or.inr hretry
  · exact (htried s l s' attempt hall.1 hok hstep hattempt).1 hheld
  · exact (htried s l s' attempt hall.1 hok hstep hattempt).2 hlost

end Queue

/-! ## Interleaved workers -/

/-- Interleaved calls over a table of leased records. -/
structure Workers (Shared : Type x) (Local : Type y) (Env Input : Type*) (Row : Type u)
    (Key : Type v) (Token : Type w) extends View Row Key Token where
  program : Program Shared Local Env Input
  rows : Shared → List Row
  /-- What the environment does to the table. -/
  envAct : Env → Act Key Token
  /-- Only calls record outcomes. -/
  envAct_outcome : ∀ e, (envAct e).outcome = none
  /-- The token and the records of the claim that the step of a call makes. -/
  claimed : Shared → Input → Local → Option (Token × List Key)
  /-- The outcome that the step of a call tries to record. -/
  tried : Shared → Input → Local → Option (Attempt Key Token)
  lost : String

namespace Workers

variable {Shared : Type x} {Local : Type y} {Env Input : Type*} [DecidableEq Key]
  (W : Workers Shared Local Env Input Row Key Token)

/-- What the step of a call does to the table. -/
def callAct (shared : Shared) (input : Input) (call : Local) : Act Key Token :=
  match W.tried shared input call with
  | some { key, token, answer := .ok () } => .settle key token
  | some { key := _, token := _, answer := .error _ } => .other
  | none =>
    match W.claimed shared input call with
    | some (token, batch) => .claim token batch
    | none => .other

/-- The system of the calls as a queue. -/
def queue : Queue (World Shared Local) (Event Env Local Input) Shared Row Key Token where
  toView := W.toView
  store := World.shared
  rows := W.rows
  act w
    | .env e => W.envAct e
    | .spawn _ => .other
    | .advance i input =>
      match w.locals[i]? with
      | some call => W.callAct w.shared input call
      | none => .other
  tried w
    | .env _ => none
    | .spawn _ => none
    | .advance i input => (w.locals[i]?).bind (W.tried w.shared input)
  lost := W.lost

/-- Some record of the table is claimed under the token. -/
def Holds (shared : Shared) (key : Key) (token : Token) : Prop :=
  ∃ row ∈ W.rows shared, W.HeldAs key token row

/-- What the step of a call may do, by the outcome that it tries to record and by the claim
that it makes. -/
inductive CallStep (shared shared' : Shared) :
    Option (Attempt Key Token) → Option (Token × List Key) → Prop where
  | recorded {key : Key} {token : Token} {claimed : Option (Token × List Key)}
      (hheld : W.Holds shared key token)
      (hmoves : W.Moves (W.rows shared) (.settle key token) (W.rows shared')) :
      CallStep shared shared' (some { key, token, answer := .ok () }) claimed
  | stale {key : Key} {token : Token} {claimed : Option (Token × List Key)}
      (hstale : ¬W.Holds shared key token) (hsame : shared' = shared) :
      CallStep shared shared' (some { key, token, answer := .error W.lost }) claimed
  | claimed {token : Token} {batch : List Key}
      (hmoves : W.Moves (W.rows shared) (.claim token batch) (W.rows shared')) :
      CallStep shared shared' none (some (token, batch))
  | unchanged (hrows : W.rows shared' = W.rows shared) : CallStep shared shared' none none

/-- No two records have one key, and all are within their bounds. -/
structure WellFormed (shared : Shared) : Prop where
  distinct : KeyedList.Distinct W.key (W.rows shared)
  bounds : ∀ row ∈ W.rows shared, W.WithinBounds row

/-- A table without leases. -/
structure Unclaimed (shared : Shared) : Prop extends W.WellFormed shared where
  tokens : ∀ row ∈ W.rows shared, W.token row = none

variable {W}

theorem WellFormed.of_moves {shared shared' : Shared} {act : Act Key Token}
    (h : W.WellFormed shared) (hmoves : W.Moves (W.rows shared) act (W.rows shared')) :
    W.WellFormed shared' :=
  ⟨hmoves.distinct h.distinct, hmoves.withinBounds h.bounds⟩

omit [DecidableEq Key] in
theorem CallStep.moves {shared shared' : Shared} {input : Input} {call : Local}
    (h : W.CallStep shared shared' (W.tried shared input call) (W.claimed shared input call)) :
    W.Moves (W.rows shared) (W.callAct shared input call) (W.rows shared') := by
  unfold callAct
  generalize W.tried shared input call = tried at h
  generalize W.claimed shared input call = claimed at h
  cases h with
  | recorded _ hmoves => exact hmoves
  | stale _ hsame => exact hsame ▸ View.Moves.refl fun _ _ => trivial
  | claimed hmoves => exact hmoves
  | unchanged hrows => exact hrows ▸ View.Moves.refl fun _ _ => trivial

omit [DecidableEq Key] in
theorem CallStep.settles {shared shared' : Shared} {input : Input} {call : Local}
    (h : W.CallStep shared shared' (W.tried shared input call) (W.claimed shared input call))
    {key : Key} {token : Token} (hact : W.callAct shared input call = .settle key token) :
    W.Holds shared key token := by
  unfold callAct at hact
  generalize W.tried shared input call = tried at h hact
  generalize W.claimed shared input call = claimed at h hact
  cases h with
  | recorded hheld _ => cases hact; exact hheld
  | stale _ _ => cases hact
  | claimed _ => cases hact
  | unchanged _ => cases hact

omit [DecidableEq Key] in
theorem CallStep.answered {shared shared' : Shared} {input : Input} {call : Local}
    (h : W.CallStep shared shared' (W.tried shared input call) (W.claimed shared input call))
    {attempt : Attempt Key Token} (htried : W.tried shared input call = some attempt) :
    (W.Holds shared attempt.key attempt.token → attempt.answer = .ok () ∧
      W.callAct shared input call = .settle attempt.key attempt.token) ∧
    (¬W.Holds shared attempt.key attempt.token →
      attempt.answer = .error W.lost ∧ shared' = shared) := by
  unfold callAct
  generalize W.claimed shared input call = claimed at h
  rw [htried] at h
  rw [htried]
  cases h with
  | recorded hheld _ => exact ⟨fun _ => ⟨rfl, rfl⟩, fun hnot => absurd hheld hnot⟩
  | stale hstale hsame => exact ⟨fun hheld => absurd hheld hstale, fun _ => ⟨rfl, hsame⟩⟩

/-- The rule for interleaved calls.  `L` says what the calls in progress hold, and `I` what
else is kept of the tables. -/
theorem obeys {init : World Shared Local → Prop} (okEnv : Shared → Env → Prop)
    (I : Shared → Prop) (L : Local → Prop)
    (hinit : ∀ w, init w → w.Quiescent ∧ W.Unclaimed w.shared ∧ I w.shared)
    (hspawn : ∀ call, W.program.initial call = true → L call)
    (henv : ∀ shared e, W.WellFormed shared → I shared → okEnv shared e →
      W.Moves (W.rows shared) (W.envAct e) (W.rows (W.program.env shared e)) ∧
        I (W.program.env shared e))
    (hadvance : ∀ shared input call shared' call', W.WellFormed shared → I shared → L call →
      W.program.advance shared input call = some (shared', call') →
      W.CallStep shared shared' (W.tried shared input call) (W.claimed shared input call) ∧
        I shared' ∧ ∀ next, call' = some next → L next) :
    W.queue.Obeys init (fun w ev => ∀ e, ev = .env e → okEnv w.shared e) W.program.step := by
  have hmoves : ∀ w ev w', (W.WellFormed w.shared ∧ I w.shared ∧ ∀ call ∈ w.locals, L call) →
      (∀ e, ev = .env e → okEnv w.shared e) → W.program.step w ev w' →
      W.Moves (W.rows w.shared) (W.queue.act w ev) (W.rows w'.shared) ∧
        (I w'.shared ∧ ∀ call ∈ w'.locals, L call) ∧
        (∀ key token, W.queue.act w ev = .settle key token → W.Holds w.shared key token) ∧
        ∀ attempt ∈ W.queue.tried w ev,
          (W.Holds w.shared attempt.key attempt.token → attempt.answer = .ok () ∧
            W.queue.act w ev = .settle attempt.key attempt.token) ∧
          (¬W.Holds w.shared attempt.key attempt.token →
            attempt.answer = .error W.lost ∧ w'.shared = w.shared) := by
    intro w ev w' hw hok hstep
    rcases Program.step_cases hstep with ⟨e, rfl, rfl⟩ | ⟨call, rfl, hcall, rfl⟩ |
      ⟨i, input, call, shared', call', rfl, hcall, hadv, rfl⟩
    · obtain ⟨henvMoves, hI⟩ := henv w.shared e hw.1 hw.2.1 (hok e rfl)
      refine ⟨henvMoves, ⟨hI, hw.2.2⟩, fun key token hact => ?_, fun attempt h => ?_⟩
      · have hnone : (Act.settle key token : Act Key Token).outcome = none := by
          rw [← hact]
          exact W.envAct_outcome e
        cases hnone
      · cases h
    · refine ⟨View.Moves.refl fun _ _ => trivial, ⟨hw.2.1, fun m hm => ?_⟩,
        fun key token hact => ?_, fun attempt h => ?_⟩
      · rcases List.mem_append.mp hm with hold | hnew
        · exact hw.2.2 m hold
        · rw [List.mem_singleton.mp hnew]
          exact hspawn call hcall
      · cases hact
      · cases h
    · have hmem : call ∈ w.locals := List.mem_of_getElem? hcall
      obtain ⟨hcallStep, hI, hnext⟩ := hadvance w.shared input call shared' call' hw.1 hw.2.1
        (hw.2.2 call hmem) hadv
      have hact : W.queue.act w (.advance i input) = W.callAct w.shared input call := by
        simp only [queue, hcall]
      have htried : W.queue.tried w (.advance i input) = W.tried w.shared input call := by
        simp only [queue, hcall, Option.bind_some]
      rw [hact, htried]
      refine ⟨hcallStep.moves, ⟨hI, fun m hm => ?_⟩, fun key token h => hcallStep.settles h,
        fun attempt h => hcallStep.answered h⟩
      rcases mem_replaceLocal hm with hnew | hold
      · exact hnext m hnew
      · exact hw.2.2 m hold
  refine Queue.obeys (fun w => W.WellFormed w.shared ∧ I w.shared ∧ ∀ call ∈ w.locals, L call)
    (fun w hw => ?_) (fun w ev w' hw hok hstep => ?_) (fun w ev w' hw hok hstep => ?_)
    (fun w ev w' key token hw hok hstep hact => ?_)
    (fun w ev w' attempt hw hok hstep hattempt => ?_)
  · obtain ⟨hquiet, hunclaimed, hI⟩ := hinit w hw
    refine ⟨⟨hunclaimed.toWellFormed, hI, fun call hcall => ?_⟩, fun row hrow =>
      ⟨hunclaimed.tokens row hrow, hunclaimed.bounds row hrow⟩⟩
    rw [show w.locals = [] from hquiet] at hcall
    cases hcall
  · obtain ⟨hmove, hcalls, -, -⟩ := hmoves w ev w' hw hok hstep
    exact ⟨hw.1.of_moves hmove, hcalls⟩
  · exact (hmoves w ev w' hw hok hstep).1
  · exact (hmoves w ev w' hw hok hstep).2.2.1 key token hact
  · exact (hmoves w ev w' hw hok hstep).2.2.2 attempt hattempt

end Workers

/-! ## The claim -/

/-- How a claim under `token` chooses records and what it does to them. -/
structure ClaimRules (V : View Row Key Token) (token : Token) where
  isExhausted : Row → Bool
  isCandidate : Row → Bool
  before : Row → Row → Bool
  exhaust : Row → Row
  claim : Row → Row
  exhausted_processing : ∀ row, isExhausted row = true → V.phase row = .processing
  candidate_left : ∀ row, isCandidate row = true → V.attempts row < V.maxAttempts row
  candidate_phase : ∀ row, isCandidate row = true →
    V.phase row = .waiting ∨ V.phase row = .processing
  exhaust_same : ∀ row, V.SameRecord row (exhaust row)
  exhaust_attempts : ∀ row, V.attempts (exhaust row) = V.attempts row
  exhaust_phase : ∀ row, V.phase (exhaust row) = .dead
  exhaust_token : ∀ row, V.token (exhaust row) = none
  claim_same : ∀ row, V.SameRecord row (claim row)
  claim_attempts : ∀ row, V.attempts (claim row) = V.attempts row + 1
  claim_phase : ∀ row, V.phase (claim row) = .processing
  claim_token : ∀ row, V.token (claim row) = some token

namespace ClaimRules

variable {V : View Row Key Token} {token : Token} [DecidableEq Key] (C : ClaimRules V token)

/-- The records after the exhausted ones are buried. -/
def buried (rows : List Row) : List Row := KeyedList.updateMany C.isExhausted C.exhaust rows

/-- The keys of the records that are claimed: the first `batchSize` candidates that no
other transaction has locked. -/
def pick (locked : List Key) (batchSize : Nat) (rows : List Row) : List Key :=
  ((((rows.filter C.isCandidate).filter (V.key · ∉ locked)).insertionSort
    fun row other => C.before row other = true).take batchSize).map V.key

/-- The records after the picked ones are claimed, and these. -/
def claimPicked (locked : List Key) (batchSize : Nat) (rows : List Row) : List Row × List Row :=
  let claimed := KeyedList.updateMany (V.key · ∈ C.pick locked batchSize rows) C.claim rows
  (claimed, claimed.filter (V.key · ∈ C.pick locked batchSize rows))

/-- The keys that a claim on the table picks. -/
def chosen (locked : List Key) (batchSize : Nat) (rows : List Row) : List Key :=
  C.pick locked batchSize (C.buried rows)

/-- The table after the claim, and the records that it returns. -/
def run (locked : List Key) (batchSize : Nat) (rows : List Row) : List Row × List Row :=
  C.claimPicked locked batchSize (C.buried rows)

/-- What a claim of `batch` makes of one record. -/
inductive Change (batch : List Key) (row : Row) : Row → Prop where
  | kept (hnot : V.key row ∉ batch) (hexhausted : C.isExhausted row = false) :
      Change batch row row
  | exhausted (hnot : V.key row ∉ batch) (hexhausted : C.isExhausted row = true) :
      Change batch row (C.exhaust row)
  | claimed (hin : V.key row ∈ batch) (hcandidate : C.isCandidate row = true) :
      Change batch row (C.claim row)

variable {C}

omit [DecidableEq Key] in
theorem Change.rowStep {batch : List Key} {row row' : Row} (h : C.Change batch row row') :
    V.RowStep (.claim token batch) row row' := by
  cases h with
  | kept hnot _ => exact .same hnot
  | exhausted hnot hexhausted =>
      exact .exhausted (C.exhaust_same row) hnot (C.exhausted_processing row hexhausted)
        (C.exhaust_attempts row) (C.exhaust_phase row) (C.exhaust_token row)
  | claimed hin hcandidate =>
      exact .claimed (C.claim_same row) hin (C.candidate_left row hcandidate)
        (C.candidate_phase row hcandidate) (C.claim_attempts row) (C.claim_phase row)
        (C.claim_token row)

variable {rows : List Row} {locked : List Key} {batchSize : Nat}

omit [DecidableEq Key] in
theorem distinct_buried (hd : KeyedList.Distinct V.key rows) :
    KeyedList.Distinct V.key (C.buried rows) :=
  KeyedList.distinct_updateMany (fun row => (C.exhaust_same row).key) hd

/-- A chosen record is a candidate. -/
theorem isCandidate_of_chosen (hd : KeyedList.Distinct V.key rows) {row : Row}
    (hrow : row ∈ C.buried rows) (hin : V.key row ∈ C.chosen locked batchSize rows) :
    C.isCandidate row = true := by
  obtain ⟨other, hother, hkey⟩ := List.mem_map.mp hin
  have hsorted := List.mem_of_mem_take hother
  rw [List.mem_insertionSort, List.mem_filter, List.mem_filter] at hsorted
  have hsame : other = row := KeyedList.eq_of_key (distinct_buried hd) hsorted.1.1 hrow hkey
  exact hsame ▸ hsorted.1.2

/-- What the claim makes of each record, by the keys that it chose. -/
theorem run_fst_chosen (C : ClaimRules V token) (locked : List Key) (batchSize : Nat)
    (hd : KeyedList.Distinct V.key rows) :
    ∃ f : Row → Row, (C.run locked batchSize rows).1 = rows.map f ∧
      ∀ row ∈ rows, C.Change (C.chosen locked batchSize rows) row (f row) := by
  refine ⟨fun row =>
    if V.key (if C.isExhausted row then C.exhaust row else row) ∈ C.chosen locked batchSize rows
    then C.claim (if C.isExhausted row then C.exhaust row else row)
    else if C.isExhausted row then C.exhaust row else row, ?_, fun row hrow => ?_⟩
  · show KeyedList.updateMany (V.key · ∈ C.chosen locked batchSize rows) C.claim
      (KeyedList.updateMany C.isExhausted C.exhaust rows) = _
    unfold KeyedList.updateMany
    rw [List.map_map]
    refine List.map_congr_left fun row _ => ?_
    simp only [Function.comp_apply, decide_eq_true_eq]
  · have hburied : (if C.isExhausted row then C.exhaust row else row) ∈ C.buried rows :=
      List.mem_map_of_mem hrow
    by_cases hexhausted : C.isExhausted row = true
    · -- A buried record is no candidate.
      rw [if_pos hexhausted] at hburied
      have hnot : V.key (C.exhaust row) ∉ C.chosen locked batchSize rows := by
        intro hin
        have hphase := C.candidate_phase _ (isCandidate_of_chosen hd hburied hin)
        rw [C.exhaust_phase row] at hphase
        rcases hphase with hphase | hphase <;> cases hphase
      show C.Change _ row (if V.key (if C.isExhausted row then C.exhaust row else row) ∈ _
        then _ else _)
      rw [if_pos hexhausted, if_neg hnot]
      exact .exhausted ((C.exhaust_same row).key ▸ hnot) hexhausted
    · have hkept : C.isExhausted row = false := by simpa using hexhausted
      rw [if_neg hexhausted] at hburied
      show C.Change _ row (if V.key (if C.isExhausted row then C.exhaust row else row) ∈ _
        then _ else _)
      rw [if_neg hexhausted]
      by_cases hin : V.key row ∈ C.chosen locked batchSize rows
      · rw [if_pos hin]
        exact .claimed hin (isCandidate_of_chosen hd hburied hin)
      · rw [if_neg hin]
        exact .kept hin hkept

/-- A record that the claim returns is a claimed candidate. -/
theorem mem_run_snd (hd : KeyedList.Distinct V.key rows) {claimed : Row}
    (h : claimed ∈ (C.run locked batchSize rows).2) :
    claimed ∈ (C.run locked batchSize rows).1 ∧
      ∃ row ∈ rows, C.isCandidate row = true ∧ claimed = C.claim row := by
  obtain ⟨hmem, hin⟩ := List.mem_filter.mp h
  refine ⟨hmem, ?_⟩
  have hkey : V.key claimed ∈ C.chosen locked batchSize rows := of_decide_eq_true hin
  obtain ⟨f, hf, hchange⟩ := run_fst_chosen C locked batchSize hd
  have hmem' : claimed ∈ (C.run locked batchSize rows).1 := hmem
  rw [hf] at hmem'
  obtain ⟨row, hrow, rfl⟩ := List.mem_map.mp hmem'
  have hsame : V.key (f row) = V.key row := (hchange row hrow).rowStep.sameRecord.key
  have hchosen : V.key row ∈ C.chosen locked batchSize rows := hsame ▸ hkey
  refine ⟨row, hrow, ?_⟩
  have hrowChange := hchange row hrow
  generalize hnew : f row = new at hrowChange
  cases hrowChange with
  | kept hnot _ => exact absurd hchosen hnot
  | exhausted hnot _ => exact absurd hchosen hnot
  | claimed _ hcandidate => exact ⟨hcandidate, rfl⟩

/-- The claim returns the records that it chose. -/
theorem key_mem_returned (C : ClaimRules V token) (locked : List Key) (batchSize : Nat)
    (hd : KeyedList.Distinct V.key rows) {row : Row} (hrow : row ∈ rows) :
    V.key row ∈ (C.run locked batchSize rows).2.map V.key ↔
      V.key row ∈ C.chosen locked batchSize rows := by
  obtain ⟨f, hf, hchange⟩ := run_fst_chosen C locked batchSize hd
  have hsame : V.key (f row) = V.key row := (hchange row hrow).rowStep.sameRecord.key
  constructor
  · intro hin
    obtain ⟨claimed, hclaimed, hkey⟩ := List.mem_map.mp hin
    have hchosen := (List.mem_filter.mp hclaimed).2
    rw [decide_eq_true_eq] at hchosen
    exact hkey ▸ hchosen
  · intro hin
    refine List.mem_map.mpr ⟨f row, List.mem_filter.mpr ⟨?_, ?_⟩, hsame⟩
    · show f row ∈ (C.run locked batchSize rows).1
      rw [hf]
      exact List.mem_map_of_mem hrow
    · rw [decide_eq_true_eq, hsame]
      exact hin

/-- What the claim makes of each record, by the records that it returns. -/
theorem run_fst (C : ClaimRules V token) (locked : List Key) (batchSize : Nat)
    (hd : KeyedList.Distinct V.key rows) :
    ∃ f : Row → Row, (C.run locked batchSize rows).1 = rows.map f ∧
      ∀ row ∈ rows, C.Change ((C.run locked batchSize rows).2.map V.key) row (f row) := by
  obtain ⟨f, hf, hchange⟩ := run_fst_chosen C locked batchSize hd
  refine ⟨f, hf, fun row hrow => ?_⟩
  have hiff := key_mem_returned C locked batchSize hd hrow
  have hrowChange := hchange row hrow
  generalize f row = new at hrowChange
  cases hrowChange with
  | kept hnot hexhausted => exact .kept (mt hiff.mp hnot) hexhausted
  | exhausted hnot hexhausted => exact .exhausted (mt hiff.mp hnot) hexhausted
  | claimed hin hcandidate => exact .claimed (hiff.mpr hin) hcandidate

/-- The claim moves the table. -/
theorem moves (C : ClaimRules V token) (locked : List Key) (batchSize : Nat)
    (hd : KeyedList.Distinct V.key rows) :
    V.Moves rows (.claim token ((C.run locked batchSize rows).2.map V.key))
      (C.run locked batchSize rows).1 := by
  obtain ⟨f, hf, hchange⟩ := run_fst C locked batchSize hd
  rw [hf]
  exact .update f fun row hrow => (hchange row hrow).rowStep

end ClaimRules

/-! ## The guarded updates -/

namespace View

variable {V : View Row Key Token} {rows : List Row} {key : Key} {p : Row → Bool}
  {f : Row → Row}

/-- A guarded update finds its record exactly when some record is held under the token. -/
theorem countP_eq_one_iff {token : Token} [DecidableEq Key]
    (hd : KeyedList.Distinct V.key rows) (hp : ∀ row, p row = true ↔ V.HeldAs key token row) :
    rows.countP p = 1 ↔ ∃ row ∈ rows, V.HeldAs key token row := by
  have hle : rows.countP p ≤ 1 :=
    KeyedList.countP_le_one hd fun row _ hrow => ((hp row).mp hrow).1
  have hpos : 0 < rows.countP p ↔ ∃ row ∈ rows, p row = true := List.countP_pos_iff
  constructor
  · intro hone
    obtain ⟨row, hrow, hheld⟩ := hpos.mp (by omega)
    exact ⟨row, hrow, (hp row).mp hheld⟩
  · rintro ⟨row, hrow, hheld⟩
    have := hpos.mpr ⟨row, hrow, (hp row).mpr hheld⟩
    omega

/-- An update of the record that is held under the token records the outcome. -/
theorem moves_settle {token : Token} (hp : ∀ row, p row = true ↔ V.HeldAs key token row)
    (hsame : ∀ row, V.SameRecord row (f row)) (hattempts : ∀ row, V.attempts (f row) = V.attempts row)
    (htoken : ∀ row, V.token (f row) = none) :
    V.Moves rows (.settle key token) (KeyedList.updateMany p f rows) := by
  refine .update _ fun row _ => ?_
  by_cases hheld : p row = true
  · rw [if_pos hheld]
    exact .settled (hsame row) ((hp row).mp hheld) (hattempts row) (htoken row)
  · rw [if_neg hheld]
    exact .same fun h => hheld ((hp row).mpr h)

/-- An update that starts a waiting or buried record over is a retry of it. -/
theorem moves_retry (hkey : ∀ row, p row = true → V.key row = key)
    (hphase : ∀ row, p row = true → V.phase row = .waiting ∨ V.phase row = .dead)
    (hsame : ∀ row, V.SameRecord row (f row)) (hattempts : ∀ row, V.attempts (f row) = 0)
    (htoken : ∀ row, V.token (f row) = none) :
    V.Moves rows (.retry key) (KeyedList.updateMany p f rows) := by
  refine .update _ fun row _ => ?_
  by_cases hrow : p row = true
  · rw [if_pos hrow]
    exact .retried (hsame row) (hkey row hrow) (hphase row hrow) (hattempts row) (htoken row)
  · rw [if_neg hrow]
    exact .same trivial

/-- An update that buries a waiting record gives it up. -/
theorem moves_giveUp (hkey : ∀ row, p row = true → V.key row = key)
    (hphase : ∀ row, p row = true → V.phase row = .waiting)
    (hsame : ∀ row, V.SameRecord row (f row)) (hattempts : ∀ row, V.attempts (f row) = V.attempts row)
    (htoken : ∀ row, V.token (f row) = none) :
    V.Moves rows (.giveUp key) (KeyedList.updateMany p f rows) := by
  refine .update _ fun row _ => ?_
  by_cases hrow : p row = true
  · rw [if_pos hrow]
    exact .givenUp (hsame row) (hkey row hrow) (hphase row hrow) (hattempts row) (htoken row)
  · rw [if_neg hrow]
    exact .same trivial

end View

end AvantimePlatform.LeaseQueue
