import AvantimePlatform.Lib.Transition

/-!
# Interleaved calls over shared state

Any number of calls run at the same time over one shared state.  A call is a
local state that says which awaited operation it is about to make; one step of
the call makes that operation on the shared state and either leaves the call at
its next operation or ends it.  Between two steps of one call any other call may
step, a new call may begin, and the environment (the clock) may move.

`Program.next` is the executable step of such a system.  The rule to prove facts
about all interleavings is `Program.reachable_inv`: an invariant of the shared
state and an assertion for each local state, where every step of one call keeps
the assertions of all the others.

Nothing here names a component of the platform.
-/

namespace AvantimePlatform.Interleaving

open AvantimePlatform.Transition

universe u v w x

/-- The calls in progress, over the state they share. -/
structure World (Shared : Type u) (Local : Type v) where
  shared : Shared
  locals : List Local

/-- What can happen next. -/
inductive Event (Env : Type w) (Local : Type v) (Input : Type x) where
  /-- The environment moves on its own. -/
  | env (e : Env)
  /-- A new call begins. -/
  | spawn (l : Local)
  /-- The call at position `i` makes its next step; `input` is what the world
  outside the model answers. -/
  | advance (i : Nat) (input : Input)

/-- The code of the calls: where a call may begin, what one step of it does, and
how the environment moves the shared state. -/
structure Program (Shared : Type u) (Local : Type v) (Env : Type w) (Input : Type x) where
  env : Shared → Env → Shared
  initial : Local → Bool
  advance : Shared → Input → Local → Option (Shared × Option Local)

variable {Shared : Type u} {Local : Type v} {Env : Type w} {Input : Type x}

/-- No call is in progress. -/
def World.Quiescent (w : World Shared Local) : Prop := w.locals = []

instance (w : World Shared Local) : Decidable w.Quiescent :=
  decidable_of_iff (w.locals.isEmpty = true) List.isEmpty_iff

/-- Put a call where its step left it, or drop it when it ended. -/
def replaceLocal (ls : List Local) (i : Nat) : Option Local → List Local
  | some l => ls.set i l
  | none => ls.eraseIdx i

theorem mem_replaceLocal {ls : List Local} {i : Nat} {next : Option Local} {m : Local}
    (h : m ∈ replaceLocal ls i next) : next = some m ∨ m ∈ ls := by
  cases next with
  | none => exact Or.inr (List.mem_of_mem_eraseIdx h)
  | some l =>
      rcases List.mem_or_eq_of_mem_set h with hmem | rfl
      · exact Or.inr hmem
      · exact Or.inl rfl

namespace Program

variable (P : Program Shared Local Env Input)

/-- One step of the interleaved system. -/
def next (w : World Shared Local) : Event Env Local Input → Option (World Shared Local)
  | .env e => some { w with shared := P.env w.shared e }
  | .spawn l => if P.initial l then some { w with locals := w.locals ++ [l] } else none
  | .advance i input =>
      (w.locals[i]?).bind fun l =>
        (P.advance w.shared input l).map fun (sh, l') =>
          { shared := sh, locals := replaceLocal w.locals i l' }

/-- The step relation of the interleaved system. -/
abbrev step : World Shared Local → Event Env Local Input → World Shared Local → Prop :=
  stepOf P.next

variable {P} {w w' : World Shared Local}

/-- Everything one step can do. -/
theorem step_cases {ev : Event Env Local Input} (h : P.step w ev w') :
    (∃ e, ev = .env e ∧ w' = { w with shared := P.env w.shared e }) ∨
    (∃ l, ev = .spawn l ∧ P.initial l = true ∧ w' = { w with locals := w.locals ++ [l] }) ∨
    (∃ i input l sh l', ev = .advance i input ∧ w.locals[i]? = some l ∧
      P.advance w.shared input l = some (sh, l') ∧
      w' = { shared := sh, locals := replaceLocal w.locals i l' }) := by
  cases ev with
  | env e =>
      have hw : { w with shared := P.env w.shared e } = w' := by simpa [step, stepOf, next] using h
      exact Or.inl ⟨e, rfl, hw.symm⟩
  | spawn l =>
      simp only [step, stepOf, next] at h
      split at h
      · next hl => exact Or.inr (Or.inl ⟨l, rfl, hl, (Option.some.inj h).symm⟩)
      · cases h
  | advance i input =>
      obtain ⟨l, hl, hrest⟩ := Option.bind_eq_some_iff.mp h
      obtain ⟨⟨sh, l'⟩, hadv, hw⟩ := Option.map_eq_some_iff.mp hrest
      exact Or.inr (Or.inr ⟨i, input, l, sh, l', rfl, hl, hadv, hw.symm⟩)

section Rules

variable {ok : World Shared Local → Event Env Local Input → Prop}
  {I : Shared → Prop} {L : Shared → Local → Prop}

/-- One step of the system keeps the invariant and every call's assertion, when

* the environment keeps them,
* a new call satisfies its assertion where it begins,
* a step of a call keeps the invariant, establishes the assertion of the place
  it leaves the call at, and keeps the assertion of every call in progress. -/
theorem step_inv
    (henv : ∀ sh e, I sh → I (P.env sh e) ∧ ∀ m, L sh m → L (P.env sh e) m)
    (hspawn : ∀ w l, I w.shared → ok w (.spawn l) → P.initial l = true → L w.shared l)
    (hadvance : ∀ w i input l sh l', I w.shared → (∀ m ∈ w.locals, L w.shared m) →
      ok w (.advance i input) → w.locals[i]? = some l → l ∈ w.locals →
      P.advance w.shared input l = some (sh, l') →
      I sh ∧ (∀ m, l' = some m → L sh m) ∧ ∀ m ∈ w.locals, L w.shared m → L sh m)
    {ev : Event Env Local Input} (hI : I w.shared) (hL : ∀ m ∈ w.locals, L w.shared m)
    (hok : ok w ev) (h : P.step w ev w') :
    I w'.shared ∧ ∀ m ∈ w'.locals, L w'.shared m := by
  rcases step_cases h with ⟨e, -, rfl⟩ | ⟨l, rfl, hl, rfl⟩ |
    ⟨i, input, l, sh, l', rfl, hl, hadv, rfl⟩
  · obtain ⟨hI', hkeep⟩ := henv w.shared e hI
    exact ⟨hI', fun m hm => hkeep m (hL m hm)⟩
  · refine ⟨hI, fun m hm => ?_⟩
    rcases List.mem_append.mp hm with hmem | hmem
    · exact hL m hmem
    · rw [List.mem_singleton.mp hmem]
      exact hspawn w l hI hok hl
  · have hmem : l ∈ w.locals := List.mem_of_getElem? hl
    obtain ⟨hI', hnew, hkeep⟩ := hadvance w i input l sh l' hI hL hok hl hmem hadv
    refine ⟨hI', fun m hm => ?_⟩
    rcases mem_replaceLocal hm with rfl | hold
    · exact hnew m rfl
    · exact hkeep m hold (hL m hold)

/-- The interleaving rule: with the premises of `step_inv`, the invariant and
the assertions hold in every state that a run reaches whose steps meet `ok`. -/
theorem reachable_inv {init : World Shared Local → Prop}
    (hinit : ∀ w, init w → I w.shared ∧ ∀ m ∈ w.locals, L w.shared m)
    (henv : ∀ sh e, I sh → I (P.env sh e) ∧ ∀ m, L sh m → L (P.env sh e) m)
    (hspawn : ∀ w l, I w.shared → ok w (.spawn l) → P.initial l = true → L w.shared l)
    (hadvance : ∀ w i input l sh l', I w.shared → (∀ m ∈ w.locals, L w.shared m) →
      ok w (.advance i input) → w.locals[i]? = some l → l ∈ w.locals →
      P.advance w.shared input l = some (sh, l') →
      I sh ∧ (∀ m, l' = some m → L sh m) ∧ ∀ m ∈ w.locals, L w.shared m → L sh m)
    (hr : Reachable init (Guarded ok P.step) w) :
    I w.shared ∧ ∀ m ∈ w.locals, L w.shared m :=
  hr.invariant (fun w => I w.shared ∧ ∀ m ∈ w.locals, L w.shared m) hinit
    fun _ _ _ hinv hstep =>
      step_inv henv hspawn hadvance hinv.1 hinv.2 hstep.1 hstep.2

end Rules

end Program

end AvantimePlatform.Interleaving
