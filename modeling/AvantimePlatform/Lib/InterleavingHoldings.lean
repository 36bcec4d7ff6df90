import AvantimePlatform.Lib.Happenings
import AvantimePlatform.Lib.Interleaving

/-!
# What interleaved calls hold

A call may hold something that it has taken out of the shared state and has to give back.
`holds_run`: when every step of a call gives back what the call no longer holds, or drops it, what
is taken behind a run is what the calls in progress hold and what was dropped along the run.

Nothing here names a component of the platform.
-/

namespace AvantimePlatform.Interleaving

open AvantimePlatform.Transition

universe u v w x y

variable {Shared : Type u} {Local : Type v} {Env : Type w} {Input : Type x} {Thing : Type y}

/-- The state behind a run. -/
def stateBehind {State Label : Type*} : State → List (Label × State) → State
  | s, [] => s
  | _, (_, s') :: rest => stateBehind s' rest

/-- What the calls of a list hold, the one at position `i` first. -/
theorem perm_filterMap_eraseIdx (held : Local → Option Thing) {ls : List Local} {i : Nat} {l : Local}
    (h : ls[i]? = some l) :
    (ls.filterMap held).Perm ((held l).toList ++ (ls.eraseIdx i).filterMap held) := by
  induction ls generalizing i with
  | nil => simp at h
  | cons m ls ih =>
      cases i with
      | zero =>
          obtain rfl : m = l := by simpa using h
          rw [List.eraseIdx_cons_zero, List.filterMap_cons]
          cases held m with
          | none => exact List.Perm.refl _
          | some thing => exact List.Perm.refl _
      | succ i =>
          have hrest := ih (by simpa using h)
          rw [List.eraseIdx_cons_succ, List.filterMap_cons, List.filterMap_cons]
          cases held m with
          | none => exact hrest
          | some thing => exact (List.Perm.cons thing hrest).trans List.perm_middle.symm

theorem perm_filterMap_replaceLocal (held : Local → Option Thing) {ls : List Local} {i : Nat}
    {l : Local} (h : ls[i]? = some l) (next : Option Local) :
    ((replaceLocal ls i next).filterMap held).Perm
      ((next.bind held).toList ++ (ls.eraseIdx i).filterMap held) := by
  cases next with
  | none => exact List.Perm.refl _
  | some m =>
      obtain ⟨hi, -⟩ := List.getElem?_eq_some_iff.mp h
      have hm : (ls.set i m)[i]? = some m := List.getElem?_set_self hi
      have hperm := perm_filterMap_eraseIdx held hm
      rw [List.eraseIdx_set_eq] at hperm
      exact hperm

namespace Program

variable {P : Program Shared Local Env Input} {taken : Shared → List Thing}
  {held : Local → Option Thing} {Sound : Shared → Prop}
  {dropped : Shared → Input → Local → Option Thing} {left : List Thing}
  {w w' : World Shared Local}

/-- What a step of the system drops. -/
def dropping (dropped : Shared → Input → Local → Option Thing) (w : World Shared Local) :
    Event Env Local Input → Option Thing
  | .env _ => none
  | .spawn _ => none
  | .advance i input => (w.locals[i]?).bind (dropped w.shared input)

/-- What is taken is what the calls in progress hold, and what is left over. -/
structure Holds (taken : Shared → List Thing) (held : Local → Option Thing) (Sound : Shared → Prop)
    (left : List Thing) (w : World Shared Local) : Prop where
  sound : Sound w.shared
  taken : (taken w.shared).Perm (w.locals.filterMap held ++ left)

theorem holds_step
    (henv : ∀ sh e, Sound sh → Sound (P.env sh e) ∧ (taken (P.env sh e)).Perm (taken sh))
    (hspawn : ∀ l, P.initial l = true → held l = none)
    (hadvance : ∀ sh input l sh' l' rest, Sound sh → P.advance sh input l = some (sh', l') →
      (taken sh).Perm ((held l).toList ++ rest) →
      Sound sh' ∧ (taken sh').Perm
        ((l'.bind held).toList ++ (rest ++ (dropped sh input l).toList)))
    {ev : Event Env Local Input} (hw : Holds taken held Sound left w) (h : P.step w ev w') :
    Holds taken held Sound (left ++ (dropping dropped w ev).toList) w' := by
  rcases step_cases h with ⟨e, rfl, rfl⟩ | ⟨l, rfl, hl, rfl⟩ |
    ⟨i, input, l, sh, l', rfl, hl, hadv, rfl⟩
  · obtain ⟨hsound, htaken⟩ := henv w.shared e hw.sound
    refine ⟨hsound, ?_⟩
    rw [dropping, Option.toList_none, List.append_nil]
    exact htaken.trans hw.taken
  · refine ⟨hw.sound, ?_⟩
    have hnone : List.filterMap held [l] = [] := by simp [hspawn l hl]
    rw [dropping, Option.toList_none, List.append_nil]
    show (taken w.shared).Perm ((w.locals ++ [l]).filterMap held ++ left)
    rw [List.filterMap_append, hnone, List.append_nil]
    exact hw.taken
  · have hbefore : (taken w.shared).Perm
        ((held l).toList ++ ((w.locals.eraseIdx i).filterMap held ++ left)) := by
      rw [← List.append_assoc]
      exact hw.taken.trans ((perm_filterMap_eraseIdx held hl).append_right left)
    obtain ⟨hsound, hafter⟩ := hadvance w.shared input l sh l' _ hw.sound hadv hbefore
    refine ⟨hsound, hafter.trans ?_⟩
    have hdropped : dropping dropped w (Event.advance i input : Event Env Local Input) =
        dropped w.shared input l := by
      rw [dropping, hl, Option.bind_some]
    rw [hdropped, ← List.append_assoc, ← List.append_assoc, ← List.append_assoc]
    exact ((perm_filterMap_replaceLocal held hl l').symm.append_right left).append_right _

/-- What is taken behind a run is what the calls in progress hold, what was left over before it,
and what was dropped along it. -/
theorem holds_run
    (henv : ∀ sh e, Sound sh → Sound (P.env sh e) ∧ (taken (P.env sh e)).Perm (taken sh))
    (hspawn : ∀ l, P.initial l = true → held l = none)
    (hadvance : ∀ sh input l sh' l' rest, Sound sh → P.advance sh input l = some (sh', l') →
      (taken sh).Perm ((held l).toList ++ rest) →
      Sound sh' ∧ (taken sh').Perm
        ((l'.bind held).toList ++ (rest ++ (dropped sh input l).toList)))
    {run : List (Event Env Local Input × World Shared Local)} (hrun : Run P.step w run)
    (hw : Holds taken held Sound left w) :
    Holds taken held Sound (left ++ happenings (dropping dropped) w run) (stateBehind w run) := by
  induction hrun generalizing left with
  | nil w =>
      rw [happenings, List.append_nil]
      exact hw
  | cons hstep _ ih =>
      have hnext := holds_step henv hspawn hadvance hw hstep
      rw [happenings, ← List.append_assoc]
      exact ih hnext

end Program

end AvantimePlatform.Interleaving
