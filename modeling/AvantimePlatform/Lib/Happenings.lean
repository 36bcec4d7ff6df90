import AvantimePlatform.Lib.Transition

/-!
# What happens along a run

`event` reads off a step what happens in it, if anything.  `happenings` lists what
happens along a run, in order.

The rule for things that happen at most once: something that happens was open before the
step and is closed after it, and what is closed stays closed.  Then nothing happens twice
along a run, and nothing happens after it was closed by other means.  Where what happens
closes other things as well, what happens later is in the relation that is left.

Nothing here names a component of the platform.
-/

namespace AvantimePlatform.Transition

universe u v w

variable {State : Type u} {Label : Type v} {Thing : Type w}

/-- What happens along a run. -/
def happenings (event : State → Label → Option Thing) :
    State → List (Label × State) → List Thing
  | _, [] => []
  | s, (l, s') :: rest => (event s l).toList ++ happenings event s' rest

/-- What is closed in some state of the run does not happen from there on. -/
def NeverAfterClosed (event : State → Label → Option Thing) (Closed : State → Thing → Prop) :
    State → List (Label × State) → Prop
  | _, [] => True
  | s, (l, s') :: rest =>
    (∀ x, Closed s x → x ∉ happenings event s ((l, s') :: rest)) ∧
      NeverAfterClosed event Closed s' rest

section Rules

variable {step : State → Label → State → Prop} {event : State → Label → Option Thing}
  {Inv : State → Prop} {Closed : State → Thing → Prop}

theorem mem_happenings_cons {s s' : State} {l : Label} {rest : List (Label × State)} {x : Thing} :
    x ∈ happenings event s ((l, s') :: rest) ↔
      event s l = some x ∨ x ∈ happenings event s' rest := by
  rw [happenings, List.mem_append, Option.mem_toList]

/-- What is closed at the start of a run does not happen along it. -/
theorem not_mem_happenings_of_closed
    (hinv : ∀ s l s', Inv s → step s l s' → Inv s')
    (hkeep : ∀ s l s' x, Inv s → step s l s' → Closed s x → Closed s' x)
    (hopen : ∀ s l s' x, Inv s → step s l s' → event s l = some x → ¬Closed s x)
    {s : State} {run : List (Label × State)} (hrun : Run step s run) (hs : Inv s) {x : Thing}
    (hclosed : Closed s x) : x ∉ happenings event s run := by
  induction hrun with
  | nil s => exact List.not_mem_nil
  | cons hstep _ ih =>
      rw [mem_happenings_cons]
      rintro (hevent | hrest)
      · exact hopen _ _ _ x hs hstep hevent hclosed
      · exact ih (hinv _ _ _ hs hstep) (hkeep _ _ _ x hs hstep hclosed) hrest

theorem neverAfterClosed_of_step
    (hinv : ∀ s l s', Inv s → step s l s' → Inv s')
    (hkeep : ∀ s l s' x, Inv s → step s l s' → Closed s x → Closed s' x)
    (hopen : ∀ s l s' x, Inv s → step s l s' → event s l = some x → ¬Closed s x)
    {s : State} {run : List (Label × State)} (hrun : Run step s run) (hs : Inv s) :
    NeverAfterClosed event Closed s run := by
  induction hrun with
  | nil s => trivial
  | cons hstep htail ih =>
      refine ⟨fun x hclosed => ?_, ih (hinv _ _ _ hs hstep)⟩
      exact not_mem_happenings_of_closed hinv hkeep hopen (Run.cons hstep htail) hs hclosed

/-- When what happens closes all that is not in `R` with it, all that happens later is in
`R` with it. -/
theorem pairwise_happenings {R : Thing → Thing → Prop}
    (hinv : ∀ s l s', Inv s → step s l s' → Inv s')
    (hkeep : ∀ s l s' x, Inv s → step s l s' → Closed s x → Closed s' x)
    (hopen : ∀ s l s' x, Inv s → step s l s' → event s l = some x → ¬Closed s x)
    (hcloses : ∀ s l s' x, Inv s → step s l s' → event s l = some x →
      ∀ y, ¬R x y → Closed s' y)
    {s : State} {run : List (Label × State)} (hrun : Run step s run) (hs : Inv s) :
    (happenings event s run).Pairwise R := by
  induction hrun with
  | nil s => exact List.Pairwise.nil
  | @cons s s' l rest hstep htail ih =>
      have hs' : Inv s' := hinv s l s' hs hstep
      rw [happenings]
      cases hevent : event s l with
      | none => exact ih hs'
      | some x =>
          refine List.pairwise_cons.mpr ⟨fun y hy => ?_, ih hs'⟩
          by_contra hxy
          have hclosed : Closed s' y := hcloses s l s' x hs hstep hevent y hxy
          exact not_mem_happenings_of_closed hinv hkeep hopen htail hs' hclosed hy

/-- What is closed by its own happening happens at most once. -/
theorem nodup_happenings
    (hinv : ∀ s l s', Inv s → step s l s' → Inv s')
    (hkeep : ∀ s l s' x, Inv s → step s l s' → Closed s x → Closed s' x)
    (hopen : ∀ s l s' x, Inv s → step s l s' → event s l = some x → ¬Closed s x)
    (hcloses : ∀ s l s' x, Inv s → step s l s' → event s l = some x → Closed s' x)
    {s : State} {run : List (Label × State)} (hrun : Run step s run) (hs : Inv s) :
    (happenings event s run).Nodup := by
  refine pairwise_happenings hinv hkeep hopen ?_ hrun hs
  intro s l s' x hs hstep hevent y hxy
  rw [← not_ne_iff.mp hxy]
  exact hcloses s l s' x hs hstep hevent

end Rules

end AvantimePlatform.Transition
