import Mathlib

/-!
# Labelled transition systems

A system is a relation `step : State → Label → State → Prop` together with a
predicate for its initial states.  This module has the vocabulary that every
state machine of the development shares: the reachable states, the runs whose
steps all meet a guard, and the rule that turns a step lemma into a fact about
every reachable state.

A system that is given by an executable `next : State → Label → Option State`
has the step relation `stepOf next`.  `exec` runs it over a list of labels, and
`exists_reachable_of_exec` reads a reachable state off such a run, which is how
a concrete bad run is exhibited.

Nothing here names a component of the platform.
-/

namespace AvantimePlatform.Transition

universe u v

variable {State : Type u} {Label : Type v}

/-- One move of a system, whatever its label. -/
def Move (step : State → Label → State → Prop) (s s' : State) : Prop :=
  ∃ l, step s l s'

/-- `s'` follows `s` in some run. -/
def Steps (step : State → Label → State → Prop) : State → State → Prop :=
  Relation.ReflTransGen (Move step)

/-- The states that some run from an initial state ends in. -/
def Reachable (init : State → Prop) (step : State → Label → State → Prop) (s : State) : Prop :=
  ∃ s₀, init s₀ ∧ Steps step s₀ s

/-- The system restricted to the steps that `ok` admits in the state before
them.  Its runs are the runs of `step` whose steps all meet `ok`. -/
def Guarded (ok : State → Label → Prop) (step : State → Label → State → Prop) :
    State → Label → State → Prop :=
  fun s l s' => ok s l ∧ step s l s'

section Rules

variable {init : State → Prop} {step : State → Label → State → Prop}
  {ok : State → Label → Prop} {s s' : State}

theorem Reachable.start (h : init s) : Reachable init step s :=
  ⟨s, h, Relation.ReflTransGen.refl⟩

theorem Reachable.next {l : Label} (hr : Reachable init step s) (hs : step s l s') :
    Reachable init step s' := by
  obtain ⟨s₀, h₀, hrun⟩ := hr
  exact ⟨s₀, h₀, hrun.tail ⟨l, hs⟩⟩

theorem Reachable.steps (hr : Reachable init step s) (hs : Steps step s s') :
    Reachable init step s' := by
  obtain ⟨s₀, h₀, hrun⟩ := hr
  exact ⟨s₀, h₀, hrun.trans hs⟩

/-- What one step keeps, every run keeps. -/
theorem Steps.preserves (Inv : State → Prop)
    (hstep : ∀ s l s', Inv s → step s l s' → Inv s')
    (hrun : Steps step s s') (h : Inv s) : Inv s' := by
  induction hrun with
  | refl => exact h
  | tail _ hmove ih =>
      obtain ⟨l, hl⟩ := hmove
      exact hstep _ l _ ih hl

/-- The invariant rule: what holds at the start and is kept by each step holds
in every reachable state. -/
theorem Reachable.invariant (Inv : State → Prop) (hinit : ∀ s, init s → Inv s)
    (hstep : ∀ s l s', Inv s → step s l s' → Inv s')
    (hr : Reachable init step s) : Inv s := by
  obtain ⟨s₀, h₀, hrun⟩ := hr
  exact hrun.preserves Inv hstep (hinit s₀ h₀)

/-- A fact that relates the two ends of a run follows from the fact about one
step, when it is reflexive and transitive. -/
theorem Steps.relates {R : State → State → Prop} (hrefl : ∀ s, R s s)
    (htrans : ∀ a b c, R a b → R b c → R a c)
    (hstep : ∀ s l s', step s l s' → R s s')
    (hrun : Steps step s s') : R s s' := by
  induction hrun with
  | refl => exact hrefl s
  | tail _ hmove ih =>
      obtain ⟨l, hl⟩ := hmove
      exact htrans _ _ _ ih (hstep _ l _ hl)

theorem Steps.of_guarded (hrun : Steps (Guarded ok step) s s') : Steps step s s' := by
  induction hrun with
  | refl => exact Relation.ReflTransGen.refl
  | tail _ hmove ih =>
      obtain ⟨l, _, hl⟩ := hmove
      exact ih.tail ⟨l, hl⟩

theorem Steps.guarded_mono {ok' : State → Label → Prop} (hok : ∀ s l, ok s l → ok' s l)
    (hrun : Steps (Guarded ok step) s s') : Steps (Guarded ok' step) s s' := by
  induction hrun with
  | refl => exact Relation.ReflTransGen.refl
  | tail _ hmove ih =>
      obtain ⟨l, hl, hstep⟩ := hmove
      exact ih.tail ⟨l, hok _ l hl, hstep⟩

/-- Without a guard every run is one whose steps all meet it. -/
theorem Reachable.guarded_true (hr : Reachable init step s) :
    Reachable init (Guarded (fun _ _ => True) step) s := by
  obtain ⟨s₀, h₀, hrun⟩ := hr
  refine ⟨s₀, h₀, ?_⟩
  induction hrun with
  | refl => exact Relation.ReflTransGen.refl
  | tail _ hmove ih =>
      obtain ⟨l, hl⟩ := hmove
      exact ih.tail ⟨l, trivial, hl⟩

/-- A run whose steps all meet a guard is a run. -/
theorem Reachable.of_guarded (hr : Reachable init (Guarded ok step) s) :
    Reachable init step s := by
  obtain ⟨s₀, h₀, hrun⟩ := hr
  exact ⟨s₀, h₀, hrun.of_guarded⟩

end Rules

section Runs

/-- A run from `s`, as the list of its labels, each with the state after it. -/
inductive Run (step : State → Label → State → Prop) : State → List (Label × State) → Prop where
  | nil (s : State) : Run step s []
  | cons {s s' : State} {l : Label} {rest : List (Label × State)}
      (hstep : step s l s') (tail : Run step s' rest) : Run step s ((l, s') :: rest)

/-- Every step of the run meets `ok` in the state before it. -/
def StepsMeet (ok : State → Label → Prop) : State → List (Label × State) → Prop
  | _, [] => True
  | s, (l, s') :: rest => ok s l ∧ StepsMeet ok s' rest

instance decidableStepsMeet (ok : State → Label → Prop) [∀ s l, Decidable (ok s l)] :
    (s : State) → (run : List (Label × State)) → Decidable (StepsMeet ok s run)
  | _, [] => inferInstanceAs (Decidable True)
  | s, (l, s') :: rest =>
    have := decidableStepsMeet ok s' rest
    inferInstanceAs (Decidable (ok s l ∧ StepsMeet ok s' rest))

/-- Every step of the run is in `R`. -/
def AllSteps (R : State → Label → State → Prop) : State → List (Label × State) → Prop
  | _, [] => True
  | s, (l, s') :: rest => R s l s' ∧ AllSteps R s' rest

/-- `P` holds in every state that the run reaches. -/
def AlwaysHolds (P : State → Prop) (s : State) (run : List (Label × State)) : Prop :=
  P s ∧ ∀ entry ∈ run, P entry.2

variable {init : State → Prop} {step : State → Label → State → Prop}
  {ok : State → Label → Prop} {P : State → Prop}

/-- What holds in every state that a guarded run reaches always holds along a run
whose steps all meet the guard. -/
theorem alwaysHolds_of_stepsMeet
    (hgood : ∀ s, Reachable init (Guarded ok step) s → P s)
    {s : State} {run : List (Label × State)} (hrun : Run step s run)
    (hs : Reachable init (Guarded ok step) s) (hmeet : StepsMeet ok s run) :
    AlwaysHolds P s run := by
  induction hrun with
  | nil s => exact ⟨hgood s hs, by simp⟩
  | @cons s s' l rest hstep _ ih =>
      have hs' : Reachable init (Guarded ok step) s' := hs.next ⟨hmeet.1, hstep⟩
      refine ⟨hgood s hs, fun entry hentry => ?_⟩
      rcases List.mem_cons.mp hentry with rfl | hmem
      · exact hgood s' hs'
      · exact (ih hs' hmeet.2).2 entry hmem

/-- What the guard implies of a step from a state that a guarded run reaches holds of
every step of a run whose steps all meet the guard. -/
theorem stepsMeet_of_stepsMeet {ok' : State → Label → Prop}
    (hgood : ∀ s l, Reachable init (Guarded ok step) s → ok s l → ok' s l)
    {s : State} {run : List (Label × State)} (hrun : Run step s run)
    (hs : Reachable init (Guarded ok step) s) (hmeet : StepsMeet ok s run) :
    StepsMeet ok' s run := by
  induction hrun with
  | nil s => trivial
  | cons hstep _ ih =>
      exact ⟨hgood _ _ hs hmeet.1, ih (hs.next ⟨hmeet.1, hstep⟩) hmeet.2⟩

/-- What holds of every step from a state with the invariant holds of every step of a
run. -/
theorem allSteps_of_step {Inv : State → Prop} {R : State → Label → State → Prop}
    (hinv : ∀ s l s', Inv s → step s l s' → Inv s')
    (hR : ∀ s l s', Inv s → step s l s' → R s l s')
    {s : State} {run : List (Label × State)} (hrun : Run step s run) (hs : Inv s) :
    AllSteps R s run := by
  induction hrun with
  | nil s => trivial
  | cons hstep _ ih => exact ⟨hR _ _ _ hs hstep, ih (hinv _ _ _ hs hstep)⟩

/-- What an invariant implies always holds along a run. -/
theorem alwaysHolds_of_inv {Inv : State → Prop}
    (hinv : ∀ s l s', Inv s → step s l s' → Inv s') (hP : ∀ s, Inv s → P s)
    {s : State} {run : List (Label × State)} (hrun : Run step s run) (hs : Inv s) :
    AlwaysHolds P s run := by
  induction hrun with
  | nil s => exact ⟨hP s hs, by simp⟩
  | @cons s s' l rest hstep _ ih =>
      have hs' : Inv s' := hinv s l s' hs hstep
      refine ⟨hP s hs, fun entry hentry => ?_⟩
      rcases List.mem_cons.mp hentry with rfl | hmem
      · exact hP s' hs'
      · exact (ih hs').2 entry hmem

/-- When each step is in `R` exactly if it meets the guard, the runs with all steps in
`R` are those whose steps all meet the guard. -/
theorem allSteps_iff_stepsMeet {Inv : State → Prop} {R : State → Label → State → Prop}
    (hinv : ∀ s l s', Inv s → step s l s' → Inv s')
    (hR : ∀ s l s', Inv s → step s l s' → (R s l s' ↔ ok s l))
    {s : State} {run : List (Label × State)} (hrun : Run step s run) (hs : Inv s) :
    AllSteps R s run ↔ StepsMeet ok s run := by
  induction hrun with
  | nil s => exact Iff.rfl
  | cons hstep _ ih => exact and_congr (hR _ _ _ hs hstep) (ih (hinv _ _ _ hs hstep))

/-- When a step that meets the guard is in `R` and the first one that does not is not,
the runs with all steps in `R` are those whose steps all meet the guard. -/
theorem allSteps_iff_stepsMeet_of_guarded {R : State → Label → State → Prop}
    (hgood : ∀ s l s', Reachable init (Guarded ok step) s → step s l s' → ok s l → R s l s')
    (hbad : ∀ s l s', Reachable init (Guarded ok step) s → step s l s' → ¬ok s l → ¬R s l s')
    {s : State} {run : List (Label × State)} (hrun : Run step s run)
    (hs : Reachable init (Guarded ok step) s) : AllSteps R s run ↔ StepsMeet ok s run := by
  induction hrun with
  | nil s => exact Iff.rfl
  | @cons s s' l rest hstep _ ih =>
      by_cases hok : ok s l
      · have hR : R s l s' := hgood s l s' hs hstep hok
        have hrest := ih (hs.next ⟨hok, hstep⟩)
        exact and_congr (iff_of_true hR hok) hrest
      · have hR : ¬R s l s' := hbad s l s' hs hstep hok
        exact iff_of_false (fun h => hR h.1) (fun h => hok h.1)

/-- When, besides, the first step that does not meet the guard ends in a state
without `P`, the runs along which `P` always holds are exactly those whose steps all
meet the guard. -/
theorem alwaysHolds_iff_stepsMeet
    (hgood : ∀ s, Reachable init (Guarded ok step) s → P s)
    (hbad : ∀ s l s', Reachable init (Guarded ok step) s → step s l s' → ¬ok s l → ¬P s')
    {s : State} {run : List (Label × State)} (hrun : Run step s run)
    (hs : Reachable init (Guarded ok step) s) :
    AlwaysHolds P s run ↔ StepsMeet ok s run := by
  refine ⟨fun h => ?_, alwaysHolds_of_stepsMeet hgood hrun hs⟩
  induction hrun with
  | nil s => exact trivial
  | @cons s s' l rest hstep _ ih =>
      by_cases hok : ok s l
      · have hs' : Reachable init (Guarded ok step) s' := hs.next ⟨hok, hstep⟩
        exact ⟨hok, ih hs' ⟨h.2 (l, s') List.mem_cons_self, fun entry hentry =>
          h.2 entry (List.mem_cons_of_mem _ hentry)⟩⟩
      · exact absurd (h.2 (l, s') List.mem_cons_self) (hbad s l s' hs hstep hok)

end Runs

section Histories

/-- What has happened so far, newest first: each label with the state before it. -/
abbrev History (State : Type u) (Label : Type v) := List (State × Label)

/-- `s` is reached from an initial state by the steps of the history, each of which
meets a guard that may look at the history before it. -/
inductive ReachedBy (init : State → Prop) (ok : History State Label → State → Label → Prop)
    (step : State → Label → State → Prop) : History State Label → State → Prop where
  | start {s : State} (h : init s) : ReachedBy init ok step [] s
  | next {past : History State Label} {s s' : State} {l : Label}
      (h : ReachedBy init ok step past s) (hok : ok past s l) (hstep : step s l s') :
      ReachedBy init ok step ((s, l) :: past) s'

variable {init : State → Prop} {step : State → Label → State → Prop}
  {ok : History State Label → State → Label → Prop} {past : History State Label} {s : State}

/-- What holds at the start and is kept by each step that meets the guard holds
wherever a history leads. -/
theorem ReachedBy.invariant (Inv : History State Label → State → Prop)
    (hinit : ∀ s, init s → Inv [] s)
    (hstep : ∀ past s l s', Inv past s → ok past s l → step s l s' → Inv ((s, l) :: past) s')
    (h : ReachedBy init ok step past s) : Inv past s := by
  induction h with
  | start h => exact hinit _ h
  | next _ hok hnext ih => exact hstep _ _ _ _ ih hok hnext

end Histories

section Executable

variable (next : State → Label → Option State)

/-- The step relation of an executable system. -/
def stepOf : State → Label → State → Prop :=
  fun s l s' => next s l = some s'

/-- Run the system over a list of labels. -/
def exec (s : State) : List Label → Option State
  | [] => some s
  | l :: ls => (next s l).bind fun s' => exec s' ls

variable {next}

theorem steps_guarded_of_exec {ok : Label → Prop} {ls : List Label} {s s' : State}
    (hok : ∀ l ∈ ls, ok l) (h : exec next s ls = some s') :
    Steps (Guarded (fun _ l => ok l) (stepOf next)) s s' := by
  induction ls generalizing s with
  | nil =>
      have hs : s = s' := by simpa [exec] using h
      exact hs ▸ Relation.ReflTransGen.refl
  | cons l ls ih =>
      obtain ⟨m, hm, hrest⟩ := Option.bind_eq_some_iff.mp h
      exact Relation.ReflTransGen.head ⟨l, hok l List.mem_cons_self, hm⟩
        (ih (fun l' hl' => hok l' (List.mem_cons_of_mem l hl')) hrest)

theorem steps_of_exec {ls : List Label} {s s' : State} (h : exec next s ls = some s') :
    Steps (stepOf next) s s' :=
  Steps.of_guarded (steps_guarded_of_exec (fun _ _ => trivial) h)

/-- A concrete run whose last step is in `R`, and whose labels all meet `ok`, exhibits
such a step. -/
theorem exists_step_of_exec {ok : State → Label → Prop} (R : State → State → Prop)
    [∀ s s', Decidable (R s s')] (next : State → Label → Option State) {s : State}
    (ls : List Label) (l : Label) (hok : ∀ l ∈ ls, ∀ s, ok s l)
    (h : (exec next s ls).any (fun s₁ => (next s₁ l).any fun s₂ => decide (R s₁ s₂)) = true) :
    ∃ s₁ s₂, Steps (Guarded ok (stepOf next)) s s₁ ∧ stepOf next s₁ l s₂ ∧ R s₁ s₂ := by
  cases hrun : exec next s ls with
  | none => simp [hrun] at h
  | some s₁ =>
      cases hlast : next s₁ l with
      | none => simp [hrun, hlast] at h
      | some s₂ =>
          have hR : R s₁ s₂ := by simpa [hrun, hlast] using h
          have hsteps : Steps (Guarded (fun _ l => ∀ s, ok s l) (stepOf next)) s s₁ :=
            steps_guarded_of_exec hok hrun
          exact ⟨s₁, s₂, hsteps.guarded_mono fun s l hl => hl s, hlast, hR⟩

variable (next) in
/-- The run over a list of labels, as far as it goes. -/
def trace (s : State) : List Label → List (Label × State)
  | [] => []
  | l :: ls =>
    match next s l with
    | none => []
    | some s' => (l, s') :: trace s' ls

theorem run_trace (s : State) (ls : List Label) : Run (stepOf next) s (trace next s ls) := by
  induction ls generalizing s with
  | nil => exact Run.nil s
  | cons l ls ih =>
      unfold trace
      split
      · exact Run.nil s
      · next s' hs' => exact Run.cons hs' (ih s')

theorem run_guarded_trace {ok : State → Label → Prop} (s : State) {ls : List Label}
    (hok : ∀ l ∈ ls, ∀ s, ok s l) : Run (Guarded ok (stepOf next)) s (trace next s ls) := by
  induction ls generalizing s with
  | nil => exact Run.nil s
  | cons l ls ih =>
      unfold trace
      split
      · exact Run.nil s
      · next s' hs' =>
        have hl := hok l List.mem_cons_self s
        exact Run.cons ⟨hl, hs'⟩ (ih s' fun l' hl' => hok l' (List.mem_cons_of_mem l hl'))

/-- A concrete run that ends in a state with `P` and whose labels all meet `ok`
exhibits one. -/
theorem exists_guarded_of_exec {init : State → Prop} {ok : Label → Prop} (P : State → Prop)
    [DecidablePred P] (next : State → Label → Option State) {s : State} (ls : List Label)
    (hinit : init s) (hok : ∀ l ∈ ls, ok l)
    (h : (exec next s ls).any (fun s' => decide (P s')) = true) :
    ∃ s', Reachable init (Guarded (fun _ l => ok l) (stepOf next)) s' ∧ P s' := by
  cases hrun : exec next s ls with
  | none => simp [hrun] at h
  | some s' =>
      have hP : P s' := by simpa [hrun] using h
      exact ⟨s', ⟨s, hinit, steps_guarded_of_exec hok hrun⟩, hP⟩

/-- A concrete run that ends in a state with `P` exhibits a reachable one. -/
theorem exists_reachable_of_exec {init : State → Prop} (P : State → Prop) [DecidablePred P]
    (next : State → Label → Option State) {s : State} (ls : List Label) (hinit : init s)
    (h : (exec next s ls).any (fun s' => decide (P s')) = true) :
    ∃ s', Reachable init (stepOf next) s' ∧ P s' := by
  obtain ⟨s', hreachable, hP⟩ :=
    exists_guarded_of_exec P next ls hinit (fun _ _ => trivial) h
  exact ⟨s', hreachable.of_guarded, hP⟩

/-- A concrete run whose steps all meet a guard and that ends in a state with `P`
exhibits one. -/
theorem exists_guarded_of_exec_guarded {init : State → Prop} (ok : State → Label → Prop)
    [∀ s l, Decidable (ok s l)] (P : State → Prop) [DecidablePred P]
    (next : State → Label → Option State) {s : State} (ls : List Label) (hinit : init s)
    (h : (exec (fun s l => if ok s l then next s l else none) s ls).any
      (fun s' => decide (P s')) = true) :
    ∃ s', Reachable init (Guarded ok (stepOf next)) s' ∧ P s' := by
  obtain ⟨s', hreachable, hP⟩ := exists_reachable_of_exec P _ ls hinit h
  obtain ⟨s₀, h₀, hrun⟩ := hreachable
  have hsteps : Steps (Guarded ok (stepOf next)) s₀ s' := by
    clear hP
    induction hrun with
    | refl => exact Relation.ReflTransGen.refl
    | tail _ hmove ih =>
        obtain ⟨l, hl⟩ := hmove
        simp only [stepOf] at hl
        split at hl
        · next hok => exact ih.tail ⟨l, hok, hl⟩
        · cases hl
  exact ⟨s', ⟨s₀, h₀, hsteps⟩, hP⟩

variable (next) in
/-- Run the system over a list of labels and keep the history. -/
def execHistory (past : History State Label) (s : State) :
    List Label → Option (History State Label × State)
  | [] => some (past, s)
  | l :: ls => (next s l).bind fun s' => execHistory ((s, l) :: past) s' ls

variable (next) in
/-- Every step of a run over a list of labels meets `ok`. -/
def HistoryMeets (ok : History State Label → State → Label → Prop)
    (past : History State Label) (s : State) : List Label → Prop
  | [] => True
  | l :: ls => ok past s l ∧
    match next s l with
    | some s' => HistoryMeets ok ((s, l) :: past) s' ls
    | none => True

theorem reachedBy_of_execHistory {init : State → Prop}
    {ok : History State Label → State → Label → Prop} {ls : List Label}
    {past past' : History State Label} {s s' : State}
    (hs : ReachedBy init ok (stepOf next) past s) (hmeets : HistoryMeets next ok past s ls)
    (h : execHistory next past s ls = some (past', s')) :
    ReachedBy init ok (stepOf next) past' s' := by
  induction ls generalizing past s with
  | nil =>
      obtain ⟨rfl, rfl⟩ := Prod.mk.inj (Option.some.inj h)
      exact hs
  | cons l ls ih =>
      obtain ⟨m, hm, hrest⟩ := Option.bind_eq_some_iff.mp h
      obtain ⟨hok, htail⟩ := hmeets
      rw [hm] at htail
      exact ih (hs.next hok hm) htail hrest

theorem historyMeets_true (past : History State Label) (s : State) (ls : List Label) :
    HistoryMeets next (fun _ _ _ => True) past s ls := by
  induction ls generalizing past s with
  | nil => trivial
  | cons l ls ih =>
      refine ⟨trivial, ?_⟩
      split
      · exact ih _ _
      · trivial

/-- A concrete run with a history that has `P` exhibits one. -/
theorem exists_reachedBy_of_exec {init : State → Prop}
    (P : History State Label → State → Prop) [∀ past s, Decidable (P past s)]
    (next : State → Label → Option State) {s : State} (ls : List Label) (hinit : init s)
    (h : (execHistory next [] s ls).any (fun r => decide (P r.1 r.2)) = true) :
    ∃ past s', ReachedBy init (fun _ _ _ => True) (stepOf next) past s' ∧ P past s' := by
  cases hrun : execHistory next [] s ls with
  | none => simp [hrun] at h
  | some r =>
      have hP : P r.1 r.2 := by simpa [hrun] using h
      exact ⟨r.1, r.2, reachedBy_of_execHistory (ReachedBy.start hinit)
        (historyMeets_true _ _ _) hrun, hP⟩

end Executable

end AvantimePlatform.Transition
