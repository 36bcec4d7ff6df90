import Mathlib

/-!
# Steps that can be rehearsed

A step over a store that can be run dry.  `Rehearsable` collects what a user of the dry run
counts on: it writes nothing, and it answers what the real run answers.  The other fields
are what makes this hold of several steps in a row:

* a step looks at its own places only, and writes there only (`reads`, `frame`);
* it never overwrites (`grows`);
* once it has succeeded, it has nothing left to do (`settled`).

`andThen` runs one step behind another and `attempt` runs a list of them, the failed ones
included.  Nothing here names a component of the platform.
-/

namespace AvantimePlatform.Rehearsal

universe u v

variable {Store Place Value ι : Type u} {ε α β γ : Type v}

/-- A step: whether it is run dry, and the store before it.  It answers, or fails, and
leaves a store in both cases. -/
abbrev Step (Store : Type u) (ε α : Type v) := Bool → Store → Except ε α × Store

section Look

variable (look : Store → Place → Option Value)

/-- Two stores that hold the same at the places of `K`. -/
abbrev AgreeOn (K : Set Place) (s t : Store) : Prop := Set.EqOn (look s) (look t) K

/-- What `s` holds, `t` holds too. -/
def Extends (s t : Store) : Prop := ∀ k v, look s k = some v → look t k = some v

/-- A step on the places of `K` that can be rehearsed in the states of `pre`, and that
answers `quiet` when it has nothing to do. -/
structure Rehearsable (K : Set Place) (pre : Store → Prop) (quiet : α) (step : Step Store ε α) :
    Prop where
  dry : ∀ s, (step true s).2 = s
  same : ∀ s, pre s → (step false s).1 = (step true s).1
  reads : ∀ s t, AgreeOn look K s t → (step true s).1 = (step true t).1
  pre_reads : ∀ s t, AgreeOn look K s t → (pre s ↔ pre t)
  frame : ∀ s, AgreeOn look (Kᶜ) (step false s).2 s
  grows : ∀ s, Extends look s (step false s).2
  settled : ∀ s a, (step false s).1 = .ok a → ∀ t, Extends look (step false s).2 t →
    step false t = (.ok quiet, t)

end Look

/-- One step behind another. -/
def andThen (combine : α → β → γ) (p : Step Store ε α) (q : Step Store ε β) : Step Store ε γ :=
  fun dry s =>
    match p dry s with
    | (.error e, s) => (.error e, s)
    | (.ok a, s) =>
      match q dry s with
      | (.error e, s) => (.error e, s)
      | (.ok b, s) => (.ok (combine a b), s)

/-- A step whose answer is read in another way. -/
def answering (f : α → β) (p : Step Store ε α) : Step Store ε β :=
  fun dry s => ((p dry s).1.map f, (p dry s).2)

/-- A list of steps, of which some may fail. -/
def attempt (step : ι → Step Store ε α) (dry : Bool) : List ι → Store → List (Except ε α) × Store
  | [], s => ([], s)
  | i :: rest, s =>
    let now := step i dry s
    let later := attempt step dry rest now.2
    (now.1 :: later.1, later.2)

/-! ## Stores -/

variable {look : Store → Place → Option Value} {K L : Set Place} {s t r : Store}

theorem Extends.refl (s : Store) : Extends look s s := fun _ _ h => h

theorem Extends.trans (h : Extends look s t) (h' : Extends look t r) : Extends look s r :=
  fun k v hv => h' k v (h k v hv)

/-! ## One step behind another -/

variable {P Q pre : Store → Prop} {p : Step Store ε α} {q : Step Store ε β} {a : α} {b : β}

theorem Rehearsable.frame_of_disjoint (hp : Rehearsable look K P a p) (hKL : Disjoint K L) :
    AgreeOn look L (p false s).2 s :=
  (hp.frame s).mono (Set.subset_compl_iff_disjoint_left.mpr hKL)

section AndThen

variable (combine : α → β → γ) {e : ε} {x : α}

theorem andThen_of_error {dry : Bool} (h : (p dry s).1 = .error e) :
    andThen combine p q dry s = (.error e, (p dry s).2) := by
  unfold andThen
  rw [show p dry s = (.error e, (p dry s).2) from Prod.ext h rfl]

theorem andThen_of_ok {dry : Bool} (h : (p dry s).1 = .ok x) :
    andThen combine p q dry s =
      ((q dry (p dry s).2).1.map (combine x), (q dry (p dry s).2).2) := by
  unfold andThen
  rw [show p dry s = (.ok x, (p dry s).2) from Prod.ext h rfl]
  dsimp only
  rcases q dry (p dry s).2 with ⟨_ | _, _⟩ <;> rfl

/-- Steps on different places can be rehearsed together. -/
theorem Rehearsable.andThen (hp : Rehearsable look K P a p) (hq : Rehearsable look L Q b q)
    (hKL : Disjoint K L) :
    Rehearsable look (K ∪ L) (fun s => P s ∧ Q s) (combine a b) (andThen combine p q) where
  dry s := by
    cases h : (p true s).1 with
    | error e => rw [andThen_of_error combine h]; exact hp.dry s
    | ok x => rw [andThen_of_ok combine h]; exact (hq.dry _).trans (hp.dry s)
  same s hpre := by
    have hfirst := hp.same s hpre.1
    have hagree : AgreeOn look L (p false s).2 s := hp.frame_of_disjoint hKL
    cases h : (p true s).1 with
    | error e => rw [andThen_of_error combine h, andThen_of_error combine (hfirst.trans h)]
    | ok x =>
        have hsecond : (q false (p false s).2).1 = (q true (p true s).2).1 := by
          rw [hq.same _ ((hq.pre_reads _ _ hagree).mpr hpre.2), hq.reads _ _ hagree, hp.dry s]
        rw [andThen_of_ok combine h, andThen_of_ok combine (hfirst.trans h), hsecond]
  reads s t hagree := by
    have hfirst := hp.reads s t (hagree.mono Set.subset_union_left)
    have hsecond := hq.reads s t (hagree.mono Set.subset_union_right)
    cases h : (p true s).1 with
    | error e => rw [andThen_of_error combine h, andThen_of_error combine (hfirst.symm.trans h)]
    | ok x =>
        rw [andThen_of_ok combine h, andThen_of_ok combine (hfirst.symm.trans h), hp.dry s, hp.dry t, hsecond]
  pre_reads s t hagree := by
    have hP := hp.pre_reads s t (hagree.mono Set.subset_union_left)
    have hQ := hq.pre_reads s t (hagree.mono Set.subset_union_right)
    exact and_congr hP hQ
  frame s := by
    have hfirst := (hp.frame s).mono
      (Set.compl_subset_compl.mpr Set.subset_union_left : (K ∪ L)ᶜ ⊆ Kᶜ)
    cases h : (p false s).1 with
    | error e => rw [andThen_of_error combine h]; exact hfirst
    | ok x =>
        rw [andThen_of_ok combine h]
        have hsecond := (hq.frame (p false s).2).mono
          (Set.compl_subset_compl.mpr Set.subset_union_right : (K ∪ L)ᶜ ⊆ Lᶜ)
        exact hsecond.trans hfirst
  grows s := by
    cases h : (p false s).1 with
    | error e => rw [andThen_of_error combine h]; exact hp.grows s
    | ok x => rw [andThen_of_ok combine h]; exact (hp.grows s).trans (hq.grows _)
  settled s c hok t hext := by
    cases h : (p false s).1 with
    | error e =>
        rw [andThen_of_error combine h] at hok
        cases hok
    | ok x =>
        rw [andThen_of_ok combine h] at hok hext
        cases h' : (q false (p false s).2).1 with
        | error e => rw [h'] at hok; cases hok
        | ok y =>
            have hfirst : p false t = (.ok a, t) :=
              hp.settled s x h t ((hq.grows _).trans hext)
            have hsecond : q false t = (.ok b, t) := hq.settled _ y h' t hext
            rw [andThen_of_ok combine (congrArg Prod.fst hfirst), hfirst]
            dsimp only
            rw [hsecond]
            rfl

end AndThen

/-- A step that answers the same whatever the store is. -/
theorem Rehearsable.constant {answer : Except ε α} (hquiet : ∀ x, answer = .ok x → x = a) :
    Rehearsable look (∅ : Set Place) (fun _ => True) a (fun _ s => (answer, s)) where
  dry _ := rfl
  same _ _ := rfl
  reads _ _ _ := rfl
  pre_reads _ _ _ := Iff.rfl
  frame s := Set.eqOn_refl (look s) _
  grows s := Extends.refl s
  settled s x hok t _ := by
    have hanswer : answer = .ok x := hok
    rw [hanswer, hquiet x hanswer]

theorem Rehearsable.answering (hp : Rehearsable look K P a p) (f : α → β) :
    Rehearsable look K P (f a) (answering f p) where
  dry := hp.dry
  same s hpre := congrArg (Except.map f) (hp.same s hpre)
  reads s t hagree := congrArg (Except.map f) (hp.reads s t hagree)
  pre_reads := hp.pre_reads
  frame := hp.frame
  grows := hp.grows
  settled s b hok t hext := by
    have hanswer : (p false s).1.map f = .ok b := hok
    cases h : (p false s).1 with
    | error e => rw [h] at hanswer; cases hanswer
    | ok x =>
        have hquiet := hp.settled s x h t hext
        unfold Rehearsal.answering
        rw [hquiet]
        rfl

/-- A step may be given more places than it has. -/
theorem Rehearsable.mono (hp : Rehearsable look K P a p) (hsub : K ⊆ L) :
    Rehearsable look L P a p where
  dry := hp.dry
  same := hp.same
  reads s t hagree := hp.reads s t (hagree.mono hsub)
  pre_reads s t hagree := hp.pre_reads s t (hagree.mono hsub)
  frame s := (hp.frame s).mono (Set.compl_subset_compl.mpr hsub)
  grows := hp.grows
  settled := hp.settled

/-! ## A list of steps -/

section Attempt

variable {step : ι → Step Store ε α} {places : ι → Set Place} {allowed : ι → Store → Prop}
  {is : List ι}

/-- Dry, a list of steps writes nothing. -/
theorem attempt_dry (h : ∀ i, Rehearsable look (places i) (allowed i) a (step i)) :
    (attempt step true is s).2 = s := by
  induction is generalizing s with
  | nil => rfl
  | cons i rest ih =>
      show (attempt step true rest (step i true s).2).2 = s
      rw [(h i).dry s]
      exact ih

theorem attempt_grows (h : ∀ i, Rehearsable look (places i) (allowed i) a (step i)) :
    Extends look s (attempt step false is s).2 := by
  induction is generalizing s with
  | nil => exact Extends.refl s
  | cons i rest ih => exact ((h i).grows s).trans ih

theorem attempt_frame (h : ∀ i, Rehearsable look (places i) (allowed i) a (step i))
    (hK : ∀ i ∈ is, Disjoint (places i) K) :
    AgreeOn look K (attempt step false is s).2 s := by
  induction is generalizing s with
  | nil => exact Set.eqOn_refl _ _
  | cons i rest ih =>
      have hnow := (h i).frame_of_disjoint (s := s) (hK i List.mem_cons_self)
      exact (ih fun j hj => hK j (List.mem_cons_of_mem i hj)).trans hnow

theorem length_attempt {dry : Bool} : (attempt step dry is s).1.length = is.length := by
  induction is generalizing s with
  | nil => rfl
  | cons i rest ih => exact congrArg (· + 1) ih

/-- What a dry run says depends on the places of its steps. -/
theorem attempt_reads (h : ∀ i, Rehearsable look (places i) (allowed i) a (step i))
    (hagree : ∀ i ∈ is, AgreeOn look (places i) s t) :
    (attempt step true is s).1 = (attempt step true is t).1 := by
  induction is with
  | nil => rfl
  | cons i rest ih =>
      have hnow := (h i).reads s t (hagree i List.mem_cons_self)
      have hlater := ih fun j hj => hagree j (List.mem_cons_of_mem i hj)
      show (step i true s).1 :: (attempt step true rest (step i true s).2).1 =
        (step i true t).1 :: (attempt step true rest (step i true t).2).1
      rw [(h i).dry s, (h i).dry t, hnow, hlater]

/-- Steps on different places answer in a dry run what they answer in a real one. -/
theorem attempt_same (h : ∀ i, Rehearsable look (places i) (allowed i) a (step i))
    (hdisjoint : is.Pairwise fun i j => Disjoint (places i) (places j))
    (hallowed : ∀ i ∈ is, allowed i s) :
    (attempt step false is s).1 = (attempt step true is s).1 := by
  induction is generalizing s with
  | nil => rfl
  | cons i rest ih =>
      obtain ⟨hfirst, hrest⟩ := List.pairwise_cons.mp hdisjoint
      have hagree (j : ι) (hj : j ∈ rest) : AgreeOn look (places j) (step i false s).2 s :=
        (h i).frame_of_disjoint (hfirst j hj)
      have hnow := (h i).same s (hallowed i List.mem_cons_self)
      have hlater : (attempt step false rest (step i false s).2).1 =
          (attempt step true rest s).1 := by
        rw [ih hrest fun j hj => ((h j).pre_reads _ _ (hagree j hj)).mpr
          (hallowed j (List.mem_cons_of_mem i hj))]
        exact attempt_reads h hagree
      show (step i false s).1 :: (attempt step false rest (step i false s).2).1 =
        (step i true s).1 :: (attempt step true rest (step i true s).2).1
      rw [hnow, hlater, (h i).dry s]

/-- After a run without failures, a second one has nothing to do, whatever was added since. -/
theorem attempt_again (h : ∀ i, Rehearsable look (places i) (allowed i) a (step i))
    (hok : ∀ answer ∈ (attempt step false is s).1, ∃ x, answer = .ok x)
    (hext : Extends look (attempt step false is s).2 t) :
    attempt step false is t = (List.replicate is.length (.ok a), t) := by
  induction is generalizing s with
  | nil => rfl
  | cons i rest ih =>
      obtain ⟨x, hx⟩ := hok _ List.mem_cons_self
      have hquiet : step i false t = (.ok a, t) :=
        (h i).settled s x hx t ((attempt_grows h).trans hext)
      have hlater := ih (fun answer hanswer => hok answer (List.mem_cons_of_mem _ hanswer)) hext
      show ((step i false t).1 :: (attempt step false rest (step i false t).2).1,
        (attempt step false rest (step i false t).2).2) = _
      rw [hquiet]
      dsimp only
      rw [hlater]
      rfl

end Attempt

end AvantimePlatform.Rehearsal
