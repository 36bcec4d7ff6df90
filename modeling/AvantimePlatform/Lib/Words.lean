import AvantimePlatform.Lib.Replace

/-!
# The words of a text

`spaced p xs` is a text with one separator for each run of blanks, the characters of `p`.
Texts with the same words and with blanks at the same places have the same `spaced`.

* `search` looks for a match at every place of a text.
* `consume` passes over one character of each of several classes, and `consumeEither` over
  those of the one list of classes or of the other.
* `search_congr`: a search that begins with no blank, and that looks at the words alone,
  finds the same in two texts with the same `spaced`.
* `searchBegins` searches for a place where a text begins with such classes:
  `searchBegins_congr` and `searchBegins_trim`.

Nothing here names a component of the platform.
-/

namespace AvantimePlatform.Words

universe u

variable {α : Type u} {p : α → Bool} {x y : α} {xs ys : List α}

/-! ## Spacing -/

/-- A separator before words, unless there is one. -/
def separate : List (Option α) → List (Option α)
  | none :: words => none :: words
  | words => none :: words

/-- The words of a text, with one separator for each run of blanks. -/
def spaced (p : α → Bool) : List α → List (Option α)
  | [] => []
  | x :: xs => if p x then separate (spaced p xs) else some x :: spaced p xs

@[simp] theorem spaced_nil : spaced p [] = [] := rfl

theorem spaced_blank (hx : p x = true) : spaced p (x :: xs) = separate (spaced p xs) :=
  if_pos hx

theorem spaced_word (hx : p x = false) : spaced p (x :: xs) = some x :: spaced p xs :=
  if_neg (Bool.eq_false_iff.mp hx)

@[simp] theorem separate_separate (words : List (Option α)) :
    separate (separate words) = separate words := by
  cases words with
  | nil => rfl
  | cons word words =>
      cases word with
      | none => rfl
      | some x => rfl

/-- A second blank changes nothing. -/
theorem spaced_blank_blank (hx : p x = true) (hy : p y = true) :
    spaced p (x :: y :: xs) = spaced p (y :: xs) := by
  rw [spaced_blank hx, spaced_blank hy, separate_separate]

/-- The blanks at the head of a text are one separator. -/
theorem spaced_dropWhile (hx : p x = true) :
    spaced p (x :: xs) = none :: spaced p (xs.dropWhile p) := by
  induction xs generalizing x with
  | nil =>
      rw [spaced_blank hx]
      rfl
  | cons y xs ih =>
      cases hy : p y with
      | true => rw [spaced_blank_blank hx hy, ih hy, List.dropWhile_cons_of_pos hy]
      | false =>
          rw [spaced_blank hx, List.dropWhile_cons_of_neg (by simpa using hy), spaced_word hy]
          rfl

/-- What has the same words begins with the same character of a word. -/
theorem spaced_eq_word (hx : p x = false) (h : spaced p (x :: xs) = spaced p ys) :
    ∃ rest, ys = x :: rest ∧ spaced p xs = spaced p rest := by
  rw [spaced_word hx] at h
  cases ys with
  | nil => cases h
  | cons y ys =>
      cases hy : p y with
      | true =>
          rw [spaced_dropWhile hy] at h
          cases (List.cons.inj h).1
      | false =>
          rw [spaced_word hy] at h
          obtain ⟨heq, hrest⟩ := List.cons.inj h
          obtain rfl := Option.some.inj heq
          exact ⟨ys, rfl, hrest⟩

/-- And a text that begins with a blank has a blank there. -/
theorem spaced_eq_blank (hx : p x = true) (h : spaced p (x :: xs) = spaced p ys) :
    ∃ y rest, ys = y :: rest ∧ p y = true ∧
      spaced p (xs.dropWhile p) = spaced p (rest.dropWhile p) := by
  rw [spaced_dropWhile hx] at h
  cases ys with
  | nil => cases h
  | cons y ys =>
      cases hy : p y with
      | true =>
          rw [spaced_dropWhile hy] at h
          exact ⟨y, ys, rfl, hy, (List.cons.inj h).2⟩
      | false =>
          rw [spaced_word hy] at h
          cases (List.cons.inj h).1

theorem mem_separate {words : List (Option α)} : some x ∈ separate words ↔ some x ∈ words := by
  cases words with
  | nil => simp [separate]
  | cons word words =>
      cases word with
      | none => rfl
      | some y => simp [separate]

theorem mem_spaced (hx : p x = false) : some x ∈ spaced p xs ↔ x ∈ xs := by
  induction xs with
  | nil => simp
  | cons y xs ih =>
      cases hy : p y with
      | true =>
          have hne : x ≠ y := by
            rintro rfl
            rw [hx] at hy
            cases hy
          rw [spaced_blank hy, mem_separate, ih, List.mem_cons, or_iff_right hne]
      | false =>
          rw [spaced_word hy, List.mem_cons, List.mem_cons, ih, Option.some.injEq]

/-! ## Searching -/

/-- `here` succeeds at some place.  It is told whether the character before the place is one
of `w`. -/
def search (w : α → Bool) (here : Bool → List α → Bool) : Bool → List α → Bool
  | _, [] => false
  | previous, x :: xs => here previous (x :: xs) || search w here (w x) xs

section Search

variable {w : α → Bool} {here : Bool → List α → Bool} {previous : Bool}

/-- A search passes over blanks. -/
theorem search_dropWhile (hblank : ∀ x, p x = true → w x = false)
    (hhere : ∀ previous x xs, p x = true → here previous (x :: xs) = false) (hx : p x = true) :
    search w here previous (x :: xs) = search w here false (xs.dropWhile p) := by
  induction xs generalizing x previous with
  | nil =>
      rw [search, hhere previous x [] hx, Bool.false_or, hblank x hx]
      rfl
  | cons y xs ih =>
      rw [search, hhere previous x _ hx, Bool.false_or, hblank x hx]
      cases hy : p y with
      | true => rw [ih hy, List.dropWhile_cons_of_pos hy]
      | false => rw [List.dropWhile_cons_of_neg (by simpa using hy)]

/-- A search that looks at the words alone finds the same in texts with the same words. -/
theorem search_congr (hblank : ∀ x, p x = true → w x = false)
    (hhere : ∀ previous x xs, p x = true → here previous (x :: xs) = false)
    (hwords : ∀ previous xs ys, spaced p xs = spaced p ys → here previous xs = here previous ys)
    (h : spaced p xs = spaced p ys) :
    search w here previous xs = search w here previous ys := by
  induction hlength : xs.length using Nat.strong_induction_on generalizing xs ys previous with
  | _ length ih =>
    cases xs with
    | nil =>
        cases ys with
        | nil => rfl
        | cons y ys =>
            cases hy : p y with
            | true =>
                rw [spaced_dropWhile hy] at h
                cases h
            | false =>
                rw [spaced_word hy] at h
                cases h
    | cons x xs =>
        rw [List.length_cons] at hlength
        cases hx : p x with
        | true =>
            obtain ⟨y, rest, rfl, hy, hrest⟩ := spaced_eq_blank hx h
            have hshort : (xs.dropWhile p).length < length := by
              have hle := (List.dropWhile_suffix p (l := xs)).length_le
              omega
            rw [search_dropWhile hblank hhere hx, search_dropWhile hblank hhere hy]
            exact ih _ hshort hrest rfl
        | false =>
            obtain ⟨rest, rfl, hrest⟩ := spaced_eq_word hx h
            rw [search, search, hwords previous _ _ h, ih xs.length (by omega) hrest rfl]

/-- Blanks behind a text add nothing to find. -/
theorem search_append_blanks {blanks : List α} (hblank : ∀ x, p x = true → w x = false)
    (hhere : ∀ previous x xs, p x = true → here previous (x :: xs) = false)
    (hwords : ∀ previous xs, here previous (xs ++ blanks) = here previous xs)
    (hblanks : ∀ c ∈ blanks, p c = true) (xs : List α) :
    search w here previous (xs ++ blanks) = search w here previous xs := by
  induction xs generalizing previous with
  | nil =>
      cases blanks with
      | nil => rfl
      | cons b blanks =>
          have hrest : blanks.dropWhile p = [] :=
            List.dropWhile_eq_nil_iff.mpr fun c hc => hblanks c (List.mem_cons_of_mem b hc)
          rw [List.nil_append, search_dropWhile hblank hhere (hblanks b List.mem_cons_self), hrest]
          rfl
  | cons x xs ih =>
      have hsame := hwords previous (x :: xs)
      rw [List.cons_append] at hsame ⊢
      rw [search, search, hsame, ih]

/-- And so do blanks before it. -/
theorem search_blanks_append {blanks : List α} (hblank : ∀ x, p x = true → w x = false)
    (hhere : ∀ previous x xs, p x = true → here previous (x :: xs) = false)
    (hblanks : ∀ c ∈ blanks, p c = true) (xs : List α) :
    search w here false (blanks ++ xs) = search w here false xs := by
  induction blanks with
  | nil => rfl
  | cons b blanks ih =>
      have hb := hblanks b List.mem_cons_self
      rw [List.cons_append, search, hhere false b _ hb, Bool.false_or, hblank b hb]
      exact ih fun c hc => hblanks c (List.mem_cons_of_mem b hc)

end Search

/-! ## Classes of characters -/

/-- What is left of a text behind one character of each class. -/
def consume : List (α → Bool) → List α → Option (List α)
  | [], xs => some xs
  | f :: classes, x :: xs => if f x then consume classes xs else none
  | _ :: _, [] => none

theorem consume_congr {classes : List (α → Bool)} {rest : List α}
    (hclasses : ∀ f ∈ classes, ∀ x, f x = true → p x = false) (h : spaced p xs = spaced p ys)
    (hrest : consume classes xs = some rest) :
    ∃ rest', consume classes ys = some rest' ∧ spaced p rest = spaced p rest' := by
  induction classes generalizing xs ys with
  | nil =>
      obtain rfl := Option.some.inj hrest
      exact ⟨ys, rfl, h⟩
  | cons f classes ih =>
      cases xs with
      | nil => cases hrest
      | cons x xs =>
          rw [consume] at hrest
          split at hrest
          · next hf =>
              obtain ⟨tail, rfl, htail⟩ := spaced_eq_word (hclasses f List.mem_cons_self x hf) h
              rw [consume, if_pos hf]
              exact ih (fun g hg => hclasses g (List.mem_cons_of_mem f hg)) htail hrest
          · cases hrest

theorem consume_append {classes : List (α → Bool)} {rest : List α} (blanks : List α)
    (h : consume classes xs = some rest) :
    consume classes (xs ++ blanks) = some (rest ++ blanks) := by
  induction classes generalizing xs with
  | nil =>
      obtain rfl := Option.some.inj h
      rfl
  | cons f classes ih =>
      cases xs with
      | nil => cases h
      | cons x xs =>
          rw [consume] at h
          split at h
          · next hf =>
              rw [List.cons_append, consume, if_pos hf]
              exact ih h
          · cases h

/-- Blanks behind a text are not consumed. -/
theorem consume_append_none {classes : List (α → Bool)} {blanks : List α}
    (hclasses : ∀ f ∈ classes, ∀ x, f x = true → p x = false) (hblanks : ∀ c ∈ blanks, p c = true)
    (h : consume classes xs = none) : consume classes (xs ++ blanks) = none := by
  induction classes generalizing xs with
  | nil => cases h
  | cons f classes ih =>
      cases xs with
      | nil =>
          cases blanks with
          | nil => rfl
          | cons b blanks =>
              have hf : ¬f b = true := fun hf => by
                have hword := hclasses f List.mem_cons_self b hf
                rw [hblanks b List.mem_cons_self] at hword
                cases hword
              rw [List.nil_append, consume, if_neg hf]
      | cons x xs =>
          rw [consume] at h
          rw [List.cons_append, consume]
          split at h
          · next hf =>
              rw [if_pos hf]
              exact ih (fun g hg => hclasses g (List.mem_cons_of_mem f hg)) h
          · next hf => rw [if_neg hf]

/-- What is left behind the one classes, or else behind the others. -/
def consumeEither (first second : List (α → Bool)) (xs : List α) : Option (List α) :=
  (consume first xs).or (consume second xs)

section Either

variable {first second : List (α → Bool)} {rest : List α}

/-- Texts with the same words begin with the same classes. -/
theorem consumeEither_congr (hfirst : ∀ f ∈ first, ∀ x, f x = true → p x = false)
    (hsecond : ∀ f ∈ second, ∀ x, f x = true → p x = false) (h : spaced p xs = spaced p ys)
    (hrest : consumeEither first second xs = some rest) :
    ∃ rest', consumeEither first second ys = some rest' ∧ spaced p rest = spaced p rest' := by
  unfold consumeEither at hrest ⊢
  cases hx : consume first xs with
  | some behind =>
      rw [hx] at hrest
      obtain rfl := Option.some.inj hrest
      obtain ⟨rest', hy, hsame⟩ := consume_congr hfirst h hx
      exact ⟨rest', by rw [hy]; rfl, hsame⟩
  | none =>
      have hy : consume first ys = none := by
        cases hy : consume first ys with
        | none => rfl
        | some behind =>
            obtain ⟨rest', hx', -⟩ := consume_congr hfirst h.symm hy
            rw [hx] at hx'
            cases hx'
      rw [hx] at hrest
      obtain ⟨rest', hy', hsame⟩ := consume_congr hsecond h hrest
      exact ⟨rest', by rw [hy]; exact hy', hsame⟩

/-- Blanks behind a text are left over. -/
theorem consumeEither_append {blanks : List α}
    (hfirst : ∀ f ∈ first, ∀ x, f x = true → p x = false)
    (hsecond : ∀ f ∈ second, ∀ x, f x = true → p x = false)
    (hblanks : ∀ c ∈ blanks, p c = true) (xs : List α) :
    consumeEither first second (xs ++ blanks) =
      (consumeEither first second xs).map (· ++ blanks) := by
  unfold consumeEither
  cases hx : consume first xs with
  | some behind =>
      rw [consume_append blanks hx]
      rfl
  | none =>
      rw [consume_append_none hfirst hblanks hx]
      cases hy : consume second xs with
      | some behind =>
          rw [consume_append blanks hy]
          rfl
      | none =>
          rw [consume_append_none hsecond hblanks hy]
          rfl

/-- A text that begins with a blank begins with no class. -/
theorem consume_blank {classes : List (α → Bool)}
    (hclasses : ∀ f ∈ classes, ∀ x, f x = true → p x = false) (hne : classes ≠ [])
    (hx : p x = true) : consume classes (x :: xs) = none := by
  cases classes with
  | nil => exact absurd rfl hne
  | cons f classes =>
      have hf : ¬f x = true := fun hf => by
        have hword := hclasses f List.mem_cons_self x hf
        rw [hx] at hword
        cases hword
      rw [consume, if_neg hf]

end Either

/-! ## Searching for classes -/

/-- A text begins with the one classes or with the others, and `found` holds behind them. -/
def begins (first second : List (α → Bool)) (found : List α → Bool) (xs : List α) : Bool :=
  (consumeEither first second xs).any found

section Begins

variable {first second : List (α → Bool)} {found : List α → Bool} {w : α → Bool}
  {allowed : Bool → Bool}

theorem begins_congr (hfirst : ∀ f ∈ first, ∀ x, f x = true → p x = false)
    (hsecond : ∀ f ∈ second, ∀ x, f x = true → p x = false)
    (hfound : ∀ xs ys, spaced p xs = spaced p ys → found xs = found ys)
    (h : spaced p xs = spaced p ys) :
    begins first second found xs = begins first second found ys := by
  unfold begins
  cases hx : consumeEither first second xs with
  | some rest =>
      obtain ⟨rest', hy, hsame⟩ := consumeEither_congr hfirst hsecond h hx
      rw [hy]
      exact hfound rest rest' hsame
  | none =>
      cases hy : consumeEither first second ys with
      | none => rfl
      | some rest =>
          obtain ⟨rest', hx', -⟩ := consumeEither_congr hfirst hsecond h.symm hy
          rw [hx] at hx'
          cases hx'

theorem begins_append {blanks : List α} (hfirst : ∀ f ∈ first, ∀ x, f x = true → p x = false)
    (hsecond : ∀ f ∈ second, ∀ x, f x = true → p x = false)
    (hfound : ∀ xs, found (xs ++ blanks) = found xs) (hblanks : ∀ c ∈ blanks, p c = true)
    (xs : List α) :
    begins first second found (xs ++ blanks) = begins first second found xs := by
  unfold begins
  rw [consumeEither_append hfirst hsecond hblanks, Option.any_map]
  congr 1
  funext rest
  exact hfound rest

theorem begins_blank (hfirst : ∀ f ∈ first, ∀ x, f x = true → p x = false)
    (hsecond : ∀ f ∈ second, ∀ x, f x = true → p x = false) (hfirst_ne : first ≠ [])
    (hsecond_ne : second ≠ []) (hx : p x = true) :
    begins first second found (x :: xs) = false := by
  unfold begins consumeEither
  rw [consume_blank hfirst hfirst_ne hx, consume_blank hsecond hsecond_ne hx]
  rfl

/-- A text begins so at a place that is `allowed` by what stands before it. -/
def searchBegins (w : α → Bool) (allowed : Bool → Bool) (first second : List (α → Bool))
    (found : List α → Bool) (xs : List α) : Bool :=
  search w (fun previous rest => allowed previous && begins first second found rest) false xs

/-- Texts with the same words: the same is found. -/
theorem searchBegins_congr (hw : ∀ x, p x = true → w x = false)
    (hfirst : ∀ f ∈ first, ∀ x, f x = true → p x = false)
    (hsecond : ∀ f ∈ second, ∀ x, f x = true → p x = false) (hfirst_ne : first ≠ [])
    (hsecond_ne : second ≠ [])
    (hfound : ∀ xs ys, spaced p xs = spaced p ys → found xs = found ys)
    (h : spaced p xs = spaced p ys) :
    searchBegins w allowed first second found xs =
      searchBegins w allowed first second found ys := by
  refine search_congr hw ?_ ?_ h
  · intro previous x xs hx
    rw [begins_blank hfirst hsecond hfirst_ne hsecond_ne hx, Bool.and_false]
  · intro previous xs ys h
    rw [begins_congr hfirst hsecond hfound h]

/-- A trimmed text: the same is found. -/
theorem searchBegins_trim (hw : ∀ x, p x = true → w x = false)
    (hfirst : ∀ f ∈ first, ∀ x, f x = true → p x = false)
    (hsecond : ∀ f ∈ second, ∀ x, f x = true → p x = false) (hfirst_ne : first ≠ [])
    (hsecond_ne : second ≠ [])
    (hfound : ∀ xs blanks, (∀ c ∈ blanks, p c = true) → found (xs ++ blanks) = found xs)
    (xs : List α) :
    searchBegins w allowed first second found (Replace.trim p xs) =
      searchBegins w allowed first second found xs := by
  have hhere (previous : Bool) (x : α) (xs : List α) (hx : p x = true) :
      (allowed previous && begins first second found (x :: xs)) = false := by
    rw [begins_blank hfirst hsecond hfirst_ne hsecond_ne hx, Bool.and_false]
  obtain ⟨front, back, hsplit, hfront, hback⟩ := Replace.trim_split p xs
  have hbehind (previous : Bool) (xs : List α) :
      (allowed previous && begins first second found (xs ++ back)) =
        (allowed previous && begins first second found xs) := by
    rw [begins_append hfirst hsecond (fun xs => hfound xs back hback) hback]
  conv_rhs => rw [hsplit]
  unfold searchBegins
  rw [search_append_blanks hw hhere hbehind hback, search_blanks_append hw hhere hfront]

end Begins

end AvantimePlatform.Words
