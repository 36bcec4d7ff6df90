import Mathlib

/-!
# Replacing the matches of a pattern

`text.replace(pattern, ...)` with a global pattern goes over a text once, from left to
right: it replaces each match it finds and goes on behind it.  A pattern is given by what
it finds at the head of a text, so that the text is a list of any type of characters.

* `replaceAll_induction` is the induction along the pass.
* A pattern that stays among some characters (`Within`), such as a run of blanks, leaves
  the words made of the others where they are: `prefix_replaceAll_iff` and
  `infix_replaceAll_iff`.  So does `trim`.
* `collapse` replaces the runs of a kind of characters, and finds nothing in its own
  result.

Nothing here names a component of the platform.
-/

namespace AvantimePlatform.Replace

universe u

variable {α : Type u}

/-! ## One pass -/

/-- What a pattern finds at the head of a text: a match of `n + 1` characters, and what
replaces it. -/
abbrev Pattern (α : Type u) := List α → Option (Nat × List α)

/-- The pass, with the number of characters that are still to be passed over. -/
def scan (m : Pattern α) : Nat → List α → List α
  | _, [] => []
  | n + 1, _ :: xs => scan m n xs
  | 0, x :: xs =>
    match m (x :: xs) with
    | some (n, out) => out ++ scan m n xs
    | none => x :: scan m 0 xs

/-- `text.replace(pattern, ...)`. -/
def replaceAll (m : Pattern α) (xs : List α) : List α := scan m 0 xs

variable {m : Pattern α} {x : α} {xs out : List α} {n : Nat}

theorem scan_eq_drop (m : Pattern α) (n : Nat) (xs : List α) :
    scan m n xs = replaceAll m (xs.drop n) := by
  induction n generalizing xs with
  | zero => rfl
  | succ n ih =>
      cases xs with
      | nil => rfl
      | cons x xs => exact ih xs

@[simp] theorem replaceAll_nil : replaceAll m [] = [] := rfl

theorem replaceAll_of_match (h : m (x :: xs) = some (n, out)) :
    replaceAll m (x :: xs) = out ++ replaceAll m (xs.drop n) := by
  rw [← scan_eq_drop]
  unfold replaceAll
  simp only [scan, h]

theorem replaceAll_of_none (h : m (x :: xs) = none) :
    replaceAll m (x :: xs) = x :: replaceAll m xs := by
  unfold replaceAll
  simp only [scan, h]

/-- The induction along the pass: at each place there is a match, or the character stays. -/
theorem replaceAll_induction {P : List α → Prop} (nil : P [])
    (matched : ∀ x xs n out, m (x :: xs) = some (n, out) → P (xs.drop n) → P (x :: xs))
    (kept : ∀ x xs, m (x :: xs) = none → P xs → P (x :: xs)) (xs : List α) : P xs := by
  induction hlength : xs.length using Nat.strong_induction_on generalizing xs with
  | _ length ih =>
    cases xs with
    | nil => exact nil
    | cons x xs =>
        have hlt : xs.length < length := by rw [← hlength]; simp
        cases hm : m (x :: xs) with
        | none => exact kept x xs hm (ih xs.length hlt xs rfl)
        | some found =>
            obtain ⟨n, out⟩ := found
            have hdrop : (xs.drop n).length < length := by
              rw [List.length_drop]
              omega
            exact matched x xs n out hm (ih _ hdrop (xs.drop n) rfl)

/-- A text in which the pattern finds nothing stays as it is. -/
theorem replaceAll_eq_self (h : ∀ y ys, y :: ys <:+ xs → m (y :: ys) = none) :
    replaceAll m xs = xs := by
  induction xs with
  | nil => rfl
  | cons x xs ih =>
      have hhead := h x xs List.suffix_rfl
      have hrest := ih fun y ys hys => h y ys (hys.trans (List.suffix_cons x xs))
      rw [replaceAll_of_none hhead, hrest]

/-! ## Words and blanks -/

section Words

variable {p : α → Bool} {word : List α}

/-- A word has none of the characters of `p`. -/
def IsWord (p : α → Bool) (word : List α) : Prop := ∀ c ∈ word, p c = false

theorem isWord_cons {c : α} : IsWord p (c :: word) ↔ p c = false ∧ IsWord p word :=
  List.forall_mem_cons

/-- Blanks in front of a text add no word. -/
theorem infix_blanks_append {blanks : List α} (hword : IsWord p word) (hne : word ≠ [])
    (hblanks : ∀ c ∈ blanks, p c = true) (rest : List α) :
    word <:+: blanks ++ rest ↔ word <:+: rest := by
  induction blanks with
  | nil => rfl
  | cons b blanks ih =>
      have hrest := ih fun c hc => hblanks c (List.mem_cons_of_mem b hc)
      rw [List.cons_append, List.infix_cons_iff, hrest, or_iff_right]
      intro hstart
      obtain ⟨c, word', rfl⟩ := List.exists_cons_of_ne_nil hne
      have hc : c = b := (List.cons_prefix_cons.mp hstart).1
      have hblank := hblanks b List.mem_cons_self
      rw [← hc, (isWord_cons.mp hword).1] at hblank
      cases hblank

/-- Blanks behind a text add no word. -/
theorem infix_append_blanks {blanks : List α} (hword : IsWord p word) (hne : word ≠ [])
    (hblanks : ∀ c ∈ blanks, p c = true) (rest : List α) :
    word <:+: rest ++ blanks ↔ word <:+: rest := by
  have hword' : IsWord p word.reverse := fun c hc => hword c (List.mem_reverse.mp hc)
  have hblanks' : ∀ c ∈ blanks.reverse, p c = true :=
    fun c hc => hblanks c (List.mem_reverse.mp hc)
  rw [← List.reverse_infix, List.reverse_append,
    infix_blanks_append hword' (by simpa using hne) hblanks', List.reverse_infix]

/-- The matches of a pattern, and what replaces them, are made of characters of `p`. -/
def Within (p : α → Bool) (m : Pattern α) : Prop :=
  ∀ x xs n out, m (x :: xs) = some (n, out) →
    p x = true ∧ (∀ c ∈ xs.take n, p c = true) ∧ out ≠ [] ∧ ∀ c ∈ out, p c = true

theorem prefix_replaceAll_iff (hm : Within p m) (xs : List α) :
    ∀ word, IsWord p word → (word <+: replaceAll m xs ↔ word <+: xs) := by
  induction xs using replaceAll_induction (m := m) with
  | nil => exact fun word _ => Iff.rfl
  | matched x xs n out hfound ih =>
      intro word hword
      obtain ⟨hx, -, hout, hblanks⟩ := hm x xs n out hfound
      rw [replaceAll_of_match hfound]
      cases word with
      | nil => simp
      | cons c word =>
          have hc := (isWord_cons.mp hword).1
          obtain ⟨b, out', rfl⟩ := List.exists_cons_of_ne_nil hout
          have hb := hblanks b List.mem_cons_self
          refine iff_of_false (fun h => ?_) (fun h => ?_)
          · rw [(List.cons_prefix_cons.mp h).1, hb] at hc
            cases hc
          · rw [(List.cons_prefix_cons.mp h).1, hx] at hc
            cases hc
  | kept x xs hnone ih =>
      intro word hword
      rw [replaceAll_of_none hnone]
      cases word with
      | nil => simp
      | cons c word =>
          rw [List.cons_prefix_cons, List.cons_prefix_cons, ih word (isWord_cons.mp hword).2]

/-- A pattern among other characters leaves the words of a text where they are. -/
theorem infix_replaceAll_iff (hm : Within p m) (hword : IsWord p word) (hne : word ≠ [])
    (xs : List α) : word <:+: replaceAll m xs ↔ word <:+: xs := by
  induction xs using replaceAll_induction (m := m) with
  | nil => rfl
  | matched x xs n out hfound ih =>
      obtain ⟨hx, hxs, -, hblanks⟩ := hm x xs n out hfound
      have hrun : ∀ c ∈ x :: xs.take n, p c = true := List.forall_mem_cons.mpr ⟨hx, hxs⟩
      have hsplit : x :: xs = (x :: xs.take n) ++ xs.drop n := by
        rw [List.cons_append, List.take_append_drop]
      rw [replaceAll_of_match hfound, infix_blanks_append hword hne hblanks, ih, hsplit,
        infix_blanks_append hword hne hrun]
  | kept x xs hnone ih =>
      have hstart := prefix_replaceAll_iff hm (x :: xs) word hword
      rw [replaceAll_of_none hnone] at hstart ⊢
      rw [List.infix_cons_iff, List.infix_cons_iff, ih, hstart]

end Words

/-! ## Trimming -/

section Trim

variable {p : α → Bool} {word : List α}

/-- A text without the characters of `p` at its ends. -/
def trim (p : α → Bool) (xs : List α) : List α := (xs.dropWhile p).rdropWhile p

/-- The characters that are cut off on either side. -/
theorem trim_split (p : α → Bool) (xs : List α) :
    ∃ front back, xs = front ++ trim p xs ++ back ∧ (∀ c ∈ front, p c = true) ∧
      ∀ c ∈ back, p c = true := by
  refine ⟨xs.takeWhile p, (xs.dropWhile p).rtakeWhile p, ?_, ?_, ?_⟩
  · unfold trim
    rw [List.append_assoc, List.rdropWhile_append_rtakeWhile, List.takeWhile_append_dropWhile]
  · exact fun c hc => List.mem_takeWhile_imp hc
  · exact fun c hc => List.mem_rtakeWhile_imp hc

theorem trim_within (p : α → Bool) (xs : List α) : trim p xs <:+: xs :=
  (List.rdropWhile_prefix p _).isInfix.trans (List.dropWhile_suffix p).isInfix

theorem infix_trim_iff (hword : IsWord p word) (hne : word ≠ []) (xs : List α) :
    word <:+: trim p xs ↔ word <:+: xs := by
  obtain ⟨front, back, hsplit, hfront, hback⟩ := trim_split p xs
  conv_rhs => rw [hsplit]
  rw [infix_append_blanks hword hne hback, infix_blanks_append hword hne hfront]

/-- Neither end of a trimmed text is a character of `p`. -/
theorem trim_head (hne : trim p xs ≠ []) : p ((trim p xs).head hne) = false := by
  have hdrop : xs.dropWhile p ≠ [] := by
    intro hnil
    unfold trim at hne
    rw [hnil] at hne
    exact hne rfl
  have hstart : trim p xs <+: xs.dropWhile p := List.rdropWhile_prefix p (xs.dropWhile p)
  have hhead : (trim p xs).head hne = (xs.dropWhile p).head hdrop := by
    obtain ⟨rest, hrest⟩ := hstart
    simp only [← hrest, List.head_append_of_ne_nil hne]
  rw [hhead]
  exact List.head_dropWhile_not p hdrop

theorem trim_last (hne : trim p xs ≠ []) : p ((trim p xs).getLast hne) = false := by
  exact Bool.eq_false_iff.mpr (List.rdropWhile_last_not p (xs.dropWhile p) hne)

/-- A text whose ends are not characters of `p` is trimmed. -/
theorem trim_eq_self (hhead : ∀ hne : xs ≠ [], p (xs.head hne) = false)
    (hlast : ∀ hne : xs ≠ [], p (xs.getLast hne) = false) : trim p xs = xs := by
  have hdrop : xs.dropWhile p = xs := by
    cases xs with
    | nil => rfl
    | cons x xs => exact List.dropWhile_cons_of_neg (by simpa using hhead (by simp))
  unfold trim
  rw [hdrop, List.rdropWhile_eq_self_iff]
  exact fun hne => Bool.eq_false_iff.mp (hlast hne)

theorem length_trim_le (p : α → Bool) (xs : List α) : (trim p xs).length ≤ xs.length :=
  (trim_within p xs).length_le

/-- A text with a character of `p` at one of its ends gets shorter. -/
theorem length_trim_lt (hne : xs ≠ [])
    (hend : p (xs.head hne) = true ∨ p (xs.getLast hne) = true) :
    (trim p xs).length < xs.length := by
  apply lt_of_le_of_ne (length_trim_le p xs)
  intro hlength
  have hsame : trim p xs = xs := (trim_within p xs).eq_of_length hlength
  have hne' : trim p xs ≠ [] := by rw [hsame]; exact hne
  have hhead := trim_head hne'
  have hlast := trim_last hne'
  simp only [hsame] at hhead hlast
  rcases hend with hend | hend
  · rw [hhead] at hend
    exact Bool.noConfusion hend
  · rw [hlast] at hend
    exact Bool.noConfusion hend

@[simp] theorem trim_trim (p : α → Bool) (xs : List α) : trim p (trim p xs) = trim p xs :=
  trim_eq_self trim_head trim_last

end Trim

/-! ## Collapsing runs -/

section Collapse

variable {p : α → Bool} {least : Nat}

/-- A run of at least `least` characters of `p`. -/
def run (p : α → Bool) (least : Nat) (out : List α) : Pattern α := fun xs =>
  let length := (xs.takeWhile p).length
  if 0 < length ∧ least ≤ length then some (length - 1, out) else none

/-- `text.replace(/[p]{least,}/g, out)`. -/
def collapse (p : α → Bool) (least : Nat) (out : List α) (xs : List α) : List α :=
  replaceAll (run p least out) xs

/-- What `run` finds: the whole run at the head. -/
theorem run_eq_some {found : List α} (h : run p least out (x :: xs) = some (n, found)) :
    p x = true ∧ found = out ∧ n = (xs.takeWhile p).length ∧ least ≤ n + 1 := by
  unfold run at h
  cases hx : p x with
  | false => simp [List.takeWhile_cons_of_neg, hx] at h
  | true =>
      rw [List.takeWhile_cons_of_pos hx, List.length_cons] at h
      simp only [Nat.succ_pos, true_and, Nat.add_sub_cancel] at h
      split at h
      · next hleast =>
          obtain ⟨hn, hout⟩ := Prod.mk.inj (Option.some.inj h)
          exact ⟨rfl, hout.symm, hn.symm, by omega⟩
      · cases h

theorem take_run (xs : List α) : xs.take (xs.takeWhile p).length = xs.takeWhile p :=
  (List.prefix_iff_eq_take.mp (List.takeWhile_prefix p)).symm

theorem within_run (hne : out ≠ []) (hout : ∀ c ∈ out, p c = true) :
    Within p (run p least out) := by
  intro x xs n found hfound
  obtain ⟨hx, rfl, rfl, -⟩ := run_eq_some hfound
  refine ⟨hx, fun c hc => ?_, hne, hout⟩
  rw [take_run] at hc
  exact List.mem_takeWhile_imp hc

theorem takeWhile_run {r rest : List α} (hr : ∀ c ∈ r, p c = true)
    (hrest : ∀ c ∈ rest.head?, p c = false) : (r ++ rest).takeWhile p = r := by
  rw [List.takeWhile_append_of_pos hr]
  cases rest with
  | nil => simp
  | cons c rest => simp [List.takeWhile_cons_of_neg, hrest c rfl]

/-- The induction along the runs of a text. -/
theorem runs_induction {P : List α → Prop} (p : α → Bool) (nil : P [])
    (run : ∀ r rest, r ≠ [] → (∀ c ∈ r, p c = true) → (∀ c ∈ rest.head?, p c = false) →
      P rest → P (r ++ rest))
    (other : ∀ x xs, p x = false → P xs → P (x :: xs)) (xs : List α) : P xs := by
  induction hlength : xs.length using Nat.strong_induction_on generalizing xs with
  | _ length ih =>
    cases xs with
    | nil => exact nil
    | cons x xs =>
        cases hx : p x with
        | false => exact other x xs hx (ih xs.length (by rw [← hlength]; simp) xs rfl)
        | true =>
            have hne : (x :: xs).takeWhile p ≠ [] := by simp [hx]
            have hhead : ∀ c ∈ ((x :: xs).dropWhile p).head?, p c = false := by
              intro c hc
              have hnot := List.head?_dropWhile_not p (x :: xs)
              rw [Option.mem_def.mp hc] at hnot
              simpa using hnot
            have hshort : ((x :: xs).dropWhile p).length < length := by
              rw [← hlength, List.dropWhile_cons_of_pos hx, List.length_cons]
              exact Nat.lt_succ_of_le (List.dropWhile_suffix p).length_le
            have hrun := run _ _ hne (fun c hc => List.mem_takeWhile_imp hc) hhead
              (ih _ hshort _ rfl)
            rwa [List.takeWhile_append_dropWhile] at hrun

theorem collapse_cons_of_neg (hx : p x = false) (xs : List α) :
    collapse p least out (x :: xs) = x :: collapse p least out xs := by
  refine replaceAll_of_none ?_
  simp [run, List.takeWhile_cons_of_neg, hx]

/-- A run that is long enough is replaced, and one that is not stays. -/
theorem collapse_run_append {r rest : List α} (hne : r ≠ []) (hr : ∀ c ∈ r, p c = true)
    (hrest : ∀ c ∈ rest.head?, p c = false) :
    collapse p least out (r ++ rest) =
      (if least ≤ r.length then out else r) ++ collapse p least out rest := by
  induction r with
  | nil => exact absurd rfl hne
  | cons x r ih =>
      have htake := takeWhile_run hr hrest
      have hr' : ∀ c ∈ r, p c = true := fun c hc => hr c (List.mem_cons_of_mem x hc)
      by_cases hlong : least ≤ (x :: r).length
      · have hfound : run p least out (x :: (r ++ rest)) = some (r.length, out) := by
          unfold run
          rw [← List.cons_append, htake]
          simp only [List.length_cons] at hlong ⊢
          rw [if_pos ⟨Nat.succ_pos _, hlong⟩, Nat.add_sub_cancel]
        rw [if_pos hlong]
        unfold collapse
        rw [List.cons_append, replaceAll_of_match hfound, List.drop_left]
      · have hnone : run p least out (x :: (r ++ rest)) = none := by
          unfold run
          rw [← List.cons_append, htake]
          exact if_neg fun h => hlong h.2
        have hlong' : ¬least ≤ r.length := by
          simp only [List.length_cons] at hlong
          omega
        rw [if_neg hlong]
        unfold collapse
        rw [List.cons_append, replaceAll_of_none hnone, List.cons_append]
        cases r with
        | nil => rfl
        | cons y r =>
            have hrec := ih (by simp) hr'
            rw [if_neg hlong'] at hrec
            rw [List.cons_inj_right]
            exact hrec

/-- Every run of the text is shorter than `least`. -/
def ShortRuns (p : α → Bool) (least : Nat) (xs : List α) : Prop :=
  ∀ r, r <:+: xs → (∀ c ∈ r, p c = true) → r.length < least

theorem ShortRuns.of_within {ys : List α} (h : ShortRuns p least xs) (hys : ys <:+: xs) :
    ShortRuns p least ys :=
  fun r hr => h r (hr.trans hys)

/-- A text whose runs are short or replaced already has nothing to collapse. -/
theorem collapse_eq_self_of_runs
    (h : ∀ w, w <:+: xs → (∀ c ∈ w, p c = true) → w.length < least ∨ w = out) :
    collapse p least out xs = xs := by
  induction xs using runs_induction p with
  | nil => rfl
  | run r rest hne hr hhead ih =>
      have hrest := ih fun w hw => h w (hw.trans (List.suffix_append r rest).isInfix)
      rw [collapse_run_append hne hr hhead, hrest]
      by_cases hlong : least ≤ r.length
      · have hout : r = out := by
          rcases h r (List.prefix_append r rest).isInfix hr with hlt | hsame
          · omega
          · exact hsame
        rw [if_pos hlong, hout]
      · rw [if_neg hlong]
  | other x xs hx ih =>
      rw [collapse_cons_of_neg hx, ih fun w hw => h w (hw.trans (List.suffix_cons x xs).isInfix)]

/-- A text of short runs has nothing to collapse. -/
theorem collapse_eq_self (h : ShortRuns p least xs) : collapse p least out xs = xs :=
  collapse_eq_self_of_runs fun w hw hp => Or.inl (h w hw hp)

theorem infix_of_append_cons {a b r : List α} (hr : ∀ c ∈ r, p c = true) (hx : p x = false)
    (h : r <:+: a ++ x :: b) : r <:+: a ∨ r <:+: b := by
  obtain ⟨s, t, hsplit⟩ := h
  rw [List.append_assoc] at hsplit
  rcases List.append_eq_append_iff.mp hsplit with ⟨a', rfl, hrest⟩ | ⟨b', rfl, hrest⟩
  · rcases List.append_eq_append_iff.mp hrest with ⟨a'', rfl, -⟩ | ⟨r', rfl, hcons⟩
    · exact Or.inl ⟨s, a'', by rw [List.append_assoc]⟩
    · cases r' with
      | nil => exact Or.inl ⟨s, [], by simp⟩
      | cons y r' =>
          have hy := hr y (by simp)
          rw [← (List.cons.inj hcons).1, hx] at hy
          cases hy
  · cases b' with
    | nil =>
        cases r with
        | nil => exact Or.inl (List.nil_infix)
        | cons y r =>
            have hy := hr y List.mem_cons_self
            rw [← (List.cons.inj hrest).1, hx] at hy
            cases hy
    | cons y b' => exact Or.inr ⟨b', t, by rw [List.append_assoc]; exact (List.cons.inj hrest).2.symm⟩

/-- What is left after a replacement: if the replacement and every run that is too short to
be replaced are good, and the parts of a good run too, every run is good. -/
theorem runs_collapse {Good : List α → Prop} (hpart : ∀ w r, w <:+: r → Good r → Good w)
    (hout : Good out) (hshort : ∀ r : List α, r.length < least → Good r) (xs : List α) :
    ∀ w, w <:+: collapse p least out xs → (∀ c ∈ w, p c = true) → Good w := by
  have hnil : Good [] := hpart [] out List.nil_infix hout
  -- The replacement of a run, followed by what is not of its kind.
  have hstep : ∀ r rest : List α, Good r → (∀ c ∈ rest.head?, p c = false) →
      (∀ w, w <:+: rest → (∀ c ∈ w, p c = true) → Good w) →
      ∀ w, w <:+: r ++ rest → (∀ c ∈ w, p c = true) → Good w := by
    intro r rest hgood hhead hrest w hw hp
    cases rest with
    | nil =>
        rw [List.append_nil] at hw
        exact hpart w r hw hgood
    | cons x rest =>
        rcases infix_of_append_cons hp (hhead x rfl) hw with h | h
        · exact hpart w r h hgood
        · exact hrest w (h.trans (List.suffix_cons x rest).isInfix) hp
  induction xs using runs_induction p with
  | nil =>
      intro w hw _
      rw [List.infix_nil.mp hw]
      exact hnil
  | run r rest hne hr hhead ih =>
      rw [collapse_run_append hne hr hhead]
      refine hstep _ _ ?_ ?_ ih
      · split
        · exact hout
        · exact hshort r (by omega)
      · intro c hc
        cases rest with
        | nil => cases hc
        | cons x rest =>
            have hx := hhead x rfl
            rw [collapse_cons_of_neg hx] at hc
            cases hc
            exact hx
  | other x xs hx ih =>
      rw [collapse_cons_of_neg hx]
      refine hstep [] _ hnil (fun c hc => ?_) ?_
      · cases hc
        exact hx
      · intro w hw hp
        rcases infix_of_append_cons (a := []) hp hx hw with h | h
        · rw [List.infix_nil.mp h]
          exact hnil
        · exact ih w h hp

/-- What is left by a replacement that is short enough has short runs. -/
theorem shortRuns_collapse (p : α → Bool) (hout : out.length < least) (xs : List α) :
    ShortRuns p least (collapse p least out xs) :=
  runs_collapse (fun _ _ hw hr => Nat.lt_of_le_of_lt hw.length_le hr) hout (fun _ hr => hr) xs

end Collapse

end AvantimePlatform.Replace
