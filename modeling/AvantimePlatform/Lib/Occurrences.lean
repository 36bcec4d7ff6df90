import Mathlib

/-!
# Occurrences of a part in a text

How often a part stands in a text, counted by the places where it begins.

* `occurrences_append_cons`: over a separator that the part does not have, the counts add
  up.
* `append_inj_of_first`: a text is taken apart at the first place of a part.

Nothing here names a component of the platform.
-/

namespace AvantimePlatform.Occurrences

universe u

variable {α : Type u} [DecidableEq α] {part xs ys xs' ys' : List α} {c p : α}

/-- The number of places at which `part` begins. -/
def occurrences (part : List α) : List α → Nat
  | [] => 0
  | x :: xs => (if part <+: x :: xs then 1 else 0) + occurrences part xs

@[simp] theorem occurrences_nil : occurrences part [] = 0 := rfl

theorem occurrences_cons (x : α) :
    occurrences part (x :: xs) = (if part <+: x :: xs then 1 else 0) + occurrences part xs :=
  rfl

omit [DecidableEq α] in
/-- A part does not reach over a separator that it does not have. -/
theorem prefix_append_cons_iff (hc : c ∉ part) : part <+: xs ++ c :: ys ↔ part <+: xs := by
  constructor
  · rintro ⟨rest, hrest⟩
    rcases List.append_eq_append_iff.mp hrest with ⟨middle, hxs, -⟩ | ⟨middle, hpart, hmiddle⟩
    · exact ⟨middle, hxs.symm⟩
    · cases middle with
      | nil =>
          rw [List.append_nil] at hpart
          rw [hpart]
      | cons d middle =>
          have hd : c = d := (List.cons.inj hmiddle).1
          refine absurd ?_ hc
          rw [hpart, hd]
          exact List.mem_append_right _ List.mem_cons_self
  · intro h
    exact h.trans (List.prefix_append xs _)

/-- The counts on the two sides of a separator add up. -/
theorem occurrences_append_cons (hne : part ≠ []) (hc : c ∉ part) :
    occurrences part (xs ++ c :: ys) = occurrences part xs + occurrences part ys := by
  induction xs with
  | nil =>
      have hnot : ¬part <+: c :: ys := by
        intro h
        have hnil : part <+: [] := (@prefix_append_cons_iff _ part [] ys c hc).mp h
        exact hne (List.prefix_nil.mp hnil)
      rw [List.nil_append, occurrences_cons, if_neg hnot, occurrences_nil]
  | cons x xs ih =>
      have hiff : part <+: x :: (xs ++ c :: ys) ↔ part <+: x :: xs :=
        @prefix_append_cons_iff _ part (x :: xs) ys c hc
      rw [List.cons_append, occurrences_cons, occurrences_cons, ih]
      simp only [hiff]
      omega

/-- A text without the first character of a part has no place for it. -/
theorem occurrences_eq_zero (hp : p ∉ xs) : occurrences (p :: part) xs = 0 := by
  induction xs with
  | nil => rfl
  | cons x xs ih =>
      have hhead : p ≠ x := fun h => hp (h ▸ List.mem_cons_self)
      have hnot : ¬p :: part <+: x :: xs := fun h => hhead (List.cons_prefix_cons.mp h).1
      rw [occurrences_cons, if_neg hnot, ih fun h => hp (List.mem_cons_of_mem x h)]

/-- And one place at most when the character stands at its beginning only. -/
theorem occurrences_of_head (hp : p ∉ xs) :
    occurrences (p :: part) (p :: xs) = if part <+: xs then 1 else 0 := by
  rw [occurrences_cons, occurrences_eq_zero hp, Nat.add_zero]
  simp only [List.cons_prefix_cons, true_and]

/-- No place is counted exactly when the part does not stand in the text. -/
theorem occurrences_eq_zero_iff (hne : part ≠ []) : occurrences part xs = 0 ↔ ¬part <:+: xs := by
  induction xs with
  | nil => simpa using hne
  | cons x xs ih =>
      rw [occurrences_cons, List.infix_cons_iff, not_or, ← ih]
      by_cases h : part <+: x :: xs
      · rw [if_pos h]
        simp [h]
      · rw [if_neg h]
        simp [h]

theorem occurrences_le_append : occurrences part ys ≤ occurrences part (xs ++ ys) := by
  induction xs with
  | nil => exact le_rfl
  | cons x xs ih =>
      rw [List.cons_append, occurrences_cons]
      omega

theorem one_le_occurrences (hne : part ≠ []) : 1 ≤ occurrences part part := by
  cases part with
  | nil => exact absurd rfl hne
  | cons x rest =>
      rw [occurrences_cons, if_pos List.prefix_rfl]
      omega

/-- Nothing that begins with a part and ends with it has it once, unless it is the part. -/
theorem eq_nil_of_prefix_append (hne : part ≠ []) (hone : occurrences part (xs ++ part) ≤ 1)
    (h : part <+: xs ++ part) : xs = [] := by
  cases xs with
  | nil => rfl
  | cons x xs =>
      have hlast := one_le_occurrences hne
      have hrest := @occurrences_le_append _ _ part xs part
      rw [List.cons_append] at hone h
      rw [occurrences_cons, if_pos h] at hone
      omega

/-- What stands before the first place of a part is determined, and so is what stands
behind it. -/
theorem append_inj_of_first (hne : part ≠ []) (hone : occurrences part (xs ++ part) = 1)
    (hone' : occurrences part (xs' ++ part) = 1) (h : xs ++ part ++ ys = xs' ++ part ++ ys') :
    xs = xs' ∧ ys = ys' := by
  have hsame {xs xs' ys ys' : List α} (hone' : occurrences part (xs' ++ part) = 1)
      (hle : xs <+: xs') (h : xs ++ part ++ ys = xs' ++ part ++ ys') : xs = xs' := by
    obtain ⟨middle, rfl⟩ := hle
    rw [List.append_assoc, List.append_assoc, List.append_assoc, List.append_cancel_left_eq,
      ← List.append_assoc] at h
    have hstart : part <+: middle ++ part := by
      refine List.prefix_of_prefix_length_le ⟨ys, h⟩ (List.prefix_append _ ys') ?_
      rw [List.length_append]
      omega
    have hmiddle : occurrences part (middle ++ part) ≤ 1 := by
      rw [← hone', List.append_assoc]
      exact occurrences_le_append
    rw [eq_nil_of_prefix_append hne hmiddle hstart, List.append_nil]
  have hfirst : xs = xs' := by
    have hxs : xs <+: xs ++ part ++ ys := by
      rw [List.append_assoc]
      exact List.prefix_append _ _
    have hxs' : xs' <+: xs ++ part ++ ys := by
      rw [h, List.append_assoc]
      exact List.prefix_append _ _
    rcases Nat.le_total xs.length xs'.length with hle | hle
    · exact hsame hone' (List.prefix_of_prefix_length_le hxs hxs' hle) h
    · exact (hsame hone (List.prefix_of_prefix_length_le hxs' hxs hle) h.symm).symm
  refine ⟨hfirst, ?_⟩
  rw [hfirst] at h
  exact List.append_cancel_left h

end AvantimePlatform.Occurrences
