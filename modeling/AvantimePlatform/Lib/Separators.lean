import Mathlib

/-!
# Separators

A text that is put together with a separator is taken apart again at the first or at the
last one.

Nothing here names a component of the platform.
-/

namespace AvantimePlatform.Separators

universe u

variable {α : Type u} {c : α} {xs ys ds es : List α}

/-- The text after the last separator is determined. -/
theorem append_cons_inj (hds : c ∉ ds) (hes : c ∉ es) (h : xs ++ c :: ds = ys ++ c :: es) :
    xs = ys ∧ ds = es := by
  rcases List.append_eq_append_iff.mp h with ⟨middle, hys, hrest⟩ | ⟨middle, hxs, hrest⟩
  · cases middle with
    | nil =>
        obtain ⟨-, hsame⟩ := List.cons.inj hrest
        exact ⟨by rw [hys, List.append_nil], hsame⟩
    | cons d middle =>
        obtain ⟨-, hsame⟩ := List.cons.inj hrest
        refine absurd ?_ hds
        rw [hsame]
        exact List.mem_append_right _ List.mem_cons_self
  · cases middle with
    | nil =>
        obtain ⟨-, hsame⟩ := List.cons.inj hrest
        exact ⟨by rw [hxs, List.append_nil], hsame.symm⟩
    | cons d middle =>
        obtain ⟨-, hsame⟩ := List.cons.inj hrest
        refine absurd ?_ hes
        rw [hsame]
        exact List.mem_append_right _ List.mem_cons_self

/-- So is the text before the first one. -/
theorem append_cons_inj_first (hxs : c ∉ xs) (hys : c ∉ ys) (h : xs ++ c :: ds = ys ++ c :: es) :
    xs = ys ∧ ds = es := by
  have hreverse : ds.reverse ++ c :: xs.reverse = es.reverse ++ c :: ys.reverse := by
    have hboth := congrArg List.reverse h
    simpa using hboth
  obtain ⟨hrest, hfirst⟩ := append_cons_inj (by simpa using hxs) (by simpa using hys) hreverse
  exact ⟨List.reverse_injective hfirst, List.reverse_injective hrest⟩

/-! ## The characters of numbers -/

theorem isDigit_of_mem_repr {n : Nat} {c : Char} (h : c ∈ n.repr.toList) : c.isDigit = true := by
  unfold Nat.repr at h
  rw [String.toList_ofList] at h
  exact Nat.isDigit_of_mem_toDigits (by omega) (by omega) h

/-- An integer is written with digits and a sign. -/
theorem mem_toString_int {n : Int} {c : Char} (h : c ∈ (toString n).toList) :
    c.isDigit = true ∨ c = '-' := by
  rw [Int.toString_eq_repr] at h
  cases n with
  | ofNat n => exact Or.inl (isDigit_of_mem_repr h)
  | negSucc n =>
      change c ∈ ("-" ++ n.succ.repr).toList at h
      rw [String.toList_append] at h
      rcases List.mem_append.mp h with hsign | hdigit
      · have hlist : "-".toList = ['-'] := by decide
        rw [hlist] at hsign
        exact Or.inr (List.mem_singleton.mp hsign)
      · exact Or.inl (isDigit_of_mem_repr hdigit)

theorem toString_int_ne_nil (n : Int) : (toString n).toList ≠ [] := by
  rw [Int.toString_eq_repr]
  cases n with
  | ofNat n =>
      show n.repr.toList ≠ []
      unfold Nat.repr
      rw [String.toList_ofList]
      exact Nat.toDigits_ne_nil
  | negSucc n =>
      show ("-" ++ n.succ.repr).toList ≠ []
      rw [String.toList_append]
      simp

/-- Integers are told apart by their texts. -/
theorem toString_int_injective : Function.Injective fun n : Int => (toString n).toList := by
  intro m n h
  have hrepr := String.toList_injective h
  rw [Int.toString_eq_repr, Int.toString_eq_repr] at hrepr
  exact Int.repr_injective hrepr

end AvantimePlatform.Separators
