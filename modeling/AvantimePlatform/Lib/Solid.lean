import AvantimePlatform.Lib.Replace

/-!
# Solid text

What a text has besides the characters of a class, such as white space.  Passes that
replace characters of the class by others of the class do not change it.

Nothing here names a component of the platform.
-/

namespace AvantimePlatform.Replace

universe u

variable {α : Type u} {p q : α → Bool} {m : Pattern α} {xs ys out : List α}

/-- The text without the characters of `p`. -/
def solid (p : α → Bool) (xs : List α) : List α := xs.filter fun c => !p c

@[simp] theorem solid_nil : solid p [] = [] := rfl

@[simp] theorem solid_append : solid p (xs ++ ys) = solid p xs ++ solid p ys :=
  List.filter_append ..

theorem solid_cons_of_pos {x : α} (hx : p x = true) : solid p (x :: xs) = solid p xs := by
  unfold solid
  rw [List.filter_cons_of_neg (by simpa using hx)]

theorem solid_cons_of_neg {x : α} (hx : p x = false) : solid p (x :: xs) = x :: solid p xs := by
  unfold solid
  rw [List.filter_cons_of_pos (by simpa using hx)]

theorem solid_eq_nil (h : ∀ c ∈ xs, p c = true) : solid p xs = [] := by
  unfold solid
  rw [List.filter_eq_nil_iff]
  intro c hc
  simpa using h c hc

theorem solid_infix (h : xs <:+: ys) : solid p xs <:+: solid p ys := by
  obtain ⟨front, back, rfl⟩ := h
  exact ⟨solid p front, solid p back, by rw [solid_append, solid_append]⟩

theorem Within.mono (hm : Within p m) (hpq : ∀ c, p c = true → q c = true) : Within q m := by
  intro x xs n out h
  obtain ⟨hx, htake, hne, hout⟩ := hm x xs n out h
  exact ⟨hpq x hx, fun c hc => hpq c (htake c hc), hne, fun c hc => hpq c (hout c hc)⟩

/-- A pass over characters of the class leaves the rest as it is. -/
theorem solid_replaceAll (hm : Within p m) (xs : List α) :
    solid p (replaceAll m xs) = solid p xs := by
  induction xs using replaceAll_induction (m := m) with
  | nil => rfl
  | matched x xs n out hmatch ih =>
      obtain ⟨hx, htake, -, hout⟩ := hm x xs n out hmatch
      have hsplit := congrArg (solid p) (List.take_append_drop n xs)
      rw [solid_append, solid_eq_nil htake, List.nil_append] at hsplit
      rw [replaceAll_of_match hmatch, solid_append, solid_eq_nil hout, List.nil_append, ih,
        solid_cons_of_pos hx, hsplit]
  | kept x xs hnone ih =>
      rw [replaceAll_of_none hnone]
      unfold solid at ih ⊢
      rw [List.filter_cons, List.filter_cons, ih]

theorem solid_trim (p : α → Bool) (xs : List α) : solid p (trim p xs) = solid p xs := by
  obtain ⟨front, back, hsplit, hfront, hback⟩ := trim_split p xs
  conv_rhs => rw [hsplit]
  rw [solid_append, solid_append, solid_eq_nil hfront, solid_eq_nil hback, List.append_nil,
    List.nil_append]

/-- A trimmed text that is not empty begins with a solid character. -/
theorem solid_take_trim_ne_nil {n : Nat} (hne : trim p xs ≠ []) (hn : 0 < n) :
    solid p ((trim p xs).take n) ≠ [] := by
  have hhead := trim_head hne
  cases htrim : trim p xs with
  | nil => exact absurd htrim hne
  | cons x rest =>
      cases n with
      | zero => exact absurd hn (lt_irrefl 0)
      | succ n =>
          have hx : p x = false := by
            simpa only [htrim, List.head_cons] using hhead
          rw [List.take_succ_cons, solid_cons_of_neg hx]
          exact List.cons_ne_nil _ _

end AvantimePlatform.Replace
