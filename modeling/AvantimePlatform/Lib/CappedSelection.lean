import Mathlib

/-!
# A selection with caps

One pass over a ranked list that takes an element unless its group has its share, and
stops when it has as many as it may.  `select` is the pass, with what it has taken of each
group and in all.

* `length_select` and `countP_select`: it stays within the two limits.
* `select_split` says what happened to the element behind a given part of the list, and
  `maximal_select` reads off that nothing is left out without a reason.

Nothing here names a component of the platform.
-/

namespace AvantimePlatform.CappedSelection

universe u v

variable {α : Type u} {γ : Type v} [DecidableEq γ]

/-- Take what the caps leave room for: `cap` of each group, `limit` in all. -/
def select (group : α → γ) (cap limit : Nat) (count : γ → Nat) (taken : Nat) :
    List α → List α
  | [] => []
  | x :: rest =>
    if cap ≤ count (group x) then select group cap limit count taken rest
    else
      let count' := Function.update count (group x) (count (group x) + 1)
      x :: (if limit ≤ taken + 1 then [] else select group cap limit count' (taken + 1) rest)

variable {group : α → γ} {cap limit taken : Nat} {count : γ → Nat} {x : α} {xs ys : List α}

theorem select_capped (h : cap ≤ count (group x)) :
    select group cap limit count taken (x :: xs) = select group cap limit count taken xs := by
  rw [select, if_pos h]

theorem select_last (h : count (group x) < cap) (hfull : limit ≤ taken + 1) :
    select group cap limit count taken (x :: xs) = [x] := by
  rw [select, if_neg (by omega)]
  dsimp only
  rw [if_pos hfull]

theorem select_taken (h : count (group x) < cap) (hroom : taken + 1 < limit) :
    select group cap limit count taken (x :: xs) =
      x :: select group cap limit (Function.update count (group x) (count (group x) + 1))
        (taken + 1) xs := by
  rw [select, if_neg (by omega)]
  dsimp only
  rw [if_neg (by omega)]

theorem select_sublist (group : α → γ) (cap limit : Nat) (count : γ → Nat) (taken : Nat)
    (xs : List α) : (select group cap limit count taken xs).Sublist xs := by
  induction xs generalizing count taken with
  | nil => exact List.Sublist.slnil
  | cons x xs ih =>
      by_cases hcap : cap ≤ count (group x)
      · rw [select_capped hcap]
        exact (ih count taken).cons x
      · by_cases hfull : limit ≤ taken + 1
        · rw [select_last (by omega) hfull]
          exact (List.nil_sublist xs).cons_cons x
        · rw [select_taken (by omega) (by omega)]
          exact (ih _ _).cons_cons x

/-- The selection stays within the limit. -/
theorem length_select (htaken : taken < limit) (xs : List α) :
    taken + (select group cap limit count taken xs).length ≤ limit := by
  induction xs generalizing count taken with
  | nil =>
      rw [select, List.length_nil]
      omega
  | cons x xs ih =>
      by_cases hcap : cap ≤ count (group x)
      · rw [select_capped hcap]
        exact ih htaken
      · by_cases hfull : limit ≤ taken + 1
        · rw [select_last (by omega) hfull, List.length_singleton]
          omega
        · have hrest := @ih (taken + 1) (Function.update count (group x) (count (group x) + 1))
            (by omega)
          rw [select_taken (by omega) (by omega), List.length_cons]
          omega

/-- The selection takes no more of a group than the cap. -/
theorem countP_select (g : γ) (hcount : count g ≤ cap) (xs : List α) :
    count g + (select group cap limit count taken xs).countP (fun x => group x = g) ≤ cap := by
  induction xs generalizing count taken with
  | nil =>
      rw [select, List.countP_nil]
      exact hcount
  | cons x xs ih =>
      by_cases hcap : cap ≤ count (group x)
      · rw [select_capped hcap]
        exact ih hcount
      · by_cases hfull : limit ≤ taken + 1
        · rw [select_last (by omega) hfull, List.countP_singleton]
          by_cases hg : group x = g
          · rw [hg] at hcap
            rw [if_pos (by simpa using hg)]
            omega
          · rw [if_neg (by simpa using hg)]
            exact hcount
        · rw [select_taken (by omega) (by omega), List.countP_cons]
          by_cases hg : group x = g
          · have hrest := @ih (taken + 1) (Function.update count (group x) (count (group x) + 1))
              (by rw [hg] at hcap ⊢; rw [Function.update_self]; omega)
            rw [if_pos (by simpa using hg)]
            rw [hg, Function.update_self] at hrest
            rw [hg]
            omega
          · have hsame : Function.update count (group x) (count (group x) + 1) g = count g :=
              Function.update_of_ne (Ne.symm hg) _ _
            have hrest := @ih (taken + 1) (Function.update count (group x) (count (group x) + 1))
              (by rw [hsame]; exact hcount)
            rw [hsame] at hrest
            rw [if_neg (by simpa using hg)]
            exact hrest

/-- What happens to the element behind `xs`: it is taken, the selection is full before it
comes to it, or its group has its share. -/
theorem select_split (htaken : taken < limit) (xs : List α) (x : α) (ys : List α) :
    (∃ rest, select group cap limit count taken (xs ++ x :: ys) =
      select group cap limit count taken xs ++ x :: rest) ∨
    (select group cap limit count taken (xs ++ x :: ys) =
        select group cap limit count taken xs ∧
      taken + (select group cap limit count taken xs).length = limit) ∨
    (∃ rest, select group cap limit count taken (xs ++ x :: ys) =
        select group cap limit count taken xs ++ rest ∧
      cap ≤ count (group x) +
        (select group cap limit count taken xs).countP (fun y => group y = group x)) := by
  induction xs generalizing count taken with
  | nil =>
      by_cases hcap : cap ≤ count (group x)
      · exact Or.inr (Or.inr ⟨_, rfl, by omega⟩)
      · refine Or.inl ?_
        by_cases hfull : limit ≤ taken + 1
        · exact ⟨[], select_last (by omega) hfull⟩
        · exact ⟨_, select_taken (by omega) (by omega)⟩
  | cons z xs ih =>
      by_cases hcap : cap ≤ count (group z)
      · rw [List.cons_append, select_capped hcap, select_capped hcap]
        exact ih htaken
      · by_cases hfull : limit ≤ taken + 1
        · rw [List.cons_append, select_last (by omega) hfull, select_last (by omega) hfull]
          exact Or.inr (Or.inl ⟨rfl, by rw [List.length_singleton]; omega⟩)
        · have hcap' : count (group z) < cap := by omega
          have hroom : taken + 1 < limit := by omega
          rw [List.cons_append, select_taken hcap' hroom, select_taken hcap' hroom]
          rcases @ih (taken + 1) (Function.update count (group z) (count (group z) + 1)) hroom with
            ⟨rest, hrest⟩ | ⟨hrest, hlength⟩ | ⟨rest, hrest, hshare⟩
          · exact Or.inl ⟨rest, by rw [hrest, List.cons_append]⟩
          · refine Or.inr (Or.inl ⟨by rw [hrest], ?_⟩)
            rw [List.length_cons]
            omega
          · refine Or.inr (Or.inr ⟨rest, by rw [hrest, List.cons_append], ?_⟩)
            rw [List.countP_cons]
            by_cases hgroup : group z = group x
            · rw [← hgroup, Function.update_self] at hshare
              rw [← hgroup, if_pos (by simp)]
              omega
            · rw [Function.update_of_ne (Ne.symm hgroup)] at hshare
              rw [if_neg (by simpa using hgroup)]
              exact hshare

/-- What a selection from nothing leaves out ranks behind a full selection, or behind as
many of its group as there may be. -/
theorem maximal_select {front back : List α} (hlimit : 0 < limit)
    (hx : x ∉ select group cap limit (fun _ => 0) 0 (front ++ x :: back)) :
    ((select group cap limit (fun _ => 0) 0 (front ++ x :: back)).length = limit ∧
      ∀ y ∈ select group cap limit (fun _ => 0) 0 (front ++ x :: back), y ∈ front) ∨
    ∃ better, better <+: select group cap limit (fun _ => 0) 0 (front ++ x :: back) ∧
      (∀ y ∈ better, y ∈ front) ∧ cap ≤ better.countP fun y => group y = group x := by
  have hfront := select_sublist group cap limit (fun _ => 0) 0 front
  rcases @select_split _ _ _ group cap limit 0 (fun _ => 0) hlimit front x back with ⟨rest, hrest⟩ | ⟨hsame, hfull⟩ |
    ⟨rest, hrest, hshare⟩
  · rw [hrest] at hx
    exact absurd (List.mem_append_right _ List.mem_cons_self) hx
  · rw [hsame]
    exact Or.inl ⟨by omega, fun y hy => hfront.subset hy⟩
  · rw [hrest]
    exact Or.inr ⟨_, List.prefix_append _ rest, fun y hy => hfront.subset hy, by omega⟩

end AvantimePlatform.CappedSelection
