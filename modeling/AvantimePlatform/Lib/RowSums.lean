import Mathlib

/-!
# Sums over the rows of a list

A sum over the selected rows is a sum over all rows in which the others weigh nothing.
The rest of the module compares two such sums row by row.

Nothing here names a component of the platform.
-/

namespace AvantimePlatform.RowSums

universe u v

variable {Row : Type u} {Weight : Type v} [AddCommMonoid Weight]

/-- The sum of the weights of the rows that `p` selects. -/
def sumWhere (p : Row → Bool) (weight : Row → Weight) (rows : List Row) : Weight :=
  ((rows.filter p).map weight).sum

theorem sumWhere_eq (p : Row → Bool) (weight : Row → Weight) (rows : List Row) :
    sumWhere p weight rows = (rows.map fun row => if p row then weight row else 0).sum := by
  unfold sumWhere
  induction rows with
  | nil => rfl
  | cons row rows ih =>
      by_cases h : p row = true
      · simp [h, ih]
      · simp [h, ih]

@[simp] theorem sumWhere_nil (p : Row → Bool) (weight : Row → Weight) :
    sumWhere p weight [] = 0 := rfl

theorem sumWhere_append_one (p : Row → Bool) (weight : Row → Weight) (rows : List Row)
    (row : Row) :
    sumWhere p weight (rows ++ [row]) =
      sumWhere p weight rows + if p row then weight row else 0 := by
  rw [sumWhere_eq, sumWhere_eq, List.map_append, List.sum_append]
  simp

theorem sumWhere_filter (p q : Row → Bool) (weight : Row → Weight) (rows : List Row) :
    sumWhere p weight (rows.filter q) = sumWhere (fun row => p row && q row) weight rows := by
  unfold sumWhere
  rw [List.filter_filter]

theorem sumWhere_congr {p q : Row → Bool} {f g : Row → Weight} {rows : List Row}
    (h : ∀ row ∈ rows, (if p row then f row else 0) = if q row then g row else 0) :
    sumWhere p f rows = sumWhere q g rows := by
  rw [sumWhere_eq, sumWhere_eq, List.map_congr_left h]

theorem sumWhere_map {Row' : Type*} (p : Row → Bool) (weight : Row → Weight) (f : Row' → Row)
    (rows : List Row') :
    sumWhere p weight (rows.map f) = sumWhere (p ∘ f) (weight ∘ f) rows := by
  rw [sumWhere_eq, sumWhere_eq, List.map_map]
  rfl

variable [PartialOrder Weight] [IsOrderedAddMonoid Weight]

theorem sumWhere_le {p q : Row → Bool} {f g : Row → Weight} {rows : List Row}
    (h : ∀ row ∈ rows, (if p row then f row else 0) ≤ if q row then g row else 0) :
    sumWhere p f rows ≤ sumWhere q g rows := by
  rw [sumWhere_eq, sumWhere_eq]
  exact List.sum_le_sum h

/-- When no row weighs more, and one row weighs less by an amount, then so do all rows. -/
theorem sumWhere_add_le {p q : Row → Bool} {f g : Row → Weight} {rows : List Row} {row : Row}
    {amount : Weight} (hrow : row ∈ rows)
    (hless : (if p row then f row else 0) + amount ≤ if q row then g row else 0)
    (h : ∀ row ∈ rows, (if p row then f row else 0) ≤ if q row then g row else 0) :
    sumWhere p f rows + amount ≤ sumWhere q g rows := by
  obtain ⟨before, after, rfl⟩ := List.append_of_mem hrow
  have hbefore : sumWhere p f before ≤ sumWhere q g before :=
    sumWhere_le fun r hr => h r (List.mem_append_left _ hr)
  have hafter : sumWhere p f after ≤ sumWhere q g after :=
    sumWhere_le fun r hr => h r (List.mem_append_right _ (List.mem_cons_of_mem _ hr))
  have hsplit : ∀ (s : Row → Bool) (w : Row → Weight), sumWhere s w (before ++ row :: after) =
      sumWhere s w before + ((if s row then w row else 0) + sumWhere s w after) := by
    intro s w
    rw [sumWhere_eq, sumWhere_eq, sumWhere_eq, List.map_append, List.sum_append]
    simp
  rw [hsplit, hsplit]
  calc sumWhere p f before + ((if p row then f row else 0) + sumWhere p f after) + amount
      = sumWhere p f before + ((if p row then f row else 0) + amount + sumWhere p f after) := by
        abel
    _ ≤ sumWhere q g before + ((if q row then g row else 0) + sumWhere q g after) :=
        add_le_add hbefore (add_le_add hless hafter)

end AvantimePlatform.RowSums
