import Mathlib

/-!
# Sliding expiry

Something is good until an end that does not move, and until an idle deadline that each use
moves to a window after it, but never past the end.  The uses are known by their instants.

An instant is `Covered` when a use not after it is less than a window old.  `Kept` is the
invariant: the idle deadline is not past the end, and every instant before the idle deadline
is covered.  A use may move the deadline late and from an old reading, so that the deadlines
need not grow; what `Kept.touch` asks is only that the instants up to the use were covered
when it was admitted (`Kept.covered_of_lt`).

Nothing here names a component of the platform.
-/

namespace AvantimePlatform.SlidingExpiry

variable {window start : Int} {used used' : Int → Prop} {t end_ idle : Int}

/-- A use that is not after an instant is less than a window before it. -/
def Covered (window : Int) (used : Int → Prop) (t : Int) : Prop :=
  ∃ use, used use ∧ use ≤ t ∧ t < use + window

theorem Covered.mono (h : Covered window used t) (hmono : ∀ use, used use → used' use) :
    Covered window used' t := by
  obtain ⟨use, huse, hle, hlt⟩ := h
  exact ⟨use, hmono use huse, hle, hlt⟩

/-- From the start up to an instant, all is covered. -/
def CoveredTo (window start : Int) (used : Int → Prop) (t : Int) : Prop :=
  ∀ u, start ≤ u → u ≤ t → Covered window used u

theorem CoveredTo.mono (h : CoveredTo window start used t)
    (hmono : ∀ use, used use → used' use) : CoveredTo window start used' t :=
  fun u hstart hle => (h u hstart hle).mono hmono

/-- The idle deadline is not past the end, and what is before it is covered. -/
structure Kept (window start : Int) (used : Int → Prop) (end_ idle : Int) : Prop where
  idle_le : idle ≤ end_
  covered : ∀ u, start ≤ u → u < idle → Covered window used u

/-- The first use is the start. -/
theorem kept_start (hused : used start) (hend : start + window ≤ end_) :
    Kept window start used end_ (start + window) where
  idle_le := hend
  covered := fun _ hstart hlt => ⟨start, hused, hstart, hlt⟩

theorem Kept.mono (h : Kept window start used end_ idle) (hmono : ∀ use, used use → used' use) :
    Kept window start used' end_ idle where
  idle_le := h.idle_le
  covered := fun u hstart hlt => (h.covered u hstart hlt).mono hmono

/-- Before the idle deadline all is covered. -/
theorem Kept.covered_of_lt (h : Kept window start used end_ idle) (hlt : t < idle) :
    CoveredTo window start used t :=
  fun u hstart hle => h.covered u hstart (lt_of_le_of_lt hle hlt)

/-- A use moves the deadline. -/
theorem kept_touch (hcovered : CoveredTo window start used t) (hused : used t) :
    Kept window start used end_ (min end_ (t + window)) where
  idle_le := min_le_left _ _
  covered := by
    intro u hstart hlt
    by_cases hbefore : u ≤ t
    · exact hcovered u hstart hbefore
    · have hwindow : u < t + window := lt_of_lt_of_le hlt (min_le_right _ _)
      exact ⟨t, hused, by omega, hwindow⟩

end AvantimePlatform.SlidingExpiry
