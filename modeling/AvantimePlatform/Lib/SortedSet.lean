import Mathlib

/-!
# Sorted sets

A sorted set holds members, each with one score, and lists them by score and,
within one score, by member.  `zadd` gives a member a score (and takes its old
one away), `zrem` drops a member, and `first` is the first member whose score is
at most a bound.  `zremRangeByScore` drops the members up to a bound, `zcard` and
`zcount` count all the members and those from a bound on.

That a member has one score is a field of the structure, so the lemmas about the
operations need no side condition.  Nothing here names a component of the
platform.
-/

namespace AvantimePlatform

universe u v

/-- A set of members with one score each. -/
structure SortedSet (Score : Type u) (Member : Type v) where
  entries : Finset (Score × Member)
  functional : ∀ a ∈ entries, ∀ b ∈ entries, a.2 = b.2 → a = b

namespace SortedSet

variable {Score : Type u} {Member : Type v}

/-- `member` has the score `score`. -/
def Scored (z : SortedSet Score Member) (member : Member) (score : Score) : Prop :=
  (score, member) ∈ z.entries

/-- `member` has some score. -/
def Contains (z : SortedSet Score Member) (member : Member) : Prop :=
  ∃ score, z.Scored member score

/-- The score of a member is unique. -/
theorem Scored.unique {z : SortedSet Score Member} {m : Member} {k k' : Score}
    (h : z.Scored m k) (h' : z.Scored m k') : k = k' :=
  congrArg Prod.fst (z.functional _ h _ h' rfl)

/-- The sorted set of a key that does not exist. -/
def empty : SortedSet Score Member := ⟨∅, by simp⟩

@[simp] theorem scored_empty (m : Member) (k : Score) :
    ¬(empty : SortedSet Score Member).Scored m k := by
  simp [Scored, empty]

/-- The sorted set without members whose score is at most `max`. -/
def zremRangeByScore [LinearOrder Score] (z : SortedSet Score Member) (max : Score) :
    SortedSet Score Member where
  entries := z.entries.filter (max < ·.1)
  functional := by
    intro a ha b hb hab
    exact z.functional a (Finset.mem_of_mem_filter a ha) b (Finset.mem_of_mem_filter b hb) hab

/-- The number of members. -/
def zcard (z : SortedSet Score Member) : Nat := z.entries.card

/-- The number of members whose score is at least `min`. -/
def zcount [LinearOrder Score] (z : SortedSet Score Member) (min : Score) : Nat :=
  (z.entries.filter (min ≤ ·.1)).card

variable [LinearOrder Member]

/-- Drop a member. -/
def zrem (z : SortedSet Score Member) (member : Member) : SortedSet Score Member where
  entries := z.entries.filter (·.2 ≠ member)
  functional := by
    intro a ha b hb hab
    exact z.functional a (Finset.mem_of_mem_filter a ha) b (Finset.mem_of_mem_filter b hb) hab

@[simp] theorem scored_zrem (z : SortedSet Score Member) (m n : Member) (k : Score) :
    (z.zrem m).Scored n k ↔ n ≠ m ∧ z.Scored n k := by
  simp [Scored, zrem, and_comm]

@[simp] theorem contains_zrem (z : SortedSet Score Member) (m n : Member) :
    (z.zrem m).Contains n ↔ n ≠ m ∧ z.Contains n := by
  simp [Contains]

variable [LinearOrder Score]

/-- Give a member a score, in place of the one it may have had. -/
def zadd (z : SortedSet Score Member) (score : Score) (member : Member) :
    SortedSet Score Member where
  entries := insert (score, member) (z.zrem member).entries
  functional := by
    intro a ha b hb hab
    rcases Finset.mem_insert.mp ha with rfl | ha' <;>
      rcases Finset.mem_insert.mp hb with rfl | hb'
    · rfl
    · exact absurd hab.symm (Finset.mem_filter.mp hb').2
    · exact absurd hab (Finset.mem_filter.mp ha').2
    · exact (z.zrem member).functional a ha' b hb' hab

@[simp] theorem scored_zadd (z : SortedSet Score Member) (k : Score) (m n : Member)
    (k' : Score) :
    (z.zadd k m).Scored n k' ↔ (n = m ∧ k' = k) ∨ (n ≠ m ∧ z.Scored n k') := by
  have h := scored_zrem z m n k'
  simp only [Scored, zadd, Finset.mem_insert, Prod.mk.injEq] at h ⊢
  rw [h]
  exact or_congr_left and_comm

@[simp] theorem contains_zadd (z : SortedSet Score Member) (k : Score) (m n : Member) :
    (z.zadd k m).Contains n ↔ n = m ∨ z.Contains n := by
  by_cases h : n = m
  · simp [Contains, h]
  · simp [Contains, h]

/-- The first member, by score and then by member, among those whose score is at
most `bound`. -/
def first (z : SortedSet Score Member) (bound : Score) : Option Member :=
  WithTop.recTopCoe none (fun entry => some (ofLex entry).2)
    ((z.entries.filter (·.1 ≤ bound)).image toLex).min

theorem first_eq_none {z : SortedSet Score Member} {bound : Score}
    (h : z.first bound = none) {m : Member} {k : Score} (hm : z.Scored m k) : bound < k := by
  by_contra hle
  have hmem : toLex (k, m) ∈ (z.entries.filter (·.1 ≤ bound)).image toLex :=
    Finset.mem_image_of_mem _ (Finset.mem_filter.mpr ⟨hm, not_lt.mp hle⟩)
  obtain ⟨e, he⟩ := Finset.min_of_mem hmem
  simp [first, he] at h

theorem first_eq_some {z : SortedSet Score Member} {bound : Score} {m : Member}
    (h : z.first bound = some m) : ∃ k, z.Scored m k ∧ k ≤ bound := by
  unfold first at h
  cases hmin : ((z.entries.filter (·.1 ≤ bound)).image toLex).min with
  | top => simp [hmin] at h
  | coe e =>
      have hm : (ofLex e).2 = m := by simpa [hmin] using h
      obtain ⟨a, ha, hae⟩ := Finset.mem_image.mp (Finset.mem_of_min hmin)
      obtain ⟨hmem, hle⟩ := Finset.mem_filter.mp ha
      have ha' : a = ofLex e := by rw [← hae]; rfl
      refine ⟨a.1, ?_, hle⟩
      rw [← hm, ← ha']
      exact hmem

end SortedSet

end AvantimePlatform
