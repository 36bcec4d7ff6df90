import Mathlib

/-!
# Tables

A table maps each key to at most one value: Mathlib's `AList` at a value type
that does not depend on the key.  The two lemmas here read an insert and an
erase back in one `if`, which is the form the proofs about hashes split on.
-/

namespace AvantimePlatform

universe u v

/-- A finite map from keys to values. -/
abbrev Table (Key : Type u) (Value : Type v) := AList (fun _ : Key => Value)

namespace Table

variable {Key : Type u} {Value : Type v} [DecidableEq Key]

theorem lookup_insert (t : Table Key Value) (k k' : Key) (v : Value) :
    (AList.insert k v t).lookup k' = if k' = k then some v else t.lookup k' := by
  by_cases h : k' = k
  · subst h; simp
  · simp [h, AList.lookup_insert_ne h]

theorem lookup_erase (t : Table Key Value) (k k' : Key) :
    (AList.erase k t).lookup k' = if k' = k then none else t.lookup k' := by
  by_cases h : k' = k
  · subst h; simp
  · simp [h, AList.lookup_erase_ne h]

@[simp] theorem lookup_empty (k : Key) : (∅ : Table Key Value).lookup k = none :=
  AList.lookup_empty (β := fun _ : Key => Value) k

end Table

end AvantimePlatform
