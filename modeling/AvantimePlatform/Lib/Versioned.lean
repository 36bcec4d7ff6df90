import AvantimePlatform.Lib.KeyedList

/-!
# Rows under an optimistic version

A list of records under a key in which every write raises the version of the record it
changes.  A caller reads a record, and later writes it under the condition that its
version is still the one it has read.

* `Snapshot xs read` says that `read` was in the list: it is there now, or a later version
  is.
* A write that raises the version, and a record that is added, keep every snapshot.
* A guarded write that commits at the version of a snapshot changes exactly the record
  that was read (`Snapshot.eq_read`).

Nothing here names a component of the platform.
-/

namespace AvantimePlatform.Versioned

open AvantimePlatform

universe u v

variable {Record : Type u} {Key : Type v} [DecidableEq Key] (key : Record → Key)
  (version : Record → Int)

/-- What was read is still there, or a later version is. -/
def Snapshot (xs : List Record) (read : Record) : Prop :=
  ∃ current, KeyedList.find key (key read) xs = some current ∧ version read ≤ version current ∧
    (version current = version read → current = read)

/-- A write of the record at a key, on condition of its version and of `p`. -/
def guardedWrite (k : Key) (expected : Int) (p : Record → Bool) (f : Record → Record)
    (xs : List Record) : Option (List Record) :=
  match KeyedList.find key k xs with
  | none => none
  | some current =>
    if version current = expected ∧ p current = true then some (KeyedList.put key (f current) xs)
    else none

variable {key version} {xs xs' : List Record} {read current : Record}

/-- A record that is read is a snapshot. -/
theorem Snapshot.of_find {k : Key} (h : KeyedList.find key k xs = some read) :
    Snapshot key version xs read := by
  have hkey : key read = k := (KeyedList.find_eq_some h).2
  refine ⟨read, ?_, le_refl _, fun _ => rfl⟩
  rw [hkey]
  exact h

/-- At the version of a snapshot the record is the one that was read. -/
theorem Snapshot.eq_read (hread : Snapshot key version xs read)
    (hcurrent : KeyedList.find key (key read) xs = some current)
    (hversion : version current = version read) : current = read := by
  obtain ⟨found, hfound, -, hsame⟩ := hread
  rw [hcurrent] at hfound
  obtain rfl := Option.some.inj hfound
  exact hsame hversion

/-- What a guarded write that commits has found, and what it leaves. -/
theorem guardedWrite_eq_some {k : Key} {expected : Int} {p : Record → Bool} {f : Record → Record} :
    guardedWrite key version k expected p f xs = some xs' ↔
      ∃ current, KeyedList.find key k xs = some current ∧ version current = expected ∧
        p current = true ∧ xs' = KeyedList.put key (f current) xs := by
  unfold guardedWrite
  cases hfind : KeyedList.find key k xs with
  | none => simp
  | some current =>
      simp only [Option.some.injEq, exists_eq_left']
      constructor
      · intro h
        split at h
        · next hguard => exact ⟨hguard.1, hguard.2, (Option.some.inj h).symm⟩
        · cases h
      · rintro ⟨hversion, hp, rfl⟩
        rw [if_pos ⟨hversion, hp⟩]

/-- A write that raises the version keeps every snapshot. -/
theorem Snapshot.put {x old : Record} (hread : Snapshot key version xs read)
    (hold : KeyedList.find key (key x) xs = some old) (hraise : version old < version x) :
    Snapshot key version (KeyedList.put key x xs) read := by
  obtain ⟨current, hcurrent, hle, hsame⟩ := hread
  by_cases hk : key read = key x
  · have hfound : current = old := by
      rw [hk, hold] at hcurrent
      exact (Option.some.inj hcurrent).symm
    subst hfound
    have hlt : version read < version x := lt_of_le_of_lt hle hraise
    refine ⟨x, ?_, le_of_lt hlt, fun heq => absurd heq (ne_of_gt hlt)⟩
    rw [KeyedList.find_put hold, if_pos hk]
  · refine ⟨current, ?_, hle, hsame⟩
    rw [KeyedList.find_put hold, if_neg hk]
    exact hcurrent

/-- A record that is added keeps every snapshot. -/
theorem Snapshot.append {x : Record} (hread : Snapshot key version xs read)
    (hnew : KeyedList.find key (key x) xs = none) : Snapshot key version (xs ++ [x]) read := by
  obtain ⟨current, hcurrent, hle, hsame⟩ := hread
  have hk : key read ≠ key x := by
    intro hk
    rw [hk, hnew] at hcurrent
    cases hcurrent
  refine ⟨current, ?_, hle, hsame⟩
  rw [KeyedList.find_append_new hnew, if_neg hk]
  exact hcurrent

end AvantimePlatform.Versioned
