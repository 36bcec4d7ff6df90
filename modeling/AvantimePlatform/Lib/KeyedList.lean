import Mathlib

/-!
# Lists of records under a key

A list of records in which no two have the same key, kept in insertion order.
`find` looks a record up, `put` writes it back in its place, `erase` drops it.
Each lemma says what `find` gives after an operation.

The order of the list matters to some users, so this is not a finite map; where
it does not, `Table` is the type to use.  Nothing here names a component of the
platform.
-/

namespace AvantimePlatform.KeyedList

universe u v

variable {Record : Type u} {Key : Type v} [DecidableEq Key] (key : Record → Key)

/-- The record at a key. -/
def find (k : Key) (xs : List Record) : Option Record :=
  xs.find? (fun x => key x == k)

/-- Write back a record that was changed in place. -/
def put (x : Record) (xs : List Record) : List Record :=
  xs.map fun y => if key y = key x then x else y

/-- Drop the record at a key. -/
def erase (k : Key) (xs : List Record) : List Record :=
  xs.eraseP (fun x => key x == k)

/-- Change the records that `p` selects. -/
def updateMany (p : Record → Bool) (f : Record → Record) (xs : List Record) : List Record :=
  xs.map fun x => if p x then f x else x

/-- No two records have the same key. -/
def Distinct (xs : List Record) : Prop := (xs.map key).Nodup

variable {key}

theorem find_eq_some {k : Key} {xs : List Record} {x : Record} (h : find key k xs = some x) :
    x ∈ xs ∧ key x = k :=
  ⟨List.mem_of_find?_eq_some h, by simpa using List.find?_some h⟩

theorem find_eq_none {k : Key} {xs : List Record} :
    find key k xs = none ↔ ∀ x ∈ xs, key x ≠ k := by
  simp [find, List.find?_eq_none]

theorem find_of_mem {xs : List Record} {x : Record} (hd : Distinct key xs) (hx : x ∈ xs) :
    find key (key x) xs = some x := by
  induction xs with
  | nil => cases hx
  | cons y ys ih =>
      have hd' := List.nodup_cons.mp hd
      rcases List.mem_cons.mp hx with rfl | hmem
      · simp [find]
      · have hne : key y ≠ key x := fun heq => hd'.1 (heq ▸ List.mem_map_of_mem hmem)
        have hrest := ih hd'.2 hmem
        simpa [find, hne] using hrest

/-- Two records with one key are one record. -/
theorem eq_of_key {xs : List Record} {x y : Record} (hd : Distinct key xs) (hx : x ∈ xs)
    (hy : y ∈ xs) (h : key x = key y) : x = y := by
  have hfind := find_of_mem hd hx
  rw [h, find_of_mem hd hy] at hfind
  exact (Option.some.inj hfind).symm

/-- In a list with distinct keys, `find` says exactly which records are there. -/
theorem find_eq_some_iff {k : Key} {xs : List Record} {x : Record} (hd : Distinct key xs) :
    find key k xs = some x ↔ x ∈ xs ∧ key x = k := by
  constructor
  · exact find_eq_some
  · rintro ⟨hx, rfl⟩
    exact find_of_mem hd hx

/-- Two lists with the same records have the same `find`. -/
theorem find_congr {k : Key} {xs ys : List Record} (hx : Distinct key xs) (hy : Distinct key ys)
    (h : ∀ x, key x = k → (x ∈ xs ↔ x ∈ ys)) : find key k xs = find key k ys := by
  apply Option.ext
  intro x
  rw [find_eq_some_iff hx, find_eq_some_iff hy]
  constructor
  · rintro ⟨hmem, hk⟩
    exact ⟨(h x hk).mp hmem, hk⟩
  · rintro ⟨hmem, hk⟩
    exact ⟨(h x hk).mpr hmem, hk⟩

/-- A search that singles out a key finds at most what `find` finds. -/
theorem find?_eq_filter {k : Key} {xs : List Record} {p : Record → Bool} (hd : Distinct key xs)
    (hp : ∀ x, p x = true → key x = k) : xs.find? p = (find key k xs).filter p := by
  have hmem (x : Record) (hx : xs.find? p = some x) : find key k xs = some x := by
    rw [find_eq_some_iff hd]
    exact ⟨List.mem_of_find?_eq_some hx, hp x (List.find?_some hx)⟩
  cases hsearch : xs.find? p with
  | some x =>
      rw [hmem x hsearch, Option.filter_some, if_pos (List.find?_some hsearch)]
  | none =>
      cases hfind : find key k xs with
      | none => rfl
      | some x =>
          have hnot := List.find?_eq_none.mp hsearch x (find_eq_some hfind).1
          rw [Option.filter_some, if_neg hnot]

/-! ## Appending -/

theorem find_append_new {k : Key} {xs : List Record} {x : Record}
    (hnew : find key (key x) xs = none) :
    find key k (xs ++ [x]) = if k = key x then some x else find key k xs := by
  by_cases hk : k = key x
  · subst hk
    have hold : xs.find? (fun y => key y == key x) = none := hnew
    simp [find, List.find?_append, hold]
  · have hne : ¬key x = k := fun h => hk h.symm
    simp [find, List.find?_append, hk, hne]

theorem distinct_append_new {xs : List Record} {x : Record} (hd : Distinct key xs)
    (hnew : find key (key x) xs = none) : Distinct key (xs ++ [x]) := by
  unfold Distinct
  rw [List.map_append, List.nodup_append]
  refine ⟨hd, by simp, fun a ha b hb => ?_⟩
  obtain ⟨y, hy, rfl⟩ := List.mem_map.mp ha
  have hb' : b = key x := by simpa using hb
  rw [hb']
  exact find_eq_none.mp hnew y hy

/-! ## Writing back -/

theorem map_key_put (x : Record) (xs : List Record) : (put key x xs).map key = xs.map key := by
  unfold put
  rw [List.map_map]
  refine List.map_congr_left fun y _ => ?_
  by_cases h : key y = key x
  · simp [h]
  · simp [h]

theorem distinct_put {x : Record} {xs : List Record} (hd : Distinct key xs) :
    Distinct key (put key x xs) := by
  unfold Distinct
  rw [map_key_put]
  exact hd

theorem mem_put {x y : Record} {xs : List Record} (h : y ∈ put key x xs) :
    y = x ∨ (y ∈ xs ∧ key y ≠ key x) := by
  obtain ⟨z, hz, rfl⟩ := List.mem_map.mp h
  by_cases hk : key z = key x
  · exact Or.inl (if_pos hk)
  · rw [if_neg hk]
    exact Or.inr ⟨hz, hk⟩

theorem find_put {k : Key} {x old : Record} {xs : List Record}
    (hold : find key (key x) xs = some old) :
    find key k (put key x xs) = if k = key x then some x else find key k xs := by
  induction xs with
  | nil => simp [find] at hold
  | cons y ys ih =>
      by_cases hy : key y = key x
      · by_cases hk : k = key x
        · simp [find, put, hy, hk]
        · have hxk : ¬key x = k := fun h => hk h.symm
          have htail : ∀ zs : List Record, find key k (put key x zs) = find key k zs := by
            intro zs
            induction zs with
            | nil => rfl
            | cons z zs ihz =>
                by_cases hz : key z = key x
                · simpa [find, put, hz, hxk] using ihz
                · by_cases hzk : key z = k
                  · simp [find, put, hk, hzk]
                  · simpa [find, put, hz, hzk] using ihz
          simpa [find, put, hy, hk, hxk] using htail ys
      · have hrest := ih (by simpa [find, hy] using hold)
        by_cases hyk : key y = k
        · have hk : k ≠ key x := fun h => hy (hyk.trans h)
          simp [find, put, hyk, hk]
        · simpa [find, put, hy, hyk] using hrest

/-- A field that the written record has in common with the old one is the same
throughout the list. -/
theorem map_put {Field : Type*} {f : Record → Field} {x old : Record} {xs : List Record}
    (hd : Distinct key xs) (hold : find key (key x) xs = some old) (hf : f x = f old) :
    (put key x xs).map f = xs.map f := by
  unfold put
  rw [List.map_map]
  refine List.map_congr_left fun y hy => ?_
  by_cases h : key y = key x
  · have hsame : y = old := by
      have := find_of_mem hd hy
      rw [h, hold] at this
      exact (Option.some.inj this).symm
    change f (if key y = key x then x else y) = f y
    rw [if_pos h, hf, hsame]
  · change f (if key y = key x then x else y) = f y
    rw [if_neg h]

/-! ## Changing the selected records -/

theorem find_updateMany {k : Key} {p : Record → Bool} {f : Record → Record}
    (hkey : ∀ x, key (f x) = key x) (xs : List Record) :
    find key k (updateMany p f xs) = (find key k xs).map fun x => if p x then f x else x := by
  induction xs with
  | nil => rfl
  | cons x xs ih =>
      have hx : key (if p x then f x else x) = key x := by
        split
        · exact hkey x
        · rfl
      by_cases hk : key x = k
      · have hk' : key (if p x then f x else x) = k := hx.trans hk
        simp [find, updateMany, hk, hk']
      · have hk' : ¬key (if p x then f x else x) = k := fun h => hk (hx.symm.trans h)
        simpa [find, updateMany, hk, hk'] using ih

omit [DecidableEq Key] in
theorem map_key_updateMany {p : Record → Bool} {f : Record → Record}
    (hkey : ∀ x, key (f x) = key x) (xs : List Record) :
    (updateMany p f xs).map key = xs.map key := by
  unfold updateMany
  rw [List.map_map]
  refine List.map_congr_left fun x _ => ?_
  show key (if p x then f x else x) = key x
  split
  · exact hkey x
  · rfl

omit [DecidableEq Key] in
theorem distinct_updateMany {p : Record → Bool} {f : Record → Record}
    (hkey : ∀ x, key (f x) = key x) {xs : List Record} (hd : Distinct key xs) :
    Distinct key (updateMany p f xs) := by
  unfold Distinct
  rw [map_key_updateMany hkey]
  exact hd

theorem mem_updateMany {p : Record → Bool} {f : Record → Record} {xs : List Record} {y : Record}
    (h : y ∈ updateMany p f xs) : (y ∈ xs ∧ p y = false) ∨ ∃ x ∈ xs, p x = true ∧ y = f x := by
  obtain ⟨x, hx, rfl⟩ := List.mem_map.mp h
  by_cases hp : p x = true
  · exact Or.inr ⟨x, hx, hp, if_pos hp⟩
  · rw [if_neg hp]
    exact Or.inl ⟨hx, by simpa using hp⟩

omit [DecidableEq Key] in
/-- A record that is not selected stays as it is. -/
theorem mem_updateMany_of_not {p : Record → Bool} {f : Record → Record} {xs : List Record}
    {x : Record} (hx : x ∈ xs) (hp : ¬p x = true) : x ∈ updateMany p f xs :=
  List.mem_map.mpr ⟨x, hx, if_neg hp⟩

/-! ## Dropping -/

theorem find_filter {k : Key} {xs : List Record} (hd : Distinct key xs) (p : Record → Bool) :
    find key k (xs.filter p) = (find key k xs).filter p := by
  have hd' : Distinct key (xs.filter p) := hd.sublist (List.filter_sublist.map key)
  apply Option.ext
  intro x
  rw [find_eq_some_iff hd', Option.filter_eq_some_iff, find_eq_some_iff hd, List.mem_filter]
  tauto

theorem distinct_erase {k : Key} {xs : List Record} (hd : Distinct key xs) :
    Distinct key (erase key k xs) :=
  hd.sublist (List.eraseP_sublist.map key)

/-- With distinct keys, dropping the record at a key is keeping all others. -/
theorem erase_eq_filter {k : Key} {xs : List Record} (hd : Distinct key xs) :
    erase key k xs = xs.filter fun x => !(key x == k) := by
  induction xs with
  | nil => rfl
  | cons x xs ih =>
      obtain ⟨hnot, hd'⟩ := List.nodup_cons.mp hd
      by_cases hx : key x = k
      · have hothers : ∀ y ∈ xs, (!(key y == k)) = true := by
          intro y hy
          have hne : key y ≠ k := fun hyk =>
            hnot (by rw [hx, ← hyk]; exact List.mem_map_of_mem hy)
          simpa using hne
        have herase : erase key k (x :: xs) = xs := by simp [erase, hx]
        rw [herase, List.filter_cons_of_neg (by simp [hx]), List.filter_eq_self.mpr hothers]
      · have herase : erase key k (x :: xs) = x :: erase key k xs := by simp [erase, hx]
        rw [herase, ih hd', List.filter_cons_of_pos (by simp [hx])]

/-- Dropping the record that is found leaves all the others. -/
theorem perm_cons_erase {k : Key} {x : Record} {xs : List Record} (h : find key k xs = some x) :
    List.Perm xs (x :: erase key k xs) := by
  induction xs with
  | nil => simp [find] at h
  | cons y ys ih =>
      by_cases hy : key y = k
      · have hyx : y = x := by simpa [find, hy] using h
        have hys : erase key k (y :: ys) = ys := by simp [erase, hy]
        rw [hys, hyx]
      · have hys : erase key k (y :: ys) = y :: erase key k ys := by simp [erase, hy]
        rw [hys]
        have hrest := ih (by simpa [find, hy] using h)
        exact (List.Perm.cons y hrest).trans (List.Perm.swap x y _)

/-- Writing a record back replaces the one that was found. -/
theorem perm_put {x old : Record} {xs : List Record} (hd : Distinct key xs)
    (hold : find key (key x) xs = some old) :
    List.Perm (put key x xs) (x :: erase key (key x) xs) := by
  induction xs with
  | nil => simp [find] at hold
  | cons y ys ih =>
      obtain ⟨hnot, hd'⟩ := List.nodup_cons.mp hd
      by_cases hy : key y = key x
      · have herase : erase key (key x) (y :: ys) = ys := by simp [erase, hy]
        have hput : put key x (y :: ys) = x :: put key x ys := by simp [put, hy]
        have hsame : put key x ys = ys := by
          unfold put
          refine (List.map_congr_left fun z hz => ?_).trans (List.map_id ys)
          refine if_neg fun hzx => hnot ?_
          rw [hy, ← hzx]
          exact List.mem_map_of_mem hz
        rw [herase, hput, hsame]
      · have herase : erase key (key x) (y :: ys) = y :: erase key (key x) ys := by
          simp [erase, hy]
        have hput : put key x (y :: ys) = y :: put key x ys := by simp [put, hy]
        rw [herase, hput]
        have hrest := ih hd' (by simpa [find, hy] using hold)
        exact (List.Perm.cons y hrest).trans (List.Perm.swap x y _)

/-- How a count changes when a record is written back. -/
theorem countP_put {p : Record → Bool} {x old : Record} {xs : List Record}
    (hd : Distinct key xs) (hold : find key (key x) xs = some old) :
    (put key x xs).countP p + (if p old = true then 1 else 0) =
      xs.countP p + if p x = true then 1 else 0 := by
  rw [(perm_put hd hold).countP_eq p, (perm_cons_erase hold).countP_eq p, List.countP_cons,
    List.countP_cons]
  omega

omit [DecidableEq Key] in
/-- At most one record has a given key. -/
theorem countP_le_one {p : Record → Bool} {k : Key} {xs : List Record} (hd : Distinct key xs)
    (hp : ∀ x ∈ xs, p x = true → key x = k) : xs.countP p ≤ 1 := by
  induction xs with
  | nil => exact Nat.zero_le _
  | cons x xs ih =>
      obtain ⟨hnot, hd'⟩ := List.nodup_cons.mp hd
      have htail : ∀ y ∈ xs, p y = true → key y = k :=
        fun y hy => hp y (List.mem_cons_of_mem _ hy)
      rw [List.countP_cons]
      by_cases hx : p x = true
      · have hnone : xs.countP p = 0 := by
          refine List.countP_eq_zero.mpr fun y hy hpy => hnot ?_
          rw [hp x List.mem_cons_self hx, ← htail y hy hpy]
          exact List.mem_map_of_mem hy
        rw [hnone, if_pos hx]
      · rw [if_neg hx]
        exact ih hd' htail

theorem find_erase {k a : Key} {xs : List Record} (hd : Distinct key xs) :
    find key k (erase key a xs) = if k = a then none else find key k xs := by
  induction xs with
  | nil => simp [find, erase]
  | cons y ys ih =>
      obtain ⟨hnot, hd'⟩ := List.nodup_cons.mp hd
      by_cases hy : key y = a
      · have hys : erase key a (y :: ys) = ys := by simp [erase, hy]
        rw [hys]
        by_cases hk : k = a
        · rw [if_pos hk, find_eq_none]
          intro z hz heq
          exact hnot (by rw [hy, ← hk, ← heq]; exact List.mem_map_of_mem hz)
        · have hyk : ¬key y = k := fun h => hk (h.symm.trans hy)
          simp [find, hk, hyk]
      · have hys : erase key a (y :: ys) = y :: erase key a ys := by simp [erase, hy]
        rw [hys]
        by_cases hyk : key y = k
        · have hk : k ≠ a := fun h => hy (hyk.trans h)
          simp [find, hyk, hk]
        · have hrest := ih hd'
          simpa [find, hyk] using hrest

end AvantimePlatform.KeyedList
