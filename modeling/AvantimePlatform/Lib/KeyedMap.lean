import AvantimePlatform.Lib.KeyedList

/-!
# A keyed list as a map

`set` writes a record under its key, in place when there is one and behind the others when
there is not.  `collect` writes one record after another, each made of an input and of what
stands under its key already.

* `find_collect`: what stands under a key in the end is made of the inputs with that key,
  in their order.
* `perm_of_find`: two lists that find the same are the same up to their order.

Nothing here names a component of the platform.
-/

namespace AvantimePlatform.KeyedList

universe u v w

variable {Record : Type u} {Key : Type v} {Input : Type w} [DecidableEq Key]
  {key : Record → Key} {k : Key} {x : Record} {xs ys : List Record}

/-- Write a record under its key. -/
def set (key : Record → Key) (x : Record) (xs : List Record) : List Record :=
  match find key (key x) xs with
  | some _ => put key x xs
  | none => xs ++ [x]

omit [DecidableEq Key] in
theorem distinct_nil : Distinct key ([] : List Record) := List.nodup_nil

theorem find_set (k : Key) (x : Record) (xs : List Record) :
    find key k (set key x xs) = if k = key x then some x else find key k xs := by
  unfold set
  split
  · next old hold => exact find_put hold
  · next hnew => exact find_append_new hnew

theorem distinct_set (hd : Distinct key xs) (x : Record) : Distinct key (set key x xs) := by
  unfold set
  split
  · exact distinct_put hd
  · next hnew => exact distinct_append_new hd hnew

/-- Write the records that the inputs make, one after another. -/
def collect (key : Record → Key) (inputKey : Input → Key) (make : Option Record → Input → Record)
    (xs : List Record) (inputs : List Input) : List Record :=
  inputs.foldl (fun xs input => set key (make (find key (inputKey input) xs) input) xs) xs

variable {inputKey : Input → Key} {make : Option Record → Input → Record}

theorem distinct_collect (hd : Distinct key xs) (inputs : List Input) :
    Distinct key (collect key inputKey make xs inputs) := by
  induction inputs generalizing xs with
  | nil => exact hd
  | cons input inputs ih => exact ih (distinct_set hd _)

theorem mem_set {y : Record} (h : y ∈ set key x xs) : y = x ∨ y ∈ xs := by
  unfold set at h
  split at h
  · rcases mem_put h with rfl | ⟨hy, -⟩
    · exact Or.inl rfl
    · exact Or.inr hy
  · rcases List.mem_append.mp h with hy | hy
    · exact Or.inr hy
    · exact Or.inl (List.mem_singleton.mp hy)

/-- What holds of the records, and of each that is made of such a one, holds in the end. -/
theorem forall_collect {P : Record → Prop} {inputs : List Input} (hxs : ∀ x ∈ xs, P x)
    (hmake : ∀ old, ∀ input ∈ inputs, (∀ x ∈ old, P x) → P (make old input)) :
    ∀ x ∈ collect key inputKey make xs inputs, P x := by
  induction inputs generalizing xs with
  | nil => exact hxs
  | cons input inputs ih =>
      refine ih (fun x hx => ?_) fun old other hother =>
        hmake old other (List.mem_cons_of_mem input hother)
      rcases mem_set hx with rfl | hx
      · exact hmake _ input List.mem_cons_self fun x hx => hxs x (find_eq_some hx).1
      · exact hxs x hx

/-- What stands under a key is made of the inputs with that key. -/
theorem find_collect
    (hmake : ∀ old input, (∀ x ∈ old, key x = inputKey input) →
      key (make old input) = inputKey input) (k : Key) (xs : List Record) (inputs : List Input) :
    find key k (collect key inputKey make xs inputs) =
      (inputs.filter fun input => inputKey input = k).foldl
        (fun old input => some (make old input)) (find key k xs) := by
  induction inputs generalizing xs with
  | nil => rfl
  | cons input inputs ih =>
      have hkey : key (make (find key (inputKey input) xs) input) = inputKey input :=
        hmake _ _ fun x hx => (find_eq_some hx).2
      have hrest := ih (set key (make (find key (inputKey input) xs) input) xs)
      rw [find_set, hkey] at hrest
      by_cases hk : inputKey input = k
      · rw [List.filter_cons_of_pos (by simpa using hk), List.foldl_cons, ← hk]
        rw [← hk, if_pos rfl] at hrest
        exact hrest
      · rw [List.filter_cons_of_neg (by simpa using hk)]
        rw [if_neg (Ne.symm hk)] at hrest
        exact hrest

/-- Lists that find the same hold the same records. -/
theorem perm_of_find (hx : Distinct key xs) (hy : Distinct key ys)
    (h : ∀ k, find key k xs = find key k ys) : xs.Perm ys := by
  rw [List.perm_ext_iff_of_nodup (List.Nodup.of_map key hx) (List.Nodup.of_map key hy)]
  intro x
  have hxs : find key (key x) xs = some x ↔ x ∈ xs :=
    (find_eq_some_iff hx).trans (and_iff_left rfl)
  have hys : find key (key x) ys = some x ↔ x ∈ ys :=
    (find_eq_some_iff hy).trans (and_iff_left rfl)
  rw [← hxs, ← hys, h]

/-- Inputs of which no two have one key can come in any order. -/
theorem collect_perm {xs ys : List Record} {inputs inputs' : List Input}
    (hmake : ∀ old input, (∀ x ∈ old, key x = inputKey input) →
      key (make old input) = inputKey input)
    (hx : Distinct key xs) (hxy : xs.Perm ys) (hinputs : (inputs.map inputKey).Nodup)
    (hperm : inputs.Perm inputs') :
    (collect key inputKey make xs inputs).Perm (collect key inputKey make ys inputs') := by
  have hy : Distinct key ys := (hxy.map key).nodup_iff.mp hx
  refine perm_of_find (distinct_collect hx inputs) (distinct_collect hy inputs') fun k => ?_
  rw [find_collect hmake, find_collect hmake]
  have hstart : find key k xs = find key k ys := find_congr hx hy fun x _ => hxy.mem_iff
  have hfilter : (inputs.filter fun input => inputKey input = k) =
      inputs'.filter fun input => inputKey input = k := by
    have hshort : (inputs.filter fun input => inputKey input = k).length ≤ 1 := by
      rw [← List.countP_eq_length_filter]
      exact countP_le_one hinputs fun input _ hk => by simpa using hk
    have hsame := hperm.filter fun input => decide (inputKey input = k)
    cases hleft : inputs.filter fun input => inputKey input = k with
    | nil =>
        rw [hleft] at hsame
        exact (List.nil_perm.mp hsame).symm
    | cons input rest =>
        rw [hleft, List.length_cons] at hshort
        have hrest : rest = [] := List.length_eq_zero_iff.mp (by omega)
        rw [hleft, hrest] at hsame
        rw [hrest]
        exact List.singleton_perm.mp hsame
  rw [hstart, hfilter]

end AvantimePlatform.KeyedList
