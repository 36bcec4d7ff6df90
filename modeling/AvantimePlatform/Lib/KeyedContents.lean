import AvantimePlatform.Lib.KeyedMap

/-!
# The contents of a keyed list

A list of records under distinct keys as a partial map from keys to values: what it is behind a
write and behind the removal of the keys that a predicate selects, how many keys are selected,
and what is listed of them.

Nothing here names a component of the platform.
-/

namespace AvantimePlatform.KeyedList

universe u v w

variable {Record : Type u} {Key : Type v} {Value : Type w} [DecidableEq Key] {key : Record → Key}
  {value : Record → Value} {k : Key} {x : Record} {xs : List Record}

/-- The value under each key. -/
def contents (key : Record → Key) (value : Record → Value) (xs : List Record) : Key → Option Value :=
  fun k => (find key k xs).map value

theorem contents_eq_some (hd : Distinct key xs) {v : Value} :
    contents key value xs k = some v ↔ ∃ x ∈ xs, key x = k ∧ value x = v := by
  unfold contents
  rw [Option.map_eq_some_iff]
  constructor
  · rintro ⟨x, hx, rfl⟩
    exact ⟨x, (find_eq_some hx).1, (find_eq_some hx).2, rfl⟩
  · rintro ⟨x, hx, rfl, rfl⟩
    exact ⟨x, find_of_mem hd hx, rfl⟩

theorem contents_set (x : Record) (xs : List Record) :
    contents key value (set key x xs) =
      Function.update (contents key value xs) (key x) (some (value x)) := by
  funext k
  unfold contents
  rw [find_set, Function.update_apply]
  split <;> rfl

theorem contents_filter (hd : Distinct key xs) (p : Key → Bool) :
    contents key value (xs.filter fun x => !p (key x)) =
      fun k => if p k = true then none else contents key value xs k := by
  funext k
  unfold contents
  rw [find_filter hd]
  cases hfind : find key k xs with
  | none => simp
  | some x =>
      obtain ⟨-, rfl⟩ := find_eq_some hfind
      cases hp : p (key x) <;> simp [hp, Option.filter_some]

/-- As many records are selected as keys. -/
theorem countP_eq_ncard (hd : Distinct key xs) (p : Key → Bool) :
    xs.countP (fun x => p (key x)) =
      Set.ncard {k | p k = true ∧ (contents key value xs k).isSome = true} := by
  have hset : {k | p k = true ∧ (contents key value xs k).isSome = true} =
      (((xs.filter fun x => p (key x)).map key).toFinset : Set Key) := by
    ext k
    simp only [Set.mem_ofPred_eq, List.coe_toFinset, List.mem_map, List.mem_filter,
      Option.isSome_iff_exists, contents_eq_some hd]
    constructor
    · rintro ⟨hp, v, x, hx, rfl, -⟩
      exact ⟨x, ⟨hx, hp⟩, rfl⟩
    · rintro ⟨x, ⟨hx, hp⟩, rfl⟩
      exact ⟨hp, value x, x, hx, rfl, rfl⟩
  have hnodup : ((xs.filter fun x => p (key x)).map key).Nodup :=
    hd.sublist (List.filter_sublist.map key)
  rw [hset, Set.ncard_coe_finset, List.toFinset_card_of_nodup hnodup, List.length_map,
    List.countP_eq_length_filter]

/-- Two keys that agree on a record write it in the same way. -/
theorem set_congr {Key' : Type*} [DecidableEq Key'] {key' : Record → Key'}
    (h : ∀ y ∈ xs, key y = key x ↔ key' y = key' x) : set key x xs = set key' x xs := by
  have hfind : find key (key x) xs = find key' (key' x) xs := by
    unfold find
    refine List.find?_congr fun y hy => ?_
    rw [Bool.eq_iff_iff, beq_iff_eq, beq_iff_eq]
    exact h y hy
  have hput : put key x xs = put key' x xs := by
    unfold put
    refine List.map_congr_left fun y hy => ?_
    simp only [h y hy]
  unfold set
  rw [hfind, hput]

end AvantimePlatform.KeyedList
