import AvantimePlatform.Lib.JsonParse

/-!
# The order of members

A value says the same whatever the order of the members of its objects.

* `Same`: every path leads to the same in both values.
* `sorted`: the value with the members of every object in the order of their names.
* `same_of_sorted_eq`: values that are sorted into one value are the same.

The order of names is a parameter.  Nothing here names a component of the platform.
-/

namespace AvantimePlatform

universe u v

namespace JsonTree

variable {α : Type u} {β : Type v}

/-! ## Paths -/

inductive Step where
  | item (index : Nat)
  | member (name : String)

def child : JsonTree α → Step → Option (JsonTree α)
  | .array items, .item index => items[index]?
  | .object members, .member name => members.lookup name
  | _, _ => none

/-- What a path leads to. -/
def follow (tree : JsonTree α) : List Step → Option (JsonTree α)
  | [] => some tree
  | step :: path => (tree.child step).bind fun part => part.follow path

/-- What is seen of a value without a look at its parts. -/
inductive Shape (α : Type u) where
  | atom (value : α)
  | string (value : String)
  | array (length : Nat)
  | object

def shape : JsonTree α → Shape α
  | .atom value => .atom value
  | .string value => .string value
  | .array items => .array items.length
  | .object _ => .object

/-- Every path leads to the same in both values. -/
def Same (first second : JsonTree α) : Prop :=
  ∀ path, (first.follow path).map shape = (second.follow path).map shape

theorem Same.refl (tree : JsonTree α) : Same tree tree := fun _ => rfl

theorem Same.symm {first second : JsonTree α} (h : Same first second) : Same second first :=
  fun path => (h path).symm

theorem Same.trans {first second third : JsonTree α} (h : Same first second)
    (h' : Same second third) : Same first third :=
  fun path => (h path).trans (h' path)

theorem mem_of_lookup {members : List (String × JsonTree α)} {name : String} {value : JsonTree α}
    (h : members.lookup name = some value) : (name, value) ∈ members := by
  obtain ⟨before, after, rfl, -⟩ := List.lookup_eq_some_iff.mp h
  exact List.mem_append_right _ List.mem_cons_self

theorem lookup_of_mem {members : List (String × JsonTree α)}
    (hnames : (members.map Prod.fst).Nodup) {member : String × JsonTree α}
    (h : member ∈ members) : members.lookup member.1 = some member.2 := by
  induction members with
  | nil => exact absurd h List.not_mem_nil
  | cons other members ih =>
      rw [List.map_cons, List.nodup_cons] at hnames
      rcases List.mem_cons.mp h with rfl | hrest
      · rw [List.lookup_cons, beq_self_eq_true]
      · have hne : member.1 ≠ other.1 := by
          intro hsame
          exact hnames.1 (hsame ▸ List.mem_map_of_mem hrest)
        rw [List.lookup_cons, beq_false_of_ne hne]
        exact ih hnames.2 hrest

/-- What holds of all atoms can be seen along the paths. -/
theorem allAtoms_of_follow {ok : α → Bool} {tree : JsonTree α} (hnames : tree.uniqueNames = true)
    (h : ∀ path value, tree.follow path = some (.atom value) → ok value = true) :
    tree.allAtoms ok = true := by
  induction tree using induct with
  | atom value => exact h [] value rfl
  | string value => rfl
  | array items ih =>
      apply allAtoms_array.mpr
      intro item hitem
      obtain ⟨index, hindex⟩ := List.mem_iff_getElem?.mp hitem
      refine ih item hitem (uniqueNames_array.mp hnames item hitem) fun path value hpath => ?_
      refine h (.item index :: path) value ?_
      show (items[index]?).bind _ = _
      rw [hindex, Option.bind_some, hpath]
  | object members ih =>
      obtain ⟨hdiffer, hvalues⟩ := uniqueNames_object.mp hnames
      apply allAtoms_object.mpr
      intro member hmember
      refine ih member hmember (hvalues member hmember) fun path value hpath => ?_
      refine h (.member member.1 :: path) value ?_
      show (members.lookup member.1).bind _ = _
      rw [lookup_of_mem hdiffer hmember, Option.bind_some, hpath]

theorem allAtoms_follow {ok : α → Bool} {tree part : JsonTree α} (htree : tree.allAtoms ok = true)
    {path : List Step} (h : tree.follow path = some part) : part.allAtoms ok = true := by
  induction path generalizing tree with
  | nil =>
      obtain rfl : tree = part := Option.some.inj h
      exact htree
  | cons step path ih =>
      obtain ⟨next, hnext, hpart⟩ := Option.bind_eq_some_iff.mp h
      refine ih ?_ hpart
      cases tree with
      | atom value => exact absurd hnext (by simp [child])
      | string value => exact absurd hnext (by simp [child])
      | array items =>
          cases step with
          | item index => exact allAtoms_array.mp htree next (List.mem_of_getElem? hnext)
          | member name => exact absurd hnext (by simp [child])
      | object members =>
          cases step with
          | item index => exact absurd hnext (by simp [child])
          | member name => exact allAtoms_object.mp htree (name, next) (mem_of_lookup hnext)

/-- Values that are the same have the same atoms. -/
theorem Same.allAtoms {ok : α → Bool} {first second : JsonTree α} (h : Same first second)
    (hnames : second.uniqueNames = true) (hfirst : first.allAtoms ok = true) :
    second.allAtoms ok = true := by
  apply allAtoms_of_follow hnames
  intro path value hpath
  have hshape := h path
  rw [hpath] at hshape
  obtain ⟨part, hpart, hatom⟩ := Option.map_eq_some_iff.mp hshape
  cases part with
  | atom other =>
      obtain rfl : other = value := Shape.atom.inj hatom
      exact allAtoms_follow hfirst hpart
  | string text => exact absurd hatom (by simp [shape])
  | array items => exact absurd hatom (by simp [shape])
  | object members => exact absurd hatom (by simp [shape])

/-! ## Sorted members -/

section Sorted

/-- The order of the names of two members. -/
def ByName (le : String → String → Prop) (first second : String × JsonTree α) : Prop :=
  le first.1 second.1

variable (le : String → String → Prop) [DecidableRel le]

instance : DecidableRel (ByName (α := α) le) :=
  fun first second => inferInstanceAs (Decidable (le first.1 second.1))

mutual

/-- The value with the members of every object in the order of their names. -/
def sorted : JsonTree α → JsonTree α
  | .atom value => .atom value
  | .string value => .string value
  | .array items => .array (sortedItems items)
  | .object members => .object ((sortedMembers members).insertionSort (ByName le))

def sortedItems : List (JsonTree α) → List (JsonTree α)
  | [] => []
  | item :: items => sorted item :: sortedItems items

def sortedMembers : List (String × JsonTree α) → List (String × JsonTree α)
  | [] => []
  | (name, value) :: members => (name, sorted value) :: sortedMembers members

end

theorem sortedItems_eq (items : List (JsonTree α)) :
    sortedItems le items = items.map (sorted le) := by
  induction items with
  | nil => rfl
  | cons item items ih => rw [sortedItems, ih, List.map_cons]

theorem sortedMembers_eq (members : List (String × JsonTree α)) :
    sortedMembers le members = members.map fun member => (member.1, sorted le member.2) := by
  induction members with
  | nil => rfl
  | cons member members ih => rw [sortedMembers, ih, List.map_cons]

theorem sortedMembers_names (members : List (String × JsonTree α)) :
    (sortedMembers le members).map Prod.fst = members.map Prod.fst := by
  rw [sortedMembers_eq, List.map_map]
  rfl

theorem perm_sortedMembers (members : List (String × JsonTree α)) :
    ((sortedMembers le members).insertionSort (ByName le)).Perm (sortedMembers le members) :=
  List.perm_insertionSort _ _

/-- A test that sees no order holds of the parts of the sorted value as it does of the value. -/
theorem everywhere_sorted {test : JsonTree α → Bool}
    (htest : ∀ tree, test (sorted le tree) = test tree) (tree : JsonTree α) :
    everywhere test (sorted le tree) = everywhere test tree := by
  induction tree using induct with
  | atom value => rfl
  | string value => rfl
  | array items ih =>
      have hself := htest (.array items)
      rw [sorted] at hself
      rw [sorted, everywhere, everywhere, everyItem_eq, everyItem_eq, hself, sortedItems_eq,
        List.all_map]
      congr 1
      rw [Bool.eq_iff_iff, List.all_eq_true, List.all_eq_true]
      exact forall₂_congr fun item hitem => by rw [Function.comp_apply, ih item hitem]
  | object members ih =>
      have hself := htest (.object members)
      rw [sorted] at hself
      rw [sorted, everywhere, everywhere, everyMember_eq, everyMember_eq, hself,
        (perm_sortedMembers le members).all_eq, sortedMembers_eq, List.all_map]
      congr 1
      rw [Bool.eq_iff_iff, List.all_eq_true, List.all_eq_true]
      exact forall₂_congr fun member hmember => by rw [Function.comp_apply, ih member hmember]

theorem uniqueNames_sorted (tree : JsonTree α) :
    (sorted le tree).uniqueNames = tree.uniqueNames := by
  apply everywhere_sorted
  intro tree
  cases tree with
  | atom value => rfl
  | string value => rfl
  | array items => rfl
  | object members =>
      have hperm := (perm_sortedMembers le members).map Prod.fst
      rw [sortedMembers_names] at hperm
      exact decide_eq_decide.mpr hperm.nodup_iff

theorem allAtoms_sorted (ok : α → Bool) (tree : JsonTree α) :
    (sorted le tree).allAtoms ok = tree.allAtoms ok := by
  apply everywhere_sorted
  intro tree
  cases tree <;> rfl

/-- Of members with different names, a name finds the same in every order. -/
theorem lookup_of_perm {first second : List (String × JsonTree α)} (h : first.Perm second)
    (hnames : (first.map Prod.fst).Nodup) (name : String) :
    first.lookup name = second.lookup name := by
  induction h with
  | nil => rfl
  | cons member _ ih =>
      rw [List.map_cons, List.nodup_cons] at hnames
      rw [List.lookup_cons, List.lookup_cons, ih hnames.2]
  | swap x y rest =>
      rw [List.map_cons, List.map_cons, List.nodup_cons] at hnames
      have hne : y.1 ≠ x.1 := fun hsame => hnames.1 (hsame ▸ List.mem_cons_self)
      rw [List.lookup_cons, List.lookup_cons, List.lookup_cons, List.lookup_cons]
      by_cases hx : name = x.1
      · have hy : (name == y.1) = false := by
          rw [hx]
          exact beq_false_of_ne hne.symm
        rw [hx, beq_self_eq_true, hx.symm, hy]
      · rw [beq_false_of_ne hx]
  | trans hfirst _ ih ih' =>
      rw [ih hnames, ih' ((hfirst.map Prod.fst).nodup_iff.mp hnames)]

theorem lookup_sortedMembers (members : List (String × JsonTree α)) (name : String) :
    (sortedMembers le members).lookup name = (members.lookup name).map (sorted le) := by
  induction members with
  | nil => rfl
  | cons member members ih =>
      rw [sortedMembers, List.lookup_cons, List.lookup_cons, ih]
      cases name == member.1 <;> rfl

theorem child_sorted {tree : JsonTree α} (hnames : tree.uniqueNames = true) (step : Step) :
    (sorted le tree).child step = (tree.child step).map (sorted le) := by
  cases tree with
  | atom value => rfl
  | string value => rfl
  | array items =>
      cases step with
      | item index =>
          show (sortedItems le items)[index]? = _
          rw [sortedItems_eq, List.getElem?_map]
          rfl
      | member name => rfl
  | object members =>
      cases step with
      | item index => rfl
      | member name =>
          have hdiffer := (uniqueNames_object.mp hnames).1
          rw [← sortedMembers_names le] at hdiffer
          have hperm := perm_sortedMembers le members
          show ((sortedMembers le members).insertionSort (ByName le)).lookup name = _
          rw [lookup_of_perm hperm ((hperm.map Prod.fst).nodup_iff.mpr hdiffer),
            lookup_sortedMembers]
          rfl

theorem uniqueNames_child {tree part : JsonTree α} {step : Step} (hnames : tree.uniqueNames = true)
    (h : tree.child step = some part) : part.uniqueNames = true := by
  cases tree with
  | atom value => exact absurd h (by simp [child])
  | string value => exact absurd h (by simp [child])
  | array items =>
      cases step with
      | item index =>
          exact uniqueNames_array.mp hnames part (List.mem_of_getElem? h)
      | member name => exact absurd h (by simp [child])
  | object members =>
      cases step with
      | item index => exact absurd h (by simp [child])
      | member name =>
          exact (uniqueNames_object.mp hnames).2 (name, part) (mem_of_lookup h)

/-- A path leads to the same, sorted. -/
theorem follow_sorted {tree : JsonTree α} (hnames : tree.uniqueNames = true) (path : List Step) :
    (sorted le tree).follow path = (tree.follow path).map (sorted le) := by
  induction path generalizing tree with
  | nil => rfl
  | cons step path ih =>
      rw [follow, follow, child_sorted le hnames]
      cases hpart : tree.child step with
      | none => rfl
      | some part =>
          rw [Option.map_some, Option.bind_some, Option.bind_some]
          exact ih (uniqueNames_child hnames hpart)

theorem shape_sorted (tree : JsonTree α) : (sorted le tree).shape = tree.shape := by
  cases tree with
  | atom value => rfl
  | string value => rfl
  | array items =>
      show Shape.array (sortedItems le items).length = _
      rw [sortedItems_eq, List.length_map]
      rfl
  | object members => rfl

theorem same_sorted {tree : JsonTree α} (hnames : tree.uniqueNames = true) :
    Same (sorted le tree) tree := by
  intro path
  rw [follow_sorted le hnames, Option.map_map]
  congr 1
  funext part
  exact shape_sorted le part

/-- Values that are sorted into one are the same. -/
theorem same_of_sorted_eq {first second : JsonTree α} (hfirst : first.uniqueNames = true)
    (hsecond : second.uniqueNames = true) (h : sorted le first = sorted le second) :
    Same first second := by
  have hleft := same_sorted le hfirst
  rw [h] at hleft
  exact hleft.symm.trans (same_sorted le hsecond)

/-- What is sorted stays as it is. -/
theorem sorted_sorted (htotal : ∀ a b, le a b ∨ le b a) (htrans : ∀ a b c, le a b → le b c → le a c)
    (tree : JsonTree α) : sorted le (sorted le tree) = sorted le tree := by
  have : Std.Total (ByName (α := α) le) := ⟨fun first second => htotal first.1 second.1⟩
  have : IsTrans (String × JsonTree α) (ByName le) :=
    ⟨fun first second third => htrans first.1 second.1 third.1⟩
  induction tree using induct with
  | atom value => rfl
  | string value => rfl
  | array items ih =>
      rw [sorted, sorted, sortedItems_eq, sortedItems_eq, List.map_map]
      congr 1
      exact List.map_congr_left ih
  | object members ih =>
      have hsame : sortedMembers le ((sortedMembers le members).insertionSort (ByName le)) =
          (sortedMembers le members).insertionSort (ByName le) := by
        rw [sortedMembers_eq]
        refine List.map_congr_left (g := id) ?_ |>.trans (List.map_id _)
        intro member hmember
        rw [List.mem_insertionSort, sortedMembers_eq] at hmember
        obtain ⟨original, horiginal, rfl⟩ := List.mem_map.mp hmember
        exact Prod.ext rfl (ih original horiginal)
      rw [sorted, sorted, hsame]
      congr 1
      exact (List.pairwise_insertionSort _ _).insertionSort_eq

end Sorted

/-! ## Other atoms -/

/-- Atoms that are written alike are told apart by no text. -/
theorem tokens_mapAtoms {f : α → β} {letters : α → List Char} {letters' : β → List Char}
    (hletters : ∀ a, letters' (f a) = letters a) (tree : JsonTree α) :
    (tree.mapAtoms f).tokens letters' = tree.tokens letters := by
  induction tree using induct with
  | atom value => rw [mapAtoms, tokens, tokens, hletters]
  | string value => rfl
  | array items ih =>
      rw [mapAtoms, tokens, tokens, itemTokens_eq, itemTokens_eq, mapItems_eq, List.map_map]
      congr 3
      exact List.map_congr_left ih
  | object members ih =>
      rw [mapAtoms, tokens, tokens, memberTokens_eq, memberTokens_eq, mapMembers_eq, List.map_map]
      congr 3
      apply List.map_congr_left
      intro member hmember
      rw [Function.comp_apply, ih member hmember]

theorem sorted_mapAtoms (le : String → String → Prop) [DecidableRel le] (f : α → β)
    (tree : JsonTree α) : sorted le (tree.mapAtoms f) = (sorted le tree).mapAtoms f := by
  induction tree using induct with
  | atom value => rfl
  | string value => rfl
  | array items ih =>
      rw [mapAtoms, sorted, sorted, mapAtoms, sortedItems_eq, sortedItems_eq, mapItems_eq,
        mapItems_eq, List.map_map, List.map_map]
      congr 1
      exact List.map_congr_left ih
  | object members ih =>
      have hmembers : sortedMembers le (mapMembers f members) =
          mapMembers f (sortedMembers le members) := by
        rw [sortedMembers_eq, sortedMembers_eq, mapMembers_eq, mapMembers_eq, List.map_map,
          List.map_map]
        apply List.map_congr_left
        intro member hmember
        exact Prod.ext rfl (ih member hmember)
      rw [mapAtoms, sorted, sorted, mapAtoms, hmembers, mapMembers_eq, mapMembers_eq]
      congr 1
      exact (List.map_insertionSort (ByName le) (ByName le)
        (fun member : String × JsonTree α => (member.1, mapAtoms f member.2)) _
        fun _ _ _ _ => Iff.rfl).symm

end JsonTree

end AvantimePlatform
