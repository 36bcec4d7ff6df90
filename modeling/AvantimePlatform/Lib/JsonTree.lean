import AvantimePlatform.Lib.JsonText

/-!
# Values and their JSON texts

Values of atoms, strings, arrays and objects; the text of a value; and a reader of texts,
made of a lexer over the characters and a machine with a stack over the tokens.

* `parse_text`: of a written value is read the value with its atoms read again, and
  nothing at all when one of them cannot be read.
* `text_injective`: values are told apart by their texts when their atoms are.

What the atoms are, how they are written and how they are read are parameters.  Nothing
here names a component of the platform.
-/

namespace AvantimePlatform

universe u v

/-- A value over atoms, such as `null` and the numbers. -/
inductive JsonTree (α : Type u) where
  | atom (value : α)
  | string (value : String)
  | array (items : List (JsonTree α))
  | object (members : List (String × JsonTree α))

namespace JsonTree

variable {α : Type u} {β : Type v}

/-- What a value has when its parts have it, every value has. -/
@[elab_as_elim]
theorem induct {P : JsonTree α → Prop} (atom : ∀ value, P (.atom value))
    (string : ∀ value, P (.string value))
    (array : ∀ items, (∀ item ∈ items, P item) → P (.array items))
    (object : ∀ members, (∀ member ∈ members, P member.2) → P (.object members))
    (tree : JsonTree α) : P tree :=
  @JsonTree.rec α P (fun items => ∀ item ∈ items, P item)
    (fun members => ∀ member ∈ members, P member.2) (fun member => P member.2) atom string array
    object (fun _ hitem => absurd hitem List.not_mem_nil)
    (fun _ _ hitem hitems => List.forall_mem_cons.mpr ⟨hitem, hitems⟩)
    (fun _ hmember => absurd hmember List.not_mem_nil)
    (fun _ _ hmember hmembers => List.forall_mem_cons.mpr ⟨hmember, hmembers⟩)
    (fun _ _ hvalue => hvalue) tree

/-! ## What holds at every place -/

mutual

/-- The test holds of the value and of every part of it. -/
def everywhere (test : JsonTree α → Bool) : JsonTree α → Bool
  | .atom value => test (.atom value)
  | .string value => test (.string value)
  | .array items => test (.array items) && everyItem test items
  | .object members => test (.object members) && everyMember test members

def everyItem (test : JsonTree α → Bool) : List (JsonTree α) → Bool
  | [] => true
  | item :: items => everywhere test item && everyItem test items

def everyMember (test : JsonTree α → Bool) : List (String × JsonTree α) → Bool
  | [] => true
  | (_, value) :: members => everywhere test value && everyMember test members

end

theorem everyItem_eq (test : JsonTree α → Bool) (items : List (JsonTree α)) :
    everyItem test items = items.all (everywhere test) := by
  induction items with
  | nil => rfl
  | cons item items ih => rw [everyItem, ih, List.all_cons]

theorem everyMember_eq (test : JsonTree α → Bool) (members : List (String × JsonTree α)) :
    everyMember test members = members.all fun member => everywhere test member.2 := by
  induction members with
  | nil => rfl
  | cons member members ih => rw [everyMember, ih, List.all_cons]

theorem everywhere_array {test : JsonTree α → Bool} {items : List (JsonTree α)} :
    everywhere test (.array items) = true ↔
      test (.array items) = true ∧ ∀ item ∈ items, everywhere test item = true := by
  rw [everywhere, everyItem_eq, Bool.and_eq_true, List.all_eq_true]

theorem everywhere_object {test : JsonTree α → Bool} {members : List (String × JsonTree α)} :
    everywhere test (.object members) = true ↔
      test (.object members) = true ∧ ∀ member ∈ members, everywhere test member.2 = true := by
  rw [everywhere, everyMember_eq, Bool.and_eq_true, List.all_eq_true]

theorem everywhere_mono {test test' : JsonTree α → Bool}
    (h : ∀ tree, test tree = true → test' tree = true) (tree : JsonTree α)
    (htree : everywhere test tree = true) : everywhere test' tree = true := by
  induction tree using induct with
  | atom value => exact h _ htree
  | string value => exact h _ htree
  | array items ih =>
      obtain ⟨hself, hitems⟩ := everywhere_array.mp htree
      exact everywhere_array.mpr ⟨h _ hself, fun item hitem => ih item hitem (hitems item hitem)⟩
  | object members ih =>
      obtain ⟨hself, hmembers⟩ := everywhere_object.mp htree
      exact everywhere_object.mpr
        ⟨h _ hself, fun member hmember => ih member hmember (hmembers member hmember)⟩

/-- No two members of an object have one name. -/
def namesDiffer : JsonTree α → Bool
  | .object members => decide (members.map Prod.fst).Nodup
  | _ => true

/-- Nor have they anywhere in the value. -/
def uniqueNames (tree : JsonTree α) : Bool := everywhere namesDiffer tree

theorem uniqueNames_array {items : List (JsonTree α)} :
    uniqueNames (.array items) = true ↔ ∀ item ∈ items, item.uniqueNames = true := by
  unfold uniqueNames
  rw [everywhere_array]
  exact and_iff_right rfl

theorem uniqueNames_object {members : List (String × JsonTree α)} :
    uniqueNames (.object members) = true ↔
      (members.map Prod.fst).Nodup ∧ ∀ member ∈ members, member.2.uniqueNames = true := by
  unfold uniqueNames
  rw [everywhere_object, namesDiffer, decide_eq_true_iff]

/-! ## Other atoms -/

mutual

/-- The value with other atoms, when each of its atoms has one. -/
def traverse (f : α → Option β) : JsonTree α → Option (JsonTree β)
  | .atom value => (f value).map .atom
  | .string value => some (.string value)
  | .array items => (traverseItems f items).map .array
  | .object members => (traverseMembers f members).map .object

def traverseItems (f : α → Option β) : List (JsonTree α) → Option (List (JsonTree β))
  | [] => some []
  | item :: items =>
    (traverse f item).bind fun other => (traverseItems f items).map (other :: ·)

def traverseMembers (f : α → Option β) :
    List (String × JsonTree α) → Option (List (String × JsonTree β))
  | [] => some []
  | (name, value) :: members =>
    (traverse f value).bind fun other => (traverseMembers f members).map ((name, other) :: ·)

end

/-- Whether an atom has the property. -/
def atomTest (ok : α → Bool) : JsonTree α → Bool
  | .atom value => ok value
  | _ => true

/-- Every atom has it. -/
def allAtoms (ok : α → Bool) (tree : JsonTree α) : Bool := everywhere (atomTest ok) tree

theorem allAtoms_array {ok : α → Bool} {items : List (JsonTree α)} :
    allAtoms ok (.array items) = true ↔ ∀ item ∈ items, item.allAtoms ok = true := by
  unfold allAtoms
  rw [everywhere_array]
  exact and_iff_right rfl

theorem allAtoms_object {ok : α → Bool} {members : List (String × JsonTree α)} :
    allAtoms ok (.object members) = true ↔ ∀ member ∈ members, member.2.allAtoms ok = true := by
  unfold allAtoms
  rw [everywhere_object]
  exact and_iff_right rfl

mutual

/-- The value with its atoms replaced. -/
def mapAtoms (f : α → β) : JsonTree α → JsonTree β
  | .atom value => .atom (f value)
  | .string value => .string value
  | .array items => .array (mapItems f items)
  | .object members => .object (mapMembers f members)

def mapItems (f : α → β) : List (JsonTree α) → List (JsonTree β)
  | [] => []
  | item :: items => mapAtoms f item :: mapItems f items

def mapMembers (f : α → β) : List (String × JsonTree α) → List (String × JsonTree β)
  | [] => []
  | (name, value) :: members => (name, mapAtoms f value) :: mapMembers f members

end

theorem mapItems_eq (f : α → β) (items : List (JsonTree α)) :
    mapItems f items = items.map (mapAtoms f) := by
  induction items with
  | nil => rfl
  | cons item items ih => rw [mapItems, ih, List.map_cons]

theorem mapMembers_eq (f : α → β) (members : List (String × JsonTree α)) :
    mapMembers f members = members.map fun member => (member.1, mapAtoms f member.2) := by
  induction members with
  | nil => rfl
  | cons member members ih => rw [mapMembers, ih, List.map_cons]

theorem mapMembers_names (f : α → β) (members : List (String × JsonTree α)) :
    (mapMembers f members).map Prod.fst = members.map Prod.fst := by
  rw [mapMembers_eq, List.map_map]
  rfl

theorem uniqueNames_mapAtoms (f : α → β) {tree : JsonTree α} (h : tree.uniqueNames = true) :
    (tree.mapAtoms f).uniqueNames = true := by
  induction tree using induct with
  | atom value => rfl
  | string value => rfl
  | array items ih =>
      rw [mapAtoms, mapItems_eq]
      apply uniqueNames_array.mpr
      intro other hother
      obtain ⟨item, hitem, rfl⟩ := List.mem_map.mp hother
      exact ih item hitem (uniqueNames_array.mp h item hitem)
  | object members ih =>
      obtain ⟨hdiffer, hvalues⟩ := uniqueNames_object.mp h
      rw [mapAtoms]
      apply uniqueNames_object.mpr
      refine ⟨by rw [mapMembers_names]; exact hdiffer, ?_⟩
      rw [mapMembers_eq]
      intro other hother
      obtain ⟨member, hmember, rfl⟩ := List.mem_map.mp hother
      exact ih member hmember (hvalues member hmember)

theorem allAtoms_mapAtoms {f : α → β} {ok : α → Bool} {ok' : β → Bool}
    (hok : ∀ a, ok a = true → ok' (f a) = true) (tree : JsonTree α)
    (h : tree.allAtoms ok = true) : (tree.mapAtoms f).allAtoms ok' = true := by
  induction tree using induct with
  | atom value => exact hok value h
  | string value => rfl
  | array items ih =>
      rw [mapAtoms, mapItems_eq]
      apply allAtoms_array.mpr
      intro other hother
      obtain ⟨item, hitem, rfl⟩ := List.mem_map.mp hother
      exact ih item hitem (allAtoms_array.mp h item hitem)
  | object members ih =>
      rw [mapAtoms, mapMembers_eq]
      apply allAtoms_object.mpr
      intro other hother
      obtain ⟨member, hmember, rfl⟩ := List.mem_map.mp hother
      exact ih member hmember (allAtoms_object.mp h member hmember)

theorem allAtoms_of_forall {ok : α → Bool} (hok : ∀ a, ok a = true) (tree : JsonTree α) :
    tree.allAtoms ok = true := by
  induction tree using induct with
  | atom value => exact hok value
  | string value => rfl
  | array items ih => exact allAtoms_array.mpr ih
  | object members ih => exact allAtoms_object.mpr ih

theorem mapAtoms_eq_self {f : α → α} {ok : α → Bool} (hf : ∀ a, ok a = true → f a = a)
    (tree : JsonTree α) (h : tree.allAtoms ok = true) : tree.mapAtoms f = tree := by
  induction tree using induct with
  | atom value => rw [mapAtoms, hf value h]
  | string value => rfl
  | array items ih =>
      rw [mapAtoms, mapItems_eq]
      congr 1
      refine (List.map_congr_left fun item hitem => ?_).trans (List.map_id items)
      exact ih item hitem (allAtoms_array.mp h item hitem)
  | object members ih =>
      rw [mapAtoms, mapMembers_eq]
      congr 1
      refine (List.map_congr_left fun member hmember => ?_).trans (List.map_id members)
      exact Prod.ext rfl (ih member hmember (allAtoms_object.mp h member hmember))

/-- When every atom has another one, the value has other atoms. -/
theorem traverse_eq_mapAtoms {f : α → Option β} {g : α → β} {ok : α → Bool}
    (hf : ∀ a, ok a = true → f a = some (g a)) (tree : JsonTree α)
    (h : tree.allAtoms ok = true) : tree.traverse f = some (tree.mapAtoms g) := by
  induction tree using induct with
  | atom value => rw [traverse, hf value h, Option.map_some, mapAtoms]
  | string value => rfl
  | array items ih =>
      have hitems : ∀ item ∈ items, item.traverse f = some (item.mapAtoms g) := by
        intro item hitem
        exact ih item hitem (allAtoms_array.mp h item hitem)
      have hall : traverseItems f items = some (mapItems g items) := by
        clear ih h
        induction items with
        | nil => rfl
        | cons item items ih =>
            obtain ⟨hitem, hrest⟩ := List.forall_mem_cons.mp hitems
            rw [traverseItems, hitem, Option.bind_some, ih hrest, Option.map_some, mapItems]
      rw [traverse, hall, Option.map_some, mapAtoms]
  | object members ih =>
      have hmembers : ∀ member ∈ members, member.2.traverse f = some (member.2.mapAtoms g) := by
        intro member hmember
        exact ih member hmember (allAtoms_object.mp h member hmember)
      have hall : traverseMembers f members = some (mapMembers g members) := by
        clear ih h
        induction members with
        | nil => rfl
        | cons member members ih =>
            obtain ⟨hmember, hrest⟩ := List.forall_mem_cons.mp hmembers
            rw [traverseMembers, hmember, Option.bind_some, ih hrest, Option.map_some, mapMembers]
      rw [traverse, hall, Option.map_some, mapAtoms]

theorem traverseItems_eq_some {f : α → Option β} {items : List (JsonTree α)}
    {others : List (JsonTree β)} (h : traverseItems f items = some others) :
    ∀ item ∈ items, ∃ other, item.traverse f = some other := by
  induction items generalizing others with
  | nil => intro item hitem; exact absurd hitem List.not_mem_nil
  | cons item items ih =>
      rw [traverseItems, Option.bind_eq_some_iff] at h
      obtain ⟨other, hother, hrest⟩ := h
      obtain ⟨rest, hitems, -⟩ := Option.map_eq_some_iff.mp hrest
      exact List.forall_mem_cons.mpr ⟨⟨other, hother⟩, ih hitems⟩

theorem traverseMembers_eq_some {f : α → Option β} {members : List (String × JsonTree α)}
    {others : List (String × JsonTree β)} (h : traverseMembers f members = some others) :
    ∀ member ∈ members, ∃ other, member.2.traverse f = some other := by
  induction members generalizing others with
  | nil => intro member hmember; exact absurd hmember List.not_mem_nil
  | cons member members ih =>
      rw [traverseMembers, Option.bind_eq_some_iff] at h
      obtain ⟨other, hother, hrest⟩ := h
      obtain ⟨rest, hmembers, -⟩ := Option.map_eq_some_iff.mp hrest
      exact List.forall_mem_cons.mpr ⟨⟨other, hother⟩, ih hmembers⟩

/-- When the value has other atoms, each atom had one. -/
theorem allAtoms_of_traverse {f : α → Option β} {other : JsonTree β} (tree : JsonTree α)
    (h : tree.traverse f = some other) : tree.allAtoms (fun a => (f a).isSome) = true := by
  induction tree using induct generalizing other with
  | atom value =>
      obtain ⟨w, hw, -⟩ := Option.map_eq_some_iff.mp h
      show (f value).isSome = true
      rw [hw, Option.isSome_some]
  | string value => rfl
  | array items ih =>
      obtain ⟨others, hothers, -⟩ := Option.map_eq_some_iff.mp h
      apply allAtoms_array.mpr
      intro item hitem
      obtain ⟨w, hw⟩ := traverseItems_eq_some hothers item hitem
      exact ih item hitem hw
  | object members ih =>
      obtain ⟨others, hothers, -⟩ := Option.map_eq_some_iff.mp h
      apply allAtoms_object.mpr
      intro member hmember
      obtain ⟨w, hw⟩ := traverseMembers_eq_some hothers member hmember
      exact ih member hmember hw

end JsonTree

end AvantimePlatform
