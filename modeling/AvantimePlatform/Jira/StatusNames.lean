import AvantimePlatform.Jira.SyncPolicy

/-!
# The names of statuses

`resolveJiraStatus` looks a name up in two plain objects.  What it should find is the last
entry of the organization for the name, and else the built-in status: `mappedStatus`.
An object also has the members of its prototype, and two of their names are in lower case.

* `customTable_eq`: the table that the loop fills has the last entry of each name.
* `resolve_status_iff`: the name is resolved as it should be exactly when it is not that
  of an inherited member, or an entry of the organization hides that member.

Lower-casing is a parameter: nothing is assumed of it.
-/

namespace AvantimePlatform.Jira

section Resolve

variable (toLowerCase : String → String)

/-- `name.trim().toLowerCase()`. -/
def foldName (name : String) : String := toLowerCase (Text.trim name)

/-- The status that the value of an entry names. -/
def entryStatus (entry : String × Option String) : Option PortalRequestStatus :=
  entry.2.bind PortalRequestStatus.ofName

/-- The object `custom` after the loop over the organization's mapping.  An assignment to
`__proto__` of a string does nothing. -/
def customTable (mapping : StatusMapping) : String → Option PortalRequestStatus :=
  mapping.foldl (fun custom entry =>
    match entryStatus entry with
    | some status =>
      if foldName toLowerCase entry.1 = "__proto__" then custom
      else Function.update custom (foldName toLowerCase entry.1) (some status)
    | none => custom) (fun _ => none)

/-- `resolveJiraStatus`. -/
def resolveStatusName (statusName : String) (organizationMapping : Option StatusMapping) :
    ResolvedStatus :=
  let name := foldName toLowerCase statusName
  match customTable toLowerCase (organizationMapping.getD []) name with
  | some status => .portal status
  | none =>
    if name ∈ inheritedNames then .inherited
    else
      match defaultStatusMapping.lookup name with
      | some status => .portal status
      | none => .unknown

/-- With the lower case of the ASCII letters it is the function of the synchronisation. -/
theorem resolveJiraStatus_eq (statusName : String) (organizationMapping : Option StatusMapping) :
    resolveJiraStatus statusName organizationMapping =
      resolveStatusName Text.toLowerCase statusName organizationMapping := by
  have hname : foldStatusName statusName = foldName Text.toLowerCase statusName := rfl
  cases htable : customTable Text.toLowerCase (organizationMapping.getD [])
      (foldName Text.toLowerCase statusName) with
  | some status =>
      have hcustom : customStatuses (organizationMapping.getD [])
          (foldName Text.toLowerCase statusName) = some status := htable
      simp only [resolveJiraStatus, resolveStatusName, hname, hcustom, htable]
  | none =>
      have hcustom : customStatuses (organizationMapping.getD [])
          (foldName Text.toLowerCase statusName) = none := htable
      cases hdefault : defaultStatusMapping.lookup (foldName Text.toLowerCase statusName) with
      | some status =>
          simp only [resolveJiraStatus, resolveStatusName, hname, hcustom, htable, hdefault]
      | none => simp only [resolveJiraStatus, resolveStatusName, hname, hcustom, htable, hdefault]

/-! ## What a name stands for -/

/-- The entry is for the name, with one of the portal statuses. -/
def IsEntryFor (name : String) (entry : String × Option String) : Prop :=
  foldName toLowerCase entry.1 = name ∧ (entryStatus entry).isSome = true

instance (name : String) (entry : String × Option String) :
    Decidable (IsEntryFor toLowerCase name entry) :=
  inferInstanceAs (Decidable (_ ∧ _))

/-- The status of the last entry for the name. -/
def lastEntry (mapping : StatusMapping) (name : String) : Option PortalRequestStatus :=
  (mapping.reverse.find? fun entry => IsEntryFor toLowerCase name entry).bind entryStatus

/-- The status of the name: that of the organization, or else the built-in one. -/
def mappedStatus (statusName : String) (organizationMapping : Option StatusMapping) :
    Option PortalRequestStatus :=
  let name := foldName toLowerCase statusName
  (lastEntry toLowerCase (organizationMapping.getD []) name).or (defaultStatusMapping.lookup name)

/-- The result is that status, or `null` when there is none. -/
def ResolvesAsMapped (statusName : String) (organizationMapping : Option StatusMapping) : Prop :=
  resolveStatusName toLowerCase statusName organizationMapping =
    match mappedStatus toLowerCase statusName organizationMapping with
    | some status => .portal status
    | none => .unknown

/-- No member of `Object.prototype` is found: the name is not `__proto__`, and when it is
`constructor` the organization has an entry for it. -/
def HidesInherited (statusName : String) (organizationMapping : Option StatusMapping) : Prop :=
  foldName toLowerCase statusName ≠ "__proto__" ∧
    (foldName toLowerCase statusName = "constructor" →
      ∃ entry ∈ organizationMapping.getD [], IsEntryFor toLowerCase "constructor" entry)

/-! ## The loop -/

variable {toLowerCase : String → String} {name statusName : String} {mapping : StatusMapping}
  {organizationMapping : Option StatusMapping}

theorem customTable_append (entry : String × Option String) :
    customTable toLowerCase (mapping ++ [entry]) =
      match entryStatus entry with
      | some status =>
        if foldName toLowerCase entry.1 = "__proto__" then customTable toLowerCase mapping
        else Function.update (customTable toLowerCase mapping) (foldName toLowerCase entry.1)
          (some status)
      | none => customTable toLowerCase mapping := by
  unfold customTable
  rw [List.foldl_append]
  rfl

theorem lastEntry_append (entry : String × Option String) :
    lastEntry toLowerCase (mapping ++ [entry]) name =
      if IsEntryFor toLowerCase name entry then entryStatus entry
      else lastEntry toLowerCase mapping name := by
  unfold lastEntry
  rw [List.reverse_append, List.reverse_singleton, List.singleton_append, List.find?_cons]
  by_cases hentry : IsEntryFor toLowerCase name entry
  · simp [hentry]
  · simp [hentry]

/-- The table has the last entry of each name other than `__proto__`. -/
theorem customTable_eq (hname : name ≠ "__proto__") :
    customTable toLowerCase mapping name = lastEntry toLowerCase mapping name := by
  induction mapping using List.reverseRecOn with
  | nil => rfl
  | append_singleton mapping entry ih =>
      rw [customTable_append, lastEntry_append]
      cases hstatus : entryStatus entry with
      | none =>
          have hnot : ¬IsEntryFor toLowerCase name entry := fun h => by
            have hsome := h.2
            rw [hstatus] at hsome
            cases hsome
          rw [if_neg hnot]
          exact ih
      | some status =>
          have hentry : IsEntryFor toLowerCase name entry ↔ foldName toLowerCase entry.1 = name := by
            simp [IsEntryFor, hstatus]
          by_cases hsame : foldName toLowerCase entry.1 = name
          · have hproto : foldName toLowerCase entry.1 ≠ "__proto__" := by rwa [hsame]
            show (if _ then _ else Function.update _ _ _) name = _
            rw [if_neg hproto, if_pos (hentry.mpr hsame), hsame, Function.update_self]
          · rw [if_neg fun h => hsame (hentry.mp h)]
            show (if _ then _ else Function.update _ _ _) name = _
            split
            · exact ih
            · rw [Function.update_of_ne (Ne.symm hsame)]
              exact ih

/-- Nothing is ever stored under `__proto__`. -/
theorem customTable_proto : customTable toLowerCase mapping "__proto__" = none := by
  induction mapping using List.reverseRecOn with
  | nil => rfl
  | append_singleton mapping entry ih =>
      rw [customTable_append]
      split
      · split
        · exact ih
        · next hne => rw [Function.update_of_ne (Ne.symm hne), ih]
      · exact ih

theorem lastEntry_isSome_iff :
    (lastEntry toLowerCase mapping name).isSome = true ↔
      ∃ entry ∈ mapping, IsEntryFor toLowerCase name entry := by
  induction mapping using List.reverseRecOn with
  | nil => simp [lastEntry]
  | append_singleton mapping entry ih =>
      rw [lastEntry_append]
      by_cases hentry : IsEntryFor toLowerCase name entry
      · rw [if_pos hentry]
        exact iff_of_true hentry.2 ⟨entry, by simp, hentry⟩
      · rw [if_neg hentry, ih]
        simp [hentry]

/-! ## The inherited members -/

/-- No built-in status has the name of an inherited member. -/
theorem lookup_inherited (h : name ∈ inheritedNames) : defaultStatusMapping.lookup name = none := by
  simp only [inheritedNames, List.mem_cons, List.not_mem_nil, or_false] at h
  rcases h with rfl | rfl
  · decide
  · decide

theorem resolveStatusName_of_some {status : PortalRequestStatus}
    (h : customTable toLowerCase (organizationMapping.getD []) (foldName toLowerCase statusName) =
      some status) :
    resolveStatusName toLowerCase statusName organizationMapping = .portal status := by
  unfold resolveStatusName
  dsimp only
  rw [h]

theorem resolveStatusName_of_inherited
    (h : customTable toLowerCase (organizationMapping.getD []) (foldName toLowerCase statusName) =
      none) (hname : foldName toLowerCase statusName ∈ inheritedNames) :
    resolveStatusName toLowerCase statusName organizationMapping = .inherited := by
  unfold resolveStatusName
  dsimp only
  rw [h]
  exact if_pos hname

theorem resolveStatusName_of_none
    (h : customTable toLowerCase (organizationMapping.getD []) (foldName toLowerCase statusName) =
      none) (hname : foldName toLowerCase statusName ∉ inheritedNames) :
    resolveStatusName toLowerCase statusName organizationMapping =
      match defaultStatusMapping.lookup (foldName toLowerCase statusName) with
      | some status => .portal status
      | none => .unknown := by
  unfold resolveStatusName
  dsimp only
  rw [h]
  exact if_neg hname

theorem mappedStatus_of_some {status : PortalRequestStatus}
    (h : lastEntry toLowerCase (organizationMapping.getD []) (foldName toLowerCase statusName) =
      some status) : mappedStatus toLowerCase statusName organizationMapping = some status := by
  unfold mappedStatus
  dsimp only
  rw [h, Option.some_or]

theorem mappedStatus_of_none
    (h : lastEntry toLowerCase (organizationMapping.getD []) (foldName toLowerCase statusName) =
      none) :
    mappedStatus toLowerCase statusName organizationMapping =
      defaultStatusMapping.lookup (foldName toLowerCase statusName) := by
  unfold mappedStatus
  dsimp only
  rw [h, Option.none_or]

/-- An inherited member is not what a name should be resolved to. -/
theorem not_resolvesAsMapped_of_inherited
    (h : resolveStatusName toLowerCase statusName organizationMapping = .inherited) :
    ¬ResolvesAsMapped toLowerCase statusName organizationMapping := by
  intro hmapped
  unfold ResolvesAsMapped at hmapped
  rw [h] at hmapped
  cases hstatus : mappedStatus toLowerCase statusName organizationMapping with
  | some status =>
      rw [hstatus] at hmapped
      cases hmapped
  | none =>
      rw [hstatus] at hmapped
      cases hmapped

/-- A name is resolved as it should be exactly when no inherited member is found. -/
theorem resolve_status_iff (toLowerCase : String → String) (statusName : String)
    (organizationMapping : Option StatusMapping) :
    ResolvesAsMapped toLowerCase statusName organizationMapping ↔
      HidesInherited toLowerCase statusName organizationMapping := by
  by_cases hproto : foldName toLowerCase statusName = "__proto__"
  · have hcustom : customTable toLowerCase (organizationMapping.getD [])
        (foldName toLowerCase statusName) = none := by
      rw [hproto]
      exact customTable_proto
    have hinherited := resolveStatusName_of_inherited hcustom (by rw [hproto]; decide)
    exact iff_of_false (not_resolvesAsMapped_of_inherited hinherited) fun h => h.1 hproto
  have hcustom : customTable toLowerCase (organizationMapping.getD [])
        (foldName toLowerCase statusName) =
      lastEntry toLowerCase (organizationMapping.getD []) (foldName toLowerCase statusName) :=
    customTable_eq hproto
  cases hlast : lastEntry toLowerCase (organizationMapping.getD [])
      (foldName toLowerCase statusName) with
  | some status =>
      rw [hlast] at hcustom
      refine iff_of_true ?_ ⟨hproto, fun hname => ?_⟩
      · unfold ResolvesAsMapped
        rw [resolveStatusName_of_some hcustom, mappedStatus_of_some hlast]
      · rw [← lastEntry_isSome_iff, ← hname, hlast]
        rfl
  | none =>
      rw [hlast] at hcustom
      by_cases hname : foldName toLowerCase statusName ∈ inheritedNames
      · refine iff_of_false
          (not_resolvesAsMapped_of_inherited (resolveStatusName_of_inherited hcustom hname)) ?_
        rintro ⟨-, hentry⟩
        have hconstructor : foldName toLowerCase statusName = "constructor" := by
          simpa [inheritedNames, hproto] using hname
        have hsome := lastEntry_isSome_iff.mpr (hentry hconstructor)
        rw [← hconstructor, hlast] at hsome
        cases hsome
      · refine iff_of_true ?_ ⟨hproto, fun hconstructor => ?_⟩
        · unfold ResolvesAsMapped
          rw [resolveStatusName_of_none hcustom hname, mappedStatus_of_none hlast]
        · rw [hconstructor] at hname
          exact absurd (by decide) hname

/-- A status of the name `constructor` resolves to the function `Object`, and so does not
stand for `null`. -/
theorem constructor_resolves_inherited :
    ¬ResolvesAsMapped Text.toLowerCase "Constructor" (some [("Done", some "RESOLVED")]) := by
  apply not_resolvesAsMapped_of_inherited
  decide

end Resolve

end AvantimePlatform.Jira
