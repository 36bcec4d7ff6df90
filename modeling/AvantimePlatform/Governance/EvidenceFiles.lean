import AvantimePlatform.Governance.Evidence
import AvantimePlatform.Lib.Separators

/-!
# Evidence in files

What is read back of the evidence or the sign-off in a file, and what a hash says of it.

* `canonicalGovernanceJson_eq`: the canonical text is the JSON text of the sorted value.
* `evidenceChecks_sorted` and `signOffChecks_sorted`: the checks do not see the order of
  members.
* `evidence_file_iff`: an accepted value is read back from its file, and no other value has
  its hash, exactly when JSON has the value.
-/

namespace AvantimePlatform.Governance

open AvantimePlatform AvantimePlatform.Checked AvantimePlatform.JsonTree AvantimePlatform.JsonSearch
open AvantimePlatform.JsValue (get keys? entries? iterated? items? toText? isUndefined isNullish undefinedInMembers
  parseJson SameJson withoutUndefined)

/-! ## The canonical text -/

section Canonical

variable {format : NumberFormat}

theorem canonicalItemTexts_eq (items : List JsValue) :
    canonicalItemTexts format items =
      items.map fun item => (canonicalGovernanceJson format item).getD [] := by
  induction items with
  | nil => rfl
  | cons item items ih => rw [canonicalItemTexts, ih, List.map_cons]

theorem canonicalMemberTexts_eq (members : List (String × JsValue)) :
    canonicalMemberTexts format members =
      members.map fun member => (member.1, JsonText.quote member.1.toList ++
        ':' :: (canonicalGovernanceJson format member.2).getD "undefined".toList) := by
  induction members with
  | nil => rfl
  | cons member members ih => rw [canonicalMemberTexts, ih, List.map_cons]

/-- A member as it is written. -/
def memberText (format : NumberFormat) (member : String × JsValue) : String × List Char :=
  (member.1, JsonText.quote member.1.toList ++ ':' :: member.2.text (JsAtom.letters format))

/-- The canonical text is the text of the sorted value. -/
theorem canonicalGovernanceJson_eq (value : JsValue)
    (hdefined : value.everywhere JsValue.definedItems = true) :
    canonicalGovernanceJson format value =
      if isUndefined value then none
      else some ((sorted unitsLe value).text (JsAtom.letters format)) := by
  induction value using induct with
  | atom atom =>
      rw [sorted, text_atom]
      cases atom <;> rfl
  | string text =>
      rw [sorted, text_string]
      rfl
  | array items ih =>
      obtain ⟨hself, hitems⟩ := everywhere_array.mp hdefined
      have htexts : canonicalItemTexts format items =
          (items.map (sorted unitsLe)).map (JsonTree.text (JsAtom.letters format)) := by
        rw [canonicalItemTexts_eq, List.map_map]
        apply List.map_congr_left
        intro item hitem
        have hitemDefined : isUndefined item = false := by
          have hall := List.all_eq_true.mp hself item hitem
          rwa [Bool.not_eq_true'] at hall
        rw [ih item hitem (hitems item hitem), hitemDefined]
        rfl
      show some _ = some _
      rw [htexts, sorted, sortedItems_eq, text_array]
  | object members ih =>
      obtain ⟨-, hvalues⟩ := everywhere_object.mp hdefined
      have hmembers : canonicalMemberTexts format members =
          (sortedMembers unitsLe members).map (memberText format) := by
        rw [canonicalMemberTexts_eq, sortedMembers_eq, List.map_map]
        apply List.map_congr_left
        intro member hmember
        have hvalue := ih member hmember (hvalues member hmember)
        rw [Function.comp_apply, memberText]
        by_cases hundefined : isUndefined member.2 = true
        · have hatom : member.2 = .atom .undefined := by
            unfold isUndefined at hundefined
            split at hundefined
            · assumption
            · exact absurd hundefined Bool.false_ne_true
          rw [hatom]
          rfl
        · rw [hvalue, if_neg hundefined]
          rfl
      have hsort := List.map_insertionSort (ByName unitsLe)
        (fun first second : String × List Char => unitsLe first.1 second.1) (memberText format)
        (sortedMembers unitsLe members) fun _ _ _ _ => Iff.rfl
      show some _ = some _
      rw [hmembers, ← hsort, List.map_map, sorted, text_object]
      rfl

theorem canonicalGovernanceJson_of_defined {value : JsValue} (h : undefinedInMembers value = true) :
    canonicalGovernanceJson format value =
      some ((sorted unitsLe value).text (JsAtom.letters format)) := by
  rw [undefinedInMembers, Bool.and_eq_true, Bool.not_eq_true'] at h
  rw [canonicalGovernanceJson_eq value h.2, h.1]
  rfl

end Canonical

/-! ## The order of members -/

theorem unitsLe_total (first second : String) : unitsLe first second ∨ unitsLe second first :=
  le_total _ _

theorem unitsLe_trans (first second third : String) (h : unitsLe first second)
    (h' : unitsLe second third) : unitsLe first third :=
  le_trans h h'

section Reads

variable {value : JsValue}

theorem uniqueNames_get (hnames : value.uniqueNames = true) (name : String) :
    (get value name).uniqueNames = true := by
  cases value with
  | object members =>
      show ((members.lookup name).getD (.atom .undefined)).uniqueNames = true
      cases hfound : members.lookup name with
      | none => rfl
      | some part => exact (uniqueNames_object.mp hnames).2 (name, part) (mem_of_lookup hfound)
  | _ => rfl

theorem get_sorted (hnames : value.uniqueNames = true) (name : String) :
    get (sorted unitsLe value) name = sorted unitsLe (get value name) := by
  cases value with
  | object members =>
      have hchild := child_sorted unitsLe hnames (.member name)
      show ((child (sorted unitsLe (.object members)) (.member name)).getD _) = _
      rw [hchild]
      show (((members.lookup name).map (sorted unitsLe)).getD _) =
        sorted unitsLe ((members.lookup name).getD _)
      cases members.lookup name <;> rfl
  | _ => rfl

theorem get_mapAtoms (value : JsValue) (name : String) :
    get (value.mapAtoms JsAtom.written) name = (get value name).mapAtoms JsAtom.written := by
  cases value with
  | object members =>
      show ((mapMembers JsAtom.written members).lookup name).getD _ =
        ((members.lookup name).getD _).mapAtoms _
      rw [mapMembers_eq]
      induction members with
      | nil => rfl
      | cons member members ih =>
          rw [List.map_cons, List.lookup_cons, List.lookup_cons]
          cases name == member.1 with
          | true => rfl
          | false => exact ih
  | _ => rfl

theorem text?_sorted (value : JsValue) :
    JsValue.text? (sorted unitsLe value) = JsValue.text? value := by
  cases value <;> rfl

theorem number?_sorted (value : JsValue) :
    JsValue.number? (sorted unitsLe value) = JsValue.number? value := by
  cases value <;> rfl

theorem boolean?_sorted (value : JsValue) :
    JsValue.boolean? (sorted unitsLe value) = JsValue.boolean? value := by
  cases value <;> rfl

theorem isUndefined_sorted (value : JsValue) :
    isUndefined (sorted unitsLe value) = isUndefined value := by
  cases value <;> rfl

theorem isNullish_sorted (value : JsValue) : isNullish (sorted unitsLe value) = isNullish value := by
  cases value <;> rfl

theorem isOneOf_sorted (names : List String) (value : JsValue) :
    isOneOf names (sorted unitsLe value) = isOneOf names value := by
  unfold isOneOf
  rw [text?_sorted]

theorem isVersionOne_sorted (value : JsValue) :
    isVersionOne (sorted unitsLe value) = isVersionOne value := by
  unfold isVersionOne
  rw [number?_sorted]

theorem definedItems_sorted (value : JsValue) :
    JsValue.definedItems (sorted unitsLe value) = JsValue.definedItems value := by
  cases value with
  | array items =>
      show (sortedItems unitsLe items).all _ = items.all _
      rw [sortedItems_eq, List.all_map]
      congr 1
      funext item
      rw [Function.comp_apply, isUndefined_sorted]
  | _ => rfl

theorem items?_sorted (value : JsValue) :
    items? (sorted unitsLe value) = (items? value).map (List.map (sorted unitsLe)) := by
  cases value with
  | array items =>
      show some (sortedItems unitsLe items) = _
      rw [sortedItems_eq]
      rfl
  | _ => rfl

theorem iterated?_sorted (value : JsValue) :
    iterated? (sorted unitsLe value) = (iterated? value).map (List.map (sorted unitsLe)) := by
  cases value with
  | array items =>
      show some (sortedItems unitsLe items) = _
      rw [sortedItems_eq]
      rfl
  | string text =>
      show some (JsValue.letterItems text) = some ((JsValue.letterItems text).map _)
      rw [JsValue.letterItems, List.map_map]
      rfl
  | _ => rfl

/-- The entries are the same, with sorted values and perhaps in another order. -/
theorem entries?_sorted (value : JsValue) (test : String × JsValue → Bool)
    (htest : ∀ entry : String × JsValue, test (entry.1, sorted unitsLe entry.2) = test entry) :
    (entries? (sorted unitsLe value)).map (List.all · test) =
      (entries? value).map (List.all · test) := by
  cases value with
  | atom atom => cases atom <;> rfl
  | string text => rfl
  | array items =>
      show some (List.all ((JsValue.indexNames (sortedItems unitsLe items).length).zip
        (sortedItems unitsLe items)) test) = some (List.all _ test)
      rw [sortedItems_eq, List.length_map, List.zip_map_right, List.all_map]
      congr 2
      funext entry
      exact htest entry
  | object members =>
      show some (List.all ((sortedMembers unitsLe members).insertionSort (ByName unitsLe)) test) =
        some (List.all members test)
      rw [(perm_sortedMembers unitsLe members).all_eq, sortedMembers_eq, List.all_map]
      congr 2
      funext entry
      exact htest entry

theorem itemTexts?_sorted {format : NumberFormat} {items : List JsValue}
    (h : ∀ item ∈ items, toText? format (sorted unitsLe item) = toText? format item) :
    JsValue.itemTexts? format (items.map (sorted unitsLe)) = JsValue.itemTexts? format items := by
  induction items with
  | nil => rfl
  | cons item items ih =>
      obtain ⟨hitem, hitems⟩ := List.forall_mem_cons.mp h
      have hrest := ih hitems
      cases item with
      | atom atom => cases atom <;> simp only [List.map_cons, sorted, JsValue.itemTexts?, hrest]
      | string text => simp only [List.map_cons, sorted, JsValue.itemTexts?, hrest]
      | array parts =>
          rw [sorted] at hitem
          simp only [List.map_cons, sorted, JsValue.itemTexts?, hrest, hitem]
      | object members =>
          rw [sorted] at hitem
          simp only [List.map_cons, sorted, JsValue.itemTexts?, hrest, hitem]

theorem toText?_sorted (format : NumberFormat) (value : JsValue) :
    toText? format (sorted unitsLe value) = toText? format value := by
  induction value using induct with
  | atom atom => rfl
  | string text => rfl
  | array items ih =>
      rw [sorted, toText?, toText?, sortedItems_eq, itemTexts?_sorted ih]
  | object members ih =>
      have hnames : "toString" ∈ ((sortedMembers unitsLe members).insertionSort
          (ByName unitsLe)).map Prod.fst ↔ "toString" ∈ members.map Prod.fst := by
        rw [((perm_sortedMembers unitsLe members).map Prod.fst).mem_iff, sortedMembers_names]
      rw [sorted, toText?, toText?, if_congr hnames rfl rfl]

end Reads

section Checks

variable {runtime : EvidenceRuntime} {value : JsValue}

theorem keysWithin_sorted (allowed : List String) (error : String) (value : JsValue) :
    keysWithin allowed error (sorted unitsLe value) = keysWithin allowed error value := by
  have hentries := entries?_sorted value (fun entry => decide (entry.1 ∈ allowed)) fun _ => rfl
  unfold keysWithin keys?
  cases hsorted : entries? (sorted unitsLe value) with
  | none =>
      rw [hsorted] at hentries
      cases hplain : entries? value with
      | none => rfl
      | some entries =>
          rw [hplain] at hentries
          exact absurd hentries (by simp)
  | some entries =>
      rw [hsorted] at hentries
      cases hplain : entries? value with
      | none =>
          rw [hplain] at hentries
          exact absurd hentries (by simp)
      | some others =>
          rw [hplain, Option.map_some, Option.map_some, Option.some.injEq, Bool.eq_iff_iff,
            List.all_eq_true, List.all_eq_true] at hentries
          have hsame : (∀ key ∈ entries.map Prod.fst, key ∈ allowed) ↔
              ∀ key ∈ others.map Prod.fst, key ∈ allowed := by
            simpa only [List.forall_mem_map, decide_eq_true_eq] using hentries
          show require _ error = require _ error
          unfold require
          exact if_congr hsame rfl rfl

theorem demand_sorted (test : List Char → Bool) (error : String) (value : JsValue) :
    demand runtime test error (sorted unitsLe value) = demand runtime test error value := by
  unfold demand
  rw [toText?_sorted]

theorem demandIfDefined_sorted (test : List Char → Bool) (error : String) (value : JsValue) :
    demandIfDefined runtime test error (sorted unitsLe value) =
      demandIfDefined runtime test error value := by
  unfold demandIfDefined
  rw [isUndefined_sorted, demand_sorted]

/-- A loop over sorted items does what it does over the items. -/
theorem forM_sorted {f : JsValue → Except String Unit} {items : List JsValue}
    (h : ∀ item ∈ items, f (sorted unitsLe item) = f item) :
    (items.map (sorted unitsLe)).forM f = items.forM f := by
  induction items with
  | nil => rfl
  | cons item items ih =>
      obtain ⟨hitem, hitems⟩ := List.forall_mem_cons.mp h
      show (f (sorted unitsLe item) >>= fun _ => (items.map (sorted unitsLe)).forM f) =
        (f item >>= fun _ => items.forM f)
      rw [hitem, ih hitems]

theorem forM_demand_sorted (test : List Char → Bool) (error : String) (items : List JsValue) :
    (items.map (sorted unitsLe)).forM (demand runtime test error) =
      items.forM (demand runtime test error) :=
  forM_sorted fun item _ => demand_sorted test error item

theorem orTypeError_map {α β : Type} (f : α → β) (x : Option α) :
    orTypeError (x.map f) = f <$> orTypeError x := by
  cases x <;> rfl

theorem spread_sorted (value : JsValue) :
    spread (sorted unitsLe value) = List.map (sorted unitsLe) <$> spread value := by
  unfold spread
  rw [isNullish_sorted, iterated?_sorted, orTypeError_map]
  cases isNullish value <;> rfl

theorem itemsOrNone_sorted (value : JsValue) :
    itemsOrNone (sorted unitsLe value) = List.map (sorted unitsLe) <$> itemsOrNone value := by
  unfold itemsOrNone
  rw [isNullish_sorted, items?_sorted, orTypeError_map]
  cases isNullish value <;> rfl

theorem detailAllowed_sorted (entry : String × JsValue) :
    detailAllowed (entry.1, sorted unitsLe entry.2) = detailAllowed entry := by
  obtain ⟨name, value⟩ := entry
  cases value <;> rfl

theorem detailsAllowed_sorted (value : JsValue) :
    (∀ entry ∈ entriesOrNone (sorted unitsLe value), detailAllowed entry = true) ↔
      ∀ entry ∈ entriesOrNone value, detailAllowed entry = true := by
  have hentries := entries?_sorted value detailAllowed detailAllowed_sorted
  unfold entriesOrNone
  rw [← List.all_eq_true, ← List.all_eq_true]
  cases hsorted : entries? (sorted unitsLe value) <;> cases hplain : entries? value <;>
    rw [hsorted, hplain] at hentries <;> simp_all

theorem isVersionOrUndefined_sorted (value : JsValue) :
    isVersionOrUndefined (sorted unitsLe value) = isVersionOrUndefined value := by
  unfold isVersionOrUndefined
  rw [isUndefined_sorted, number?_sorted]

/-- A computation goes on in the same way when what it goes on with does. -/
theorem bind_map_congr {α β γ : Type} {f : α → β} {x : Except String α} {g : β → Except String γ}
    {g' : α → Except String γ} (h : ∀ a, x = .ok a → g (f a) = g' a) :
    (f <$> x >>= g) = (x >>= g') := by
  cases x with
  | error e => rfl
  | ok a => exact h a rfl

theorem artifactChecks_sorted (hnames : value.uniqueNames = true) :
    artifactChecks runtime (sorted unitsLe value) = artifactChecks runtime value := by
  unfold artifactChecks
  simp only [keysWithin_sorted, get_sorted hnames, isOneOf_sorted, boolean?_sorted, demand_sorted]

theorem uniqueNames_of_items? {items : List JsValue} (hnames : value.uniqueNames = true)
    (h : items? value = some items) : ∀ item ∈ items, item.uniqueNames = true := by
  cases value with
  | array parts =>
      obtain rfl : parts = items := Option.some.inj h
      exact uniqueNames_array.mp hnames
  | _ => exact absurd h (by simp [items?])

theorem uniqueNames_of_iterated? {items : List JsValue} (hnames : value.uniqueNames = true)
    (h : iterated? value = some items) : ∀ item ∈ items, item.uniqueNames = true := by
  cases value with
  | array parts =>
      obtain rfl : parts = items := Option.some.inj h
      exact uniqueNames_array.mp hnames
  | string text =>
      obtain rfl : JsValue.letterItems text = items := Option.some.inj h
      intro item hitem
      obtain ⟨c, -, rfl⟩ := List.mem_map.mp hitem
      rfl
  | _ => exact absurd h (by simp [iterated?])

theorem uniqueNames_of_itemsOrNone {items : List JsValue} (hnames : value.uniqueNames = true)
    (h : itemsOrNone value = .ok items) : ∀ item ∈ items, item.uniqueNames = true := by
  unfold itemsOrNone at h
  cases hnullish : isNullish value with
  | true =>
      rw [hnullish] at h
      obtain rfl : [] = items := Except.ok.inj h
      exact fun item hitem => absurd hitem List.not_mem_nil
  | false =>
      rw [hnullish] at h
      cases hitems : items? value with
      | none =>
          rw [hitems] at h
          exact absurd h (by simp [orTypeError])
      | some parts =>
          rw [hitems] at h
          obtain rfl : parts = items := Except.ok.inj h
          exact uniqueNames_of_items? hnames hitems

theorem recordChecks_sorted (hnames : value.uniqueNames = true) :
    recordChecks runtime (sorted unitsLe value) = recordChecks runtime value := by
  have hartifacts (g : Unit → Except String Unit) :
      (itemsOrNone (sorted unitsLe (get value "artifacts")) >>= fun artifacts =>
          artifacts.forM (artifactChecks runtime) >>= g) =
        (itemsOrNone (get value "artifacts") >>= fun artifacts =>
          artifacts.forM (artifactChecks runtime) >>= g) := by
    rw [itemsOrNone_sorted]
    refine bind_map_congr fun artifacts hok => ?_
    have hunique := uniqueNames_of_itemsOrNone (uniqueNames_get hnames _) hok
    rw [forM_sorted fun artifact hartifact => artifactChecks_sorted (hunique artifact hartifact)]
  have hdetails : require (∀ entry ∈ entriesOrNone (sorted unitsLe (get value "details")),
        detailAllowed entry = true) sensitiveEvidence =
      require (∀ entry ∈ entriesOrNone (get value "details"), detailAllowed entry = true)
        sensitiveEvidence := by
    unfold require
    exact if_congr (detailsAllowed_sorted _) rfl rfl
  have hids (g : Unit → Except String Unit) :
      (spread (sorted unitsLe (get value "auditEventIds")) >>= fun auditEventIds =>
          spread (sorted unitsLe (get value "notificationIds")) >>= fun notificationIds =>
            (auditEventIds ++ notificationIds).forM
              (demand runtime safeReference.test invalidEvidence) >>= g) =
        (spread (get value "auditEventIds") >>= fun auditEventIds =>
          spread (get value "notificationIds") >>= fun notificationIds =>
            (auditEventIds ++ notificationIds).forM
              (demand runtime safeReference.test invalidEvidence) >>= g) := by
    rw [spread_sorted, spread_sorted]
    refine bind_map_congr fun auditEventIds _ => bind_map_congr fun notificationIds _ => ?_
    rw [← List.map_append, forM_demand_sorted]
  unfold recordChecks
  simp only [keysWithin_sorted, get_sorted hnames, isOneOf_sorted, demand_sorted,
    demandIfDefined_sorted, isVersionOrUndefined_sorted, hartifacts, hdetails, hids]

theorem signOffTextChecks_sorted (value : JsValue) :
    signOffTextChecks runtime (sorted unitsLe value) = signOffTextChecks runtime value := by
  cases value with
  | atom atom => rfl
  | string text => rfl
  | array items =>
      show demand runtime safeText.test invalidEvidence (sorted unitsLe (.array items)) = _
      rw [demand_sorted]
      rfl
  | object members =>
      show demand runtime safeText.test invalidEvidence (sorted unitsLe (.object members)) = _
      rw [demand_sorted]
      rfl

theorem isJson_sorted (value : JsValue) :
    JsValue.isJson (sorted unitsLe value) = JsValue.isJson value :=
  allAtoms_sorted unitsLe JsAtom.isJson value

/-- The marks and quotes, in a list. -/
def structuralChars : List Char := ['"', '[', ']', '\x7b', '\x7d', ',', ':']

theorem mem_structuralChars {c : Char} (h : isStructural c = true) : c ∈ structuralChars := by
  simpa [isStructural, structuralChars, or_assoc] using h

/-- What none of them has can be checked one by one. -/
theorem structural_eq_false (test : Char → Bool) (h : structuralChars.all (fun c => !test c) = true)
    {c : Char} (hc : isStructural c = true) : test c = false := by
  have hnot := List.all_eq_true.mp h c (mem_structuralChars hc)
  rwa [Bool.not_eq_true'] at hnot

theorem local_word (word : String) (test : List Char → Bool) (hne : word.toList ≠ [])
    (hword : structuralChars.all (fun c => !word.toList.contains (fold c)) = true)
    (htest : ∀ text rest c, isStructural c = true → test (text ++ c :: rest) = test text) :
    Local isStructural (wordThen word.toList test) := by
  refine local_wordThen hne ?_ htest
  intro c hc hmem
  have hnot := structural_eq_false (fun c => word.toList.contains (fold c)) hword hc
  rw [List.contains_eq_mem, decide_eq_false_iff_not] at hnot
  exact hnot hmem

theorem blank_ahead (text rest : List Char) (c : Char) (hc : isStructural c = true) :
    (text ++ c :: rest).head?.any Text.isBlank = text.head?.any Text.isBlank := by
  cases text with
  | nil => exact structural_eq_false Text.isBlank (by decide) hc
  | cons d text => rfl

/-- Twenty letters of a key do not go beyond a mark. -/
theorem keyLetters_ahead (text rest : List Char) (c : Char) (hc : isStructural c = true) :
    (decide (20 ≤ (text ++ c :: rest).length) && ((text ++ c :: rest).take 20).all isKeyLetter) =
      (decide (20 ≤ text.length) && (text.take 20).all isKeyLetter) := by
  by_cases hlong : 20 ≤ text.length
  · have hlonger : 20 ≤ (text ++ c :: rest).length := by
      rw [List.length_append]
      omega
    rw [List.take_append_of_le_length hlong, decide_eq_true hlong, decide_eq_true hlonger]
  · have hmem : c ∈ (text ++ c :: rest).take 20 := by
      rw [List.take_append, List.mem_append]
      right
      obtain ⟨k, hk⟩ : ∃ k, 20 - text.length = k + 1 := ⟨19 - text.length, by omega⟩
      rw [hk, List.take_succ_cons]
      exact List.mem_cons_self
    have hall : ((text ++ c :: rest).take 20).all isKeyLetter = false := by
      rw [List.all_eq_false]
      refine ⟨c, hmem, ?_⟩
      rw [structural_eq_false isKeyLetter (by decide) hc]
      exact Bool.false_ne_true
    rw [hall, decide_eq_false hlong, Bool.and_false, Bool.false_and]

/-- No match of the sensitive texts goes beyond a mark of JSON. -/
theorem local_sensitiveMatcher : Local isStructural sensitiveMatcher := by
  have hplain (word : String) (hne : word.toList ≠ [])
      (hword : structuralChars.all (fun c => !word.toList.contains (fold c)) = true) :
      Local isStructural (wordThen word.toList fun _ => true) :=
    local_word word _ hne hword fun _ _ _ _ => rfl
  have hbearer := local_word "bearer" (fun rest => rest.head?.any Text.isBlank) (by decide)
    (by decide) blank_ahead
  have hsk := local_word "sk-"
    (fun rest => decide (20 ≤ rest.length) && (rest.take 20).all isKeyLetter) (by decide) (by decide)
    keyLetters_ahead
  have hboundary := local_atBoundary hsk fun c hc => structural_eq_false isWordLetter (by decide) hc
  exact local_either hbearer
    (local_either (hplain "password" (by decide) (by decide))
      (local_either (hplain "set-cookie" (by decide) (by decide))
        (local_either (hplain "-----begin" (by decide) (by decide)) hboundary)))

/-- The text that is searched for sensitive ones has the members in another order. -/
theorem sensitiveText_sorted (hjson : JsValue.isJson value = true) :
    sensitiveText (JsValue.stringify runtime.format (sorted unitsLe value)) =
      sensitiveText (JsValue.stringify runtime.format value) := by
  have hsorted : JsValue.isJson (sorted unitsLe value) = true := by
    rw [isJson_sorted]
    exact hjson
  rw [JsValue.stringify_eq hsorted, JsValue.stringify_eq hjson]
  exact found_text_sorted local_sensitiveMatcher unitsLe _ value

/-- The checks of evidence do not see the order of members. -/
theorem evidenceChecks_sorted (hnames : value.uniqueNames = true)
    (hjson : JsValue.isJson value = true) :
    evidenceChecks runtime (sorted unitsLe value) = evidenceChecks runtime value := by
  have hhashes (g : Unit → Except String Unit) :
      (orTypeError (items? (sorted unitsLe (get value "actorHashes"))) >>= fun actorHashes =>
          actorHashes.forM (demand runtime sha256Hash.test invalidEvidence) >>= g) =
        (orTypeError (items? (get value "actorHashes")) >>= fun actorHashes =>
          actorHashes.forM (demand runtime sha256Hash.test invalidEvidence) >>= g) := by
    rw [items?_sorted, orTypeError_map]
    refine bind_map_congr fun actorHashes _ => ?_
    rw [forM_demand_sorted]
  have hrecords (g : Unit → Except String Unit) :
      (orTypeError (iterated? (sorted unitsLe (get value "records"))) >>= fun records =>
          records.forM (recordChecks runtime) >>= g) =
        (orTypeError (iterated? (get value "records")) >>= fun records =>
          records.forM (recordChecks runtime) >>= g) := by
    rw [iterated?_sorted, orTypeError_map]
    refine bind_map_congr fun records hok => ?_
    have hunique : ∀ record ∈ records, record.uniqueNames = true := by
      cases hiterated : iterated? (get value "records") with
      | none =>
          rw [hiterated] at hok
          exact absurd hok (by simp [orTypeError])
      | some others =>
          rw [hiterated] at hok
          obtain rfl : others = records := Except.ok.inj hok
          exact uniqueNames_of_iterated? (uniqueNames_get hnames _) hiterated
    rw [forM_sorted fun record hrecord => recordChecks_sorted (hunique record hrecord)]
  unfold evidenceChecks
  simp only [keysWithin_sorted, get_sorted hnames, isOneOf_sorted, isVersionOne_sorted,
    demand_sorted, signOffTextChecks_sorted, hhashes, hrecords, sensitiveText_sorted hjson]

theorem referenceChecks_sorted (value : JsValue) :
    referenceChecks runtime (sorted unitsLe value) =
      List.map (sorted unitsLe) <$> referenceChecks runtime value := by
  unfold referenceChecks
  rw [items?_sorted]
  cases items? value with
  | none => rfl
  | some items =>
      show ((items.map (sorted unitsLe)).forM (demand runtime signOffReference.test invalidSignOff) >>=
          fun _ => pure (items.map (sorted unitsLe))) = List.map (sorted unitsLe) <$>
        (items.forM (demand runtime signOffReference.test invalidSignOff) >>= fun _ => pure items)
      rw [forM_demand_sorted]
      cases items.forM (demand runtime signOffReference.test invalidSignOff) <;> rfl

theorem sameText_sorted (first second : JsValue) :
    sameText (sorted unitsLe first) (sorted unitsLe second) = sameText first second := by
  unfold sameText
  rw [text?_sorted, text?_sorted]

/-- Nor do those of sign-offs. -/
theorem signOffChecks_sorted (hnames : value.uniqueNames = true) :
    signOffChecks runtime (sorted unitsLe value) = signOffChecks runtime value := by
  have hlast (p : Prop) [Decidable p] (error : String) :
      (referenceChecks runtime (sorted unitsLe (get value "deviations")) >>= fun deviations =>
          referenceChecks runtime (sorted unitsLe (get value "blockers")) >>= fun blockers =>
            referenceChecks runtime (sorted unitsLe (get value "riskReferences")) >>= fun _ =>
              require (p → blockers.length = 0 ∧ deviations.length = 0) error) =
        (referenceChecks runtime (get value "deviations") >>= fun deviations =>
          referenceChecks runtime (get value "blockers") >>= fun blockers =>
            referenceChecks runtime (get value "riskReferences") >>= fun _ =>
              require (p → blockers.length = 0 ∧ deviations.length = 0) error) := by
    rw [referenceChecks_sorted, referenceChecks_sorted, referenceChecks_sorted]
    refine bind_map_congr fun deviations _ => bind_map_congr fun blockers _ =>
      bind_map_congr fun _ _ => ?_
    simp only [List.length_map]
  unfold signOffChecks
  simp only [keysWithin_sorted, get_sorted hnames, isOneOf_sorted, isVersionOne_sorted,
    demand_sorted, sameText_sorted]
  simp only [hlast]

end Checks

/-! ## Envelopes -/

section Envelopes

variable {kind : EnvelopeKind} {runtime : EvidenceRuntime} {value : JsValue}

/-- What is used of a kind of envelope: its fields have different names, and its checks do not
see the order of members. -/
structure EnvelopeKind.Regular (kind : EnvelopeKind) (runtime : EvidenceRuntime) : Prop where
  names : ["envelopeVersion", kind.field, kind.hashField].Nodup
  checks_sorted (value : JsValue) (hnames : value.uniqueNames = true)
    (hjson : JsValue.isJson value = true) :
    kind.checks runtime (sorted unitsLe value) = kind.checks runtime value

theorem regular_evidenceEnvelope (runtime : EvidenceRuntime) :
    evidenceEnvelope.Regular runtime where
  names := by decide
  checks_sorted _ hnames hjson := evidenceChecks_sorted hnames hjson

theorem regular_signOffEnvelope (runtime : EvidenceRuntime) :
    signOffEnvelope.Regular runtime where
  names := by decide
  checks_sorted _ hnames _ := signOffChecks_sorted hnames

/-- The members of an envelope. -/
def EnvelopeKind.members (kind : EnvelopeKind) (value : JsValue) (sha256 : String) :
    List (String × JsValue) :=
  [("envelopeVersion", .atom (.number Double.one)), (kind.field, value),
    (kind.hashField, .string sha256)]

/-- The envelope of a value and a hash. -/
def EnvelopeKind.envelope (kind : EnvelopeKind) (value : JsValue) (sha256 : String) : JsValue :=
  .object (kind.members value sha256)

/-- The digest of the canonical text. -/
def EvidenceRuntime.digest (runtime : EvidenceRuntime) (value : JsValue) : String :=
  runtime.sha256 ((sorted unitsLe value).text (JsAtom.letters runtime.format))

theorem hash_eq (h : undefinedInMembers value = true) :
    EnvelopeKind.hash runtime value = .ok (runtime.digest value) := by
  rw [EnvelopeKind.hash, canonicalGovernanceJson_of_defined h]
  rfl

theorem create_eq_ok {envelope : JsValue} (h : undefinedInMembers value = true)
    (hchecks : kind.checks runtime value = .ok ()) :
    kind.create runtime value = .ok envelope ↔ kind.envelope value (runtime.digest value) = envelope := by
  rw [EnvelopeKind.create, seq_eq_ok, hash_eq h]
  constructor
  · rintro ⟨-, henvelope⟩
    exact Except.ok.inj henvelope
  · rintro rfl
    exact ⟨hchecks, rfl⟩

theorem get_envelope (hkind : kind.Regular runtime) (value : JsValue) (sha256 : String) :
    get (kind.envelope value sha256) "envelopeVersion" = .atom (.number Double.one) ∧
      get (kind.envelope value sha256) kind.field = value ∧
      get (kind.envelope value sha256) kind.hashField = .string sha256 := by
  have hnames : ((kind.members value sha256).map Prod.fst).Nodup := hkind.names
  have hfind (member : String × JsValue) (h : member ∈ kind.members value sha256) :
      get (kind.envelope value sha256) member.1 = member.2 := by
    show ((kind.members value sha256).lookup member.1).getD _ = _
    rw [lookup_of_mem hnames h]
    rfl
  refine ⟨hfind ("envelopeVersion", _) ?_, hfind (kind.field, _) ?_, hfind (kind.hashField, _) ?_⟩
  · exact List.mem_cons_self
  · exact List.mem_cons_of_mem _ List.mem_cons_self
  · exact List.mem_cons_of_mem _ (List.mem_cons_of_mem _ List.mem_cons_self)

/-- What holds of the members of an envelope. -/
theorem forall_members {P : String × JsValue → Prop} {sha256 : String} :
    (∀ member ∈ kind.members value sha256, P member) ↔
      P ("envelopeVersion", .atom (.number Double.one)) ∧ P (kind.field, value) ∧
        P (kind.hashField, .string sha256) := by
  simp [EnvelopeKind.members]

theorem uniqueNames_envelope (hkind : kind.Regular runtime) (hnames : value.uniqueNames = true)
    (sha256 : String) : (kind.envelope value sha256).uniqueNames = true :=
  uniqueNames_object.mpr ⟨hkind.names, forall_members.mpr ⟨rfl, hnames, rfl⟩⟩

theorem allAtoms_envelope {ok : JsAtom → Bool} (hone : ok (.number Double.one) = true)
    (sha256 : String) : (kind.envelope value sha256).allAtoms ok = value.allAtoms ok := by
  rw [Bool.eq_iff_iff, EnvelopeKind.envelope, allAtoms_object, forall_members]
  constructor
  · rintro ⟨-, hvalue, -⟩
    exact hvalue
  · intro hvalue
    exact ⟨hone, hvalue, rfl⟩

theorem undefinedInMembers_envelope (h : undefinedInMembers value = true) (sha256 : String) :
    undefinedInMembers (kind.envelope value sha256) = true := by
  rw [undefinedInMembers, Bool.and_eq_true] at h ⊢
  exact ⟨rfl, everywhere_object.mpr ⟨rfl, forall_members.mpr ⟨rfl, h.2, rfl⟩⟩⟩

/-- What `verify` accepts. -/
theorem verify_eq_ok {envelope : JsValue} :
    kind.verify runtime envelope = .ok envelope ↔
      keysWithin ["envelopeVersion", kind.field, kind.hashField] kind.invalid envelope = .ok () ∧
      isVersionOne (get envelope "envelopeVersion") = true ∧
      demand runtime sha256Hash.test kind.invalid (get envelope kind.hashField) = .ok () ∧
      kind.checks runtime (get envelope kind.field) = .ok () ∧
      ∃ actual, EnvelopeKind.hash runtime (get envelope kind.field) = .ok actual ∧
        JsValue.text? (get envelope kind.hashField) = some actual := by
  unfold EnvelopeKind.verify
  rw [seq_eq_ok, seq_eq_ok, seq_eq_ok, seq_eq_ok, bind_eq_ok, require_eq_ok]
  refine and_congr_right fun _ => and_congr_right fun _ => and_congr_right fun _ =>
    and_congr_right fun _ => exists_congr fun actual => and_congr_right fun _ => ?_
  rw [seq_eq_ok, require_eq_ok]
  exact and_iff_left rfl

theorem eq_of_verify {parsed envelope : JsValue} (h : kind.verify runtime parsed = .ok envelope) :
    parsed = envelope := by
  unfold EnvelopeKind.verify at h
  rw [seq_eq_ok, seq_eq_ok, seq_eq_ok, seq_eq_ok, bind_eq_ok] at h
  obtain ⟨-, -, -, -, actual, -, h⟩ := h
  rw [seq_eq_ok] at h
  exact Except.ok.inj h.2

/-- The digest is 64 hexadecimal digits. -/
def EvidenceRuntime.HexDigests (runtime : EvidenceRuntime) : Prop :=
  ∀ text, sha256Hash.test (runtime.sha256 text).toList = true

/-- The sorted envelope of an accepted value is accepted. -/
theorem verify_sorted_envelope (hkind : kind.Regular runtime) (hhex : runtime.HexDigests)
    (hnames : value.uniqueNames = true) (hjson : JsValue.isJson value = true)
    (hdefined : undefinedInMembers value = true) (hchecks : kind.checks runtime value = .ok ()) :
    kind.verify runtime (sorted unitsLe (kind.envelope value (runtime.digest value))) =
      .ok (sorted unitsLe (kind.envelope value (runtime.digest value))) := by
  obtain ⟨hversion, hfield, hhash⟩ := get_envelope hkind value (runtime.digest value)
  have hunique := uniqueNames_envelope hkind hnames (runtime.digest value)
  have hsame : EnvelopeKind.hash runtime (sorted unitsLe value) = .ok (runtime.digest value) := by
    have hstill : undefinedInMembers (sorted unitsLe value) = true := by
      rw [undefinedInMembers, Bool.and_eq_true] at hdefined ⊢
      rw [isUndefined_sorted, everywhere_sorted unitsLe definedItems_sorted]
      exact hdefined
    rw [hash_eq hstill, EvidenceRuntime.digest, sorted_sorted unitsLe unitsLe_total unitsLe_trans]
    rfl
  refine verify_eq_ok.mpr ⟨?_, ?_, ?_, ?_, runtime.digest value, ?_, ?_⟩
  · rw [keysWithin_sorted]
    show require _ _ = _
    rw [require_eq_ok]
    intro key hkey
    exact hkey
  · rw [get_sorted hunique, hversion]
    rfl
  · rw [get_sorted hunique, hhash]
    show require _ _ = _
    rw [require_eq_ok]
    exact hhex _
  · rw [get_sorted hunique, hfield, hkind.checks_sorted value hnames hjson]
    exact hchecks
  · rw [get_sorted hunique, hfield]
    exact hsame
  · rw [get_sorted hunique, hhash]
    rfl

/-! ## Files -/

/-- What is read of the file of a value is the value, without the members that were
`undefined`. -/
def EnvelopeKind.Survives (kind : EnvelopeKind) (runtime : EvidenceRuntime) (value : JsValue) :
    Prop :=
  ∀ root fileName file, kind.write runtime root fileName value = .ok file →
    ∃ envelope, kind.verifyFile runtime file.text = .ok envelope ∧
      Same (get envelope kind.field) (withoutUndefined value)

/-- An accepted envelope with the hash of a value has the value. -/
def EnvelopeKind.ShowsTampering (kind : EnvelopeKind) (runtime : EvidenceRuntime)
    (value : JsValue) : Prop :=
  ∀ written envelope, kind.create runtime value = .ok written →
    envelope.uniqueNames = true → undefinedInMembers (get envelope kind.field) = true →
    kind.verify runtime envelope = .ok envelope →
    JsValue.text? (get envelope kind.hashField) = JsValue.text? (get written kind.hashField) →
    SameJson (get envelope kind.field) value

/-- No other text has the hash of the canonical text. -/
def EvidenceRuntime.NoCollision (runtime : EvidenceRuntime) (value : JsValue) : Prop :=
  ∀ canonical, canonicalGovernanceJson runtime.format value = some canonical →
    ∀ other, runtime.sha256 other = runtime.sha256 canonical → other = canonical

/-- The text of a file. -/
theorem write_text {root fileName : List Char} {file : EvidenceFile}
    (hdefined : undefinedInMembers value = true) (hchecks : kind.checks runtime value = .ok ())
    (h : kind.write runtime root fileName value = .ok file) :
    file.text = (sorted unitsLe (kind.envelope value (runtime.digest value))).text
      (JsAtom.letters runtime.format) ++ ['\n'] := by
  unfold EnvelopeKind.write at h
  rw [seq_eq_ok] at h
  obtain ⟨-, h⟩ := h
  dsimp only at h
  rw [seq_eq_ok, bind_eq_ok] at h
  obtain ⟨-, envelope, hcreate, h⟩ := h
  obtain rfl := (create_eq_ok hdefined hchecks).mp hcreate
  rw [canonicalGovernanceJson_of_defined (undefinedInMembers_envelope hdefined _)] at h
  have hfile := Except.ok.inj h
  rw [← hfile]

/-- A file can be written. -/
theorem exists_write (kind : EnvelopeKind) (hdefined : undefinedInMembers value = true)
    (hchecks : kind.checks runtime value = .ok ()) :
    ∃ root fileName file, kind.write runtime root fileName value = .ok file := by
  have hname : isFileName kind.fileSuffix.toList ("abc".toList ++ kind.fileSuffix.toList) = true := by
    rw [isFileName, Bool.and_eq_true, List.isSuffixOf_iff_suffix, List.length_append,
      Nat.add_sub_cancel, List.take_left]
    exact ⟨List.suffix_append _ _, by decide⟩
  have hpath : (['/', 'e'] ++ ['/']).isPrefixOf
      (resolveInRoot ['/', 'e'] ("abc".toList ++ kind.fileSuffix.toList)) = true := rfl
  have hcreate : kind.create runtime value = .ok (kind.envelope value (runtime.digest value)) :=
    (create_eq_ok hdefined hchecks).mpr rfl
  have htext := @canonicalGovernanceJson_of_defined runtime.format _
    (@undefinedInMembers_envelope kind _ hdefined (runtime.digest value))
  let file : EvidenceFile :=
    { output := resolveInRoot ['/', 'e'] ("abc".toList ++ kind.fileSuffix.toList)
      text := (sorted unitsLe (kind.envelope value (runtime.digest value))).text
        (JsAtom.letters runtime.format) ++ ['\n']
      sha256 := get (kind.envelope value (runtime.digest value)) kind.hashField }
  refine ⟨['/', 'e'], "abc".toList ++ kind.fileSuffix.toList, file, ?_⟩
  unfold EnvelopeKind.write
  rw [seq_eq_ok]
  refine ⟨require_eq_ok.mpr hname, ?_⟩
  dsimp only
  rw [seq_eq_ok, bind_eq_ok]
  refine ⟨require_eq_ok.mpr hpath, kind.envelope value (runtime.digest value), hcreate, ?_⟩
  rw [htext]
  rfl

theorem isBlank_newline : ∀ c ∈ ['\n'], isBlank c = true :=
  List.forall_mem_singleton.mpr rfl

variable (hformat : runtime.format.Lawful)
include hformat

/-- What is read of the file of an accepted value, if anything. -/
theorem parse_write_text {root fileName : List Char} {file : EvidenceFile}
    (hkind : kind.Regular runtime) (hnames : value.uniqueNames = true)
    (hdefined : undefinedInMembers value = true) (hchecks : kind.checks runtime value = .ok ())
    (hwrite : kind.write runtime root fileName value = .ok file) :
    parseJson runtime.format file.text =
      if JsValue.isDefined value then
        some ((sorted unitsLe (kind.envelope value (runtime.digest value))).mapAtoms JsAtom.written)
      else none := by
  have hunique := uniqueNames_envelope hkind hnames (runtime.digest value)
  rw [write_text hdefined hchecks hwrite,
    JsValue.parse_letters hformat ((uniqueNames_sorted unitsLe _).trans hunique) isBlank_newline]
  have hsame : JsValue.isDefined (sorted unitsLe (kind.envelope value (runtime.digest value))) =
      JsValue.isDefined value := by
    rw [JsValue.isDefined, allAtoms_sorted, allAtoms_envelope rfl]
    rfl
  rw [hsame]

theorem survives_of_isJson (hkind : kind.Regular runtime) (hhex : runtime.HexDigests)
    (hnames : value.uniqueNames = true) (hjson : JsValue.isJson value = true)
    (hdefined : undefinedInMembers value = true) (hchecks : kind.checks runtime value = .ok ()) :
    kind.Survives runtime value := by
  intro root fileName file hwrite
  have hunique := uniqueNames_envelope hkind hnames (runtime.digest value)
  have henvelope : (sorted unitsLe (kind.envelope value (runtime.digest value))).allAtoms
      JsAtom.isJson = true := by
    rw [allAtoms_sorted, allAtoms_envelope rfl]
    exact hjson
  have hparse := parse_write_text hformat hkind hnames hdefined hchecks hwrite
  rw [if_pos (JsValue.isDefined_of_isJson hjson),
    mapAtoms_eq_self (fun _ => JsAtom.written_of_isJson) _ henvelope] at hparse
  refine ⟨sorted unitsLe (kind.envelope value (runtime.digest value)), ?_, ?_⟩
  · rw [EnvelopeKind.verifyFile, hparse]
    exact verify_sorted_envelope hkind hhex hnames hjson hdefined hchecks
  · rw [get_sorted hunique, (get_envelope hkind value _).2.1,
      JsValue.withoutUndefined_eq_self value (JsValue.isDefined_of_isJson hjson)]
    exact same_sorted unitsLe hnames

/-- What is read back is a value that JSON has: so the value was one. -/
theorem isJson_of_survives (hkind : kind.Regular runtime) (hnames : value.uniqueNames = true)
    (hdefined : undefinedInMembers value = true) (hchecks : kind.checks runtime value = .ok ())
    (hsurvives : kind.Survives runtime value) : JsValue.isJson value = true := by
  obtain ⟨root, fileName, file, hwrite⟩ := exists_write kind hdefined hchecks
  obtain ⟨envelope, hverify, hsame⟩ := hsurvives root fileName file hwrite
  have hparse := parse_write_text hformat hkind hnames hdefined hchecks hwrite
  rw [EnvelopeKind.verifyFile, hparse] at hverify
  by_cases hall : JsValue.isDefined value = true
  · rw [if_pos hall] at hverify
    rw [JsValue.withoutUndefined_eq_self value hall] at hsame
    obtain rfl := eq_of_verify hverify
    have hunique := uniqueNames_envelope hkind hnames (runtime.digest value)
    rw [get_mapAtoms, get_sorted hunique, (get_envelope hkind value _).2.1] at hsame
    refine hsame.allAtoms hnames (allAtoms_mapAtoms ?_ _ ((allAtoms_sorted unitsLe _ _).trans hall))
    intro atom hatom
    cases atom with
    | undefined => exact absurd hatom (by decide)
    | _ => rfl
  · rw [if_neg hall] at hverify
    exact absurd hverify (by simp)

/-- An accepted envelope with the hash of a value has the value. -/
theorem showsTampering (hkind : kind.Regular runtime) (hnames : value.uniqueNames = true)
    (hdefined : undefinedInMembers value = true) (hchecks : kind.checks runtime value = .ok ())
    (hsha : runtime.NoCollision value) : kind.ShowsTampering runtime value := by
  intro written envelope hcreate hunique hother hverify hhash
  obtain rfl := (create_eq_ok hdefined hchecks).mp hcreate
  obtain ⟨-, -, -, -, actual, hactual, htext⟩ := verify_eq_ok.mp hverify
  rw [hash_eq hother] at hactual
  obtain rfl := Except.ok.inj hactual
  rw [htext, (get_envelope hkind value _).2.2] at hhash
  have hdigest : runtime.digest (get envelope kind.field) = runtime.digest value :=
    Option.some.inj hhash
  have hsame := hsha _ (canonicalGovernanceJson_of_defined hdefined) _ hdigest
  have hvalue : (get envelope kind.field).uniqueNames = true := uniqueNames_get hunique _
  have hsorted : ((sorted unitsLe (get envelope kind.field)).mapAtoms JsAtom.written) =
      ((sorted unitsLe value).mapAtoms JsAtom.written) := by
    have hwritten (tree : JsValue) : (tree.mapAtoms JsAtom.written).text
        (JsAtom.letters runtime.format) = tree.text (JsAtom.letters runtime.format) :=
      congrArg JsonToken.render (tokens_mapAtoms (JsAtom.letters_written runtime.format) tree)
    have hok (tree : JsValue) : (tree.mapAtoms JsAtom.written).allAtoms
        (fun atom => atom.written == atom) = true := by
      refine @allAtoms_mapAtoms _ _ _ (fun _ => true) _ ?_ tree (allAtoms_of_forall (fun _ => rfl) tree)
      intro atom _
      cases atom <;> exact beq_self_eq_true _
    refine text_injective (JsAtom.lettered hformat) ?_
      (uniqueNames_mapAtoms _ ((uniqueNames_sorted unitsLe _).trans hvalue))
      (uniqueNames_mapAtoms _ ((uniqueNames_sorted unitsLe _).trans hnames)) (hok _) (hok _) ?_
    · intro first second hfirst hsecond
      exact JsAtom.letters_inj hformat (beq_iff_eq.mp hfirst) (beq_iff_eq.mp hsecond)
    · rw [hwritten, hwritten]
      exact hsame
  rw [← sorted_mapAtoms, ← sorted_mapAtoms] at hsorted
  exact same_of_sorted_eq unitsLe (uniqueNames_mapAtoms _ hvalue) (uniqueNames_mapAtoms _ hnames) hsorted

end Envelopes

/-- Accepted evidence, and an accepted sign-off, is read back from its file and has a hash of
its own, exactly when no member of it is there and `undefined` and no number is infinite. -/
theorem evidence_file_iff {runtime : EvidenceRuntime} (hformat : runtime.format.Lawful)
    (hhex : runtime.HexDigests) {value : JsValue} (hnames : value.uniqueNames = true)
    (hdefined : undefinedInMembers value = true) (hsha : runtime.NoCollision value) :
    (evidenceChecks runtime value = .ok () →
      (evidenceEnvelope.Survives runtime value ∧ evidenceEnvelope.ShowsTampering runtime value ↔
        JsValue.isJson value = true)) ∧
    (signOffChecks runtime value = .ok () →
      (signOffEnvelope.Survives runtime value ∧ signOffEnvelope.ShowsTampering runtime value ↔
        JsValue.isJson value = true)) := by
  have hone {kind : EnvelopeKind} (hkind : kind.Regular runtime)
      (hchecks : kind.checks runtime value = .ok ()) :
      kind.Survives runtime value ∧ kind.ShowsTampering runtime value ↔
        JsValue.isJson value = true := by
    constructor
    · rintro ⟨hsurvives, -⟩
      exact isJson_of_survives hformat hkind hnames hdefined hchecks hsurvives
    · intro hjson
      exact ⟨survives_of_isJson hformat hkind hhex hnames hjson hdefined hchecks,
        showsTampering hformat hkind hnames hdefined hchecks hsha⟩
  exact ⟨hone (regular_evidenceEnvelope runtime), hone (regular_signOffEnvelope runtime)⟩

/-! ## A rehearsal -/

section Rehearsal

/-- Integers are written as usual, and other numbers as fractions. -/
def fractionText (number : Double) : List Char :=
  (toString number.value.num).toList ++
    if number.value.den = 1 then [] else '.' :: (toString (number.value.den : Int)).toList

theorem point_notMem (n : Int) : '.' ∉ (toString n).toList := by
  intro hmem
  rcases Separators.mem_toString_int hmem with hdigit | hsign
  · exact absurd hdigit (by decide)
  · exact absurd hsign (by decide)

theorem fractionText_injective : Function.Injective fractionText := by
  intro first second h
  have hsame : first.value.num = second.value.num ∧ first.value.den = second.value.den := by
    unfold fractionText at h
    by_cases hone : first.value.den = 1
    · by_cases hother : second.value.den = 1
      · rw [if_pos hone, if_pos hother, List.append_nil, List.append_nil] at h
        exact ⟨Separators.toString_int_injective h, hone.trans hother.symm⟩
      · rw [if_pos hone, if_neg hother, List.append_nil] at h
        exact absurd (h ▸ List.mem_append_right _ List.mem_cons_self) (point_notMem _)
    · by_cases hother : second.value.den = 1
      · rw [if_neg hone, if_pos hother, List.append_nil] at h
        exact absurd (h.symm ▸ List.mem_append_right _ List.mem_cons_self) (point_notMem _)
      · rw [if_neg hone, if_neg hother] at h
        obtain ⟨hnum, hden⟩ :=
          Separators.append_cons_inj_first (point_notMem _) (point_notMem _) h
        exact ⟨Separators.toString_int_injective hnum,
          Int.ofNat_inj.mp (Separators.toString_int_injective hden)⟩
  have hvalue : first.value = second.value := Rat.ext hsame.1 hsame.2
  cases first
  cases second
  subst hvalue
  rfl

/-- Numbers are read as what has their text. -/
noncomputable def fractionFormat : NumberFormat where
  numberText := fractionText
  readNumber word :=
    open Classical in
    if h : ∃ number, fractionText number = word then some (.number h.choose) else none

theorem lawful_fractionFormat : fractionFormat.Lawful where
  read_text number := by
    classical
    have hex : ∃ other, fractionText other = fractionText number := ⟨number, rfl⟩
    show (if h : ∃ other, fractionText other = fractionText number then
      some (JsAtom.number h.choose) else none) = _
    rw [dif_pos hex, fractionText_injective hex.choose_spec]
  head number := by
    have hne := Separators.toString_int_ne_nil number.value.num
    cases htext : (toString number.value.num).toList with
    | nil => exact absurd htext hne
    | cons c rest =>
        refine ⟨c, rest ++ if number.value.den = 1 then [] else
          '.' :: (toString (number.value.den : Int)).toList, ?_, ?_⟩
        · show (toString number.value.num).toList ++ _ = _
          rw [htext]
          rfl
        · exact Separators.mem_toString_int (htext ▸ List.mem_cons_self)
  letter number c hc := by
    have hint {n : Int} (h : c ∈ (toString n).toList) : isLetter c = true := by
      rcases Separators.mem_toString_int h with hdigit | rfl
      · simp [isLetter, Char.isAlphanum, hdigit]
      · rfl
    rcases List.mem_append.mp hc with hnum | hden
    · exact hint hnum
    · split at hden
      · exact absurd hden List.not_mem_nil
      · rcases List.mem_cons.mp hden with rfl | hden
        · rfl
        · exact hint hden

/-- One check that has passed, with further members of its record. -/
def rehearsal (members : List (String × JsValue)) : JsValue :=
  .object [("schemaVersion", .atom (.number Double.one)),
    ("generatedAt", .string "2026-01-15T12:00:00.000Z"), ("environment", .string "staging"),
    ("ceremony", .string "invariants"), ("status", .string "passed"),
    ("correlationId", .string "rehearsal"), ("commitSha", .string "0a1b2c3"),
    ("migrationVersion", .string "42"), ("actorHashes", .array []),
    ("reviewerSignOff", .atom .null),
    ("records", .array [.object ([("type", .string "check"), ("status", .string "passed"),
      ("timestamp", .string "2026-01-15T12:00:00.000Z"), ("expectedOutcome", .string "ok"),
      ("actualOutcome", .string "ok")] ++ members)])]

/-- A runtime in which the canonical text of a value has a digest of its own. -/
noncomputable def runtimeFor (value : JsValue) (digest : String) : EvidenceRuntime where
  format := fractionFormat
  isDate text := text == "2026-01-15T12:00:00.000Z".toList
  sha256 text :=
    if some text = canonicalGovernanceJson fractionFormat value then digest
    else "0000000000000000000000000000000000000000000000000000000000000000"

theorem hexDigests_runtimeFor (value : JsValue) {digest : String}
    (hdigest : sha256Hash.test digest.toList = true) : (runtimeFor value digest).HexDigests := by
  intro text
  show sha256Hash.test (if _ then digest else _).toList = true
  split
  · exact hdigest
  · decide

theorem noCollision_runtimeFor (value : JsValue) {digest : String}
    (hdigest : digest ≠ "0000000000000000000000000000000000000000000000000000000000000000") :
    (runtimeFor value digest).NoCollision value := by
  intro canonical hcanonical other h
  change (if _ then digest else _) = (if _ then digest else _) at h
  have hfound : some canonical = canonicalGovernanceJson fractionFormat value := hcanonical.symm
  rw [if_pos hfound] at h
  split at h
  · next hother => exact Option.some.inj (hother.trans hcanonical)
  · exact absurd h.symm hdigest

/-- The digests of the two rehearsals. -/
def rehearsalDigest : String := "987f8f01b357e69acfce9e7c85bea7ad53a4396917afe265a561af54e635b144"

def lostReferenceDigest : String := "3a9ec36ed569b1b7fb9f8947a1c7ab7eac18808a23b4aed6a628948f9225e7a6"

set_option maxRecDepth 100000 in
/-- Both rehearsals are accepted. -/
theorem accepted_rehearsals :
    evidenceChecks (runtimeFor (rehearsal []) rehearsalDigest) (rehearsal []) = .ok () ∧
      evidenceChecks (runtimeFor (rehearsal [("reference", .atom .undefined)]) lostReferenceDigest)
        (rehearsal [("reference", .atom .undefined)]) = .ok () :=
  ⟨by decide, by decide⟩

theorem evidence_file_iff_plain :
    evidenceEnvelope.Survives (runtimeFor (rehearsal []) rehearsalDigest) (rehearsal []) ∧
      evidenceEnvelope.ShowsTampering (runtimeFor (rehearsal []) rehearsalDigest) (rehearsal []) :=
  ((evidence_file_iff lawful_fractionFormat (hexDigests_runtimeFor _ (by decide)) (by decide)
    (by decide) (noCollision_runtimeFor _ (by decide))).1 accepted_rehearsals.1).mpr (by decide)

/-- A reference that is there and `undefined`: the evidence is accepted, and its file is no
JSON. -/
theorem undefined_reference_lost :
    evidenceChecks (runtimeFor (rehearsal [("reference", .atom .undefined)]) lostReferenceDigest)
        (rehearsal [("reference", .atom .undefined)]) = .ok () ∧
      ¬evidenceEnvelope.Survives
        (runtimeFor (rehearsal [("reference", .atom .undefined)]) lostReferenceDigest)
        (rehearsal [("reference", .atom .undefined)]) := by
  have haccepted := accepted_rehearsals.2
  refine ⟨haccepted, fun hsurvives => ?_⟩
  have hjson := isJson_of_survives lawful_fractionFormat (regular_evidenceEnvelope _) (by decide)
    (by decide) haccepted hsurvives
  exact absurd hjson (by decide)

end Rehearsal

end AvantimePlatform.Governance
