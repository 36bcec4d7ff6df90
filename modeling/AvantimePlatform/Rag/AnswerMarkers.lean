import AvantimePlatform.Lib.Replace
import AvantimePlatform.Lib.Text

/-!
# The source markers of an answer

`sanitizeAnswerCitations` of `rag-answer.ts` takes the markers out of an answer that
name a source which was not given to the provider.  It goes over the text once, and
taking a marker out joins the text on both sides of it.  `HidesMarker` says which
answers have a marker that comes together in this way; `sanitized_markers_allowed_iff`
shows that these, and no others, come out with a marker that is not allowed, and that
on all others the function changes nothing the second time.
-/

namespace AvantimePlatform.Rag

open AvantimePlatform.Replace AvantimePlatform.Text

/-! ## Markers -/

/-- `[A-Za-z0-9_-]`. -/
def isMarkerCharacter (c : Char) : Bool := c.isAlphanum || c == '_' || c == '-'

/-- `[A-Za-z][A-Za-z0-9_-]{0,31}`. -/
def isMarkerId : List Char → Bool
  | [] => false
  | c :: rest => c.isAlpha && rest.all isMarkerCharacter && decide (rest.length ≤ 31)

/-- `[id]`. -/
def marker (id : List Char) : List Char := '[' :: (id ++ [']'])

/-- The id of the marker at the head of a text. -/
def markerAt : List Char → Option (List Char)
  | [] => none
  | c :: rest =>
    let id := rest.takeWhile isMarkerCharacter
    if c = '[' ∧ isMarkerId id = true ∧ (rest.drop id.length).head? = some ']' then some id
    else none

/-- The pattern of `sanitizeAnswerCitations`, and what it puts in the place of a marker. -/
def markerPattern (allowed : List Char → Bool) : Pattern Char := fun xs =>
  (markerAt xs).map fun id => (id.length + 1, if allowed id then marker id else [])

/-- `[ \t]`. -/
def isSpaceOrTab (c : Char) : Bool := c == ' ' || c == '\t'

/-- `sanitizeAnswerCitations`. -/
def sanitizeAnswerCitations (answer : String) (allowedSourceIds : String → Bool) : String :=
  let removed := replaceAll (markerPattern fun id => allowedSourceIds (String.ofList id))
    answer.toList
  String.ofList (trim isBlank (collapse isSpaceOrTab 2 [' '] removed))

theorem isMarkerCharacter_of_isMarkerId {id : List Char} (h : isMarkerId id = true) :
    ∀ c ∈ id, isMarkerCharacter c = true := by
  cases id with
  | nil => cases h
  | cons c rest =>
      simp only [isMarkerId, Bool.and_eq_true, List.all_eq_true] at h
      refine List.forall_mem_cons.mpr ⟨?_, h.1.2⟩
      have halpha := h.1.1
      simp [isMarkerCharacter, Char.isAlphanum, halpha]

theorem ne_bracket {c : Char} (h : isMarkerCharacter c = true) : c ≠ '[' ∧ c ≠ ']' := by
  constructor
  · rintro rfl
    exact absurd h (by decide)
  · rintro rfl
    exact absurd h (by decide)

/-- What `markerAt` finds. -/
theorem markerAt_eq_some {xs id : List Char} :
    markerAt xs = some id ↔ isMarkerId id = true ∧ ∃ rest, xs = marker id ++ rest := by
  cases xs with
  | nil => simp [markerAt, marker]
  | cons c rest =>
      unfold markerAt
      dsimp only
      constructor
      · intro h
        split at h
        · next hfound =>
            obtain ⟨rfl, hid, hclose⟩ := hfound
            have heq := Option.some.inj h
            rw [heq] at hid hclose
            refine ⟨hid, (rest.drop id.length).tail, ?_⟩
            have hcons : rest.drop id.length = ']' :: (rest.drop id.length).tail := by
              cases hdrop : rest.drop id.length with
              | nil =>
                  rw [hdrop] at hclose
                  cases hclose
              | cons d tail =>
                  rw [hdrop] at hclose
                  rw [Option.some.inj hclose]
                  rfl
            have htake : rest.take id.length = id := by
              rw [← heq, take_run]
            have hsplit := List.take_append_drop id.length rest
            rw [htake, hcons] at hsplit
            unfold marker
            rw [List.cons_append, List.append_assoc]
            exact congrArg _ hsplit.symm
        · cases h
      · rintro ⟨hid, tail, htext⟩
        unfold marker at htext
        rw [List.cons_append, List.append_assoc] at htext
        obtain ⟨rfl, rfl⟩ := List.cons.inj htext
        have htake : (id ++ ([']'] ++ tail)).takeWhile isMarkerCharacter = id :=
          takeWhile_run (isMarkerCharacter_of_isMarkerId hid) (by simp; decide)
        rw [htake, if_pos ⟨rfl, hid, by simp⟩]

/-- The induction along the markers of a text. -/
theorem markers_induction {P : List Char → Prop} (nil : P [])
    (found : ∀ id rest, isMarkerId id = true → P rest → P (marker id ++ rest))
    (other : ∀ c rest, markerAt (c :: rest) = none → P rest → P (c :: rest))
    (xs : List Char) : P xs := by
  induction xs using replaceAll_induction (m := markerPattern fun _ => true) with
  | nil => exact nil
  | matched x xs n out hfound ih =>
      obtain ⟨id, hid, heq⟩ := Option.map_eq_some_iff.mp hfound
      obtain ⟨hvalid, rest, htext⟩ := markerAt_eq_some.mp hid
      have hn : id.length + 1 = n := (Prod.mk.inj heq).1
      have hxs : xs = id ++ ']' :: rest := by
        unfold marker at htext
        rw [List.cons_append, List.append_assoc] at htext
        exact (List.cons.inj htext).2
      have hdrop : xs.drop n = rest := by
        rw [hxs, ← hn]
        simp
      rw [hdrop] at ih
      rw [htext]
      exact found id rest hvalid ih
  | kept x xs hnone ih => exact other x xs (Option.map_eq_none_iff.mp hnone) ih

/-! ## The pass over the markers -/

section Pass

variable {allowed : List Char → Bool} {c : Char} {rest id : List Char}

theorem replaceAll_of_markerAt_none (h : markerAt (c :: rest) = none) :
    replaceAll (markerPattern allowed) (c :: rest) =
      c :: replaceAll (markerPattern allowed) rest :=
  replaceAll_of_none (by simp [markerPattern, h])

theorem replaceAll_of_ne (h : c ≠ '[') :
    replaceAll (markerPattern allowed) (c :: rest) =
      c :: replaceAll (markerPattern allowed) rest := by
  refine replaceAll_of_markerAt_none ?_
  unfold markerAt
  exact if_neg fun hopen => h hopen.1

theorem replaceAll_marker (hid : isMarkerId id = true) :
    replaceAll (markerPattern allowed) (marker id ++ rest) =
      (if allowed id then marker id else []) ++ replaceAll (markerPattern allowed) rest := by
  have hfound : markerAt ('[' :: (id ++ ']' :: rest)) = some id :=
    markerAt_eq_some.mpr ⟨hid, rest, by simp [marker]⟩
  have htext : marker id ++ rest = '[' :: (id ++ ']' :: rest) := by simp [marker]
  have hpattern : markerPattern allowed ('[' :: (id ++ ']' :: rest)) =
      some (id.length + 1, if allowed id then marker id else []) := by
    simp [markerPattern, hfound]
  rw [htext, replaceAll_of_match hpattern]
  congr 2
  simp

/-- A marker does not reach over an opening bracket. -/
theorem markerAt_append_bracket {front : List Char} (h : markerAt (c :: front) = none) :
    markerAt (c :: front ++ '[' :: rest) = none := by
  rw [Option.eq_none_iff_forall_ne_some]
  intro id hid
  obtain ⟨hvalid, tail, htext⟩ := markerAt_eq_some.mp hid
  rcases List.append_eq_append_iff.mp htext with ⟨behind, hmarker, hrest⟩ | ⟨tail', hfront, -⟩
  · -- The bracket would be inside the marker.
    cases behind with
    | nil =>
        rw [List.append_nil] at hmarker
        have hfound : markerAt (c :: front) = some id :=
          markerAt_eq_some.mpr ⟨hvalid, [], by rw [List.append_nil, hmarker]⟩
        rw [h] at hfound
        cases hfound
    | cons d behind =>
        have hd : d = '[' := (List.cons.inj hrest).1.symm
        unfold marker at hmarker
        rw [List.cons_append] at hmarker
        have hinside : '[' ∈ id ++ [']'] := by
          rw [(List.cons.inj hmarker).2, hd]
          simp
        rcases List.mem_append.mp hinside with hmem | hmem
        · exact (ne_bracket (isMarkerCharacter_of_isMarkerId hvalid _ hmem)).1 rfl
        · exact absurd hmem (by decide)
  · have hfound : markerAt (c :: front) = some id := markerAt_eq_some.mpr ⟨hvalid, tail', hfront⟩
    rw [h] at hfound
    cases hfound

/-- The pass over what stands before an opening bracket does not depend on what follows. -/
theorem replaceAll_append_bracket (front : List Char) :
    replaceAll (markerPattern allowed) (front ++ '[' :: rest) =
      replaceAll (markerPattern allowed) front ++
        replaceAll (markerPattern allowed) ('[' :: rest) := by
  induction front using markers_induction with
  | nil => rfl
  | found id front hid ih =>
      rw [List.append_assoc, replaceAll_marker hid, replaceAll_marker hid, ih, List.append_assoc]
  | other c front hnone ih =>
      have hnone' : markerAt (c :: (front ++ '[' :: rest)) = none := markerAt_append_bracket hnone
      rw [List.cons_append, replaceAll_of_markerAt_none hnone,
        replaceAll_of_markerAt_none hnone', ih, List.cons_append]

end Pass

/-! ## Markers that come together -/

/-- The text reads as the id when the markers in it that are not allowed are left out. -/
inductive Spells (allowed : List Char → Bool) : List Char → List Char → Prop where
  | nil : Spells allowed [] []
  | character {c : Char} {text id : List Char} : isMarkerCharacter c = true →
      Spells allowed text id → Spells allowed (c :: text) (c :: id)
  | removed {other text id : List Char} : isMarkerId other = true → allowed other = false →
      Spells allowed text id → Spells allowed (marker other ++ text) id

/-- A marker that is not allowed, with other such markers inside its brackets. -/
def HidesMarker (allowed : List Char → Bool) (text : List Char) : Prop :=
  ∃ front inside id back, text = front ++ '[' :: inside ++ ']' :: back ∧
    Spells allowed inside id ∧ inside ≠ id ∧ isMarkerId id = true ∧ allowed id = false

/-- A text has a marker that is not allowed. -/
def HasForbidden (allowed : List Char → Bool) (text : List Char) : Prop :=
  ∃ id, isMarkerId id = true ∧ allowed id = false ∧ marker id <:+: text

section Hidden

variable {allowed : List Char → Bool}

theorem Spells.replaceAll_append {inside id : List Char} (h : Spells allowed inside id)
    (back : List Char) :
    replaceAll (markerPattern allowed) (inside ++ ']' :: back) =
      id ++ ']' :: replaceAll (markerPattern allowed) back := by
  induction h with
  | nil => exact replaceAll_of_ne (by decide)
  | character hc hspells ih =>
      rw [List.cons_append, replaceAll_of_ne (ne_bracket hc).1, ih, List.cons_append]
  | removed hother hforbidden hspells ih =>
      rw [List.append_assoc, replaceAll_marker hother, hforbidden, ih]
      rfl

/-- Only the id itself, unbroken, can be read as a marker. -/
theorem Spells.eq_of_marker {inside id : List Char} (h : Spells allowed inside id)
    {back rest : List Char} : ∀ {read : List Char},
      (∀ c ∈ read, isMarkerCharacter c = true) →
      inside ++ ']' :: back = read ++ ']' :: rest → inside = id := by
  induction h with
  | nil => exact fun _ _ => rfl
  | @character c text id hc hspells ih =>
      intro read hread htext
      cases read with
      | nil => exact absurd (List.cons.inj htext).1 (ne_bracket hc).2
      | cons d read =>
          have htail := (List.forall_mem_cons.mp hread).2
          rw [ih htail (List.cons.inj htext).2]
  | removed hother hforbidden hspells ih =>
      intro read hread htext
      cases read with
      | nil => exact absurd (List.cons.inj htext).1 (by decide)
      | cons d read =>
          have hd := (List.forall_mem_cons.mp hread).1
          exact absurd (List.cons.inj htext).1.symm (ne_bracket hd).1

theorem hasForbidden_of_hidesMarker {text : List Char} (h : HidesMarker allowed text) :
    HasForbidden allowed (replaceAll (markerPattern allowed) text) := by
  obtain ⟨front, inside, id, back, rfl, hspells, hne, hid, hforbidden⟩ := h
  have hnone : markerAt ('[' :: (inside ++ ']' :: back)) = none := by
    rw [Option.eq_none_iff_forall_ne_some]
    intro read hread
    obtain ⟨hvalid, rest, hsplit⟩ := markerAt_eq_some.mp hread
    unfold marker at hsplit
    rw [List.cons_append, List.append_assoc] at hsplit
    exact hne (hspells.eq_of_marker (isMarkerCharacter_of_isMarkerId hvalid)
      (List.cons.inj hsplit).2)
  refine ⟨id, hid, hforbidden, replaceAll (markerPattern allowed) front,
    replaceAll (markerPattern allowed) back, ?_⟩
  have htext : front ++ '[' :: inside ++ ']' :: back =
      front ++ '[' :: (inside ++ ']' :: back) := by simp
  rw [htext, replaceAll_append_bracket, replaceAll_of_markerAt_none hnone,
    hspells.replaceAll_append]
  simp [marker]

/-- A text that reads as an id and a closing bracket after the pass. -/
theorem spells_of_replaceAll {text : List Char} : ∀ {id back : List Char},
    (∀ c ∈ id, isMarkerCharacter c = true) →
    replaceAll (markerPattern allowed) text = id ++ ']' :: back →
    ∃ inside rest, text = inside ++ ']' :: rest ∧ Spells allowed inside id := by
  induction text using markers_induction with
  | nil =>
      intro id back _ htext
      simp at htext
  | found other rest hother ih =>
      intro id back hid htext
      rw [replaceAll_marker hother] at htext
      cases hallowed : allowed other with
      | true =>
          -- The text begins with a bracket, and what it reads as does not.
          rw [hallowed, if_pos rfl] at htext
          cases id with
          | nil => exact absurd (List.cons.inj htext).1 (by decide)
          | cons c id =>
              have hc := hid c List.mem_cons_self
              exact absurd (List.cons.inj htext).1.symm (ne_bracket hc).1
      | false =>
          rw [hallowed] at htext
          obtain ⟨inside, tail, rfl, hspells⟩ := ih hid htext
          exact ⟨marker other ++ inside, tail, by rw [List.append_assoc],
            .removed hother hallowed hspells⟩
  | other c rest hnone ih =>
      intro id back hid htext
      rw [replaceAll_of_markerAt_none hnone] at htext
      cases id with
      | nil =>
          rw [(List.cons.inj htext).1]
          exact ⟨[], rest, rfl, .nil⟩
      | cons d id =>
          obtain ⟨rfl, hrest⟩ := List.cons.inj htext
          obtain ⟨hc, hid'⟩ := List.forall_mem_cons.mp hid
          obtain ⟨inside, tail, rfl, hspells⟩ := ih hid' hrest
          exact ⟨c :: inside, tail, rfl, .character hc hspells⟩

theorem HidesMarker.append {text : List Char} (h : HidesMarker allowed text)
    (before : List Char) : HidesMarker allowed (before ++ text) := by
  obtain ⟨front, inside, id, back, rfl, hrest⟩ := h
  exact ⟨before ++ front, inside, id, back, by simp, hrest⟩

/-- A word that begins with a bracket stands behind a text without one. -/
theorem infix_of_append_free {front word text : List Char} (hfree : '[' ∉ front)
    (h : '[' :: word <:+: front ++ text) : '[' :: word <:+: text := by
  induction front with
  | nil => exact h
  | cons c front ih =>
      rw [List.cons_append, List.infix_cons_iff] at h
      rcases h with hstart | hinside
      · exact absurd (List.mem_cons.mpr (Or.inl (List.cons_prefix_cons.mp hstart).1)) hfree
      · exact ih (fun hmem => hfree (List.mem_cons_of_mem c hmem)) hinside

theorem hidesMarker_of_hasForbidden {text : List Char}
    (h : HasForbidden allowed (replaceAll (markerPattern allowed) text)) :
    HidesMarker allowed text := by
  obtain ⟨id, hid, hforbidden, hpiece⟩ := h
  have hcharacters := isMarkerCharacter_of_isMarkerId hid
  induction text using markers_induction with
  | nil =>
      have hnil := List.infix_nil.mp hpiece
      cases hnil
  | found other rest hother ih =>
      refine HidesMarker.append (ih ?_) (marker other)
      rw [replaceAll_marker hother] at hpiece
      cases hallowed : allowed other with
      | false => simpa [hallowed] using hpiece
      | true =>
          rw [hallowed, if_pos rfl] at hpiece
          have htext : marker other ++ replaceAll (markerPattern allowed) rest =
              '[' :: ((other ++ [']']) ++ replaceAll (markerPattern allowed) rest) := by
            simp [marker]
          -- The marker is the kept one, or it stands behind it.
          rw [htext, List.infix_cons_iff] at hpiece
          rcases hpiece with ⟨t, hsplit⟩ | hbehind
          · rw [← htext] at hsplit
            have hfound := markerAt_eq_some.mpr ⟨hother, _, hsplit⟩
            rw [markerAt_eq_some.mpr ⟨hid, t, rfl⟩] at hfound
            rw [← Option.some.inj hfound, hforbidden] at hallowed
            cases hallowed
          · refine infix_of_append_free ?_ hbehind
            intro hmem
            rcases List.mem_append.mp hmem with hinside | hclose
            · exact (ne_bracket (isMarkerCharacter_of_isMarkerId hother _ hinside)).1 rfl
            · exact absurd hclose (by decide)
  | other c rest hnone ih =>
      rw [replaceAll_of_markerAt_none hnone, List.infix_cons_iff] at hpiece
      rcases hpiece with hstart | hinside
      · obtain ⟨t, hsplit⟩ := hstart
        unfold marker at hsplit
        rw [List.cons_append, List.append_assoc] at hsplit
        obtain ⟨rfl, hrest⟩ := List.cons.inj hsplit
        obtain ⟨inside, tail, rfl, hspells⟩ := spells_of_replaceAll hcharacters hrest.symm
        refine ⟨[], inside, id, tail, rfl, hspells, ?_, hid, hforbidden⟩
        rintro rfl
        rw [markerAt_eq_some.mpr ⟨hid, tail, by simp [marker]⟩] at hnone
        cases hnone
      · exact HidesMarker.append (ih hinside) [c]

end Hidden

/-! ## The answer -/

section Answer

variable {allowed : List Char → Bool}

/-- The pass leaves a text alone in which every marker is allowed. -/
theorem replaceAll_eq_self_of_not {text : List Char} (h : ¬HasForbidden allowed text) :
    replaceAll (markerPattern allowed) text = text := by
  induction text using markers_induction with
  | nil => rfl
  | found id rest hid ih =>
      have hallowed : allowed id = true := by
        by_contra hnot
        exact h ⟨id, hid, by simpa using hnot, (List.prefix_append _ _).isInfix⟩
      have hrest : ¬HasForbidden allowed rest := by
        rintro ⟨other, hother, hforbidden, hpiece⟩
        exact h ⟨other, hother, hforbidden, hpiece.trans (List.suffix_append _ _).isInfix⟩
      rw [replaceAll_marker hid, hallowed, if_pos rfl, ih hrest]
  | other c rest hnone ih =>
      have hrest : ¬HasForbidden allowed rest := by
        rintro ⟨other, hother, hforbidden, hpiece⟩
        exact h ⟨other, hother, hforbidden, hpiece.trans (List.suffix_cons c rest).isInfix⟩
      rw [replaceAll_of_markerAt_none hnone, ih hrest]

theorem isBlank_of_isMarkerCharacter {c : Char} (h : isMarkerCharacter c = true) :
    isBlank c = false := by
  simp only [isMarkerCharacter, Bool.or_eq_true, beq_iff_eq, Char.isAlphanum, Char.isAlpha,
    Char.isUpper, Char.isLower, Char.isDigit, Bool.and_eq_true, decide_eq_true_eq,
    UInt32.le_iff_toNat_le, ge_iff_le] at h
  change ((((65 ≤ c.toNat ∧ c.toNat ≤ 90) ∨ 97 ≤ c.toNat ∧ c.toNat ≤ 122) ∨
    48 ≤ c.toNat ∧ c.toNat ≤ 57) ∨ c = '_') ∨ c = '-' at h
  have hcodes : ∀ code ∈ blankCodes, code ≤ 32 ∨ 160 ≤ code := by decide
  rw [isBlank, List.contains_eq_mem, decide_eq_false_iff_not]
  intro hmem
  have hcode := hcodes c.toNat hmem
  rcases h with (((h | h) | h) | rfl) | rfl
  · omega
  · omega
  · omega
  · exact absurd hmem (by decide)
  · exact absurd hmem (by decide)

theorem isWord_marker {id : List Char} (hid : isMarkerId id = true) :
    IsWord isBlank (marker id) := by
  intro c hc
  unfold marker at hc
  rcases List.mem_cons.mp hc with rfl | hc
  · decide
  · rcases List.mem_append.mp hc with hinside | hclose
    · exact isBlank_of_isMarkerCharacter (isMarkerCharacter_of_isMarkerId hid c hinside)
    · rw [List.mem_singleton.mp hclose]
      decide

theorem isBlank_of_isSpaceOrTab {c : Char} (h : isSpaceOrTab c = true) : isBlank c = true := by
  simp only [isSpaceOrTab, Bool.or_eq_true, beq_iff_eq] at h
  rcases h with rfl | rfl
  · decide
  · decide

/-- The blanks that are collapsed and cut off are in no marker. -/
theorem hasForbidden_trim_collapse (text : List Char) :
    HasForbidden allowed (trim isBlank (collapse isSpaceOrTab 2 [' '] text)) ↔
      HasForbidden allowed text := by
  refine exists_congr fun id => and_congr_right fun hid => and_congr_right fun _ => ?_
  have hblank := isWord_marker hid
  have hspace : IsWord isSpaceOrTab (marker id) := by
    intro c hc
    rw [Bool.eq_false_iff]
    intro hspace
    have hboth := isBlank_of_isSpaceOrTab hspace
    rw [hblank c hc] at hboth
    cases hboth
  have hne : marker id ≠ [] := by simp [marker]
  rw [infix_trim_iff hblank hne]
  exact infix_replaceAll_iff (within_run (by simp) (by simp; decide)) hspace hne text

/-- Every marker of the text names an allowed source. -/
def MarkersAllowed (allowedSourceIds : String → Bool) (text : String) : Prop :=
  ∀ id, isMarkerId id = true → marker id <:+: text.toList →
    allowedSourceIds (String.ofList id) = true

theorem markersAllowed_iff {allowedSourceIds : String → Bool} {text : String} :
    MarkersAllowed allowedSourceIds text ↔
      ¬HasForbidden (fun id => allowedSourceIds (String.ofList id)) text.toList := by
  constructor
  · rintro h ⟨id, hid, hforbidden, hpiece⟩
    have hallowed := h id hid hpiece
    dsimp only at hforbidden
    rw [hallowed] at hforbidden
    cases hforbidden
  · intro h id hid hpiece
    by_contra hnot
    exact h ⟨id, hid, by simpa using hnot, hpiece⟩

/-- The markers of a sanitized answer are allowed, and sanitizing it again changes nothing,
exactly when no marker that is not allowed comes together in the answer. -/
theorem sanitized_markers_allowed_iff (answer : String) (allowedSourceIds : String → Bool) :
    (MarkersAllowed allowedSourceIds (sanitizeAnswerCitations answer allowedSourceIds) ∧
      sanitizeAnswerCitations (sanitizeAnswerCitations answer allowedSourceIds) allowedSourceIds =
        sanitizeAnswerCitations answer allowedSourceIds) ↔
      ¬HidesMarker (fun id => allowedSourceIds (String.ofList id)) answer.toList := by
  have hforbidden : HasForbidden (fun id => allowedSourceIds (String.ofList id))
      (sanitizeAnswerCitations answer allowedSourceIds).toList ↔
        HidesMarker (fun id => allowedSourceIds (String.ofList id)) answer.toList := by
    unfold sanitizeAnswerCitations
    rw [String.toList_ofList, hasForbidden_trim_collapse]
    exact ⟨hidesMarker_of_hasForbidden, hasForbidden_of_hidesMarker⟩
  rw [markersAllowed_iff, hforbidden]
  refine and_iff_left_of_imp fun hnone => ?_
  -- Nothing is left for the second time to change.
  rw [← hforbidden] at hnone
  have hpass := replaceAll_eq_self_of_not hnone
  unfold sanitizeAnswerCitations at hpass ⊢
  dsimp only at hpass ⊢
  rw [hpass, String.toList_ofList]
  have hshort := (shortRuns_collapse isSpaceOrTab (show [' '].length < 2 by decide)
    (replaceAll (markerPattern fun id => allowedSourceIds (String.ofList id))
      answer.toList)).of_within (trim_within isBlank _)
  rw [collapse_eq_self hshort, trim_trim]

/-- Taking out `[X]` puts `[S9]` together. -/
theorem sanitized_answer_names_S9 :
    ¬(MarkersAllowed (· == "S1") (sanitizeAnswerCitations "See [S[X]9]." (· == "S1")) ∧
      sanitizeAnswerCitations (sanitizeAnswerCitations "See [S[X]9]." (· == "S1")) (· == "S1") =
        sanitizeAnswerCitations "See [S[X]9]." (· == "S1")) := by
  have hanswer : (sanitizeAnswerCitations "See [S[X]9]." (· == "S1")).toList =
      "See ".toList ++ marker ['S', '9'] ++ ".".toList := by decide
  rintro ⟨hallowed, -⟩
  have hmarker := hallowed ['S', '9'] (by decide) ⟨"See ".toList, ".".toList, hanswer.symm⟩
  exact absurd hmarker (by decide)

end Answer

end AvantimePlatform.Rag
