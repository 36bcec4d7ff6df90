import AvantimePlatform.Documents.Intelligence
import AvantimePlatform.Lib.Solid

/-!
# The pages of recognised documents

`TesseractDocumentOcrProvider.recognize` joins the texts of the images with a form feed,
and `process` splits the text at every form feed, those of Tesseract included.  So the
number of a part is the number of its image only as long as no form feed came before.

* `map_solidText_splitOn`: the parts of the joined text are those of the images.
* `formFeedsEnd_iff`: each part that is not blank has the number of its image exactly
  when only blank text follows the first form feed.
* `ocr_pages_right_iff` says it of the chunks.
-/

namespace AvantimePlatform.Documents.Intelligence

open AvantimePlatform.Checked AvantimePlatform.Replace AvantimePlatform.Documents
open AvantimePlatform.Documents.Record
open AvantimePlatform.Rag (CodeUnit newline carriageReturn space isBlankUnit isNewline)

/-! ## What a text says -/

/-- `normalize('NFC')` works on the two sides of a line break or a form feed separately. -/
structure KeepsBreaks (nfc : List CodeUnit → List CodeUnit) : Prop where
  empty : nfc [] = []
  breaks (unit : CodeUnit) : unit = newline ∨ unit = formFeed → ∀ before behind,
    nfc (before ++ unit :: behind) = nfc before ++ unit :: nfc behind

/-- The normal form of a text, without white space and null characters. -/
def solidText (nfc : List CodeUnit → List CodeUnit) (text : List CodeUnit) : List CodeUnit :=
  solid isBlankUnit ((nfc text).filter (· != 0))

/-- What stands behind the first form feed. -/
def behindFormFeed (text : List CodeUnit) : List CodeUnit :=
  (text.dropWhile (· != formFeed)).tail

/-- Behind a form feed there is blank text only, on its page and on the later ones. -/
structure FormFeedsEnd (nfc : List CodeUnit → List CodeUnit) (texts : List (List CodeUnit)) :
    Prop where
  behind : ∀ text ∈ texts, formFeed ∈ text → solidText nfc (behindFormFeed text) = []
  later : texts.Pairwise fun text next => formFeed ∈ text → solidText nfc next = []

/-- Every chunk names one page, the image of which has its text, up to white space, and
which is not past the page count. -/
structure PagesRight (nfc : List CodeUnit → List CodeUnit) (texts : List (List CodeUnit))
    (result : DocumentIntelligenceResult) : Prop where
  pages : ∀ chunk ∈ result.chunks, ∃ k text, chunk.pageStart = some (k + 1) ∧
    chunk.pageEnd = some (k + 1) ∧ texts[k]? = some text ∧
    solid isBlankUnit chunk.text <:+: solidText nfc text
  counted : ∀ chunk ∈ result.chunks, ∃ page count : Nat, chunk.pageEnd = some page ∧
    result.intelligence.pageCount = some (.finite count) ∧ page ≤ count

section Solid

variable {nfc : List CodeUnit → List CodeUnit} {text before behind part : List CodeUnit}
  {unit : CodeUnit}

theorem solidText_nil (hnfc : KeepsBreaks nfc) : solidText nfc [] = [] := by
  unfold solidText
  rw [hnfc.empty]
  rfl

theorem solidText_break (hnfc : KeepsBreaks nfc) (hunit : unit = newline ∨ unit = formFeed) :
    solidText nfc (before ++ unit :: behind) = solidText nfc before ++ solidText nfc behind := by
  have hblank : isBlankUnit unit = true := by
    rcases hunit with rfl | rfl <;> decide
  have hkept : (unit != 0) = true := by
    rcases hunit with rfl | rfl <;> decide
  unfold solidText
  rw [hnfc.breaks unit hunit, List.filter_append, solid_append]
  simp only [List.filter_cons, hkept, if_true]
  rw [solid_cons_of_pos hblank]

theorem solidText_newline (hnfc : KeepsBreaks nfc) :
    solidText nfc (newline :: text) = solidText nfc text := by
  have hbreak := @solidText_break nfc [] text newline hnfc (Or.inl rfl)
  rw [List.nil_append, solidText_nil hnfc, List.nil_append] at hbreak
  exact hbreak

theorem solidText_append_newlines (hnfc : KeepsBreaks nfc) :
    solidText nfc (text ++ [newline, newline]) = solidText nfc text := by
  rw [solidText_break hnfc (Or.inl rfl), solidText_newline hnfc, solidText_nil hnfc,
    List.append_nil]

/-! ## Normalising -/

theorem isBlankUnit_newline : ∀ c ∈ [newline], isBlankUnit c = true := by
  intro c hc
  rw [List.mem_singleton.mp hc]
  decide

theorem within_anyLineBreak : Within isBlankUnit anyLineBreak := by
  intro x xs n out h
  unfold anyLineBreak at h
  dsimp only at h
  split at h
  · next hx =>
      obtain ⟨rfl, rfl⟩ := Prod.mk.inj (Option.some.inj h)
      refine ⟨by rw [hx]; decide, ?_, List.cons_ne_nil _ _, isBlankUnit_newline⟩
      intro c hc
      split at hc
      · next hhead =>
          cases xs with
          | nil => cases hc
          | cons y ys =>
              rw [List.head?_cons, Option.some.injEq] at hhead
              rw [List.take_succ_cons, List.take_zero, List.mem_singleton] at hc
              rw [hc, hhead]
              decide
      · cases hc
  · cases h

theorem within_spacedNewline : Within isBlankUnit spacedNewline := by
  have hspace {text : List CodeUnit} {c : CodeUnit} (hc : c ∈ text.takeWhile isSpace) :
      isBlankUnit c = true := by
    have hsame := List.mem_takeWhile_imp hc
    rw [isSpace, beq_iff_eq] at hsame
    rw [hsame]
    decide
  intro x xs n out h
  have hsplit := List.takeWhile_append_dropWhile (p := isSpace) (l := x :: xs)
  unfold spacedNewline at h
  split at h
  · next unit rest hdrop =>
      split at h
      · next hunit =>
          obtain ⟨rfl, rfl⟩ := Prod.mk.inj (Option.some.inj h)
          -- The match is the spaces, the line break and the spaces behind it.
          have hspaces : ∀ c ∈ (x :: xs).takeWhile isSpace, isBlankUnit c = true :=
            fun c hc => hspace hc
          rw [hdrop] at hsplit
          generalize (x :: xs).takeWhile isSpace = spaces at hsplit hspaces ⊢
          have hall : ∀ c ∈ (x :: xs).take (spaces.length + (rest.takeWhile isSpace).length + 1),
              isBlankUnit c = true := by
            intro c hc
            rw [← hsplit, List.take_append, List.mem_append] at hc
            rcases hc with hc | hc
            · exact hspaces c (List.mem_of_mem_take hc)
            · have hlength : spaces.length + (rest.takeWhile isSpace).length + 1 - spaces.length =
                  (rest.takeWhile isSpace).length + 1 := by
                omega
              rw [hlength, List.take_succ_cons, take_run] at hc
              rcases List.mem_cons.mp hc with rfl | hc
              · rw [hunit]
                decide
              · exact hspace hc
          refine ⟨hall x List.mem_cons_self, fun c hc => hall c ?_, List.cons_ne_nil _ _, isBlankUnit_newline⟩
          rw [List.take_succ_cons]
          exact List.mem_cons_of_mem x hc
      · cases h
  · cases h

theorem within_inlineBlanks : Within isBlankUnit (run isInlineBlank 1 [space]) := by
  refine (within_run (by simp) fun c hc => ?_).mono fun c hc => ?_
  · rw [List.mem_singleton.mp hc]
    decide
  unfold isInlineBlank at hc
  simp only [Bool.and_eq_true] at hc
  exact hc.1.1

theorem within_newlines (least : Nat) {out : List CodeUnit} (hne : out ≠ [])
    (hout : ∀ c ∈ out, isNewline c = true) : Within isBlankUnit (run isNewline least out) := by
  refine (within_run hne hout).mono fun c hc => ?_
  rw [isNewline, beq_iff_eq] at hc
  rw [hc]
  decide

/-- The text before it is cut off at its maximal length. -/
theorem solid_normalized (text : List CodeUnit) :
    solid isBlankUnit (trim isBlankUnit (collapse isNewline 4 [newline, newline, newline]
      (replaceAll spacedNewline (collapse isInlineBlank 1 [space]
        (replaceAll anyLineBreak ((nfc text).filter (· != 0))))))) = solidText nfc text := by
  unfold collapse solidText
  rw [solid_trim, solid_replaceAll (within_newlines 4 (by simp) (by simp [isNewline])),
    solid_replaceAll within_spacedNewline, solid_replaceAll within_inlineBlanks,
    solid_replaceAll within_anyLineBreak]

theorem solid_normalizeDocumentText_infix (text : List CodeUnit) :
    solid isBlankUnit (normalizeDocumentText nfc text) <:+: solidText nfc text := by
  unfold normalizeDocumentText
  rw [← solid_normalized]
  exact solid_infix (List.take_prefix _ _).isInfix

theorem solid_normalizeDocumentText_ne_nil (h : solidText nfc text ≠ []) :
    solid isBlankUnit (normalizeDocumentText nfc text) ≠ [] := by
  unfold normalizeDocumentText
  apply solid_take_trim_ne_nil
  · intro hnil
    apply h
    rw [← solid_normalized, hnil, solid_nil]
  · decide

theorem solid_normalizeText (text : List CodeUnit) :
    solid isBlankUnit (Rag.normalizeText text) = solid isBlankUnit text := by
  have hbreak : Within isBlankUnit Rag.lineBreak := by
    intro x xs n out h
    unfold Rag.lineBreak at h
    cases xs with
    | nil => cases h
    | cons y ys =>
        dsimp only at h
        split at h
        · next hboth =>
            obtain ⟨rfl, rfl⟩ := Prod.mk.inj (Option.some.inj h)
            refine ⟨by rw [hboth.1]; decide, fun c hc => ?_, List.cons_ne_nil _ _, isBlankUnit_newline⟩
            rw [List.take_succ_cons, List.take_zero, List.mem_singleton] at hc
            rw [hc, hboth.2]
            decide
        · cases h
  have hspaces : Within isBlankUnit (run Rag.isSpaceOrTabUnit 1 [space]) := by
    refine (within_run (by simp) fun c hc => ?_).mono fun c hc => ?_
    · rw [List.mem_singleton.mp hc]
      decide
    unfold Rag.isSpaceOrTabUnit at hc
    rw [Bool.or_eq_true, beq_iff_eq, beq_iff_eq] at hc
    rcases hc with rfl | rfl <;> decide
  unfold Rag.normalizeText collapse
  rw [solid_trim, solid_replaceAll (within_newlines 3 (by simp) (by simp [isNewline])),
    solid_replaceAll hspaces, solid_replaceAll hbreak]

end Solid

/-! ## The parts of a text -/

section Parts

variable {nfc : List CodeUnit → List CodeUnit} {text before behind : List CodeUnit}
  {texts : List (List CodeUnit)}

/-- The induction along the form feeds of a text. -/
theorem formFeeds_induction {P : List CodeUnit → Prop}
    (single : ∀ text, formFeed ∉ text → P text)
    (split : ∀ before behind, formFeed ∉ before → P behind → P (before ++ formFeed :: behind))
    (text : List CodeUnit) : P text := by
  induction hlength : text.length using Nat.strong_induction_on generalizing text with
  | _ length ih =>
    by_cases hmem : formFeed ∈ text
    · obtain ⟨before, behind, rfl, hbefore⟩ := List.eq_append_cons_of_mem hmem
      refine split before behind hbefore (ih behind.length ?_ behind rfl)
      rw [← hlength, List.length_append, List.length_cons]
      omega
    · exact single text hmem

theorem behindFormFeed_eq (hbefore : formFeed ∉ before) :
    behindFormFeed (before ++ formFeed :: behind) = behind := by
  have hdrop : (before ++ formFeed :: behind).dropWhile (· != formFeed) = formFeed :: behind := by
    rw [List.dropWhile_append_of_pos]
    · exact List.dropWhile_cons_of_neg (by simp)
    · intro c hc
      have hne : c ≠ formFeed := fun h => hbefore (h ▸ hc)
      simpa using hne
  unfold behindFormFeed
  rw [hdrop, List.tail_cons]

/-- What the parts of a text say. -/
def solidParts (nfc : List CodeUnit → List CodeUnit) (text : List CodeUnit) :
    List (List CodeUnit) :=
  (text.splitOn formFeed).map (solidText nfc)

theorem solidParts_single (h : formFeed ∉ text) : solidParts nfc text = [solidText nfc text] := by
  unfold solidParts
  rw [List.splitOn_eq_singleton h, List.map_cons, List.map_nil]

theorem solidParts_append (before behind : List CodeUnit) :
    solidParts nfc (before ++ formFeed :: behind) =
      solidParts nfc before ++ solidParts nfc behind := by
  unfold solidParts
  rw [List.splitOn_append_cons_self, List.map_append]

theorem solidParts_split (hbefore : formFeed ∉ before) :
    solidParts nfc (before ++ formFeed :: behind) =
      solidText nfc before :: solidParts nfc behind := by
  rw [solidParts_append, solidParts_single hbefore, List.singleton_append]

theorem solidParts_ne_nil (text : List CodeUnit) : solidParts nfc text ≠ [] := by
  unfold solidParts
  rw [Ne, List.map_eq_nil_iff]
  exact List.splitOn_ne_nil _ _

/-- The text says what its parts say. -/
theorem solidText_eq_flatten (hnfc : KeepsBreaks nfc) (text : List CodeUnit) :
    solidText nfc text = (solidParts nfc text).flatten := by
  induction text using formFeeds_induction with
  | single text h => rw [solidParts_single h, List.flatten_singleton]
  | split before behind hbefore ih =>
      rw [solidText_break hnfc (Or.inr rfl), solidParts_split hbefore, List.flatten_cons, ih]

theorem solidParts_append_newlines (hnfc : KeepsBreaks nfc) (text : List CodeUnit) :
    solidParts nfc (text ++ [newline, newline]) = solidParts nfc text := by
  have hblank : formFeed ∉ [newline, newline] := by decide
  induction text using formFeeds_induction with
  | single text h =>
      have hboth : formFeed ∉ text ++ [newline, newline] := by
        rw [List.mem_append]
        exact not_or_intro h hblank
      rw [solidParts_single h, solidParts_single hboth, solidText_append_newlines hnfc]
  | split before behind hbefore ih =>
      rw [List.append_assoc, List.cons_append, solidParts_split hbefore, ih,
        solidParts_split hbefore]

theorem solidParts_newline (hnfc : KeepsBreaks nfc) (text : List CodeUnit) :
    solidParts nfc (newline :: text) = solidParts nfc text := by
  have hblank : newline ≠ formFeed := by decide
  induction text using formFeeds_induction with
  | single text h =>
      have hboth : formFeed ∉ newline :: text := by
        rw [List.mem_cons]
        exact not_or_intro hblank.symm h
      rw [solidParts_single h, solidParts_single hboth, solidText_newline hnfc]
  | split before behind hbefore ih =>
      have hboth : formFeed ∉ newline :: before := by
        rw [List.mem_cons]
        exact not_or_intro hblank.symm hbefore
      rw [← List.cons_append, solidParts_split hboth, solidParts_split hbefore,
        solidText_newline hnfc]

/-- The parts of the joined text are those of the images. -/
theorem solidParts_join (hnfc : KeepsBreaks nfc) (text : List CodeUnit)
    (texts : List (List CodeUnit)) :
    solidParts nfc (pageSeparator.intercalate (text :: texts)) =
      (text :: texts).flatMap (solidParts nfc) := by
  induction texts generalizing text with
  | nil => rw [List.intercalate_singleton, List.flatMap_singleton]
  | cons next texts ih =>
      have hjoin : text ++ pageSeparator ++ pageSeparator.intercalate (next :: texts) =
          (text ++ [newline, newline]) ++ formFeed ::
            (newline :: newline :: pageSeparator.intercalate (next :: texts)) := by
        unfold pageSeparator
        simp only [List.append_assoc, List.cons_append, List.nil_append]
      rw [List.intercalate_cons_cons, hjoin, solidParts_append,
        solidParts_append_newlines hnfc, solidParts_newline hnfc, solidParts_newline hnfc, ih]
      rfl

/-! ## The numbers of the parts -/

/-- What is not blank in some text is in a part, not earlier than the text. -/
theorem exists_part_of_text (hnfc : KeepsBreaks nfc) {m : Nat} (htext : texts[m]? = some text)
    (hsolid : solidText nfc text ≠ []) :
    ∃ k content, (texts.flatMap (solidParts nfc))[k]? = some content ∧ m ≤ k ∧ content ≠ [] := by
  induction texts generalizing m with
  | nil => cases htext
  | cons first texts ih =>
      rw [List.flatMap_cons]
      cases m with
      | zero =>
          rw [List.getElem?_cons_zero, Option.some.injEq] at htext
          rw [solidText_eq_flatten hnfc, ← htext, Ne, List.flatten_eq_nil_iff] at hsolid
          push Not at hsolid
          obtain ⟨content, hmem, hcontent⟩ := hsolid
          obtain ⟨k, hk⟩ := List.mem_iff_getElem?.mp hmem
          refine ⟨k, content, ?_, Nat.zero_le k, hcontent⟩
          rw [List.getElem?_append_left (List.getElem?_eq_some_iff.mp hk).1, hk]
      | succ m =>
          rw [List.getElem?_cons_succ] at htext
          obtain ⟨k, content, hk, hle, hcontent⟩ := ih htext
          have hlength : 0 < (solidParts nfc first).length :=
            List.length_pos_iff.mpr (solidParts_ne_nil first)
          refine ⟨(solidParts nfc first).length + k, content, ?_, by omega, hcontent⟩
          rw [List.getElem?_append_right (by omega), Nat.add_sub_cancel_left, hk]

/-- Nothing has a property that passes on to something later in a bounded range. -/
theorem not_of_later {P : Nat → Prop} {n : Nat} (hbound : ∀ m, P m → m < n)
    (hnext : ∀ m, P m → ∃ later, m < later ∧ P later) (m : Nat) : ¬P m := by
  induction hfuel : n - m using Nat.strong_induction_on generalizing m with
  | _ fuel ih =>
    intro hm
    obtain ⟨later, hlt, hlater⟩ := hnext m hm
    have hrange := hbound later hlater
    exact ih (n - later) (by omega) later rfl hlater

/-- The texts are blank if each part that is not has the number of a later text that is
not. -/
theorem blank_of_shifted (hnfc : KeepsBreaks nfc) {shift : Nat} (hshift : 0 < shift)
    (h : ∀ k content, (texts.flatMap (solidParts nfc))[k]? = some content → content ≠ [] →
      ∃ text, texts[shift + k]? = some text ∧ solidText nfc text ≠ []) :
    ∀ text ∈ texts, solidText nfc text = [] := by
  have hnone := @not_of_later (fun m => ∃ text, texts[m]? = some text ∧ solidText nfc text ≠ [])
    texts.length
    (fun m ⟨text, htext, _⟩ => (List.getElem?_eq_some_iff.mp htext).1)
    (fun m ⟨text, htext, hsolid⟩ => by
      obtain ⟨k, content, hk, hle, hcontent⟩ := exists_part_of_text hnfc htext hsolid
      exact ⟨shift + k, by omega, h k content hk hcontent⟩)
  intro text hmem
  obtain ⟨m, hm⟩ := List.mem_iff_getElem?.mp hmem
  by_contra hsolid
  exact hnone m ⟨text, hm, hsolid⟩

theorem solidText_behindFormFeed (hnfc : KeepsBreaks nfc) (hmem : formFeed ∈ text)
    (hblank : solidText nfc text = []) : solidText nfc (behindFormFeed text) = [] := by
  obtain ⟨before, behind, rfl, hbefore⟩ := List.eq_append_cons_of_mem hmem
  rw [solidText_break hnfc (Or.inr rfl), List.append_eq_nil_iff] at hblank
  rw [behindFormFeed_eq hbefore]
  exact hblank.2

/-- When only blank text follows the first form feed, the parts have the numbers of their
texts. -/
theorem text_of_part (hnfc : KeepsBreaks nfc) (hend : FormFeedsEnd nfc texts) {k : Nat}
    {content : List CodeUnit} (hk : (texts.flatMap (solidParts nfc))[k]? = some content)
    (hcontent : content ≠ []) : ∃ text, texts[k]? = some text ∧ content <:+: solidText nfc text := by
  induction texts generalizing k with
  | nil => cases hk
  | cons text texts ih =>
      have hlater := List.pairwise_cons.mp hend.later
      have htail : FormFeedsEnd nfc texts :=
        ⟨fun next hnext => hend.behind next (List.mem_cons_of_mem text hnext), hlater.2⟩
      rw [List.flatMap_cons] at hk
      by_cases hmem : formFeed ∈ text
      · -- Here the numbers would go apart, but all that follows is blank.
        obtain ⟨before, behind, rfl, hbefore⟩ := List.eq_append_cons_of_mem hmem
        have hbehind := hend.behind _ List.mem_cons_self hmem
        rw [behindFormFeed_eq hbefore, solidText_eq_flatten hnfc, List.flatten_eq_nil_iff] at hbehind
        have hrest : ∀ content ∈ solidParts nfc behind ++ texts.flatMap (solidParts nfc),
            content = [] := by
          intro content hcontent
          rcases List.mem_append.mp hcontent with hpart | hpart
          · exact hbehind content hpart
          · obtain ⟨next, hnext, hpart⟩ := List.mem_flatMap.mp hpart
            have hblank := hlater.1 next hnext hmem
            rw [solidText_eq_flatten hnfc, List.flatten_eq_nil_iff] at hblank
            exact hblank content hpart
        rw [solidParts_split hbefore, List.cons_append] at hk
        cases k with
        | zero =>
            rw [List.getElem?_cons_zero, Option.some.injEq] at hk
            refine ⟨_, rfl, ?_⟩
            rw [← hk, solidText_break hnfc (Or.inr rfl)]
            exact (List.prefix_append _ _).isInfix
        | succ k =>
            rw [List.getElem?_cons_succ] at hk
            exact absurd (hrest content (List.mem_of_getElem? hk)) hcontent
      · rw [solidParts_single hmem, List.singleton_append] at hk
        cases k with
        | zero =>
            rw [List.getElem?_cons_zero, Option.some.injEq] at hk
            exact ⟨text, rfl, hk ▸ List.infix_rfl⟩
        | succ k =>
            rw [List.getElem?_cons_succ] at hk
            exact ih htail hk

/-- And only then. -/
theorem formFeedsEnd_of_parts (hnfc : KeepsBreaks nfc)
    (h : ∀ (k : Nat) content, (texts.flatMap (solidParts nfc))[k]? = some content → content ≠ [] →
      ∃ text, texts[k]? = some text ∧ solidText nfc text ≠ []) : FormFeedsEnd nfc texts := by
  induction texts with
  | nil => exact ⟨by simp, List.Pairwise.nil⟩
  | cons text texts ih =>
      by_cases hmem : formFeed ∈ text
      · obtain ⟨before, behind, rfl, hbefore⟩ := List.eq_append_cons_of_mem hmem
        have hlength : 0 < (solidParts nfc behind).length :=
          List.length_pos_iff.mpr (solidParts_ne_nil behind)
        rw [List.flatMap_cons, solidParts_split hbefore] at h
        -- The parts of the later texts have numbers that are too large.
        have hblank : ∀ next ∈ texts, solidText nfc next = [] := by
          refine blank_of_shifted hnfc hlength fun k content hk hcontent => ?_
          have hpart := h ((solidParts nfc behind).length + k + 1) content (by
            rw [List.cons_append, List.getElem?_cons_succ, List.getElem?_append_right (by omega),
              Nat.add_sub_cancel_left, hk]) hcontent
          rw [List.getElem?_cons_succ] at hpart
          exact hpart
        have hbehind : solidText nfc behind = [] := by
          rw [solidText_eq_flatten hnfc, List.flatten_eq_nil_iff]
          intro content hcontent
          by_contra hsolid
          obtain ⟨k, hk⟩ := List.mem_iff_getElem?.mp hcontent
          obtain ⟨next, hnext, hnextSolid⟩ := h (k + 1) content (by
            rw [List.cons_append, List.getElem?_cons_succ,
              List.getElem?_append_left (List.getElem?_eq_some_iff.mp hk).1, hk]) hsolid
          rw [List.getElem?_cons_succ] at hnext
          exact hnextSolid (hblank next (List.mem_of_getElem? hnext))
        refine ⟨?_, ?_⟩
        · intro next hnext hnextMem
          rcases List.mem_cons.mp hnext with rfl | hnext
          · rw [behindFormFeed_eq hbefore, hbehind]
          · exact solidText_behindFormFeed hnfc hnextMem (hblank next hnext)
        · rw [List.pairwise_cons]
          refine ⟨fun next hnext _ => hblank next hnext, ?_⟩
          exact List.pairwise_of_forall_mem_list fun _ _ next hnext _ => hblank next hnext
      · rw [List.flatMap_cons, solidParts_single hmem, List.singleton_append] at h
        have htail : FormFeedsEnd nfc texts := by
          refine ih fun k content hk hcontent => ?_
          have hpart := h (k + 1) content (by rw [List.getElem?_cons_succ, hk]) hcontent
          rw [List.getElem?_cons_succ] at hpart
          exact hpart
        refine ⟨?_, ?_⟩
        · intro next hnext hnextMem
          rcases List.mem_cons.mp hnext with rfl | hnext
          · exact absurd hnextMem hmem
          · exact htail.behind next hnext hnextMem
        · rw [List.pairwise_cons]
          exact ⟨fun _ _ htextMem => absurd htextMem hmem, htail.later⟩

end Parts

/-! ## The chunks of a part -/

section Chunks

variable {nfc : List CodeUnit → List CodeUnit} {text pageText : List CodeUnit}
  {pages : List (List CodeUnit)} {extractionMethod : Rag.ExtractionMethod}
  {chunk pageChunk : Rag.TextChunk} {chunks pageChunks : List Rag.TextChunk}
  {pageIndex offset k : Nat}

/-- A chunk says a part of what its text says, and something. -/
theorem solid_chunk (h : chunk ∈ Rag.splitTextIntoChunks text 1200 200) :
    solid isBlankUnit chunk.text <:+: solid isBlankUnit text ∧
      solid isBlankUnit chunk.text ≠ [] := by
  unfold Rag.splitTextIntoChunks at h
  dsimp only at h
  split at h
  · cases h
  · next hne =>
      obtain ⟨-, -, htext, hsolid⟩ :=
        Rag.chunk_of_splitFrom (by decide) (List.length_pos_iff.mpr hne) h
      have hslice : Rag.slice (Rag.normalizeText text) chunk.start chunk.stop <:+:
          Rag.normalizeText text :=
        (List.take_prefix _ _).isInfix.trans (List.drop_suffix _ _).isInfix
      constructor
      · rw [htext, solid_trim, ← solid_normalizeText text]
        exact solid_infix hslice
      · rw [htext] at hsolid ⊢
        have hfull := solid_take_trim_ne_nil (n := (trim isBlankUnit (Rag.slice
          (Rag.normalizeText text) chunk.start chunk.stop)).length) hsolid
          (List.length_pos_iff.mpr hsolid)
        rw [List.take_length] at hfull
        exact hfull

/-- A text that is not blank has a chunk. -/
theorem exists_chunk (h : solid isBlankUnit text ≠ []) :
    ∃ chunk, chunk ∈ Rag.splitTextIntoChunks text 1200 200 := by
  rw [← solid_normalizeText] at h
  obtain ⟨unit, hunit⟩ := List.exists_mem_of_ne_nil _ h
  unfold solid at hunit
  obtain ⟨hmem, hblank⟩ := List.mem_filter.mp hunit
  obtain ⟨i, hi⟩ := List.mem_iff_getElem?.mp hmem
  have hne : Rag.normalizeText text ≠ [] := List.ne_nil_of_mem hmem
  obtain ⟨chunk, hchunk, -⟩ := @Rag.covered_splitFrom _ 1200 200 0 0 (by decide) _ _ hi
    (by simpa using hblank) (Nat.zero_le i)
  refine ⟨chunk, ?_⟩
  unfold Rag.splitTextIntoChunks
  dsimp only
  rw [if_neg hne]
  exact hchunk

theorem mem_pushPageChunks_of_mem (h : chunk ∈ chunks) :
    chunk ∈ Rag.pushPageChunks extractionMethod pageIndex offset chunks pageChunks := by
  induction pageChunks generalizing chunks with
  | nil => exact h
  | cons pageChunk rest ih => exact ih (List.mem_append_left _ h)

theorem exists_mem_pushPageChunks (h : pageChunk ∈ pageChunks) :
    ∃ index, Rag.placeChunk extractionMethod pageIndex offset index pageChunk ∈
      Rag.pushPageChunks extractionMethod pageIndex offset chunks pageChunks := by
  induction pageChunks generalizing chunks with
  | nil => cases h
  | cons first rest ih =>
      rcases List.mem_cons.mp h with rfl | hrest
      · refine ⟨chunks.length, ?_⟩
        unfold Rag.pushPageChunks
        exact mem_pushPageChunks_of_mem (List.mem_append_right _ (List.mem_singleton_self _))
      · exact ih hrest

theorem mem_splitPagesFrom_of_mem (h : chunk ∈ chunks) :
    chunk ∈ Rag.splitPagesFrom extractionMethod pageIndex offset chunks pages := by
  induction pages generalizing pageIndex offset chunks with
  | nil => exact h
  | cons pageText pages ih => exact ih (mem_pushPageChunks_of_mem h)

/-- Each chunk of a page is there, with the number of the page. -/
theorem exists_mem_splitPagesFrom (hpage : pages[k]? = some pageText)
    (hchunk : pageChunk ∈ Rag.splitTextIntoChunks pageText 1200 200) :
    ∃ pageOffset index, Rag.placeChunk extractionMethod (pageIndex + k) pageOffset index pageChunk ∈
      Rag.splitPagesFrom extractionMethod pageIndex offset chunks pages := by
  induction pages generalizing pageIndex offset chunks k with
  | nil => cases hpage
  | cons first pages ih =>
      cases k with
      | zero =>
          rw [List.getElem?_cons_zero, Option.some.injEq] at hpage
          rw [hpage] at *
          obtain ⟨index, hindex⟩ :=
            @exists_mem_pushPageChunks extractionMethod _ chunks _ pageIndex offset hchunk
          refine ⟨offset, index, ?_⟩
          unfold Rag.splitPagesFrom
          exact mem_splitPagesFrom_of_mem hindex
      | succ k =>
          rw [List.getElem?_cons_succ] at hpage
          have hindex : pageIndex + (k + 1) = pageIndex + 1 + k := by omega
          rw [hindex]
          exact ih hpage

end Chunks

/-! ## The pages of the chunks -/

section Pages

variable {dependencies : DocumentIntelligenceDependencies} {document : DocumentToRead}
  {content : List UInt8} {result : DocumentIntelligenceResult} {texts : List (List CodeUnit)}

/-- The request of the OCR. -/
def DocumentIntelligenceDependencies.ocrRequest (dependencies : DocumentIntelligenceDependencies)
    (document : DocumentToRead) (content : List UInt8) : DocumentOcrRequest :=
  dependencies.configuration.request content
    (detectDocumentFile content document.extension document.mimeType).detectedMimeType

/-- What a result has of the text that was read. -/
theorem analyse_eq_ok {file : DocumentFileDetectionResult} {mustOcr : Bool} {read : ReadText}
    (h : dependencies.analyse file mustOcr read = .ok result) :
    result.intelligence.textExtractionMethod = read.extractionMethod ∧
      result.intelligence.pageCount = some (.finite read.pageCount) ∧
      (read.pageTexts ≠ [] → result.chunks = Rag.splitPagesFrom
        (if read.extractionMethod = .ocr then .ocr else .pdfText) 0 0 []
        ((read.pageTexts.map (normalizeDocumentText dependencies.nfc)).map Rag.normalizeText)) := by
  unfold DocumentIntelligenceDependencies.analyse at h
  dsimp only at h
  rw [seq_eq_ok] at h
  obtain ⟨-, hresult⟩ := h
  obtain rfl := Except.ok.inj hresult
  refine ⟨rfl, rfl, fun hne => ?_⟩
  dsimp only
  rw [if_pos (List.length_pos_iff.mpr hne)]
  rfl

/-- On the OCR path the chunks are those of the parts of the joined text. -/
theorem process_ocr (hprocess : dependencies.process document content = .ok result)
    (hocr : result.intelligence.textExtractionMethod = .ocr)
    (htexts : dependencies.commands.pageTexts (dependencies.ocrRequest document content) =
      .ok texts) :
    result.intelligence.pageCount = some (.finite texts.length) ∧
      result.chunks = Rag.splitPagesFrom .ocr 0 0 []
        ((((pageSeparator.intercalate texts).splitOn formFeed).map
          (normalizeDocumentText dependencies.nfc)).map Rag.normalizeText) := by
  unfold DocumentIntelligenceDependencies.process at hprocess
  dsimp only at hprocess
  rw [seq_eq_ok] at hprocess
  obtain ⟨-, hprocess⟩ := hprocess
  rw [bind_eq_ok] at hprocess
  obtain ⟨embedded, -, hprocess⟩ := hprocess
  split at hprocess
  · rw [bind_eq_ok] at hprocess
    obtain ⟨read, hread, hanalyse⟩ := hprocess
    unfold DocumentIntelligenceDependencies.recognized OcrCommands.recognize at hread
    unfold DocumentIntelligenceDependencies.ocrRequest at htexts
    rw [htexts] at hread
    obtain rfl := Except.ok.inj hread
    obtain ⟨-, hcount, hchunks⟩ := analyse_eq_ok hanalyse
    exact ⟨hcount, hchunks (List.splitOn_ne_nil _ _)⟩
  · have hmethod := (analyse_eq_ok hprocess).1
    rw [hocr] at hmethod
    cases hmethod

/-- The parts of the joined text that are not blank are those of the images. -/
theorem part_of_join {nfc : List CodeUnit → List CodeUnit} (hnfc : KeepsBreaks nfc) {k : Nat}
    {said : List CodeUnit} (hsaid : said ≠ []) :
    (solidParts nfc (pageSeparator.intercalate texts))[k]? = some said ↔
      (texts.flatMap (solidParts nfc))[k]? = some said := by
  cases texts with
  | nil =>
      have hempty : formFeed ∉ pageSeparator.intercalate [] := by decide
      rw [solidParts_single hempty]
      constructor
      · intro h
        have hnil : said = [] := by
          rw [List.mem_singleton.mp (List.mem_of_getElem? h)]
          exact solidText_nil hnfc
        exact absurd hnil hsaid
      · intro h
        cases h
  | cons text texts => rw [solidParts_join hnfc]

/-- The chunks of the parts have the pages of their images exactly when only blank text
follows the first form feed. -/
theorem pagesRight_iff (hnfc : KeepsBreaks dependencies.nfc)
    (hcount : result.intelligence.pageCount = some (.finite texts.length))
    (hchunks : result.chunks = Rag.splitPagesFrom .ocr 0 0 []
      ((((pageSeparator.intercalate texts).splitOn formFeed).map
        (normalizeDocumentText dependencies.nfc)).map Rag.normalizeText)) :
    PagesRight dependencies.nfc texts result ↔ FormFeedsEnd dependencies.nfc texts := by
  have hpart (k : Nat) (part : List CodeUnit)
      (h : ((pageSeparator.intercalate texts).splitOn formFeed)[k]? = some part) :
      (solidParts dependencies.nfc (pageSeparator.intercalate texts))[k]? =
        some (solidText dependencies.nfc part) := by
    unfold solidParts
    rw [List.getElem?_map, h, Option.map_some]
  constructor
  · intro hright
    refine formFeedsEnd_of_parts hnfc fun k said hk hsaid => ?_
    rw [← part_of_join hnfc hsaid] at hk
    unfold solidParts at hk
    rw [List.getElem?_map, Option.map_eq_some_iff] at hk
    obtain ⟨part, hsplit, rfl⟩ := hk
    -- The part has a chunk, which carries its number.
    have hsolid : solid isBlankUnit
        (Rag.normalizeText (normalizeDocumentText dependencies.nfc part)) ≠ [] := by
      rw [solid_normalizeText]
      exact solid_normalizeDocumentText_ne_nil hsaid
    obtain ⟨pageChunk, hpageChunk⟩ := exists_chunk hsolid
    have hpage : ((((pageSeparator.intercalate texts).splitOn formFeed).map
        (normalizeDocumentText dependencies.nfc)).map Rag.normalizeText)[k]? =
        some (Rag.normalizeText (normalizeDocumentText dependencies.nfc part)) := by
      rw [List.getElem?_map, List.getElem?_map, hsplit]
      rfl
    obtain ⟨pageOffset, index, hmem⟩ :=
      @exists_mem_splitPagesFrom _ _ .ocr _ [] 0 0 k hpage hpageChunk
    rw [← hchunks] at hmem
    obtain ⟨number, text, hstart, -, htext, hpiece⟩ := hright.pages _ hmem
    have hnumber : number = k := by
      unfold Rag.placeChunk at hstart
      have hsame := Option.some.inj hstart
      omega
    rw [hnumber] at htext
    refine ⟨text, htext, fun hnil => ?_⟩
    rw [hnil] at hpiece
    exact (solid_chunk hpageChunk).2 (List.infix_nil.mp hpiece)
  · intro hend
    have hchunk (chunk : Rag.TextChunk) (hmem : chunk ∈ result.chunks) :
        ∃ k text, chunk.pageStart = some (k + 1) ∧ chunk.pageEnd = some (k + 1) ∧
          texts[k]? = some text ∧
          solid isBlankUnit chunk.text <:+: solidText dependencies.nfc text := by
      rw [hchunks] at hmem
      rcases Rag.mem_splitPagesFrom hmem with hnil | ⟨k, pageText, hpage, pageChunk, hpageChunk,
        index, rfl⟩
      · cases hnil
      · rw [List.getElem?_map, List.getElem?_map, Option.map_map, Option.map_eq_some_iff] at hpage
        obtain ⟨part, hsplit, rfl⟩ := hpage
        obtain ⟨hpiece, hsolid⟩ := solid_chunk hpageChunk
        have hsays : solid isBlankUnit pageChunk.text <:+: solidText dependencies.nfc part := by
          refine hpiece.trans ?_
          show solid isBlankUnit (Rag.normalizeText _) <:+: _
          rw [solid_normalizeText]
          exact solid_normalizeDocumentText_infix part
        have hsaid : solidText dependencies.nfc part ≠ [] := by
          intro hnil
          rw [hnil] at hsays
          exact hsolid (List.infix_nil.mp hsays)
        obtain ⟨text, htext, hcontent⟩ :=
          text_of_part hnfc hend ((part_of_join hnfc hsaid).mp (hpart k part hsplit)) hsaid
        refine ⟨k, text, ?_, ?_, htext, hsays.trans hcontent⟩
        · simp only [Rag.placeChunk, Nat.zero_add]
        · simp only [Rag.placeChunk, Nat.zero_add]
    refine ⟨hchunk, fun chunk hmem => ?_⟩
    obtain ⟨k, text, -, hpage, htext, -⟩ := hchunk chunk hmem
    exact ⟨k + 1, texts.length, hpage, hcount, (List.getElem?_eq_some_iff.mp htext).1⟩

/-- On the OCR path the pages of the chunks are those of their images exactly when only
blank text follows the first form feed. -/
theorem ocr_pages_right_iff (hnfc : KeepsBreaks dependencies.nfc)
    (hprocess : dependencies.process document content = .ok result)
    (hocr : result.intelligence.textExtractionMethod = .ocr)
    (htexts : dependencies.commands.pageTexts (dependencies.ocrRequest document content) =
      .ok texts) :
    PagesRight dependencies.nfc texts result ↔ FormFeedsEnd dependencies.nfc texts := by
  obtain ⟨hcount, hchunks⟩ := process_ocr hprocess hocr htexts
  exact pagesRight_iff hnfc hcount hchunks

/-- A scan of two pages, each a word, which Tesseract ends with a form feed or not. -/
def scanned (pageEnd : List CodeUnit) : DocumentIntelligenceDependencies where
  assess := fun text _ =>
    { sufficient := text ≠ [], requiresOcr := text = [], requiresManualReview := false }
  detect := fun _ _ =>
    { documentType := .letter, confidence := 3 / 4, requiresManualReview := false }
  configuration := { languages := ["eng"], maximumPages := 10, maximumFileSize := 1000 }
  commands :=
    { pdfinfo := fun _ => .ok 2
      pdftoppm := fun _ _ => .ok ["page-1.png", "page-2.png"]
      tesseract := fun image _ => .ok ((if image = "page-1.png" then [65] else [66]) ++ pageEnd) }
  version := "document-intelligence-v1"
  extractPdfText := fun _ => .ok { text := [], pages := 2, pageTexts := some [[], []] }
  nfc := id
  startedAt := "2026-01-01T00:00:00.000Z"
  completedAt := "2026-01-01T00:00:05.000Z"

/-- The file of the scan begins like a PDF. -/
def scannedContent : List UInt8 := [37, 80, 68, 70, 45, 49]

def scannedDocument : DocumentToRead where
  extension := ".pdf"
  mimeType := "application/pdf"

theorem keepsBreaks_id : KeepsBreaks id where
  empty := rfl
  breaks _ _ _ _ := rfl

theorem ocr_pages_right_iff_scanned :
    ∃ result, (scanned []).process scannedDocument scannedContent = .ok result ∧
      (PagesRight id [[65], [66]] result ↔ FormFeedsEnd id [[65], [66]]) := by
  have hprocess : ∃ result, (scanned []).process scannedDocument scannedContent = .ok result ∧
      result.intelligence.textExtractionMethod = .ocr := ⟨_, rfl, rfl⟩
  have htexts : (scanned []).commands.pageTexts
      ((scanned []).ocrRequest scannedDocument scannedContent) = .ok [[65], [66]] := rfl
  obtain ⟨result, hresult, hocr⟩ := hprocess
  exact ⟨result, hresult, ocr_pages_right_iff keepsBreaks_id hresult hocr htexts⟩

/-- Two pages as Tesseract ends them. -/
theorem second_page_is_third :
    ∃ result, (scanned [formFeed]).process scannedDocument scannedContent = .ok result ∧
      result.intelligence.textExtractionMethod = .ocr ∧
      ¬PagesRight id [[65, formFeed], [66, formFeed]] result := by
  have hprocess : ∃ result, (scanned [formFeed]).process scannedDocument scannedContent =
      .ok result ∧ result.intelligence.textExtractionMethod = .ocr := ⟨_, rfl, rfl⟩
  have htexts : (scanned [formFeed]).commands.pageTexts
      ((scanned [formFeed]).ocrRequest scannedDocument scannedContent) =
        .ok [[65, formFeed], [66, formFeed]] := rfl
  obtain ⟨result, hresult, hocr⟩ := hprocess
  refine ⟨result, hresult, hocr, fun hright => ?_⟩
  obtain ⟨hcount, hchunks⟩ := process_ocr hresult hocr htexts
  have hend := (@pagesRight_iff (scanned [formFeed]) _ _ keepsBreaks_id hcount hchunks).mp hright
  have hlater := (List.pairwise_cons.mp hend.later).1 [66, formFeed] (by decide) (by decide)
  exact absurd hlater (by decide)

end Pages

end AvantimePlatform.Documents.Intelligence
