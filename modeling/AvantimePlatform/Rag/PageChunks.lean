import AvantimePlatform.Rag.Chunks

/-!
# Chunks of pages

`splitPagesIntoChunks` of `pdf-extractor.ts`.  The pages are normalised and joined, and
`splitTextIntoChunks` cuts each of them, which normalises it a second time.

* `normalizeText_eq_self`: the second time changes nothing, unless the first has left a
  line break of two characters.
* `mem_splitPagesFrom` says from which page a chunk comes, and `slice_join` finds the page
  in the joined text.
* `pages_point_into_text` puts the two together.
-/

namespace AvantimePlatform.Rag

open AvantimePlatform.Replace

/-! ## The source -/

/-- The chunk of a page, as the text's. -/
def placeChunk (extractionMethod : ExtractionMethod) (pageIndex offset index : Nat)
    (pageChunk : TextChunk) : TextChunk :=
  { id := toString index
    index := index
    text := pageChunk.text
    start := pageChunk.start + offset
    stop := pageChunk.stop + offset
    pageStart := some (pageIndex + 1)
    pageEnd := some (pageIndex + 1)
    sourceSegmentIndex := some pageChunk.index
    extractionMethod := extractionMethod
    provenanceConfidence := some (if extractionMethod = .pdfText then 1 else 4 / 5)
    provenanceVersion := "page-provenance-v1" }

/-- The loop over the chunks of a page. -/
def pushPageChunks (extractionMethod : ExtractionMethod) (pageIndex offset : Nat) :
    List TextChunk → List TextChunk → List TextChunk
  | chunks, [] => chunks
  | chunks, pageChunk :: rest =>
    pushPageChunks extractionMethod pageIndex offset
      (chunks ++ [placeChunk extractionMethod pageIndex offset chunks.length pageChunk]) rest

/-- The loop over the pages, with the number of the page, its offset and the chunks so far. -/
def splitPagesFrom (extractionMethod : ExtractionMethod) :
    Nat → Nat → List TextChunk → List (List CodeUnit) → List TextChunk
  | _, _, chunks, [] => chunks
  | pageIndex, offset, chunks, pageText :: pages =>
    splitPagesFrom extractionMethod (pageIndex + 1)
      -- The last page has no separator behind it.
      (offset + (pageText.length + if pages = [] then 0 else 2))
      (pushPageChunks extractionMethod pageIndex offset chunks
        (splitTextIntoChunks pageText 1200 200))
      pages

/-- `pages.join('\n\n')`. -/
def joinPages : List (List CodeUnit) → List CodeUnit
  | [] => []
  | [pageText] => pageText
  | pageText :: pages => pageText ++ (paragraphEnd ++ joinPages pages)

/-- `splitPagesIntoChunks`. -/
def splitPagesIntoChunks (pageTexts : List (List CodeUnit))
    (extractionMethod : ExtractionMethod) : List CodeUnit × List TextChunk :=
  let normalizedPages := pageTexts.map normalizeText
  (joinPages normalizedPages, splitPagesFrom extractionMethod 0 0 [] normalizedPages)

/-! ## Normalising twice -/

section Normalize

variable {text : List CodeUnit}

theorem lineBreak_eq_none (h : ¬[carriageReturn, newline] <:+: text) :
    replaceAll lineBreak text = text := by
  refine replaceAll_eq_self fun unit rest hsuffix => ?_
  cases rest with
  | nil => rfl
  | cons second rest =>
      unfold lineBreak
      dsimp only
      rw [if_neg]
      rintro ⟨rfl, rfl⟩
      exact h (List.IsInfix.trans ⟨[], rest, rfl⟩ hsuffix.isInfix)

/-- At most one space. -/
def OneSpace (units : List CodeUnit) : Prop := units = [] ∨ units = [space]

theorem OneSpace.of_within {part units : List CodeUnit} (hpart : part <:+: units)
    (h : OneSpace units) : OneSpace part := by
  rcases h with rfl | rfl
  · exact Or.inl (List.infix_nil.mp hpart)
  · rcases List.infix_cons_iff.mp hpart with hstart | hnil
    · rcases List.prefix_cons_iff.mp hstart with rfl | ⟨rest, rfl, hrest⟩
      · exact Or.inl rfl
      · rw [List.prefix_nil.mp hrest]
        exact Or.inr rfl
    · exact Or.inl (List.infix_nil.mp hnil)

theorem isWord_newline_of_spaces {units : List CodeUnit}
    (h : ∀ unit ∈ units, isSpaceOrTabUnit unit = true) : IsWord isNewline units := by
  intro unit hunit
  have hspace := h unit hunit
  cases hline : isNewline unit with
  | false => rfl
  | true =>
      rw [isNewline, beq_iff_eq] at hline
      rw [hline] at hspace
      exact Bool.noConfusion hspace

theorem normalizeText_within (sourceText : List CodeUnit) :
    normalizeText sourceText <:+: collapse isNewline 3 [newline, newline]
      (collapse isSpaceOrTabUnit 1 [space] (replaceAll lineBreak sourceText)) := by
  unfold normalizeText
  exact trim_within _ _

/-- The spaces of a normalised text stand alone. -/
theorem spaces_normalizeText (sourceText : List CodeUnit) :
    ∀ units, units <:+: normalizeText sourceText →
      (∀ unit ∈ units, isSpaceOrTabUnit unit = true) → OneSpace units := by
  intro units hunits hspaces
  by_cases hnil : units = []
  · exact Or.inl hnil
  have hlines : Within isNewline (run isNewline 3 [newline, newline]) :=
    within_run (by simp) (by simp [isNewline])
  have hcollapsed := hunits.trans (normalizeText_within sourceText)
  rw [collapse, infix_replaceAll_iff hlines (isWord_newline_of_spaces hspaces) hnil] at hcollapsed
  refine runs_collapse (fun _ _ => OneSpace.of_within) (Or.inr rfl) (fun r hr => ?_) _ units
    hcollapsed hspaces
  exact Or.inl (List.length_eq_zero_iff.mp (by omega))

/-- The empty lines of a normalised text stand alone. -/
theorem newlines_normalizeText (sourceText : List CodeUnit) :
    ShortRuns isNewline 3 (normalizeText sourceText) :=
  (shortRuns_collapse isNewline (by decide) _).of_within (normalizeText_within sourceText)

/-- Normalising twice is normalising once, unless the first time leaves a `\r\n`. -/
theorem normalizeText_eq_self (sourceText : List CodeUnit)
    (h : ¬[carriageReturn, newline] <:+: normalizeText sourceText) :
    normalizeText (normalizeText sourceText) = normalizeText sourceText := by
  have hspaces : collapse isSpaceOrTabUnit 1 [space] (normalizeText sourceText) =
      normalizeText sourceText := by
    refine collapse_eq_self_of_runs fun units hunits hblank => ?_
    rcases spaces_normalizeText sourceText units hunits hblank with rfl | rfl
    · exact Or.inl (by decide)
    · exact Or.inr rfl
  have hlines : collapse isNewline 3 [newline, newline] (normalizeText sourceText) =
      normalizeText sourceText :=
    collapse_eq_self (newlines_normalizeText sourceText)
  rw [normalizeText, lineBreak_eq_none h, hspaces, hlines]
  exact trim_trim _ _

end Normalize

/-! ## The joined text -/

section Join

variable {pages : List (List CodeUnit)} {pageText : List CodeUnit} {k start stop : Nat}

/-- Where a page begins in the joined text. -/
def pageOffset (pages : List (List CodeUnit)) (k : Nat) : Nat :=
  ((pages.take k).map fun pageText => pageText.length + 2).sum

@[simp] theorem pageOffset_zero (pages : List (List CodeUnit)) : pageOffset pages 0 = 0 := rfl

@[simp] theorem pageOffset_cons_succ (pageText : List CodeUnit) (pages : List (List CodeUnit))
    (k : Nat) : pageOffset (pageText :: pages) (k + 1) =
      pageText.length + 2 + pageOffset pages k := by
  unfold pageOffset
  rw [List.take_succ_cons, List.map_cons, List.sum_cons]

theorem slice_append_left {front back : List CodeUnit} (hstop : stop ≤ front.length) :
    slice (front ++ back) start stop = slice front start stop := by
  unfold slice
  by_cases hstart : start ≤ stop
  · rw [List.drop_append_of_le_length (by omega), List.take_append_of_le_length]
    rw [List.length_drop]
    omega
  · have hempty : stop - start = 0 := by omega
    rw [hempty, List.take_zero, List.take_zero]

theorem slice_append_right (front back : List CodeUnit) :
    slice (front ++ back) (front.length + start) (front.length + stop) = slice back start stop := by
  unfold slice
  rw [List.drop_append, Nat.add_sub_add_left, List.drop_eq_nil_of_le (by omega),
    Nat.add_sub_cancel_left, List.nil_append]

/-- The parts of a page are parts of the joined text. -/
theorem slice_join (hpage : pages[k]? = some pageText) (hstop : stop ≤ pageText.length) :
    slice (joinPages pages) (pageOffset pages k + start) (pageOffset pages k + stop) =
      slice pageText start stop := by
  induction pages generalizing k with
  | nil => cases hpage
  | cons first pages ih =>
      cases k with
      | zero =>
          rw [List.getElem?_cons_zero] at hpage
          rw [← Option.some.inj hpage] at hstop ⊢
          rw [pageOffset_zero, Nat.zero_add, Nat.zero_add]
          cases pages with
          | nil => rfl
          | cons second pages => exact slice_append_left hstop
      | succ k =>
          rw [List.getElem?_cons_succ] at hpage
          cases pages with
          | nil => cases hpage
          | cons second pages =>
              have hlength : first.length + 2 = (first ++ paragraphEnd).length := by
                rw [List.length_append]
                rfl
              rw [pageOffset_cons_succ, joinPages, ← List.append_assoc, hlength,
                Nat.add_assoc, Nat.add_assoc, slice_append_right]
              · exact ih hpage
              · exact List.cons_ne_nil second pages

/-- A later page begins behind the end of an earlier one. -/
theorem pageOffset_lt {j : Nat} (hpage : pages[k]? = some pageText) (hlater : k < j) :
    pageOffset pages k + pageText.length < pageOffset pages j := by
  induction pages generalizing k j with
  | nil => cases hpage
  | cons first pages ih =>
      cases j with
      | zero => omega
      | succ j =>
          cases k with
          | zero =>
              rw [List.getElem?_cons_zero] at hpage
              rw [← Option.some.inj hpage, pageOffset_zero, pageOffset_cons_succ]
              omega
          | succ k =>
              rw [List.getElem?_cons_succ] at hpage
              have hrest := ih hpage (Nat.lt_of_succ_lt_succ hlater)
              rw [pageOffset_cons_succ, pageOffset_cons_succ]
              omega

/-- The page `k` holds the range. -/
def InPage (pages : List (List CodeUnit)) (k start stop : Nat) : Prop :=
  ∃ pageText, pages[k]? = some pageText ∧ pageOffset pages k ≤ start ∧
    stop ≤ pageOffset pages k + pageText.length

/-- No two pages hold one range. -/
theorem InPage.unique {j : Nat} (hk : InPage pages k start stop) (hj : InPage pages j start stop)
    (hrange : start < stop) : k = j := by
  obtain ⟨first, hfirst, hkstart, hkstop⟩ := hk
  obtain ⟨second, hsecond, hjstart, hjstop⟩ := hj
  rcases Nat.lt_trichotomy k j with hlt | heq | hgt
  · have hapart := pageOffset_lt hfirst hlt
    omega
  · exact heq
  · have hapart := pageOffset_lt hsecond hgt
    omega

end Join

/-! ## The loops -/

section Loops

variable {extractionMethod : ExtractionMethod} {pages : List (List CodeUnit)}
  {chunks pageChunks : List TextChunk} {chunk : TextChunk} {pageIndex offset : Nat}

/-- The ids are `"0"`, `"1"` and so on. -/
def Numbered (chunks : List TextChunk) : Prop :=
  chunks.map TextChunk.id = (List.range chunks.length).map toString

theorem numbered_nil : Numbered [] := rfl

theorem numbered_pushPageChunks (h : Numbered chunks) :
    Numbered (pushPageChunks extractionMethod pageIndex offset chunks pageChunks) := by
  induction pageChunks generalizing chunks with
  | nil => exact h
  | cons pageChunk rest ih =>
      apply ih
      unfold Numbered at h ⊢
      rw [List.map_append, List.length_append, h]
      simp only [List.map_cons, List.map_nil, List.length_cons, List.length_nil, Nat.zero_add,
        List.range_succ, List.map_append]
      rfl

theorem numbered_splitPagesFrom (h : Numbered chunks) :
    Numbered (splitPagesFrom extractionMethod pageIndex offset chunks pages) := by
  induction pages generalizing pageIndex offset chunks with
  | nil => exact h
  | cons pageText pages ih => exact ih (numbered_pushPageChunks h)

theorem mem_pushPageChunks
    (h : chunk ∈ pushPageChunks extractionMethod pageIndex offset chunks pageChunks) :
    chunk ∈ chunks ∨ ∃ pageChunk ∈ pageChunks, ∃ index,
      chunk = placeChunk extractionMethod pageIndex offset index pageChunk := by
  induction pageChunks generalizing chunks with
  | nil => exact Or.inl h
  | cons pageChunk rest ih =>
      rcases ih h with hmem | ⟨other, hother, hplace⟩
      · rcases List.mem_append.mp hmem with hmem | hmem
        · exact Or.inl hmem
        · exact Or.inr ⟨pageChunk, List.mem_cons_self, chunks.length, List.mem_singleton.mp hmem⟩
      · exact Or.inr ⟨other, List.mem_cons_of_mem pageChunk hother, hplace⟩

/-- Each new chunk is one of a page, at the offset of that page. -/
theorem mem_splitPagesFrom
    (h : chunk ∈ splitPagesFrom extractionMethod pageIndex offset chunks pages) :
    chunk ∈ chunks ∨ ∃ k pageText, pages[k]? = some pageText ∧
      ∃ pageChunk ∈ splitTextIntoChunks pageText 1200 200, ∃ index,
        chunk = placeChunk extractionMethod (pageIndex + k) (offset + pageOffset pages k) index
          pageChunk := by
  induction pages generalizing pageIndex offset chunks with
  | nil => exact Or.inl h
  | cons first pages ih =>
      rcases ih h with hmem | ⟨k, pageText, hpage, pageChunk, hchunk, index, rfl⟩
      · rcases mem_pushPageChunks hmem with hmem | ⟨pageChunk, hchunk, index, rfl⟩
        · exact Or.inl hmem
        · exact Or.inr ⟨0, first, rfl, pageChunk, hchunk, index, rfl⟩
      · have hne : pages ≠ [] := by
          rintro rfl
          cases hpage
        have hoffset : offset + (first.length + if pages = [] then 0 else 2) +
            pageOffset pages k = offset + pageOffset (first :: pages) (k + 1) := by
          rw [if_neg hne, pageOffset_cons_succ]
          omega
        have hindex : pageIndex + 1 + k = pageIndex + (k + 1) := by omega
        rw [hoffset, hindex]
        exact Or.inr ⟨k + 1, pageText, hpage, pageChunk, hchunk, index, rfl⟩

end Loops

/-! ## Where the chunks point -/

section Points

variable {pageTexts : List (List CodeUnit)} {extractionMethod : ExtractionMethod}
  {chunk : TextChunk}

/-- What the chunks of pages should be. -/
structure PointsIntoText (pages : List (List CodeUnit)) (text : List CodeUnit)
    (chunks : List TextChunk) : Prop where
  slices : ∀ chunk ∈ chunks, trim isBlankUnit (slice text chunk.start chunk.stop) = chunk.text
  pageStarts : ∀ chunk ∈ chunks, ∃ k, chunk.pageStart = some (k + 1) ∧
    ∀ j, InPage pages j chunk.start chunk.stop ↔ j = k
  ids : Numbered chunks
  distinct : (chunks.map TextChunk.id).Nodup
  apart : ∀ first ∈ chunks, ∀ second ∈ chunks, first.pageStart ≠ second.pageStart →
    first.stop ≤ second.start ∨ second.stop ≤ first.start

theorem Numbered.nodup {chunks : List TextChunk} (h : Numbered chunks) :
    (chunks.map TextChunk.id).Nodup := by
  rw [h]
  refine List.Nodup.map (fun first second hsame => ?_) List.nodup_range
  rw [Nat.toString_eq_repr, Nat.toString_eq_repr] at hsame
  exact Nat.repr_injective hsame

/-- A chunk of a page that is normal already. -/
theorem chunk_of_page {pageText : List CodeUnit} (hnormal : normalizeText pageText = pageText)
    (h : chunk ∈ splitTextIntoChunks pageText 1200 200) :
    chunk.start < chunk.stop ∧ chunk.stop ≤ pageText.length ∧
      chunk.text = trim isBlankUnit (slice pageText chunk.start chunk.stop) := by
  unfold splitTextIntoChunks at h
  dsimp only at h
  rw [hnormal] at h
  split at h
  · cases h
  · next hne =>
      obtain ⟨hrange, hstop, htext, -⟩ :=
        chunk_of_splitFrom (by decide) (List.length_pos_iff.mpr hne) h
      exact ⟨hrange, hstop, htext⟩

/-- Each chunk lies in the page that it names, and its text is there. -/
theorem chunk_of_pages
    (hnormal : ∀ pageText ∈ pageTexts, ¬[carriageReturn, newline] <:+: normalizeText pageText)
    (h : chunk ∈ (splitPagesIntoChunks pageTexts extractionMethod).2) :
    ∃ k, chunk.pageStart = some (k + 1) ∧ chunk.start < chunk.stop ∧
      InPage (pageTexts.map normalizeText) k chunk.start chunk.stop ∧
      trim isBlankUnit (slice (joinPages (pageTexts.map normalizeText)) chunk.start chunk.stop) =
        chunk.text := by
  rcases mem_splitPagesFrom h with hnil | ⟨k, pageText, hpage, pageChunk, hchunk, index, rfl⟩
  · cases hnil
  · have hself : normalizeText pageText = pageText := by
      obtain ⟨source, hsource, rfl⟩ := List.mem_map.mp (List.mem_of_getElem? hpage)
      exact normalizeText_eq_self source (hnormal source hsource)
    obtain ⟨hrange, hstop, htext⟩ := chunk_of_page hself hchunk
    have hslice := @slice_join _ _ k pageChunk.start pageChunk.stop hpage hstop
    refine ⟨k, ?_, ?_, ⟨pageText, hpage, ?_, ?_⟩, ?_⟩
    · simp only [placeChunk, Nat.zero_add]
    · simp only [placeChunk]
      omega
    · simp only [placeChunk]
      omega
    · simp only [placeChunk]
      omega
    · simp only [placeChunk, Nat.zero_add]
      rw [Nat.add_comm pageChunk.start, Nat.add_comm pageChunk.stop, hslice, htext]

/-- The chunks of pages point into the joined text if no page, once normalised, still has a
line break of two characters. -/
theorem pages_point_into_text (pageTexts : List (List CodeUnit))
    (extractionMethod : ExtractionMethod)
    (hnormal : ∀ pageText ∈ pageTexts, ¬[carriageReturn, newline] <:+: normalizeText pageText) :
    PointsIntoText (pageTexts.map normalizeText)
      (splitPagesIntoChunks pageTexts extractionMethod).1
      (splitPagesIntoChunks pageTexts extractionMethod).2 where
  slices := by
    intro chunk hchunk
    obtain ⟨k, -, -, -, htext⟩ := chunk_of_pages hnormal hchunk
    exact htext
  pageStarts := by
    intro chunk hchunk
    obtain ⟨k, hstart, hrange, hpage, -⟩ := chunk_of_pages hnormal hchunk
    refine ⟨k, hstart, fun j => ⟨fun hj => hj.unique hpage hrange, ?_⟩⟩
    rintro rfl
    exact hpage
  ids := numbered_splitPagesFrom numbered_nil
  distinct := Numbered.nodup (numbered_splitPagesFrom numbered_nil)
  apart := by
    intro first hfirst second hsecond hpages
    obtain ⟨j, hj, hjrange, ⟨firstPage, hfirstPage, hjstart, hjstop⟩, -⟩ :=
      chunk_of_pages hnormal hfirst
    obtain ⟨k, hk, hkrange, ⟨secondPage, hsecondPage, hkstart, hkstop⟩, -⟩ :=
      chunk_of_pages hnormal hsecond
    rcases Nat.lt_trichotomy j k with hlt | rfl | hgt
    · have hapart := pageOffset_lt hfirstPage hlt
      exact Or.inl (by omega)
    · exact absurd (hj.trans hk.symm) hpages
    · have hapart := pageOffset_lt hsecondPage hgt
      exact Or.inr (by omega)

/-- Two pages with a line each. -/
theorem two_pages_point_into_text :
    (∀ pageText ∈ [[97, 13, 10, 98], [99]],
      ¬[carriageReturn, newline] <:+: normalizeText pageText) ∧
    PointsIntoText ([[97, 13, 10, 98], [99]].map normalizeText)
      (splitPagesIntoChunks [[97, 13, 10, 98], [99]] .pdfText).1
      (splitPagesIntoChunks [[97, 13, 10, 98], [99]] .pdfText).2 :=
  ⟨by decide, pages_point_into_text _ .pdfText (by decide)⟩

/-- One page, `a\r\r\nb`: it becomes `a\r\nb` in the text and `a\nb` in its chunk. -/
theorem page_chunk_points_elsewhere :
    ¬PointsIntoText ([[97, 13, 13, 10, 98]].map normalizeText)
      (splitPagesIntoChunks [[97, 13, 13, 10, 98]] .pdfText).1
      (splitPagesIntoChunks [[97, 13, 13, 10, 98]] .pdfText).2 := by
  have hpage : normalizeText [97, 13, 13, 10, 98] = [97, 13, 10, 98] := by decide
  have hagain : normalizeText [97, 13, 10, 98] = [97, 10, 98] := by decide
  have hsplit : splitTextIntoChunks [97, 13, 10, 98] 1200 200 =
      (chunkAt [97, 10, 98] 0 3 0).toList := by
    unfold splitTextIntoChunks
    rw [hagain, if_neg (by decide)]
    exact splitFrom_last (by decide) (by decide)
  intro hpoints
  have hslices := hpoints.slices
  unfold splitPagesIntoChunks at hslices
  simp only [List.map_cons, List.map_nil, hpage, splitPagesFrom, hsplit] at hslices
  exact absurd hslices (by decide)

end Points

end AvantimePlatform.Rag
