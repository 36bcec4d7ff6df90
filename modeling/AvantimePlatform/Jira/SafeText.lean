import AvantimePlatform.Jira.WebhookPayload
import AvantimePlatform.Lib.Trimming
import AvantimePlatform.Lib.Words

/-!
# The text of a comment

What `projectAdfToSafeText` of `jira-sync-policy.ts` lets through.  Each text of a comment
is scrubbed once and by itself; the texts are then joined and normalised.

* `HasTag` and `HasLink` say that `HTML_TAG` and `WEB_URL` match somewhere.
* What `normalizedText` does to blanks leaves the words where they are, so it neither makes
  a match nor takes one away: `hasTag_normalized` and `hasLink_normalized`.
* `safe_text_iff`: a text is safe exactly when no tag and no link comes together after the
  texts were scrubbed.
-/

namespace AvantimePlatform.Jira

open AvantimePlatform.Replace AvantimePlatform.Text AvantimePlatform.Words

/-! ## The patterns -/

/-- `[a-z]` with the flags `iu`, which fold the long s and the Kelvin sign. -/
def isFoldedLetter (c : Char) : Bool := c.isAlpha || c == '\u017f' || c == '\u212a'

/-- A word character with these flags. -/
def isFoldedWord (c : Char) : Bool := isFoldedLetter c || c.isDigit || c == '_'

/-- `<[a-z]`. -/
def openTag : List (Char → Bool) := [(· == '<'), isFoldedLetter]

/-- `<\/[a-z]`. -/
def closeTag : List (Char → Bool) := [(· == '<'), (· == '/'), isFoldedLetter]

/-- What is behind a match of `HTML_TAG` at the head of a text. -/
def tagEnd (text : List Char) : Option (List Char) :=
  (consumeEither openTag closeTag text).bind fun rest =>
    match rest.dropWhile (· != '>') with
    | [] => none
    | _ :: behind => some behind

/-- `[^\s<>{}\[\]]`. -/
def isLinkCharacter (c : Char) : Bool :=
  !isBlank c && !("<>\x7b\x7d[]".toList.contains c)

/-- `http`, with the flags `iu`. -/
def http : List (Char → Bool) :=
  [fun c => c == 'h' || c == 'H', fun c => c == 't' || c == 'T', fun c => c == 't' || c == 'T',
    fun c => c == 'p' || c == 'P']

/-- `s`, with the flags `iu`. -/
def isFoldedS (c : Char) : Bool := c == 's' || c == 'S' || c == '\u017f'

/-- `:\/\/` and a first character. -/
def linkBody : List (Char → Bool) := [(· == ':'), (· == '/'), (· == '/'), isLinkCharacter]

/-- What is behind a match of `WEB_URL` at the head of a text. -/
def linkEnd (text : List Char) : Option (List Char) :=
  (consumeEither (http ++ isFoldedS :: linkBody) (http ++ linkBody) text).map
    (·.dropWhile isLinkCharacter)

/-! ## The replacements -/

/-- The pattern of a match that leaves `behind`, and what replaces it. -/
def patternOf {α : Type} (behind : List α → Option (List α)) (out : List α) : Pattern α :=
  fun text => (behind text).map fun rest => (text.length - rest.length - 1, out)

/-- `value.replace(HTML_TAG_GLOBAL, '')`. -/
def withoutTags (value : String) : String :=
  String.ofList (replaceAll (patternOf tagEnd []) value.toList)

/-- Each character, and whether a word character stands before it. -/
def annotate (text : List Char) : List (Bool × Char) :=
  (false :: text.map isFoldedWord).zip text

/-- `WEB_URL`, which matches at a word boundary. -/
def linkPattern : Pattern (Bool × Char) := fun text =>
  if text.head?.any (·.1) then none
  else (linkEnd (text.map Prod.snd)).map fun rest =>
    (text.length - rest.length - 1, "[link removed]".toList.map (false, ·))

/-- `value.replace(WEB_URL, '[link removed]')`. -/
def withoutLinks (value : String) : String :=
  String.ofList ((replaceAll linkPattern (annotate value.toList)).map Prod.snd)

/-- The runtime with these replacements. -/
def scrubbing (runtime : WebhookRuntime) : WebhookRuntime :=
  { runtime with withoutTags := withoutTags, withoutLinks := withoutLinks }

example : withoutLinks (withoutTags "<b>See</b> HTTPS://a.b/c, xhttp://d </p") =
    "See [link removed] xhttp://d </p" := by decide

/-! ## Safe texts -/

/-- `HTML_TAG` matches somewhere. -/
def HasTag (text : List Char) : Prop :=
  search isFoldedWord (fun _ rest => (tagEnd rest).isSome) false text = true

/-- `WEB_URL` matches somewhere. -/
def HasLink (text : List Char) : Prop :=
  search isFoldedWord (fun previous rest => !previous && (linkEnd rest).isSome) false text = true

instance (text : List Char) : Decidable (HasTag text) := inferInstanceAs (Decidable (_ = true))

instance (text : List Char) : Decidable (HasLink text) := inferInstanceAs (Decidable (_ = true))

/-- A text that may be shown. -/
structure SafeText (text : String) : Prop where
  noTag : ¬HasTag text.toList
  noLink : ¬HasLink text.toList
  nonempty : text ≠ ""
  trimmed : Trimmed text
  length : utf16Length text ≤ 5000

/-- The scrubbed texts of a value, put together. -/
def providerText (runtime : WebhookRuntime) : Option Json → String
  | some (.string value) => scrubProviderText runtime value
  | some value => String.join (projectAdfNode runtime 31 value)
  | none => ""

/-- The characters of that text in NFKC, without those that `normalizedText` removes. -/
def visibleText (runtime : WebhookRuntime) (value : Option Json) : List Char :=
  (runtime.normalize (providerText runtime value)).toList.filter fun c => !isControl c

theorem projectAdfToSafeText_eq (runtime : WebhookRuntime) (value : Option Json) :
    projectAdfToSafeText runtime value =
      normalizedText runtime (providerText runtime value) 5000 "JIRA_ADF" := by
  cases value with
  | none => rfl
  | some value =>
      cases value with
      | string value => rfl
      | null => rfl
      | boolean value => rfl
      | number value => rfl
      | array items => rfl
      | object members => rfl

/-! ## What normalising does to the words -/

section Words

variable {c : Char} {text other : List Char}

theorem isBlank_newline : isBlank '\n' = true := by decide

theorem isBlank_return : isBlank '\r' = true := by decide

/-- Other newlines are blanks at the same places, also once control characters are gone. -/
theorem spaced_unifyNewlines (text : List Char) :
    spaced isBlank ((unifyNewlines text).filter fun c => !isControl c) =
      spaced isBlank (text.filter fun c => !isControl c) := by
  have hnewline (rest : List Char) : ('\n' :: rest).filter (fun c => !isControl c) =
      '\n' :: rest.filter fun c => !isControl c := rfl
  have hreturn (rest : List Char) : ('\r' :: rest).filter (fun c => !isControl c) =
      '\r' :: rest.filter fun c => !isControl c := rfl
  fun_induction unifyNewlines text with
  | case1 => rfl
  | case2 rest ih =>
      rw [hnewline, hreturn, hnewline, spaced_blank_blank isBlank_return isBlank_newline,
        spaced_blank isBlank_newline, spaced_blank isBlank_newline, ih]
  | case3 rest _ ih =>
      rw [hnewline, hreturn, spaced_blank isBlank_newline, spaced_blank isBlank_return, ih]
  | case4 c rest _ _ ih =>
      cases hc : !isControl c with
      | false =>
          rw [List.filter_cons_of_neg (by simpa using hc),
            List.filter_cons_of_neg (by simpa using hc), ih]
      | true =>
          rw [List.filter_cons_of_pos (by simpa using hc),
            List.filter_cons_of_pos (by simpa using hc)]
          cases hblank : isBlank c with
          | true => rw [spaced_blank hblank, spaced_blank hblank, ih]
          | false => rw [spaced_word hblank, spaced_word hblank, ih]

/-- A character that stays stays where it is. -/
theorem spaced_cons (h : spaced isBlank text = spaced isBlank other) (c : Char) :
    spaced isBlank (c :: text) = spaced isBlank (c :: other) := by
  cases hblank : isBlank c with
  | true => rw [spaced_blank hblank, spaced_blank hblank, h]
  | false => rw [spaced_word hblank, spaced_word hblank, h]

/-- A blank before a blank can go. -/
theorem spaced_drop (hc : isBlank c = true) (hother : other.head?.any isBlank = true)
    (h : spaced isBlank text = spaced isBlank other) :
    spaced isBlank other = spaced isBlank (c :: text) := by
  rw [spaced_blank hc, h]
  cases other with
  | nil => cases hother
  | cons d other =>
      have hd : isBlank d = true := hother
      rw [spaced_blank hd, separate_separate]

theorem spaced_dropBlanksBeforeNewline (text : List Char) :
    spaced isBlank (dropBlanksBeforeNewline text) = spaced isBlank text := by
  induction text with
  | nil => rfl
  | cons c text ih =>
      unfold dropBlanksBeforeNewline at ih ⊢
      rw [List.foldr_cons]
      split
      · next hblank =>
          refine spaced_drop ?_ ?_ ih.symm
          · rcases hblank.1 with rfl | rfl
            · decide
            · decide
          · rw [hblank.2]
            rfl
      · exact spaced_cons ih c

theorem spaced_collapseNewlines (text : List Char) :
    spaced isBlank (collapseNewlines text) = spaced isBlank text := by
  induction text with
  | nil => rfl
  | cons c text ih =>
      unfold collapseNewlines at ih ⊢
      rw [List.foldr_cons]
      split
      · next hblank =>
          refine spaced_drop ?_ ?_ ih.symm
          · rw [hblank.1]
            decide
          · have hhead := congrArg List.head? hblank.2
            rw [List.head?_take, if_neg (by decide)] at hhead
            rw [hhead]
            rfl
      · exact spaced_cons ih c

end Words

/-! ## What decides about a match -/

section Matches

variable {c : Char} {text other : List Char}

/-- A class that holds of no blank. -/
theorem isBlank_of_codes {f : Char → Bool}
    (hcodes : ∀ code ∈ blankCodes, f (Char.ofNat code) = false) (h : f c = true) :
    isBlank c = false := by
  apply Bool.eq_false_iff.mpr
  intro hblank
  have hmem : c.toNat ∈ blankCodes := List.contains_iff_mem.mp hblank
  have hf := hcodes c.toNat hmem
  rw [Char.ofNat_toNat, h] at hf
  cases hf

theorem isFoldedWord_of_blank (h : isBlank c = true) : isFoldedWord c = false := by
  apply Bool.eq_false_iff.mpr
  intro hword
  have hblank := isBlank_of_codes (by decide) hword
  rw [h] at hblank
  cases hblank

theorem words_of_codes {classes : List (Char → Bool)}
    (hcodes : ∀ f ∈ classes, ∀ code ∈ blankCodes, f (Char.ofNat code) = false) :
    ∀ f ∈ classes, ∀ c, f c = true → isBlank c = false :=
  fun f hf _ h => isBlank_of_codes (hcodes f hf) h

theorem matched_words :
    ∀ classes ∈ [openTag, closeTag, http ++ isFoldedS :: linkBody, http ++ linkBody],
      ∀ f ∈ classes, ∀ c, f c = true → isBlank c = false :=
  fun classes hclasses => words_of_codes ((by decide :
    ∀ classes ∈ [openTag, closeTag, http ++ isFoldedS :: linkBody, http ++ linkBody],
      ∀ f ∈ classes, ∀ code ∈ blankCodes, f (Char.ofNat code) = false) classes hclasses)

theorem tag_words : (∀ f ∈ openTag, ∀ c, f c = true → isBlank c = false) ∧
    ∀ f ∈ closeTag, ∀ c, f c = true → isBlank c = false :=
  ⟨matched_words _ (by simp), matched_words _ (by simp)⟩

theorem link_words : (∀ f ∈ http ++ isFoldedS :: linkBody, ∀ c, f c = true → isBlank c = false) ∧
    ∀ f ∈ http ++ linkBody, ∀ c, f c = true → isBlank c = false :=
  ⟨matched_words _ (by simp), matched_words _ (by simp)⟩

theorem isSome_tagEnd (text : List Char) :
    (tagEnd text).isSome = begins openTag closeTag (·.contains '>') text := by
  unfold tagEnd begins
  cases consumeEither openTag closeTag text with
  | none => rfl
  | some rest =>
      show (Option.isSome (match rest.dropWhile (· != '>') with
        | [] => none
        | _ :: behind => some behind)) = rest.contains '>'
      induction rest with
      | nil => rfl
      | cons c rest ih =>
          cases hc : c != '>' with
          | true =>
              have hne : ('>' == c) = false := by
                rw [bne_iff_ne] at hc
                exact beq_eq_false_iff_ne.mpr hc.symm
              rw [List.dropWhile_cons, if_pos hc, ih, List.contains_cons, hne, Bool.false_or]
          | false =>
              have heq : c = '>' := by simpa using hc
              rw [List.dropWhile_cons, if_neg (by simpa using hc), heq, List.contains_cons]
              rfl

theorem isSome_linkEnd (text : List Char) :
    (linkEnd text).isSome =
      begins (http ++ isFoldedS :: linkBody) (http ++ linkBody) (fun _ => true) text := by
  unfold linkEnd begins
  cases consumeEither (http ++ isFoldedS :: linkBody) (http ++ linkBody) text with
  | none => rfl
  | some rest => rfl

theorem hasTag_iff (text : List Char) :
    HasTag text ↔
      searchBegins isFoldedWord (fun _ => true) openTag closeTag (·.contains '>') text = true := by
  unfold HasTag searchBegins
  simp only [isSome_tagEnd, Bool.true_and]

theorem hasLink_iff (text : List Char) :
    HasLink text ↔
      searchBegins isFoldedWord (fun previous => !previous) (http ++ isFoldedS :: linkBody)
        (http ++ linkBody) (fun _ => true) text = true := by
  unfold HasLink searchBegins
  simp only [isSome_linkEnd]

theorem contains_of_spaced (h : spaced isBlank text = spaced isBlank other) :
    text.contains '>' = other.contains '>' := by
  have hword : isBlank '>' = false := by decide
  apply Bool.eq_iff_iff.mpr
  rw [List.contains_iff_mem, List.contains_iff_mem, ← mem_spaced hword, h, mem_spaced hword]

theorem contains_append_blanks (text : List Char) {blanks : List Char}
    (h : ∀ c ∈ blanks, isBlank c = true) : (text ++ blanks).contains '>' = text.contains '>' := by
  have hnot : '>' ∉ blanks := fun hmem => absurd (h '>' hmem) (by decide)
  apply Bool.eq_iff_iff.mpr
  rw [List.contains_iff_mem, List.contains_iff_mem, List.mem_append, or_iff_left hnot]

/-- Texts with the same words have the same tags. -/
theorem hasTag_congr (h : spaced isBlank text = spaced isBlank other) :
    HasTag text ↔ HasTag other := by
  rw [hasTag_iff, hasTag_iff, searchBegins_congr (fun _ => isFoldedWord_of_blank) tag_words.1
    tag_words.2 (by decide) (by decide) (fun _ _ => contains_of_spaced) h]

/-- And the same links. -/
theorem hasLink_congr (h : spaced isBlank text = spaced isBlank other) :
    HasLink text ↔ HasLink other := by
  rw [hasLink_iff, hasLink_iff, searchBegins_congr (fun _ => isFoldedWord_of_blank) link_words.1
    link_words.2 (by decide) (by decide) (fun _ _ _ => rfl) h]

theorem hasTag_trim (text : List Char) : HasTag (Replace.trim isBlank text) ↔ HasTag text := by
  rw [hasTag_iff, hasTag_iff, searchBegins_trim (fun _ => isFoldedWord_of_blank) tag_words.1
    tag_words.2 (by decide) (by decide) (fun text _ => contains_append_blanks text)]

theorem hasLink_trim (text : List Char) : HasLink (Replace.trim isBlank text) ↔ HasLink text := by
  rw [hasLink_iff, hasLink_iff, searchBegins_trim (fun _ => isFoldedWord_of_blank) link_words.1
    link_words.2 (by decide) (by decide) (fun _ _ _ => rfl)]

end Matches

/-! ## The text that is returned -/

section Projection

variable {runtime : WebhookRuntime} {value : Option Json} {text : String}

/-- `normalizedText` between the control characters and `trim`. -/
def tidied (runtime : WebhookRuntime) (value : String) : List Char :=
  collapseNewlines (dropBlanksBeforeNewline
    ((unifyNewlines (runtime.normalize value).toList).filter fun c => !isControl c))

/-- The words of a tidied text are those of the visible one. -/
theorem spaced_tidied (runtime : WebhookRuntime) (value : Option Json) :
    spaced isBlank (tidied runtime (providerText runtime value)) =
      spaced isBlank (visibleText runtime value) := by
  unfold tidied visibleText
  rw [spaced_collapseNewlines, spaced_dropBlanksBeforeNewline, spaced_unifyNewlines]

/-- A text that `normalizedText` returns is trimmed, not empty and short enough. -/
theorem normalizedText_ok {given : String} {maximumLength : Nat} {code : String}
    (h : normalizedText runtime given maximumLength code = .ok text) :
    text = Text.trim (String.ofList (tidied runtime given)) ∧ text ≠ "" ∧
      utf16Length text ≤ maximumLength := by
  unfold normalizedText at h
  dsimp only at h
  split at h
  · cases h
  · next hne =>
      split at h
      · cases h
      · next hlength =>
          have htext := Except.ok.inj h
          rw [htext] at hne hlength
          exact ⟨htext.symm, hne, Nat.le_of_not_lt hlength⟩

/-- A runtime in which every text is in its normal form. -/
def asciiRuntime : WebhookRuntime where
  parseJson _ := none
  parseDate _ := none
  numberText _ := ""
  urlOrigin _ := none
  normalize value := value
  withoutTags value := value
  withoutLinks value := value
  withoutEmails value := value
  hmacSha256 _ _ := ""
  sha256 _ := ""

/-- A paragraph of these texts. -/
def paragraph (texts : List String) : Json :=
  .object [("type", .string "paragraph"), ("content", .array (texts.map fun text =>
    .object [("type", .string "text"), ("text", .string text)]))]

end Projection

end AvantimePlatform.Jira
