import AvantimePlatform.Documents.OcrPages

/-!
# The quality of extracted text

`DefaultDocumentTextQualityService.assess` of `document-text-quality.ts`, the last rule of which
is about blank pages, and `process` with this service.  `process` passes the text and the number
of pages and leaves out the texts of the pages, so the last rule has no pages to count:
`process_pdfText_iff` has the six rules before it only.

The classes `\p{L}` and `\p{N}`, the division of numbers and the reading of a PDF are
parameters.
-/

namespace AvantimePlatform.Documents.Intelligence

open AvantimePlatform.Checked AvantimePlatform.Replace AvantimePlatform.Documents
open AvantimePlatform.Documents.Record
open AvantimePlatform.Rag (CodeUnit codeUnits isBlankUnit splitPagesIntoChunks)

/-! ## The code points of a text -/

/-- `[...text]`.  A surrogate without its partner is a character of its own. -/
def codePoints : List CodeUnit → List Nat
  | high :: low :: rest =>
    if 55296 ≤ high ∧ high < 56320 ∧ 56320 ≤ low ∧ low < 57344 then
      (65536 + (high.toNat - 55296) * 1024 + (low.toNat - 56320)) :: codePoints rest
    else high.toNat :: codePoints (low :: rest)
  | [unit] => [unit.toNat]
  | [] => []

/-- `/[\u0000-\u0008\u000B\u000C\u000E-\u001F\u007F]/u`. -/
def isControl (code : Nat) : Bool :=
  code ≤ 8 || code = 11 || code = 12 || (14 ≤ code && code ≤ 31) || code = 127

/-- What the language supplies: `/[\p{L}\p{N}]/u`, and the quotient of two counts. -/
structure TextRuntime where
  isAlphanumeric : Nat → Bool
  divide : Nat → Nat → ℚ

/-- `[^\p{L}\p{N}\s]`. -/
def TextRuntime.isGarbage (runtime : TextRuntime) (code : Nat) : Bool :=
  !runtime.isAlphanumeric code && !Text.blankCodes.contains code

/-- `/([^\p{L}\p{N}\s])\1{12,}/u`. -/
def TextRuntime.repeatedGarbage (runtime : TextRuntime) (text : List CodeUnit) : Bool :=
  (codePoints text).tails.any fun rest =>
    match rest with
    | code :: behind => runtime.isGarbage code && behind.take 12 = List.replicate 12 code
    | [] => false

/-! ## The service -/

inductive DocumentTextQualityReason where
  | sufficient | empty | tooShort | lowPrintableRatio | lowAlphanumericRatio | repeatedGarbage
  | invalidUnicode | poorPageDistribution
deriving DecidableEq

structure DocumentTextQualityAssessment where
  text : Option (List CodeUnit)
  pageCount : Option Nat
  pageTexts : Option (List (List CodeUnit))

/-- All that `assess` returns. -/
structure TextQuality extends DocumentTextQualityResult where
  reason : DocumentTextQualityReason
  characterCount : Nat
  printableRatio : ℚ
  alphanumericRatio : ℚ

structure DocumentTextQualityConfiguration where
  minimumCharacters : ℚ
  minimumPrintableRatio : ℚ
  minimumAlphanumericRatio : ℚ

/-- `page.trim().length`. -/
def pageLength (page : List CodeUnit) : Nat := (trim isBlankUnit page).length

/-- `poorDistribution`, from the number of pages and the lengths of their texts. -/
def poorDistribution (pageCount : Option Nat) (pages : List Nat) : Bool :=
  1 < pageCount.getD pages.length && 1 < pages.length &&
    pages.length / 2 < (pages.filter (· = 0)).length

variable (runtime : TextRuntime) (configuration : DocumentTextQualityConfiguration)

def TextRuntime.printableRatio (text : List CodeUnit) : ℚ :=
  if (codePoints text).length = 0 then 0
  else runtime.divide ((codePoints text).filter (!isControl ·)).length (codePoints text).length

def TextRuntime.alphanumericRatio (text : List CodeUnit) : ℚ :=
  if (codePoints text).length = 0 then 0
  else runtime.divide ((codePoints text).filter runtime.isAlphanumeric).length
    (codePoints text).length

/-- The chain of rules in `assess`. -/
def DocumentTextQualityConfiguration.reason (text : List CodeUnit) (poorDistribution : Bool) :
    DocumentTextQualityReason :=
  if trim isBlankUnit text = [] then .empty
  else if (codePoints text).length < configuration.minimumCharacters then .tooShort
  else if 65533 ∈ text ∨ 0 ∈ text then .invalidUnicode
  else if runtime.repeatedGarbage text then .repeatedGarbage
  else if runtime.printableRatio text < configuration.minimumPrintableRatio then
    .lowPrintableRatio
  else if runtime.alphanumericRatio text < configuration.minimumAlphanumericRatio then
    .lowAlphanumericRatio
  else if poorDistribution then .poorPageDistribution
  else .sufficient

/-- `DefaultDocumentTextQualityService.assess`. -/
def DocumentTextQualityConfiguration.assess (input : DocumentTextQualityAssessment) :
    TextQuality :=
  let text := input.text.getD []
  let pages := (input.pageTexts.map (·.map pageLength)).getD []
  let reason := configuration.reason runtime text (poorDistribution input.pageCount pages)
  { reason := reason
    sufficient := reason = .sufficient
    requiresOcr := reason ≠ .sufficient
    requiresManualReview := reason ≠ .sufficient
    characterCount := (codePoints text).length
    printableRatio := runtime.printableRatio text
    alphanumericRatio := runtime.alphanumericRatio text }

/-! ## The service inside `process` -/

/-- What `PDFParse` finds: the texts of the pages, and how many pages there are. -/
structure PdfPages where
  pages : List (List CodeUnit)
  total : Option Nat

/-- The text of a PDF. -/
def PdfPages.text (parsed : PdfPages) : List CodeUnit :=
  (splitPagesIntoChunks parsed.pages .pdfText).1

/-- `extractPdfText`. -/
def extractPdfText (parse : List UInt8 → Except ThrownError PdfPages) (content : List UInt8) :
    Except ThrownError ExtractPdfResult := do
  let result ← parse content
  return { text := result.text, pages := result.total.getD 0, pageTexts := some result.pages }

/-- `process` with `DefaultDocumentTextQualityService` and `extractPdfText`.  The texts of the
pages are not passed on. -/
def DocumentIntelligenceDependencies.withQuality (dependencies : DocumentIntelligenceDependencies)
    (parse : List UInt8 → Except ThrownError PdfPages) : DocumentIntelligenceDependencies :=
  { dependencies with
    assess := fun text pageCount =>
      (configuration.assess runtime
        { text := some text, pageCount := some pageCount,
          pageTexts := none }).toDocumentTextQualityResult
    extractPdfText := Intelligence.extractPdfText parse }

/-! ## What the rules decide -/

/-- One of the six rules before the last one rejects a text. -/
def DocumentTextQualityConfiguration.Rejects (text : List CodeUnit) : Prop :=
  trim isBlankUnit text = [] ∨
    (codePoints text).length < configuration.minimumCharacters ∨
    (65533 ∈ text ∨ 0 ∈ text) ∨
    runtime.repeatedGarbage text = true ∨
    runtime.printableRatio text < configuration.minimumPrintableRatio ∨
    runtime.alphanumericRatio text < configuration.minimumAlphanumericRatio

instance (text : List CodeUnit) : Decidable (configuration.Rejects runtime text) :=
  inferInstanceAs (Decidable (_ ∨ _))

/-- Two or more pages, more than half of them blank. -/
structure ManyBlank (pages : List (List CodeUnit)) : Prop where
  several : 2 ≤ pages.length
  blank : pages.length < 2 * (pages.filter (trim isBlankUnit · = [])).length

instance (pages : List (List CodeUnit)) : Decidable (ManyBlank pages) :=
  decidable_of_iff (2 ≤ pages.length ∧
      pages.length < 2 * (pages.filter (trim isBlankUnit · = [])).length)
    ⟨fun h => ⟨h.1, h.2⟩, fun h => ⟨h.several, h.blank⟩⟩

variable {runtime configuration} {text : List CodeUnit} {pages : List (List CodeUnit)}

theorem reason_eq_sufficient_iff (poor : Bool) :
    configuration.reason runtime text poor = .sufficient ↔
      ¬configuration.Rejects runtime text ∧ poor = false := by
  unfold DocumentTextQualityConfiguration.reason DocumentTextQualityConfiguration.Rejects
  grind

theorem poorDistribution_of_manyBlank {pageCount : Nat} (hblank : ManyBlank pages)
    (hcount : 1 < pageCount) : poorDistribution (some pageCount) (pages.map pageLength) = true := by
  have hsame : ((pages.map pageLength).filter (· = 0)).length =
      (pages.filter (trim isBlankUnit · = [])).length := by
    rw [List.filter_map, List.length_map]
    simp only [Function.comp_def, pageLength, List.length_eq_zero_iff]
  have hseveral := hblank.several
  have hhalf := hblank.blank
  unfold poorDistribution
  rw [hsame, List.length_map]
  simp only [Option.getD_some, Bool.and_eq_true, decide_eq_true_eq]
  omega

/-- With the texts of its pages, a PDF of mostly blank pages needs OCR. -/
theorem requiresOcr_of_manyBlank {pageCount : Nat} (hblank : ManyBlank pages)
    (hcount : 1 < pageCount) :
    (configuration.assess runtime
      { text := some text, pageCount := some pageCount, pageTexts := some pages }).requiresOcr =
        true := by
  have hpoor := poorDistribution_of_manyBlank hblank hcount
  have hreason : configuration.reason runtime text
      (poorDistribution (some pageCount) (pages.map pageLength)) ≠ .sufficient := by
    rw [hpoor, Ne, reason_eq_sufficient_iff]
    simp
  exact decide_eq_true hreason

/-- Without them the last rule has nothing to count. -/
theorem requiresOcr_withoutPages (pageCount : Nat) :
    (configuration.assess runtime
      { text := some text, pageCount := some pageCount, pageTexts := none }).requiresOcr = true ↔
        configuration.Rejects runtime text := by
  have hpoor : poorDistribution (some pageCount) [] = false := by
    simp [poorDistribution]
  have hreason := @reason_eq_sufficient_iff runtime configuration text false
  show decide (configuration.reason runtime text (poorDistribution (some pageCount) []) ≠
    .sufficient) = true ↔ _
  rw [hpoor, decide_eq_true_eq, Ne, hreason]
  simp

/-! ## Reading a PDF -/

section Reading

variable {dependencies : DocumentIntelligenceDependencies}
  {parse : List UInt8 → Except ThrownError PdfPages} {parsed : PdfPages}
  {document : DocumentToRead} {content : List UInt8}

theorem analyse_withoutOcr (file : DocumentFileDetectionResult) (read : ReadText) :
    ∃ result, dependencies.analyse file false read = .ok result := by
  unfold DocumentIntelligenceDependencies.analyse
  exact ⟨_, seq_eq_ok.mpr ⟨require_eq_ok.mpr (by simp), rfl⟩⟩

theorem format_of_signature (hpdf : signatureFormat content = .pdf) (extension mimeType : String) :
    (detectDocumentFile content extension mimeType).format = .pdf ∧
      (detectDocumentFile content extension mimeType).processable = true := by
  have hformat : (detectDocumentFile content extension mimeType).format = .pdf := by
    unfold detectDocumentFile
    simp [hpdf]
  exact ⟨hformat, decide_eq_true (Or.inl hformat)⟩

/-- The variables of `process` after `extractPdfText`. -/
def PdfPages.read (parsed : PdfPages) : ReadText where
  text := parsed.text
  pageTexts := parsed.pages
  pageCount := parsed.total.getD 0
  extractionMethod := .none
  ocrStatus := .pending
  ocrProvider := none
  ocrLanguage := none
  ocrStartedAt := none
  ocrCompletedAt := none

theorem process_eq_of_pdf (hpdf : signatureFormat content = .pdf)
    (hparse : parse content = .ok parsed) :
    (dependencies.withQuality runtime configuration parse).process document content =
      if configuration.Rejects runtime parsed.text then do
        let read ← dependencies.recognized
          (detectDocumentFile content document.extension document.mimeType) content
        (dependencies.withQuality runtime configuration parse).analyse
          (detectDocumentFile content document.extension document.mimeType) true read
      else
        (dependencies.withQuality runtime configuration parse).analyse
          (detectDocumentFile content document.extension document.mimeType) false
          { parsed.read with ocrStatus := .notRequired, extractionMethod := .pdfText } := by
  obtain ⟨hformat, hprocessable⟩ :=
    format_of_signature hpdf document.extension document.mimeType
  have hembedded : (dependencies.withQuality runtime configuration parse).embedded
      (detectDocumentFile content document.extension document.mimeType) content =
        .ok parsed.read := by
    unfold DocumentIntelligenceDependencies.embedded
    rw [if_pos hformat]
    show (Intelligence.extractPdfText parse content >>= _) = _
    unfold Intelligence.extractPdfText
    rw [hparse]
    rfl
  have hmust : (dependencies.withQuality runtime configuration parse).mustOcr
      (detectDocumentFile content document.extension document.mimeType) parsed.read = true ↔
        configuration.Rejects runtime parsed.text := by
    unfold DocumentIntelligenceDependencies.mustOcr
    rw [hformat]
    exact requiresOcr_withoutPages (parsed.total.getD 0)
  unfold DocumentIntelligenceDependencies.process
  dsimp only
  rw [hprocessable, hembedded]
  by_cases hrejects : configuration.Rejects runtime parsed.text
  · rw [if_pos hrejects]
    show (if _ then _ else _) = _
    rw [if_pos (hmust.mpr hrejects)]
    rfl
  · rw [if_neg hrejects]
    show (if _ then _ else _) = _
    rw [if_neg fun h => hrejects (hmust.mp h)]

theorem method_of_recognized {file : DocumentFileDetectionResult} {read : ReadText}
    (h : dependencies.recognized file content = .ok read) : read.extractionMethod = .ocr := by
  unfold DocumentIntelligenceDependencies.recognized at h
  obtain ⟨recognized, -, hread⟩ := bind_eq_ok.mp h
  rw [← Except.ok.inj hread]

/-- The embedded text of a PDF is the result exactly when the six rules let it pass. -/
theorem process_pdfText_iff (hpdf : signatureFormat content = .pdf)
    (hparse : parse content = .ok parsed) :
    (∃ result,
      (dependencies.withQuality runtime configuration parse).process document content =
          .ok result ∧
        result.intelligence.textExtractionMethod = .pdfText) ↔
      ¬configuration.Rejects runtime parsed.text := by
  rw [process_eq_of_pdf hpdf hparse]
  by_cases hrejects : configuration.Rejects runtime parsed.text
  · rw [if_pos hrejects]
    refine iff_of_false ?_ (not_not_intro hrejects)
    rintro ⟨result, hresult, hmethod⟩
    obtain ⟨read, hread, hanalyse⟩ := bind_eq_ok.mp hresult
    rw [(analyse_eq_ok hanalyse).1, method_of_recognized hread] at hmethod
    cases hmethod
  · rw [if_neg hrejects]
    refine iff_of_true ?_ hrejects
    obtain ⟨result, hresult⟩ := @analyse_withoutOcr
      (dependencies.withQuality runtime configuration parse)
      (detectDocumentFile content document.extension document.mimeType)
      { parsed.read with ocrStatus := .notRequired, extractionMethod := .pdfText }
    exact ⟨result, hresult, (analyse_eq_ok hresult).1⟩

/-- A PDF of mostly blank pages is never read without OCR exactly when one of the six rules
rejects the text of its other pages. -/
theorem blank_pages_recognised_iff (dependencies : DocumentIntelligenceDependencies)
    (document : DocumentToRead) (hpdf : signatureFormat content = .pdf)
    (hparse : parse content = .ok parsed) (_hblank : ManyBlank parsed.pages) :
    (∀ result,
      (dependencies.withQuality runtime configuration parse).process document content =
          .ok result →
        result.intelligence.textExtractionMethod ≠ .pdfText) ↔
      configuration.Rejects runtime parsed.text := by
  rw [← not_iff_not, ← @process_pdfText_iff _ _ dependencies parse parsed document content hpdf
    hparse]
  simp only [not_forall, ne_eq, not_not, exists_prop]

end Reading

/-! ## A letter before two scanned pages -/

/-- The ASCII letters and digits. -/
def asciiText : TextRuntime where
  isAlphanumeric code := (Char.ofNat code).isAlphanum
  divide a b := a / b

def textQuality : DocumentTextQualityConfiguration where
  minimumCharacters := 20
  minimumPrintableRatio := 9 / 10
  minimumAlphanumericRatio := 1 / 5

/-- A page of text and two pages without. -/
def letterAndScans : PdfPages where
  pages := [codeUnits "The contract begins here.", [], []]
  total := some 3

/-- Three pages without text. -/
def threeScans : PdfPages where
  pages := [[], [], []]
  total := some 3

theorem blank_pages_recognised_iff_threeScans :
    (∀ result,
      ((scanned []).withQuality asciiText textQuality fun _ => .ok threeScans).process
          scannedDocument scannedContent = .ok result →
        result.intelligence.textExtractionMethod ≠ .pdfText) ↔
      textQuality.Rejects asciiText threeScans.text :=
  blank_pages_recognised_iff _ _ rfl rfl (by decide)

/-- The text of the first page is all that is read of the three. -/
theorem scans_dropped :
    ManyBlank letterAndScans.pages ∧ ∃ result,
      ((scanned []).withQuality asciiText textQuality fun _ => .ok letterAndScans).process
          scannedDocument scannedContent = .ok result ∧
        result.intelligence.textExtractionMethod = .pdfText := by
  refine ⟨by decide, (process_pdfText_iff rfl rfl).mpr ?_⟩
  decide +kernel

end AvantimePlatform.Documents.Intelligence
