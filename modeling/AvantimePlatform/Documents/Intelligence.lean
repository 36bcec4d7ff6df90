import AvantimePlatform.Documents.Record
import AvantimePlatform.Documents.RetryPolicy
import AvantimePlatform.Rag.PageChunks

/-!
# Reading a document

`DefaultDocumentIntelligenceService.process` of `document-intelligence.ts`, with the
detection of the file, the normalisation of its text and the OCR of
`TesseractDocumentOcrProvider`.  The commands that are run, the extraction of the text of
a PDF and the assessments of quality and type are parameters.
-/

namespace AvantimePlatform.Documents.Intelligence

open AvantimePlatform.Checked AvantimePlatform.Replace AvantimePlatform.Documents
open AvantimePlatform.Documents.Record
open AvantimePlatform.Rag (CodeUnit newline carriageReturn space isBlankUnit isNewline
  codeUnits splitPagesIntoChunks)

/-! ## The file -/

inductive DetectedDocumentFormat where
  | pdf | png | jpeg | word | excel | unknown
deriving DecidableEq

/-- `MIME_BY_FORMAT`. -/
def mimeByFormat : DetectedDocumentFormat → String
  | .pdf => "application/pdf"
  | .png => "image/png"
  | .jpeg => "image/jpeg"
  | .word => "application/vnd.openxmlformats-officedocument.wordprocessingml.document"
  | .excel => "application/vnd.openxmlformats-officedocument.spreadsheetml.sheet"
  | .unknown => "application/octet-stream"

structure DocumentFileDetectionResult where
  format : DetectedDocumentFormat
  detectedMimeType : String
  processable : Bool
  mismatch : Bool
deriving DecidableEq

def signatureFormat (content : List UInt8) : DetectedDocumentFormat :=
  if content.take 5 = [37, 80, 68, 70, 45] then .pdf
  else if content.take 8 = [137, 80, 78, 71, 13, 10, 26, 10] then .png
  else if content.take 3 = [255, 216, 255] then .jpeg
  else .unknown

/-- `extension` is what `path.extname` finds. -/
def containerFormat (extension : String) (content : List UInt8) : DetectedDocumentFormat :=
  if ¬(4 ≤ content.length ∧ content.take 2 = [80, 75]) then .unknown
  else if extension.toLower = ".docx" then .word
  else if extension.toLower = ".xlsx" then .excel
  else .unknown

/-- `detectDocumentFile`. -/
def detectDocumentFile (content : List UInt8) (extension declaredMimeType : String) :
    DocumentFileDetectionResult :=
  let format :=
    if signatureFormat content = .unknown then containerFormat extension content
    else signatureFormat content
  let declared := (Text.trim declaredMimeType).toLower
  { format := format
    detectedMimeType := mimeByFormat format
    processable := format = .pdf ∨ format = .png ∨ format = .jpeg
    mismatch := declared ≠ "" ∧ declared ≠ "application/octet-stream" ∧
      declared ≠ mimeByFormat format }

/-! ## The text -/

/-- `'\f'`. -/
def formFeed : CodeUnit := 12

/-- `\r\n?`, which becomes `\n`. -/
def anyLineBreak : Pattern CodeUnit
  | first :: rest =>
    if first = carriageReturn then some (if rest.head? = some newline then 1 else 0, [newline])
    else none
  | [] => none

/-- `[^\S\n\f]`. -/
def isInlineBlank (unit : CodeUnit) : Bool :=
  isBlankUnit unit && unit != newline && unit != formFeed

def isSpace (unit : CodeUnit) : Bool := unit == space

/-- ` *\n *`, which becomes `\n`. -/
def spacedNewline : Pattern CodeUnit := fun text =>
  match text.dropWhile isSpace with
  | unit :: rest =>
    if unit = newline then
      some ((text.takeWhile isSpace).length + (rest.takeWhile isSpace).length, [newline])
    else none
  | [] => none

/-- `MAX_NORMALIZED_TEXT_CHARACTERS`. -/
def maxNormalizedTextCharacters : Nat := 10000000

/-- `normalizeDocumentText`.  `nfc` is `text.normalize('NFC')`. -/
def normalizeDocumentText (nfc : List CodeUnit → List CodeUnit) (text : List CodeUnit) :
    List CodeUnit :=
  (trim isBlankUnit (collapse isNewline 4 [newline, newline, newline]
    (replaceAll spacedNewline (collapse isInlineBlank 1 [space]
      (replaceAll anyLineBreak ((nfc text).filter (· != 0))))))).take maxNormalizedTextCharacters

/-! ## OCR -/

structure DocumentOcrRequest where
  content : List UInt8
  mimeType : String
  languages : List String
  maximumPages : Nat
  maximumFileSize : Nat
deriving DecidableEq

structure DocumentOcrResult where
  text : List CodeUnit
  pageCount : Nat
  language : String
  provider : String
deriving DecidableEq

/-- What the commands find or throw: the number of pages that `pdfinfo` prints, with 0 for
none, the images that `pdftoppm` leaves behind, in the order of their numbers, and the text
that `tesseract` prints for an image. -/
structure OcrCommands where
  pdfinfo : List UInt8 → Except ThrownError Nat
  pdftoppm : List UInt8 → Nat → Except ThrownError (List String)
  tesseract : String → List String → Except ThrownError (List CodeUnit)

/-- `ALLOWED_LANGUAGES`. -/
def allowedLanguages : List String := ["eng", "rus", "lav"]

def assertLanguages (languages : List String) : Except ThrownError Unit :=
  require (languages ≠ [] ∧ ∀ language ∈ languages, language ∈ allowedLanguages)
    (.ofMessage "DOCUMENT_OCR_LANGUAGES contains an unsupported language.")

/-- The images of a request. -/
def OcrCommands.images (commands : OcrCommands) (request : DocumentOcrRequest) :
    Except ThrownError (List String) := do
  assertLanguages request.languages
  require (request.content.length ≤ request.maximumFileSize)
    (.documentProcessingError "OCR_FILE_TOO_LARGE" false
      "Файл превышает допустимый размер для OCR.")
  if request.mimeType = "application/pdf" then do
    let pages ← commands.pdfinfo request.content
    require (pages ≤ 9007199254740991 ∧ 0 < pages ∧ pages ≤ request.maximumPages)
      (.documentProcessingError "OCR_PAGE_LIMIT_EXCEEDED" false
        "Документ превышает допустимое число страниц для OCR.")
    commands.pdftoppm request.content pages
  else return ["input" ++ if request.mimeType = "image/png" then ".png" else ".jpg"]

/-- The texts that are read, one for each image. -/
def OcrCommands.pageTexts (commands : OcrCommands) (request : DocumentOcrRequest) :
    Except ThrownError (List (List CodeUnit)) := do
  let images ← commands.images request
  images.mapM fun image => commands.tesseract image request.languages

/-- `'\n\n\f\n\n'`. -/
def pageSeparator : List CodeUnit := [newline, newline, formFeed, newline, newline]

/-- `TesseractDocumentOcrProvider.recognize`. -/
def OcrCommands.recognize (commands : OcrCommands) (request : DocumentOcrRequest) :
    Except ThrownError DocumentOcrResult := do
  let texts ← commands.pageTexts request
  return { text := pageSeparator.intercalate texts
           -- One text was pushed for each image.
           pageCount := texts.length
           language := "+".intercalate request.languages
           provider := "tesseract" }

/-- `DocumentOcrConfiguration`. -/
structure DocumentOcrConfiguration where
  languages : List String
  maximumPages : Nat
  maximumFileSize : Nat
deriving DecidableEq

/-- The request that `DefaultDocumentOcrService.recognize` makes. -/
def DocumentOcrConfiguration.request (configuration : DocumentOcrConfiguration)
    (content : List UInt8) (mimeType : String) : DocumentOcrRequest where
  content := content
  mimeType := mimeType
  languages := configuration.languages
  maximumPages := configuration.maximumPages
  maximumFileSize := configuration.maximumFileSize

/-! ## The service -/

/-- `ExtractPdfResult`, as far as it is read. -/
structure ExtractPdfResult where
  text : List CodeUnit
  pages : Nat
  pageTexts : Option (List (List CodeUnit))
deriving DecidableEq

/-- `DocumentTextQualityResult`, as far as it is read. -/
structure DocumentTextQualityResult where
  sufficient : Bool
  requiresOcr : Bool
  requiresManualReview : Bool
deriving DecidableEq

structure DocumentTypeDetectorResult where
  documentType : DocumentType
  confidence : ℚ
  requiresManualReview : Bool
deriving DecidableEq

/-- `DocumentIntelligenceDependencies`, with the commands of the OCR, the extraction of
PDFs, the normal form of texts and the two readings of the clock. -/
structure DocumentIntelligenceDependencies where
  assess : List CodeUnit → Nat → DocumentTextQualityResult
  detect : List CodeUnit → String → DocumentTypeDetectorResult
  configuration : DocumentOcrConfiguration
  commands : OcrCommands
  version : String
  extractPdfText : List UInt8 → Except ThrownError ExtractPdfResult
  nfc : List CodeUnit → List CodeUnit
  startedAt : String
  completedAt : String

/-- What is read of the document's record: the extension of its name and its type. -/
structure DocumentToRead where
  extension : String
  mimeType : String
deriving DecidableEq

structure DocumentIntelligenceResult where
  text : List CodeUnit
  chunks : List Rag.TextChunk
  chunksCount : Nat
  intelligence : DocumentIntelligenceMetadata

/-- The variables of `process` after the text has been read. -/
structure ReadText where
  text : List CodeUnit
  pageTexts : List (List CodeUnit)
  pageCount : Nat
  extractionMethod : DocumentTextExtractionMethod
  ocrStatus : DocumentOcrStatus
  ocrProvider : Option String
  ocrLanguage : Option String
  ocrStartedAt : Option String
  ocrCompletedAt : Option String

/-- The text that the file has without OCR. -/
def DocumentIntelligenceDependencies.embedded (dependencies : DocumentIntelligenceDependencies)
    (file : DocumentFileDetectionResult) (content : List UInt8) : Except ThrownError ReadText := do
  if file.format = .pdf then do
    let extracted ← dependencies.extractPdfText content
    return { text := extracted.text
             pageTexts := extracted.pageTexts.getD [extracted.text]
             pageCount := extracted.pages
             extractionMethod := .none, ocrStatus := .pending, ocrProvider := none
             ocrLanguage := none, ocrStartedAt := none, ocrCompletedAt := none }
  else
    return { text := [], pageTexts := [], pageCount := 1
             extractionMethod := .none, ocrStatus := .pending, ocrProvider := none
             ocrLanguage := none, ocrStartedAt := none, ocrCompletedAt := none }

/-- Whether the text has to be recognised. -/
def DocumentIntelligenceDependencies.mustOcr (dependencies : DocumentIntelligenceDependencies)
    (file : DocumentFileDetectionResult) (embedded : ReadText) : Bool :=
  file.format ≠ .pdf || (dependencies.assess embedded.text embedded.pageCount).requiresOcr

/-- The text that is recognised. -/
def DocumentIntelligenceDependencies.recognized (dependencies : DocumentIntelligenceDependencies)
    (file : DocumentFileDetectionResult) (content : List UInt8) : Except ThrownError ReadText := do
  let recognized ← dependencies.commands.recognize
    (dependencies.configuration.request content file.detectedMimeType)
  return { text := recognized.text
           pageTexts := recognized.text.splitOn formFeed
           pageCount := recognized.pageCount
           extractionMethod := .ocr
           ocrStatus := .completed
           ocrProvider := some recognized.provider
           ocrLanguage := some recognized.language
           ocrStartedAt := some dependencies.startedAt
           ocrCompletedAt := some dependencies.completedAt }

/-- What `process` makes of the text. -/
def DocumentIntelligenceDependencies.analyse (dependencies : DocumentIntelligenceDependencies)
    (file : DocumentFileDetectionResult) (mustOcr : Bool) (read : ReadText) :
    Except ThrownError DocumentIntelligenceResult := do
  let paged := splitPagesIntoChunks
    (if 0 < read.pageTexts.length then
      read.pageTexts.map (normalizeDocumentText dependencies.nfc)
    else [normalizeDocumentText dependencies.nfc read.text])
    (if read.extractionMethod = .ocr then .ocr else .pdfText)
  let finalQuality := dependencies.assess paged.1 read.pageCount
  require (¬(mustOcr = true ∧ finalQuality.sufficient = false))
    (.documentProcessingError "OCR_TEXT_QUALITY_INSUFFICIENT" false
      "OCR не смог получить текст достаточного качества; требуется ручная проверка.")
  let type := dependencies.detect paged.1 file.detectedMimeType
  return { text := paged.1
           chunks := paged.2
           chunksCount := paged.2.length
           intelligence :=
            { detectedDocumentType := type.documentType
              detectedMimeType := some file.detectedMimeType
              detectionConfidence := some (.finite type.confidence)
              textExtractionMethod := read.extractionMethod
              ocrStatus := read.ocrStatus
              ocrProvider := read.ocrProvider
              ocrLanguage := read.ocrLanguage
              ocrStartedAt := read.ocrStartedAt
              ocrCompletedAt := read.ocrCompletedAt
              pageCount := some (.finite read.pageCount)
              extractedCharacterCount := some (.finite paged.1.length)
              requiresManualReview :=
                file.mismatch || finalQuality.requiresManualReview || type.requiresManualReview
              intelligenceVersion := dependencies.version } }

/-- `DefaultDocumentIntelligenceService.process`. -/
def DocumentIntelligenceDependencies.process (dependencies : DocumentIntelligenceDependencies)
    (document : DocumentToRead) (content : List UInt8) :
    Except ThrownError DocumentIntelligenceResult := do
  let file := detectDocumentFile content document.extension document.mimeType
  require (file.processable = true) (.documentProcessingError "UNSUPPORTED_DOCUMENT_FORMAT" false
    "Формат документа распознан, но пока не поддерживается.")
  let embedded ← dependencies.embedded file content
  if dependencies.mustOcr file embedded then do
    let read ← dependencies.recognized file content
    dependencies.analyse file true read
  else
    dependencies.analyse file false
      { embedded with ocrStatus := .notRequired, extractionMethod := .pdfText }

end AvantimePlatform.Documents.Intelligence
