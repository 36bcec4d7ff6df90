import AvantimePlatform.Lib.Trimming
import AvantimePlatform.Rag.Configuration
import AvantimePlatform.Rag.PageChunks

/-!
# A configuration that loads and works

The records that the embedding worker writes, with the checks of `vector-repository.ts` on them,
and the requests that an answer makes of the retrievers.  The loader accepts more names and
numbers than these checks do; `configuration_works_iff` says which.

`assertSafeIdentifier` lets a colon and a slash through and `assertSafeDocumentSegment` does
not; `validateRequest` takes at most 100 results; and no question of at least three characters
has at most two.
-/

namespace AvantimePlatform.Rag.Loading

open AvantimePlatform.Checked AvantimePlatform.Documents AvantimePlatform.Documents.Record

/-! ## The checks on a record -/

/-- `VectorRecord`; its `sourceCoordinates` are always `null` here. -/
structure VectorRecord where
  documentId : String
  chunkId : String
  chunkIndex : Nat
  contentHash : String
  contentPreview : List CodeUnit
  pageStart : Option Nat
  pageEnd : Option Nat
  sourceSegmentIndex : Option Nat
  extractionMethod : ExtractionMethod
  provenanceConfidence : Option ℚ
  provenanceVersion : String
  embeddingModel : String
  embeddingVersion : String
  dimensions : Nat
  vector : List JsNumber

def assertVector (vector : List JsNumber) (dimensions : Nat) : Except String Unit :=
  require (isPositiveSafeInteger dimensions = true ∧ vector.length = dimensions ∧
      ∀ value ∈ vector, value.isFinite = true)
    "Vector dimension does not match the configured embedding model."

def assertHash (value : String) : Except String Unit :=
  require (isSha256Hex value = true) "Vector contentHash is invalid."

/-- One round of the loop over the page numbers. -/
def assertPageNumber (name : String) (value : Option Nat) : Except String Unit :=
  require (∀ number ∈ value, number ≤ maxSafeInteger)
    (name ++ " must be a non-negative integer or null.")

/-- `validateRecord`. -/
def validateRecord (record : VectorRecord) : Except String Unit := do
  assertSafeDocumentSegment record.documentId "document id"
  assertSafeDocumentSegment record.chunkId "chunk id"
  assertSafeDocumentSegment record.embeddingModel "embedding model"
  assertSafeDocumentSegment record.embeddingVersion "embedding version"
  assertHash record.contentHash
  assertVector record.vector record.dimensions
  require (record.chunkIndex ≤ maxSafeInteger) "chunkIndex must be a non-negative integer."
  require (record.contentPreview.length ≤ 1000)
    "contentPreview must not exceed 1000 characters."
  assertPageNumber "pageStart" record.pageStart
  assertPageNumber "pageEnd" record.pageEnd
  assertPageNumber "sourceSegmentIndex" record.sourceSegmentIndex
  require (∀ first ∈ record.pageStart, ∀ last ∈ record.pageEnd, first ≤ last)
    "pageStart must not be greater than pageEnd."
  require (∀ confidence ∈ record.provenanceConfidence, 0 ≤ confidence ∧ confidence ≤ 1)
    "provenanceConfidence must be between 0 and 1."

/-! ## The records of the worker -/

/-- `createHash('sha256').update(text, 'utf8').digest('hex')`. -/
structure TextDigest where
  hex : List CodeUnit → String
  isHex : ∀ text, isSha256Hex (hex text) = true

/-- `compactPreview`. -/
def compactPreview (text : List CodeUnit) : List CodeUnit := (compactText text).take 1000

/-- The record that `embedDocument` makes of a chunk and its vector. -/
def vectorRecord (digest : TextDigest) (configuration : RagConfiguration) (documentId : String)
    (chunk : TextChunk) (vector : List JsNumber) : VectorRecord where
  documentId := documentId
  chunkId := chunk.id
  chunkIndex := chunk.index
  contentHash := digest.hex chunk.text
  contentPreview := compactPreview chunk.text
  pageStart := chunk.pageStart
  pageEnd := chunk.pageEnd
  sourceSegmentIndex := chunk.sourceSegmentIndex
  extractionMethod := chunk.extractionMethod
  provenanceConfidence := chunk.provenanceConfidence
  provenanceVersion := chunk.provenanceVersion
  embeddingModel := configuration.embedding.model
  embeddingVersion := configuration.embedding.version
  dimensions := configuration.embedding.dimensions
  vector := vector

/-- A chunk with a safe id, as `splitPagesIntoChunks` numbers it. -/
structure WellNumbered (chunk : TextChunk) : Prop where
  id : isSafeDocumentSegment chunk.id = true
  index : chunk.index ≤ maxSafeInteger
  pageStart : ∀ number ∈ chunk.pageStart, number ≤ maxSafeInteger
  pageEnd : ∀ number ∈ chunk.pageEnd, number ≤ maxSafeInteger
  segment : ∀ number ∈ chunk.sourceSegmentIndex, number ≤ maxSafeInteger
  pages : ∀ first ∈ chunk.pageStart, ∀ last ∈ chunk.pageEnd, first ≤ last
  confidence : ∀ confidence ∈ chunk.provenanceConfidence, 0 ≤ confidence ∧ confidence ≤ 1

/-- A vector that `validateEmbeddingResult` lets through. -/
structure Fits (configuration : RagConfiguration) (vector : List JsNumber) : Prop where
  length : vector.length = configuration.embedding.dimensions
  finite : ∀ value ∈ vector, value.isFinite = true

/-! ## The requests of an answer -/

/-- What the retrievers read of a configuration. -/
def RagConfiguration.retrieval (configuration : RagConfiguration) : Rag.RagConfiguration where
  lexicalWeight := configuration.hybrid.lexicalWeight
  semanticWeight := configuration.hybrid.semanticWeight
  topK := configuration.hybrid.topK
  minimumScore := configuration.hybrid.minimumScore
  maximumChunksPerDocument := configuration.hybrid.maximumChunksPerDocument
  queryMaximumCharacters := configuration.limits.queryMaximumCharacters
  embeddingModel := configuration.embedding.model
  embeddingVersion := configuration.embedding.version
  embeddingDimensions := configuration.embedding.dimensions
  semanticSimilarityThreshold := configuration.hybrid.semanticSimilarityThreshold
  maximumContextCharacters := configuration.answer.maximumContextCharacters

/-- The question that `answer` accepts, before it asks the retriever. -/
structure Accepts (configuration : RagConfiguration) (question : String) : Prop where
  atLeast : 3 ≤ Text.utf16Length (Text.trim question)
  atMost : Text.utf16Length (Text.trim question) ≤ configuration.limits.queryMaximumCharacters
  noNull : '\x00' ∉ (Text.trim question).toList

/-- The hybrid retriever accepts the request for a question, and the lexical and the semantic
one accept the requests that it makes of them. -/
def PassesRetrievers (dates : DateParser) (configuration : RagConfiguration) (question : String) :
    Prop :=
  ∃ query topK,
    let request := retrievalRequest configuration.retrieval (Text.trim question)
    validateRequest dates request configuration.retrieval.toHybridConfiguration =
        .ok (query, topK) ∧
      validateRequest dates { request with topK := some (candidateLimit topK : Nat) }
          configuration.retrieval.toHybridConfiguration =
        .ok (query, candidateLimit topK)

/-- What the property says of a configuration. -/
structure Works (dates : DateParser) (digest : TextDigest) (configuration : RagConfiguration) :
    Prop where
  records : ∀ documentId chunk vector, isSafeDocumentSegment documentId = true →
    WellNumbered chunk → Fits configuration vector →
    validateRecord (vectorRecord digest configuration documentId chunk vector) = .ok ()
  questions : ∀ question, Accepts configuration question →
    PassesRetrievers dates configuration question
  answers : ∃ question, Accepts configuration question

/-- What the later modules want of the settings. -/
structure Usable (runtime : EnvironmentRuntime) (environment : Environment) : Prop where
  model : ∀ value, setting environment "DOCUMENT_EMBEDDING_MODEL" = some value →
    ':' ∉ value.toList ∧ '/' ∉ value.toList
  version : ∀ value, setting environment "DOCUMENT_EMBEDDING_VERSION" = some value →
    ':' ∉ value.toList ∧ '/' ∉ value.toList
  topK : ∀ value, setting environment "HYBRID_TOP_K" = some value →
    ∀ number, positiveInteger? (runtime.number value) = some number → number ≤ 100
  queryMaximumCharacters : ∀ value, setting environment "RAG_QUERY_MAX_CHARACTERS" = some value →
    ∀ number, positiveInteger? (runtime.number value) = some number → 3 ≤ number

/-! ## Names -/

section Names

variable {value : String} {maximum : Nat}

theorem length_le_utf16Length (value : String) : value.toList.length ≤ Text.utf16Length value := by
  unfold Text.utf16Length
  induction value.toList with
  | nil => rfl
  | cons c rest ih =>
      have hunits : 1 ≤ if c.toNat < 65536 then 1 else 2 := by split <;> omega
      rw [List.length_cons, List.map_cons, List.sum_cons]
      omega

/-- A name is a path segment when it has neither a colon nor a slash. -/
theorem isSafeDocumentSegment_iff (hsafe : isSafeIdentifier maximum value = true)
    (hmaximum : maximum ≤ 200) :
    isSafeDocumentSegment value = true ↔ ':' ∉ value.toList ∧ '/' ∉ value.toList := by
  have hlength := length_le_utf16Length value
  unfold isSafeIdentifier at hsafe
  unfold isSafeDocumentSegment
  cases hvalue : value.toList with
  | nil =>
      rw [hvalue] at hsafe
      cases hsafe
  | cons c rest =>
      rw [hvalue] at hsafe hlength
      simp only [Bool.and_eq_true, decide_eq_true_eq] at hsafe
      obtain ⟨⟨hunits, hfirst⟩, hrest⟩ := hsafe
      have hshort : rest.length ≤ 199 := by
        rw [List.length_cons] at hlength
        omega
      have hcolon : c ≠ ':' := by
        rintro rfl
        exact absurd hfirst (by decide)
      have hslash : c ≠ '/' := by
        rintro rfl
        exact absurd hfirst (by decide)
      simp only [hfirst, hshort, decide_true, Bool.true_and, List.mem_cons, not_or, hcolon.symm,
        hslash.symm, not_false_eq_true, true_and, List.all_eq_true] at hrest ⊢
      constructor
      · intro hsegment
        constructor
        · intro hmem
          exact absurd (hsegment ':' hmem) (by decide)
        · intro hmem
          exact absurd (hsegment '/' hmem) (by decide)
      · rintro ⟨hnoColon, hnoSlash⟩ d hd
        have hidentifier := hrest d hd
        unfold isIdentifierCharacter at hidentifier
        have hcolon : (d == ':') = false := beq_eq_false_iff_ne.mpr fun h => hnoColon (h ▸ hd)
        have hslash : (d == '/') = false := beq_eq_false_iff_ne.mpr fun h => hnoSlash (h ▸ hd)
        rw [hcolon, hslash, Bool.or_false, Bool.or_false] at hidentifier
        exact hidentifier

end Names

/-! ## Numbers -/

section Numbers

variable {runtime : EnvironmentRuntime} {environment : Environment} {name : String}
  {fallback number : Nat}

theorem positiveInteger?_spec {value : JsNumber} (h : positiveInteger? value = some number) :
    0 < number ∧ number ≤ maxSafeInteger := by
  unfold positiveInteger? at h
  cases value with
  | nonFinite => cases h
  | finite q =>
      dsimp only at h
      split at h
      · next hq =>
          obtain ⟨hsafe, hpos⟩ := hq
          unfold JsNumber.isSafeInteger at hsafe
          rw [Bool.and_eq_true, decide_eq_true_eq] at hsafe
          have hnum : 0 < q.num := Rat.num_pos.mpr hpos
          have hbound : q.num.natAbs ≤ maxSafeInteger := hsafe.2
          have hnumber := Option.some.inj h
          omega
      · cases h

/-- A property of the number that is parsed, where the default has it. -/
theorem parsePositiveInteger_iff {p : Nat → Prop} (hfallback : p fallback)
    (h : parsePositiveInteger runtime environment name fallback = .ok number) :
    p number ↔ ∀ value, setting environment name = some value →
      ∀ parsed, positiveInteger? (runtime.number value) = some parsed → p parsed := by
  unfold parsePositiveInteger at h
  split at h
  · next hsetting =>
      obtain rfl := Except.ok.inj h
      simp [hsetting, hfallback]
  · next value hsetting =>
      split at h
      · next parsed hparsed =>
          obtain rfl := Except.ok.inj h
          simp [hsetting, hparsed]
      · cases h

theorem parsePositiveInteger_spec (hfallback : 0 < fallback ∧ fallback ≤ maxSafeInteger)
    (h : parsePositiveInteger runtime environment name fallback = .ok number) :
    0 < number ∧ number ≤ maxSafeInteger :=
  (parsePositiveInteger_iff hfallback h).mpr fun _ _ _ hparsed => positiveInteger?_spec hparsed

end Numbers

/-! ## Each of the three promises -/

section Promises

variable {runtime : EnvironmentRuntime} {environment : Environment}
  {configuration : RagConfiguration} {dates : DateParser} {digest : TextDigest}
  {documentId question : String} {chunk : TextChunk} {vector : List JsNumber}

/-- The chunks of a document with a safe id are well numbered, as long as they can be counted. -/
theorem wellNumbered_of_split {pageTexts : List (List CodeUnit)} {method : ExtractionMethod}
    (hmem : chunk ∈ (splitPagesIntoChunks pageTexts method).2)
    (hid : isSafeDocumentSegment chunk.id = true) (hindex : chunk.index ≤ maxSafeInteger)
    (hsegment : ∀ number ∈ chunk.sourceSegmentIndex, number ≤ maxSafeInteger)
    (hpages : pageTexts.length ≤ maxSafeInteger) : WellNumbered chunk := by
  rcases mem_splitPagesFrom hmem with hnil | ⟨k, pageText, hpage, pageChunk, -, index, rfl⟩
  · cases hnil
  · have hk : k < pageTexts.length := by
      obtain ⟨hlength, -⟩ := List.getElem?_eq_some_iff.mp hpage
      rwa [List.length_map] at hlength
    refine ⟨hid, hindex, ?_, ?_, hsegment, ?_, ?_⟩
    · simp only [placeChunk, Option.mem_some_iff]
      omega
    · simp only [placeChunk, Option.mem_some_iff]
      omega
    · simp only [placeChunk, Option.mem_some_iff]
      omega
    · simp only [placeChunk, Option.mem_some_iff]
      rintro confidence rfl
      split
      · norm_num
      · norm_num

/-- The record of a chunk passes exactly when the two names are path segments. -/
theorem validateRecord_iff
    (hdimensions : isPositiveSafeInteger configuration.embedding.dimensions = true)
    (hdocument : isSafeDocumentSegment documentId = true) (hchunk : WellNumbered chunk)
    (hvector : Fits configuration vector) :
    validateRecord (vectorRecord digest configuration documentId chunk vector) = .ok () ↔
      isSafeDocumentSegment configuration.embedding.model = true ∧
        isSafeDocumentSegment configuration.embedding.version = true := by
  have hpreview : (compactPreview chunk.text).length ≤ 1000 := List.length_take_le _ _
  unfold validateRecord assertHash assertVector assertPageNumber
  simp only [seq_eq_ok, require_eq_ok, assertSafeDocumentSegment_eq_ok]
  constructor
  · rintro ⟨-, -, hmodel, hversion, -⟩
    exact ⟨hmodel, hversion⟩
  · rintro ⟨hmodel, hversion⟩
    exact ⟨hdocument, hchunk.id, hmodel, hversion, digest.isHex _,
      ⟨hdimensions, hvector.length, hvector.finite⟩, hchunk.index, hpreview, hchunk.pageStart,
      hchunk.pageEnd, hchunk.segment, hchunk.pages, hchunk.confidence⟩

theorem validateRequest_eq_ok_of {request : RetrievalRequest} {topK : Nat}
    (hatLeast : 2 ≤ Text.utf16Length (Text.trim request.query))
    (hatMost : Text.utf16Length (Text.trim request.query) ≤
      configuration.limits.queryMaximumCharacters)
    (hnull : '\x00' ∉ (Text.trim request.query).toList) (hfilters : request.filters = none)
    (htopK : request.topK = some (topK : Int)) (hpos : 0 < topK) (hrange : topK ≤ 100) :
    validateRequest dates request configuration.retrieval.toHybridConfiguration =
      .ok (Text.trim request.query, topK) := by
  have hlength : ¬(Text.utf16Length (Text.trim request.query) < 2 ∨
      configuration.retrieval.queryMaximumCharacters <
        Text.utf16Length (Text.trim request.query) ∨
      '\x00' ∈ (Text.trim request.query).toList) := by
    push Not
    exact ⟨hatLeast, hatMost, hnull⟩
  have hbounds : ¬((topK : Int) ≤ 0 ∨ 100 < (topK : Int)) := by omega
  unfold validateRequest
  dsimp only
  rw [if_neg hlength, htopK, hfilters]
  simp only [Option.getD_some, if_neg hbounds, Option.bind_none, parseOptionalDate,
    Option.filter_none, Int.toNat_natCast]

/-- The requests for a question pass exactly when `topK` is at most 100. -/
theorem passesRetrievers_iff (haccepts : Accepts configuration question)
    (hpos : 0 < configuration.hybrid.topK) :
    PassesRetrievers dates configuration question ↔ configuration.hybrid.topK ≤ 100 := by
  have htrim : Text.trim (Text.trim question) = Text.trim question := Text.trimmed_trim question
  have hatLeast := haccepts.atLeast
  constructor
  · rintro ⟨query, topK, hpasses, -⟩
    have hrange := validateRequest_topK hpasses
    have htopK := validateRequest_eq_topK hpasses
    simp only [retrievalRequest, RagConfiguration.retrieval, Option.getD_some,
      Int.toNat_natCast] at htopK
    omega
  · intro hrange
    have hpasses (topK : Nat) (hpos : 0 < topK) (hrange : topK ≤ 100) :=
      @validateRequest_eq_ok_of configuration dates
        { query := Text.trim question, topK := some (topK : Int), filters := none } topK
        (by simp only [htrim]; omega) (by simp only [htrim]; exact haccepts.atMost)
        (by simp only [htrim]; exact haccepts.noNull) rfl rfl hpos hrange
    exact ⟨_, configuration.hybrid.topK, hpasses _ hpos hrange,
      hpasses (candidateLimit _) (by unfold candidateLimit; omega)
        (by unfold candidateLimit; omega)⟩

/-- Some question is accepted exactly when three characters are. -/
theorem exists_accepts_iff :
    (∃ question, Accepts configuration question) ↔
      3 ≤ configuration.limits.queryMaximumCharacters := by
  constructor
  · rintro ⟨question, haccepts⟩
    exact haccepts.atLeast.trans haccepts.atMost
  · intro hmaximum
    exact ⟨"why", by decide, le_trans (by decide) hmaximum, by decide⟩

end Promises

/-! ## Settings that work -/

section Settings

variable {runtime : EnvironmentRuntime} {environment : Environment}
  {configuration : RagConfiguration} {dates : DateParser} {digest : TextDigest}

/-- A name that is set or a default one. -/
theorem getD_name_iff {given : Option String} {fallback : String}
    (hfallback : ':' ∉ fallback.toList ∧ '/' ∉ fallback.toList) :
    (':' ∉ (given.getD fallback).toList ∧ '/' ∉ (given.getD fallback).toList) ↔
      ∀ value, given = some value → ':' ∉ value.toList ∧ '/' ∉ value.toList := by
  cases given with
  | none => simp [hfallback]
  | some value => simp

theorem Loaded.model_iff (hloaded : Loaded runtime environment configuration) :
    isSafeDocumentSegment configuration.embedding.model = true ↔
      ∀ value, setting environment "DOCUMENT_EMBEDDING_MODEL" = some value →
        ':' ∉ value.toList ∧ '/' ∉ value.toList := by
  rw [isSafeDocumentSegment_iff hloaded.safeModel (by omega), hloaded.model]
  unfold embeddingModel
  apply getD_name_iff
  split
  · decide
  · split
    · decide
    · decide

theorem Loaded.version_iff (hloaded : Loaded runtime environment configuration) :
    isSafeDocumentSegment configuration.embedding.version = true ↔
      ∀ value, setting environment "DOCUMENT_EMBEDDING_VERSION" = some value →
        ':' ∉ value.toList ∧ '/' ∉ value.toList := by
  rw [isSafeDocumentSegment_iff hloaded.safeVersion (by omega), hloaded.version]
  exact getD_name_iff (by decide)

theorem Loaded.positiveDimensions (hloaded : Loaded runtime environment configuration) :
    isPositiveSafeInteger configuration.embedding.dimensions = true := by
  have hfallback : 0 < (if configuration.embedding.driver = .openai then 1536 else 32) ∧
      (if configuration.embedding.driver = .openai then 1536 else 32) ≤ maxSafeInteger := by
    split
    · decide
    · decide
  obtain ⟨hpos, hmax⟩ := parsePositiveInteger_spec hfallback hloaded.dimensions
  unfold isPositiveSafeInteger
  rw [decide_eq_true hpos, decide_eq_true hmax]
  rfl

/-- A chunk of an empty text. -/
def emptyChunk : TextChunk where
  id := "0"
  index := 0
  text := []
  start := 0
  stop := 0
  pageStart := none
  pageEnd := none
  sourceSegmentIndex := none
  extractionMethod := .pdfText
  provenanceConfidence := none
  provenanceVersion := "page-provenance-v1"

theorem wellNumbered_emptyChunk : WellNumbered emptyChunk where
  id := by decide
  index := Nat.zero_le _
  pageStart := by simp [emptyChunk]
  pageEnd := by simp [emptyChunk]
  segment := by simp [emptyChunk]
  pages := by simp [emptyChunk]
  confidence := by simp [emptyChunk]

theorem fits_zero : Fits configuration
    (List.replicate configuration.embedding.dimensions (.finite 0)) where
  length := List.length_replicate
  finite value h := by
    rw [List.eq_of_mem_replicate h]
    rfl

/-- Every record passes exactly when the two names are path segments. -/
theorem records_pass_iff
    (hdimensions : isPositiveSafeInteger configuration.embedding.dimensions = true) :
    (∀ documentId chunk vector, isSafeDocumentSegment documentId = true → WellNumbered chunk →
        Fits configuration vector →
        validateRecord (vectorRecord digest configuration documentId chunk vector) = .ok ()) ↔
      isSafeDocumentSegment configuration.embedding.model = true ∧
        isSafeDocumentSegment configuration.embedding.version = true := by
  constructor
  · intro hpass
    have hdocument : isSafeDocumentSegment "0" = true := by decide
    exact (validateRecord_iff hdimensions hdocument wellNumbered_emptyChunk fits_zero).mp
      (hpass _ _ _ hdocument wellNumbered_emptyChunk fits_zero)
  · intro hnames documentId chunk vector hdocument hchunk hvector
    exact (validateRecord_iff hdimensions hdocument hchunk hvector).mpr hnames

end Settings

/-- Every embedding and every question gets through the later checks, and some question is
answered, exactly when the settings name no colon and no slash, ask for at most 100 results and
leave room for a question of three characters. -/
theorem configuration_works_iff (runtime : EnvironmentRuntime) (environment : Environment)
    (dates : DateParser) (digest : TextDigest) {configuration : RagConfiguration}
    (hload : loadRagConfiguration runtime environment = .ok configuration)
    (_henabled : configuration.embedding.driver ≠ .disabled) :
    Works dates digest configuration ↔ Usable runtime environment := by
  have hloaded := loadRagConfiguration_spec hload
  have hpos : 0 < configuration.hybrid.topK :=
    (parsePositiveInteger_spec (by decide) hloaded.topK).1
  have hrecords := @records_pass_iff configuration digest hloaded.positiveDimensions
  have htopK := parsePositiveInteger_iff (p := (· ≤ 100)) (by omega) hloaded.topK
  have hquery := parsePositiveInteger_iff (p := (3 ≤ ·)) (by omega)
    hloaded.queryMaximumCharacters
  constructor
  · intro hworks
    obtain ⟨hmodel, hversion⟩ := hrecords.mp hworks.records
    obtain ⟨question, haccepts⟩ := hworks.answers
    have hrange := (passesRetrievers_iff haccepts hpos).mp (hworks.questions question haccepts)
    exact ⟨hloaded.model_iff.mp hmodel, hloaded.version_iff.mp hversion, htopK.mp hrange,
      hquery.mp (exists_accepts_iff.mp ⟨question, haccepts⟩)⟩
  · intro husable
    have hrange := htopK.mpr husable.topK
    exact ⟨hrecords.mpr ⟨hloaded.model_iff.mpr husable.model,
        hloaded.version_iff.mpr husable.version⟩,
      fun question haccepts => (passesRetrievers_iff haccepts hpos).mpr hrange,
      exists_accepts_iff.mpr (hquery.mpr husable.queryMaximumCharacters)⟩

/-! ## Settings that load and fail -/

/-- Numbers in decimal digits, and the directory as it is given. -/
def plainEnvironment : EnvironmentRuntime where
  number text :=
    if text.toList.all Char.isDigit = true then
      .ofInt (text.toList.foldl (fun value c => value * 10 + (c.toNat - 48)) 0)
    else .nonFinite
  dataDirectory given := given.getD ".data"

/-- One digest for every text. -/
def zeroDigest : TextDigest where
  hex _ := "0000000000000000000000000000000000000000000000000000000000000000"
  isHex _ := by decide

/-- An environment with one setting. -/
def oneSetting (name value : String) : Environment := fun other =>
  if other = name then some value else none

theorem configuration_works_iff_development :
    ∃ configuration, loadRagConfiguration plainEnvironment (fun _ => none) = .ok configuration ∧
      (Works anyDate zeroDigest configuration ↔ Usable plainEnvironment fun _ => none) := by
  have hdriver : (·.embedding.driver) <$> loadRagConfiguration plainEnvironment (fun _ => none) =
      .ok .fake := by decide +kernel
  obtain ⟨configuration, hload, hfake⟩ := map_eq_ok.mp hdriver
  have henabled : configuration.embedding.driver ≠ .disabled := by
    rw [hfake]
    decide
  exact ⟨configuration, hload, configuration_works_iff _ _ _ _ hload henabled⟩

/-- A model with a slash in its name, and a search for 200 results, load and then fail. -/
theorem settings_load_and_fail :
    (∃ configuration,
      loadRagConfiguration plainEnvironment
          (oneSetting "DOCUMENT_EMBEDDING_MODEL" "models/embedding-001") = .ok configuration ∧
        configuration.embedding.driver ≠ .disabled ∧ ¬Works anyDate zeroDigest configuration) ∧
    ∃ configuration,
      loadRagConfiguration plainEnvironment (oneSetting "HYBRID_TOP_K" "200") =
          .ok configuration ∧
        configuration.embedding.driver ≠ .disabled ∧ ¬Works anyDate zeroDigest configuration := by
  constructor
  · have hread : (fun c => (c.embedding.driver, c.embedding.model)) <$>
        loadRagConfiguration plainEnvironment
          (oneSetting "DOCUMENT_EMBEDDING_MODEL" "models/embedding-001") =
        .ok (.fake, "models/embedding-001") := by decide +kernel
    obtain ⟨configuration, hload, hparts⟩ := map_eq_ok.mp hread
    obtain ⟨hdriver, hmodel⟩ := Prod.mk.inj hparts
    refine ⟨configuration, hload, by rw [hdriver]; decide, fun hworks => ?_⟩
    have hdimensions := (loadRagConfiguration_spec hload).positiveDimensions
    have hnames := (records_pass_iff hdimensions).mp hworks.records
    rw [hmodel] at hnames
    exact absurd hnames.1 (by decide)
  · have hread : (fun c => (c.embedding.driver, c.hybrid.topK)) <$>
        loadRagConfiguration plainEnvironment (oneSetting "HYBRID_TOP_K" "200") =
        .ok (.fake, 200) := by decide +kernel
    obtain ⟨configuration, hload, hparts⟩ := map_eq_ok.mp hread
    obtain ⟨hdriver, htopK⟩ := Prod.mk.inj hparts
    refine ⟨configuration, hload, by rw [hdriver]; decide, fun hworks => ?_⟩
    obtain ⟨question, haccepts⟩ := hworks.answers
    have hrange := (passesRetrievers_iff haccepts (by omega)).mp
      (hworks.questions question haccepts)
    omega

end AvantimePlatform.Rag.Loading
