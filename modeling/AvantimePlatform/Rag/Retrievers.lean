import AvantimePlatform.Knowledge.Readers
import AvantimePlatform.Rag.HybridRanking

/-!
# The retrievers

What `createRagServices` puts behind the hybrid retriever: `DefaultLexicalRetriever` and
`DefaultSemanticRetriever` of `retrieval.ts`, and the two retrievers of articles of
`knowledge-retrieval.ts`.  The requests are those of the answer service, which sets no
filters.

Each read of a call happens at a time of its own, so each has its own `Store`.  The rows of
the vector search are an input: nothing is said of when they were written.

`pages_of_selection`: the pages of a result are those that the semantic results have for it.
-/

namespace AvantimePlatform.Rag

open AvantimePlatform.Documents (DocumentProcessingStatus)
open AvantimePlatform.Documents.Record (DateParser isSet)
open AvantimePlatform.Replace
open AvantimePlatform.KeyedList (collect)
open AvantimePlatform.Knowledge (TextSearch unitScore articleChunk)

/-! ## What is stored -/

/-- What retrieval and citations read of `DocumentMetadata`. -/
structure DocumentSource where
  id : String
  companyId : String
  originalName : String
  status : DocumentProcessingStatus
  deletedAt : Option String
deriving DecidableEq

/-- The documents, the files of their chunks, by tenant and document, and the tables of the
articles. -/
structure Store where
  documents : List DocumentSource
  chunks : String → String → List TextChunk
  knowledge : Knowledge.Database

/-- `metadata.list`, in the order in which it lists. -/
def Store.list (store : Store) (companyId : String) : List DocumentSource :=
  store.documents.filter fun document => document.companyId = companyId && !isSet document.deletedAt

/-- `metadata.findById`. -/
def Store.findById (store : Store) (companyId documentId : String) : Option DocumentSource :=
  store.documents.find? fun document =>
    document.companyId = companyId && document.id = documentId && !isSet document.deletedAt

/-! ## What the runtime provides -/

/-- The parts of the runtime and of the database that the retrievers call: `lexicalScore` and
`preview` of `retrieval.ts` rest on the Unicode tables. -/
structure Runtime where
  dates : DateParser
  collation : Collation
  text : TextSearch
  similarity : List Rat → List Rat → ℚ
  lexicalScore : List CodeUnit → String → ℚ
  preview : List CodeUnit → String → String
  encodeURIComponent : String → String

/-- The configuration of the retrievers and of the answer service. -/
structure RagConfiguration extends HybridConfiguration where
  embeddingModel : String
  embeddingVersion : String
  embeddingDimensions : Nat
  semanticSimilarityThreshold : ℚ
  maximumContextCharacters : Nat

/-- What `vectors.search` returns of a stored vector. -/
structure VectorSearchResult where
  documentId : String
  documentTitle : String
  chunkId : String
  chunkIndex : Nat
  pageStart : Option Nat
  pageEnd : Option Nat
  contentPreview : String
  score : ℚ
deriving DecidableEq

/-- What `createQueryEmbedding` returns. -/
structure QueryEmbedding where
  vector : List (Option Rat)
  model : String
  dimensions : Nat

/-- What the reads of a retrieval find. -/
structure RetrievalReads where
  /-- `metadata.list`. -/
  listed : Store
  /-- `readChunks` for the document at a position of the list. -/
  listedChunks : Nat → Store
  /-- The text search over the articles. -/
  articles : Store
  embedding : Except String QueryEmbedding
  vectors : Except String (List VectorSearchResult)
  /-- The vector search over the articles. -/
  articleVectors : Store

/-! ## Lexical retrieval -/

/-- `scoreComponents` of a lexical result. -/
def lexicalOnly (score : ℚ) : RetrievalScoreComponents where
  lexical := score
  semantic := 0
  hybrid := score

/-- `scoreComponents` of a semantic result. -/
def semanticOnly (score : ℚ) : RetrievalScoreComponents where
  lexical := 0
  semantic := score
  hybrid := score

/-- The order of the two lexical retrievers that sort. -/
def lexicalOrder (collation : Collation) : RetrievalResult → RetrievalResult → Ordering :=
  compareLex (descending fun result => result.score)
    (compareLex (fun first second => collation.compare first.sourceId second.sourceId)
      (compareOn fun result => result.chunkIndex))

/-- The order of the semantic retriever. -/
def semanticOrder (collation : Collation) : RetrievalResult → RetrievalResult → Ordering :=
  compareLex (descending fun result => result.score)
    (compareLex (fun first second =>
        collation.compare first.sourceType.name second.sourceType.name)
      (compareLex (fun first second => collation.compare first.sourceId second.sourceId)
        (compareOn fun result => result.chunkIndex)))

/-- `results.sort(order).slice(0, topK)`. -/
def sortedTop (order : RetrievalResult → RetrievalResult → Ordering) (topK : Nat)
    (results : List RetrievalResult) : List RetrievalResult :=
  (results.insertionSort fun first second => (order first second).isLE = true).take topK

/-- The result for a chunk, unless its score is zero. -/
def lexicalChunk (runtime : Runtime) (query : String) (document : DocumentSource)
    (chunk : TextChunk) : Option RetrievalResult :=
  let score := runtime.lexicalScore chunk.text query
  if score ≤ 0 then none
  else some
    { sourceType := .document
      sourceId := document.id
      sourceTitle := document.originalName
      documentId := some document.id
      documentTitle := some document.originalName
      articleId := none
      articleSlug := none
      chunkId := chunk.id
      chunkIndex := chunk.index
      pageStart := none
      pageEnd := none
      preview := runtime.preview chunk.text query
      score := score
      scoreComponents := lexicalOnly score }

/-- The results for the document at a position of the list. -/
def lexicalDocument (runtime : Runtime) (query companyId : String) (listedChunks : Nat → Store)
    (document : DocumentSource) (position : Nat) : List RetrievalResult :=
  if document.status ≠ .completed ∨ isSet document.deletedAt then []
  else ((listedChunks position).chunks companyId document.id).filterMap
    (lexicalChunk runtime query document)

/-- `DefaultLexicalRetriever.retrieve`. -/
def retrieveDocuments (runtime : Runtime) (configuration : HybridConfiguration)
    (companyId : String) (request : RetrievalRequest) (listed : Store)
    (listedChunks : Nat → Store) : Except String (List RetrievalResult) :=
  match validateRequest runtime.dates request configuration with
  | .error e => .error e
  | .ok (query, topK) =>
    .ok (sortedTop (lexicalOrder runtime.collation) topK
      ((listed.list companyId).zipIdx.flatMap fun (document, position) =>
        lexicalDocument runtime query companyId listedChunks document position))

/-- `preview` of `knowledge-retrieval.ts`. -/
def articlePreview (title summary searchText : String) : String :=
  let value := orElseText summary (orElseText searchText title)
  String.ofList (Text.sliceUnits 500
    (trim Text.isBlank (collapse Text.isBlank 1 [' '] value.toList)))

/-- `KnowledgeLexicalRetriever.retrieve`. -/
def retrieveArticles (runtime : Runtime) (companyId : String) (request : RetrievalRequest)
    (topK : Nat) (store : Store) : List RetrievalResult :=
  ((Knowledge.search runtime.text store.knowledge request.query
      (.organization companyId)).take topK).zipIdx.map fun (document, index) =>
    { sourceType := .article
      sourceId := document.articleId
      sourceTitle := document.title
      documentId := none
      documentTitle := none
      articleId := some document.articleId
      articleSlug := some document.slug
      chunkId := articleChunk document.articleId
      chunkIndex := index
      pageStart := none
      pageEnd := none
      preview := articlePreview document.title document.summary document.searchText
      score := document.score
      scoreComponents := lexicalOnly document.score }

/-- `CompositeLexicalRetriever.retrieve` of the two, with the `topK` of its request. -/
def retrieveLexical (runtime : Runtime) (configuration : HybridConfiguration)
    (companyId : String) (request : RetrievalRequest) (topK : Nat) (reads : RetrievalReads) :
    Except String (List RetrievalResult) :=
  match retrieveDocuments runtime configuration companyId request reads.listed
      reads.listedChunks with
  | .error e => .error e
  | .ok documents =>
    .ok (sortedTop (lexicalOrder runtime.collation) topK
      (documents ++ retrieveArticles runtime companyId request topK reads.articles))

/-! ## Semantic retrieval -/

/-- The result for a row of the vector search. -/
def semanticChunk (result : VectorSearchResult) : RetrievalResult where
  sourceType := .document
  sourceId := result.documentId
  sourceTitle := result.documentTitle
  documentId := some result.documentId
  documentTitle := some result.documentTitle
  articleId := none
  articleSlug := none
  chunkId := result.chunkId
  chunkIndex := result.chunkIndex
  pageStart := result.pageStart
  pageEnd := result.pageEnd
  preview := result.contentPreview
  score := unitScore result.score
  scoreComponents := semanticOnly (unitScore result.score)

/-- `KnowledgeSemanticRetriever.retrieveWithEmbedding`. -/
def retrieveArticleVectors (runtime : Runtime) (configuration : RagConfiguration)
    (companyId : String) (request : RetrievalRequest) (embedding : QueryEmbedding)
    (store : Store) : Except String (List RetrievalResult) :=
  match Knowledge.vectorSearch runtime.similarity store.knowledge
      { audience := .organization companyId
        vector := embedding.vector
        embeddingModel := configuration.embeddingModel
        embeddingVersion := configuration.embeddingVersion
        topK := request.topK.getD configuration.topK
        minimumSimilarity := configuration.semanticSimilarityThreshold } with
  | .error e => .error e
  | .ok results =>
    .ok (results.zipIdx.map fun (result, index) =>
      { sourceType := .article
        sourceId := result.articleId
        sourceTitle := result.title
        documentId := none
        documentTitle := none
        articleId := some result.articleId
        articleSlug := some result.slug
        chunkId := articleChunk result.articleId
        chunkIndex := index
        pageStart := none
        pageEnd := none
        preview := articlePreview result.title result.summary ""
        score := unitScore result.score
        scoreComponents := semanticOnly (unitScore result.score) })

/-- `DefaultSemanticRetriever.retrieve`. -/
def retrieveSemantic (runtime : Runtime) (configuration : RagConfiguration) (companyId : String)
    (request : RetrievalRequest) (reads : RetrievalReads) :
    Except String (List RetrievalResult) := do
  let (_, topK) ← validateRequest runtime.dates request configuration.toHybridConfiguration
  let embedding ← reads.embedding
  Checked.require (embedding.model = configuration.embeddingModel ∧
      embedding.dimensions = configuration.embeddingDimensions)
    "Query embedding is incompatible with the active vector index."
  let results ← reads.vectors
  let additional ← retrieveArticleVectors runtime configuration companyId request embedding
    reads.articleVectors
  return sortedTop (semanticOrder runtime.collation) topK (results.map semanticChunk ++ additional)

/-! ## Hybrid retrieval -/

/-- `candidateLimit`. -/
def candidateLimit (topK : Nat) : Nat := min 100 (max (topK * 3) topK)

/-- `DefaultHybridRetriever.retrieve`. -/
def retrieveHybrid (runtime : Runtime) (configuration : RagConfiguration) (companyId : String)
    (request : RetrievalRequest) (reads : RetrievalReads) :
    Except String (List RetrievalResult) := do
  let (_, topK) ← validateRequest runtime.dates request configuration.toHybridConfiguration
  let candidates := { request with topK := some (candidateLimit topK) }
  let lexical ← retrieveLexical runtime configuration.toHybridConfiguration companyId candidates
    (candidateLimit topK) reads
  let semantic ← retrieveSemantic runtime configuration companyId candidates reads
  retrieve runtime.dates runtime.collation configuration.toHybridConfiguration request lexical
    semantic

/-! ## The pages of a result -/

/-- The last page that the results under a key name. -/
def lastPage (page : RetrievalResult → Option Nat) (semantic : List RetrievalResult)
    (key : String) : Option Nat :=
  (semantic.filter fun result => resultKey result = key).foldl
    (fun found result => page result <|> found) none

/-- A page number of a result, which merging takes from the newer result. -/
structure PageField where
  page : RetrievalResult → Option Nat
  page_addSemantic : ∀ maximum existing result,
    page (addSemantic maximum existing result).toRetrievalResult =
      (page result <|> existing.bind fun old => page old.toRetrievalResult)
  page_addLexical : ∀ maximum existing result,
    page (addLexical maximum existing result).toRetrievalResult = page result
  page_scored : ∀ configuration result,
    page (scored configuration result) = page result.toRetrievalResult

def pageStartField : PageField where
  page result := result.pageStart
  page_addSemantic _ _ _ := rfl
  page_addLexical _ _ _ := rfl
  page_scored _ _ := rfl

def pageEndField : PageField where
  page result := result.pageEnd
  page_addSemantic _ _ _ := rfl
  page_addLexical _ _ _ := rfl
  page_scored _ _ := rfl

section Pages

variable {field : PageField} {lexical semantic results : List RetrievalResult}
  {runtime : Runtime} {configuration : RagConfiguration} {companyId : String}
  {request : RetrievalRequest} {reads : RetrievalReads}

theorem page_foldl (field : PageField) (maximum : ℚ) (inputs : List RetrievalResult)
    (start : Option FusedResult) :
    ((inputs.foldl (fun old input => some (addSemantic maximum old input)) start).bind
        fun result => field.page result.toRetrievalResult) =
      inputs.foldl (fun found result => field.page result <|> found)
        (start.bind fun result => field.page result.toRetrievalResult) := by
  induction inputs generalizing start with
  | nil => rfl
  | cons input inputs ih =>
      rw [List.foldl_cons, List.foldl_cons, ih, Option.bind_some, field.page_addSemantic]

/-- The page of a candidate is the last one among the semantic results. -/
theorem page_of_fuse (hlexical : ∀ result ∈ lexical, field.page result = none)
    {candidate : FusedResult} (h : candidate ∈ fuse lexical semantic) :
    field.page candidate.toRetrievalResult = lastPage field.page semantic candidate.key := by
  have hfind := (KeyedList.find_eq_some_iff (distinct_fuse lexical semantic)).mpr ⟨h, rfl⟩
  unfold fuse at hfind
  rw [KeyedList.find_collect key_addSemantic] at hfind
  have hpage := page_foldl field (maximumScore semantic)
    (semantic.filter fun result => resultKey result = candidate.key)
    (KeyedList.find FusedResult.key candidate.key
      (collect FusedResult.key resultKey (addLexical (maximumScore lexical)) [] lexical))
  have hstart : (KeyedList.find FusedResult.key candidate.key
      (collect FusedResult.key resultKey (addLexical (maximumScore lexical)) [] lexical)).bind
        (fun result => field.page result.toRetrievalResult) = none := by
    refine Option.bind_eq_none_iff.mpr fun found hfound => ?_
    refine KeyedList.forall_collect (P := fun found : FusedResult =>
      field.page found.toRetrievalResult = none) (by simp) ?_ found
      (KeyedList.find_eq_some hfound).1
    intro old result hresult _
    rw [field.page_addLexical]
    exact hlexical result hresult
  rw [hfind, hstart, Option.bind_some] at hpage
  exact hpage

theorem mem_sortedTop {order : RetrievalResult → RetrievalResult → Ordering} {topK : Nat}
    {result : RetrievalResult} (h : result ∈ sortedTop order topK results) : result ∈ results :=
  (List.mem_insertionSort _).mp (List.mem_of_mem_take h)

/-- A lexical result has no pages. -/
theorem page_of_retrieveLexical {topK : Nat}
    (h : retrieveLexical runtime configuration.toHybridConfiguration companyId request topK reads =
      .ok lexical) :
    ∀ result ∈ lexical, result.pageStart = none ∧ result.pageEnd = none := by
  intro result hresult
  unfold retrieveLexical at h
  split at h
  · cases h
  · next documents hdocuments =>
      rw [← Except.ok.inj h] at hresult
      rcases List.mem_append.mp (mem_sortedTop hresult) with hmem | hmem
      · unfold retrieveDocuments at hdocuments
        split at hdocuments
        · cases hdocuments
        · rw [← Except.ok.inj hdocuments] at hmem
          obtain ⟨⟨document, position⟩, -, hmem⟩ := List.mem_flatMap.mp (mem_sortedTop hmem)
          dsimp only at hmem
          unfold lexicalDocument at hmem
          split at hmem
          · cases hmem
          · obtain ⟨chunk, -, hmade⟩ := List.mem_filterMap.mp hmem
            unfold lexicalChunk at hmade
            dsimp only at hmade
            split at hmade
            · cases hmade
            · rw [← Option.some.inj hmade]
              exact ⟨rfl, rfl⟩
      · unfold retrieveArticles at hmem
        obtain ⟨⟨article, index⟩, -, rfl⟩ := List.mem_map.mp hmem
        exact ⟨rfl, rfl⟩

/-- The results of the semantic retriever for the candidates. -/
def semanticCandidates (runtime : Runtime) (configuration : RagConfiguration)
    (companyId : String) (request : RetrievalRequest) (topK : Nat) (reads : RetrievalReads) :
    List RetrievalResult :=
  match retrieveSemantic runtime configuration companyId
      { request with topK := some (candidateLimit topK) } reads with
  | .ok results => results
  | .error _ => []

/-- What the hybrid retriever returns is selected from the candidates. -/
theorem retrieveHybrid_spec
    (h : retrieveHybrid runtime configuration companyId request reads = .ok results) :
    ∃ query topK lexical,
      validateRequest runtime.dates request configuration.toHybridConfiguration =
        .ok (query, topK) ∧
      (∀ result ∈ lexical, result.pageStart = none ∧ result.pageEnd = none) ∧
      results = selection runtime.collation configuration.toHybridConfiguration topK
        (fuse lexical (semanticCandidates runtime configuration companyId request topK reads)) := by
  unfold retrieveHybrid at h
  obtain ⟨⟨query, topK⟩, hvalid, h⟩ := Checked.bind_eq_ok.mp h
  obtain ⟨lexical, hlexical, h⟩ := Checked.bind_eq_ok.mp h
  obtain ⟨semantic, hsemantic, h⟩ := Checked.bind_eq_ok.mp h
  refine ⟨query, topK, lexical, hvalid, page_of_retrieveLexical hlexical, ?_⟩
  have hcandidates : semanticCandidates runtime configuration companyId request topK reads =
      semantic := by
    unfold semanticCandidates
    rw [hsemantic]
  rw [retrieve_eq hvalid] at h
  rw [hcandidates]
  exact (Except.ok.inj h).symm

/-- The pages of a result are the last ones that the semantic results have for it. -/
theorem pages_of_selection {topK : Nat}
    (hlexical : ∀ result ∈ lexical, result.pageStart = none ∧ result.pageEnd = none)
    {result : RetrievalResult}
    (h : result ∈ selection runtime.collation configuration.toHybridConfiguration topK
      (fuse lexical semantic)) :
    result.pageStart = lastPage (·.pageStart) semantic (resultKey result) ∧
      result.pageEnd = lastPage (·.pageEnd) semantic (resultKey result) := by
  have hranked := (CappedSelection.select_sublist _ _ _ _ _ _).subset h
  have heligible := (perm_rank _ _ _).mem_iff.mp hranked
  obtain ⟨⟨candidate, hcandidate, rfl⟩, -⟩ := mem_eligible.mp heligible
  rw [resultKey_scored]
  exact ⟨@page_of_fuse pageStartField _ _ (fun result hresult => (hlexical result hresult).1) _
      hcandidate,
    @page_of_fuse pageEndField _ _ (fun result hresult => (hlexical result hresult).2) _
      hcandidate⟩

end Pages

end AvantimePlatform.Rag
