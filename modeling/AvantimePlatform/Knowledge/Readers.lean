import AvantimePlatform.Knowledge.Worker
import AvantimePlatform.Rag.Chunks
import AvantimePlatform.Rag.Retrieval

/-!
# The readers of the knowledge index

The lexical search, the vector search, `getForAudience` and the citation resolver of
`knowledge-indexing.ts`.  Each compares an index row with the article, and asks
`canReadKnowledgeIndex` about the row.  A search is one statement.  The other two read the
two rows one after the other, so each is a function of two states.

`readers_see_live_rows`: what a reader returns is an article that the audience may see, as
its row is when the reader reads it.
-/

namespace AvantimePlatform.Knowledge

open AvantimePlatform.Governance (KnowledgeOwnerScope KnowledgeVisibility ArticleStatus)
open AvantimePlatform.Rag (CodeUnit codeUnits compactText toFixed6 orElseText)

/-! ## Audiences -/

inductive KnowledgeIndexAudience where
  | publicAudience
  | organization (companyId : String)
  | platform
deriving DecidableEq

/-- `canReadKnowledgeIndex`. -/
def canReadKnowledgeIndex (document : IndexedFields) (audience : KnowledgeIndexAudience) : Bool :=
  if document.lifecycleStatus ≠ .published ∨ document.visibility = .privateVisibility then false
  else
    match audience with
    | .platform => document.ownerScope = .platform
    | .publicAudience => document.visibility = .publicVisibility
    | .organization companyId =>
      (document.ownerScope = .organization && document.companyId = some companyId &&
        [.organizationVisibility, .publicVisibility].contains document.visibility) ||
      (document.ownerScope = .platform &&
        [.platformVisibility, .publicVisibility].contains document.visibility)

/-- `audienceClause` of the two searches. -/
def audienceClause (row : IndexedFields) : KnowledgeIndexAudience → Bool
  | .platform => row.ownerScope = .platform
  | .publicAudience => row.visibility = .publicVisibility
  | .organization companyId =>
    (row.ownerScope = .organization && row.companyId = some companyId &&
      [.organizationVisibility, .publicVisibility].contains row.visibility) ||
    (row.ownerScope = .platform && [.platformVisibility, .publicVisibility].contains row.visibility)

/-- An index row says what the article says. -/
def IndexedFields.IsCurrent (row : IndexedFields) (article : Article) : Prop :=
  row.sourceVersion = article.version ∧ row.generation = article.version ∧
    row.ownerScope = article.ownerScope ∧ row.companyId = article.companyId ∧
    row.visibility = article.visibility ∧ row.lifecycleStatus = article.status

instance (row : IndexedFields) (article : Article) : Decidable (row.IsCurrent article) := by
  unfold IndexedFields.IsCurrent
  infer_instance

/-- The article that a search joins with an index row: the conditions of both searches. -/
def Database.joined? (db : Database) (row : IndexedFields) (operationalStatus : String)
    (audience : KnowledgeIndexAudience) : Option Article :=
  (db.article? row.articleId).filter fun article =>
    row.IsCurrent article && audienceClause row audience && article.status = .published &&
      article.quarantinedAt = none && operationalStatus = "READY" &&
      row.lifecycleStatus = .published && row.visibility ≠ .privateVisibility

/-! ## The searches -/

/-- The text search of the database, and its order of the article ids. -/
structure TextSearch where
  isMatch : String → String → Bool
  rank : String → String → ℚ
  compareIds : String → String → Ordering

structure KnowledgeSearchResult extends SearchRow where
  slug : String
  score : ℚ
deriving DecidableEq

/-- `Number(Math.max(0, Math.min(1, score)).toFixed(6))`. -/
def unitScore (score : ℚ) : ℚ := toFixed6 (max 0 (min 1 score))

/-- A higher score first, and then the order of the ids. -/
def TextSearch.before (text : TextSearch) (first second : KnowledgeSearchResult) : Bool :=
  decide (second.score < first.score) ||
    first.score = second.score && (text.compareIds first.articleId second.articleId).isLE

/-- `PostgreSQLKnowledgeSearchAdapter.search`. -/
def search (text : TextSearch) (db : Database) (query : String)
    (audience : KnowledgeIndexAudience) : List KnowledgeSearchResult :=
  let rows := db.searchIndex.filterMap fun row =>
    if text.isMatch row.searchText query then
      (db.joined? row.toIndexedFields row.operationalStatus audience).map fun article =>
        { row with slug := article.slug, score := text.rank row.searchText query }
    else none
  let found := (rows.insertionSort (text.before · ·)).take 50
  (found.filter fun row => canReadKnowledgeIndex row.toIndexedFields audience).map fun row =>
    { row with score := unitScore row.score }

structure KnowledgeVectorSearchResult extends IndexedFields where
  slug : String
  title : String
  summary : String
  tags : List String
  score : ℚ
deriving DecidableEq

/-- `KnowledgeVectorSearchRequest`.  A number of the vector that is not finite is `none`. -/
structure KnowledgeVectorSearchRequest where
  audience : KnowledgeIndexAudience
  vector : List (Option Rat)
  embeddingModel : String
  embeddingVersion : String
  topK : Int
  minimumSimilarity : ℚ

/-- `PostgreSQLKnowledgeVectorAdapter.search`.  `similarity` is one minus the distance. -/
def vectorSearch (similarity : List Rat → List Rat → ℚ) (db : Database)
    (request : KnowledgeVectorSearchRequest) :
    Except String (List KnowledgeVectorSearchResult) := do
  Checked.require (request.vector ≠ [] ∧ ∀ value ∈ request.vector, value.isSome)
    "KNOWLEDGE_VECTOR_INVALID"
  Checked.require (0 < request.topK ∧ request.topK ≤ 100 ∧ 0 ≤ request.minimumSimilarity ∧
      request.minimumSimilarity ≤ 1 ∧ Text.trim request.embeddingModel ≠ "" ∧
      Text.trim request.embeddingVersion ≠ "")
    "KNOWLEDGE_VECTOR_SEARCH_INVALID"
  let vector := request.vector.filterMap id
  let rows := db.vectorIndex.filterMap fun row =>
    let score := similarity row.embedding vector
    if row.embeddingModel = request.embeddingModel ∧
        row.embeddingVersion = request.embeddingVersion ∧ request.minimumSimilarity ≤ score then
      (db.joined? row.toIndexedFields row.operationalStatus request.audience).map fun article =>
        { toIndexedFields := row.toIndexedFields, slug := article.slug, title := article.title
          summary := article.summary, tags := article.tags, score := score }
    else none
  let found := (rows.insertionSort fun first second =>
    second.score < first.score ∨
      first.score = second.score ∧ first.articleId ≤ second.articleId).take request.topK.toNat
  return found.filter fun row => canReadKnowledgeIndex row.toIndexedFields request.audience

/-! ## The two readers of one article -/

/-- `getForAudience`, which reads the index row in `rows` and then the article in
`articles`. -/
def getForAudience (rows articles : Database) (articleId : String)
    (audience : KnowledgeIndexAudience) : Option VectorRow :=
  match rows.vectorRow? articleId with
  | none => none
  | some row =>
    match articles.article? articleId with
    | none => none
    | some article =>
      if article.quarantinedAt ≠ none ∨ ¬row.IsCurrent article ∨
          row.operationalStatus ≠ "READY" then none
      else if canReadKnowledgeIndex row.toIndexedFields audience then some row
      else none

structure KnowledgeCitationSource where
  articleId : String
  slug : String
  title : String
  chunkId : String
  excerpt : List CodeUnit
deriving DecidableEq

/-- The one chunk of an article. -/
def articleChunk (articleId : String) : String := articleId ++ ":article"

/-- `PostgreSQLKnowledgeCitationResolver.resolve`, which reads the article in `articles` and
then the index row in `rows`. -/
def resolve (articles rows : Database) (articleId : String) (audience : KnowledgeIndexAudience) :
    Option KnowledgeCitationSource :=
  match articles.article? articleId with
  | none => none
  | some article =>
    if article.quarantinedAt ≠ none then none
    else
      match rows.searchRow? articleId with
      | none => none
      | some index =>
        if article.status ≠ .published ∨ article.visibility = .privateVisibility ∨
            ¬index.IsCurrent article ∨ index.operationalStatus ≠ "READY" ∨
            canReadKnowledgeIndex index.toIndexedFields audience = false then none
        else
          let excerpt := compactText (codeUnits
            (orElseText index.summary (orElseText index.searchText article.title)))
          if excerpt = [] then none
          else some
            { articleId := article.id
              slug := article.slug
              title := article.title
              chunkId := articleChunk article.id
              excerpt := excerpt }

/-! ## What a reader sees -/

/-- An article that an audience may see. -/
structure Readable (audience : KnowledgeIndexAudience) (article : Article) : Prop where
  published : article.status = .published
  notQuarantined : article.quarantinedAt = none
  notPrivate : article.visibility ≠ .privateVisibility
  canRead : canReadKnowledgeIndex article.indexedFields audience = true
  toPublic : audience = .publicAudience → article.visibility = .publicVisibility
  toOrganization : ∀ companyId, audience = .organization companyId →
    article.ownerScope = .organization ∧ article.companyId = some companyId ∨
      article.ownerScope = .platform ∧
        (article.visibility = .platformVisibility ∨ article.visibility = .publicVisibility)

section Readers

variable {row : IndexedFields} {article : Article} {audience : KnowledgeIndexAudience}

/-- `canReadKnowledgeIndex` looks at nothing in which a current row differs from its
article. -/
theorem canRead_of_isCurrent (h : row.IsCurrent article) :
    canReadKnowledgeIndex article.indexedFields audience = canReadKnowledgeIndex row audience := by
  obtain ⟨-, -, hscope, hcompany, hvisibility, hstatus⟩ := h
  unfold canReadKnowledgeIndex Article.indexedFields
  rw [hscope, hcompany, hvisibility, hstatus]

theorem readable_of_canRead (hquarantine : article.quarantinedAt = none)
    (h : canReadKnowledgeIndex article.indexedFields audience = true) :
    Readable audience article := by
  have hsplit := h
  unfold canReadKnowledgeIndex at hsplit
  split at hsplit
  · cases hsplit
  · next hopen =>
      have hstatus : article.status = .published := by
        by_contra hne
        exact hopen (Or.inl hne)
      have hprivate : article.visibility ≠ .privateVisibility := fun hne => hopen (Or.inr hne)
      refine ⟨hstatus, hquarantine, hprivate, h, ?_, ?_⟩
      · rintro rfl
        exact of_decide_eq_true hsplit
      · rintro companyId rfl
        dsimp only [Article.indexedFields] at hsplit
        simp only [Bool.or_eq_true, Bool.and_eq_true, decide_eq_true_eq, List.contains_eq_mem,
          List.mem_cons, List.not_mem_nil, or_false] at hsplit
        rcases hsplit with ⟨⟨hscope, hcompany⟩, -⟩ | ⟨hscope, hvisibility⟩
        · exact Or.inl ⟨of_decide_eq_true hscope, of_decide_eq_true hcompany⟩
        · exact Or.inr ⟨of_decide_eq_true hscope, hvisibility⟩

/-- A current row that an audience can read is that of an article that it may see. -/
theorem readable_of_isCurrent (hcurrent : row.IsCurrent article)
    (hquarantine : article.quarantinedAt = none)
    (hread : canReadKnowledgeIndex row audience = true) : Readable audience article := by
  refine readable_of_canRead hquarantine ?_
  rw [canRead_of_isCurrent hcurrent]
  exact hread

end Readers

/-- The live row of an article is one that an audience may see. -/
def Sees (db : Database) (articleId : String) (audience : KnowledgeIndexAudience) : Prop :=
  ∃ article, db.article? articleId = some article ∧ Readable audience article

section Results

variable {text : TextSearch} {similarity : List Rat → List Rat → ℚ} {db rows articles : Database}
  {audience : KnowledgeIndexAudience} {articleId : String}

/-- What a search joins is current, and not quarantined. -/
theorem joined_spec {row : IndexedFields} {operationalStatus : String} {article : Article}
    (h : db.joined? row operationalStatus audience = some article) :
    db.article? row.articleId = some article ∧ row.IsCurrent article ∧
      article.quarantinedAt = none := by
  unfold Database.joined? at h
  obtain ⟨hfound, hcondition⟩ := Option.filter_eq_some_iff.mp h
  simp only [Bool.and_eq_true, decide_eq_true_eq] at hcondition
  exact ⟨hfound, hcondition.1.1.1.1.1.1, hcondition.1.1.1.2⟩

theorem sees_of_joined {row : IndexedFields} {operationalStatus : String} {article : Article}
    (h : db.joined? row operationalStatus audience = some article)
    (hread : canReadKnowledgeIndex row audience = true) : Sees db row.articleId audience := by
  obtain ⟨hfound, hcurrent, hquarantine⟩ := joined_spec h
  exact ⟨article, hfound, readable_of_isCurrent hcurrent hquarantine hread⟩

theorem sees_of_search {query : String} {result : KnowledgeSearchResult}
    (h : result ∈ search text db query audience) : Sees db result.articleId audience := by
  unfold search at h
  obtain ⟨found, hfound, rfl⟩ := List.mem_map.mp h
  obtain ⟨hfound, hread⟩ := List.mem_filter.mp hfound
  have hrow := (List.mem_insertionSort _).mp (List.mem_of_mem_take hfound)
  obtain ⟨row, -, hmade⟩ := List.mem_filterMap.mp hrow
  split at hmade
  · obtain ⟨article, hjoined, rfl⟩ := Option.map_eq_some_iff.mp hmade
    exact sees_of_joined hjoined hread
  · cases hmade

theorem sees_of_vectorSearch {request : KnowledgeVectorSearchRequest}
    {results : List KnowledgeVectorSearchResult} {result : KnowledgeVectorSearchResult}
    (hsearch : vectorSearch similarity db request = .ok results) (h : result ∈ results) :
    Sees db result.articleId request.audience := by
  unfold vectorSearch at hsearch
  have hrows := (Checked.seq_eq_ok.mp (Checked.seq_eq_ok.mp hsearch).2).2
  rw [← Except.ok.inj hrows] at h
  obtain ⟨hfound, hread⟩ := List.mem_filter.mp h
  have hrow := (List.mem_insertionSort _).mp (List.mem_of_mem_take hfound)
  obtain ⟨row, -, hmade⟩ := List.mem_filterMap.mp hrow
  dsimp only at hmade
  split at hmade
  · obtain ⟨article, hjoined, rfl⟩ := Option.map_eq_some_iff.mp hmade
    exact sees_of_joined hjoined hread
  · cases hmade

/-- The article is the row that `getForAudience` reads last. -/
theorem sees_of_getForAudience {row : VectorRow}
    (h : getForAudience rows articles articleId audience = some row) :
    row.articleId = articleId ∧ Sees articles articleId audience := by
  unfold getForAudience at h
  split at h
  · cases h
  · next found hrow =>
      split at h
      · cases h
      · next article harticle =>
          split at h
          · cases h
          · next hcondition =>
              simp only [not_or, not_not] at hcondition
              obtain ⟨hquarantine, hcurrent, -⟩ := hcondition
              split at h
              · next hread =>
                  rw [← Option.some.inj h]
                  refine ⟨(KeyedList.find_eq_some hrow).2, article, harticle, ?_⟩
                  exact readable_of_isCurrent hcurrent hquarantine hread
              · cases h

/-- What the resolver returns is made of the article as it reads it. -/
theorem resolve_spec {source : KnowledgeCitationSource}
    (h : resolve articles rows articleId audience = some source) :
    source.articleId = articleId ∧ source.chunkId = articleChunk articleId ∧
      source.excerpt ≠ [] ∧ Sees articles articleId audience := by
  unfold resolve at h
  split at h
  · cases h
  · next article harticle =>
      split at h
      · cases h
      · next hquarantine =>
          rw [not_not] at hquarantine
          split at h
          · cases h
          · next index hindex =>
              split at h
              · cases h
              · next hcondition =>
                  simp only [not_or, not_not, Bool.not_eq_false] at hcondition
                  obtain ⟨-, -, hcurrent, -, hread⟩ := hcondition
                  dsimp only at h
                  split at h
                  · cases h
                  · next hexcerpt =>
                      have hid : article.id = articleId := (KeyedList.find_eq_some harticle).2
                      rw [← Option.some.inj h]
                      refine ⟨hid, congrArg articleChunk hid, hexcerpt, article, harticle, ?_⟩
                      exact readable_of_isCurrent hcurrent hquarantine hread

/-- Each reader returns articles that the audience may see, at the moment when it reads the
row of the article. -/
theorem readers_see_live_rows (text : TextSearch) (similarity : List Rat → List Rat → ℚ)
    (first second : Database) (audience : KnowledgeIndexAudience) :
    (∀ query, ∀ result ∈ search text first query audience,
        Sees first result.articleId audience) ∧
      (∀ request results, request.audience = audience →
        vectorSearch similarity first request = .ok results →
        ∀ result ∈ results, Sees first result.articleId audience) ∧
      (∀ articleId row, getForAudience first second articleId audience = some row →
        row.articleId = articleId ∧ Sees second articleId audience) ∧
      ∀ articleId source, resolve first second articleId audience = some source →
        source.articleId = articleId ∧ Sees first articleId audience := by
  refine ⟨fun _ _ => sees_of_search, ?_, fun _ _ => sees_of_getForAudience, ?_⟩
  · rintro request results rfl hsearch result hresult
    exact sees_of_vectorSearch hsearch hresult
  · intro articleId source hresolve
    obtain ⟨hid, -, -, hsees⟩ := resolve_spec hresolve
    exact ⟨hid, hsees⟩

end Results

/-! ## A change between the two reads of the resolver -/

/-- A public article of the platform. -/
def publicGuide : Article where
  id := "guide"
  companyId := none
  ownerScope := .platform
  visibility := .publicVisibility
  status := .published
  slug := "guide"
  title := "Guide"
  summary := "How to begin"
  content := "{}"

/-- The article is in the search index. -/
def indexedGuide : Database :=
  ({ articles := [publicGuide] } : Database).upsertSearch publicGuide

/-- The visibility route makes it private. -/
def hideGuide : ArticleChange :=
  .writeVisibility
    { input :=
        { id := "guide", visibility := .privateVisibility, expectedVersion := 1
          sessionCompanyId := none, authorized := true }
      article := publicGuide.toKnowledgeArticle }

/-- What the resolver makes of it. -/
def guideSource : KnowledgeCitationSource where
  articleId := "guide"
  slug := "guide"
  title := "Guide"
  chunkId := "guide:article"
  excerpt := codeUnits "How to begin"

theorem resolve_indexedGuide (rows : Database)
    (h : rows.searchRow? "guide" = some publicGuide.searchRow) :
    resolve indexedGuide rows "guide" .publicAudience = some guideSource := by
  unfold resolve
  rw [h]
  decide

theorem readers_see_live_rows_of_guide :
    resolve indexedGuide indexedGuide "guide" .publicAudience = some guideSource ∧
      guideSource.articleId = "guide" ∧ Sees indexedGuide "guide" .publicAudience := by
  have hresolve := resolve_indexedGuide indexedGuide rfl
  have hreaders := readers_see_live_rows
    { isMatch := fun _ _ => false, rank := fun _ _ => 0, compareIds := compare } (fun _ _ => 0)
    indexedGuide indexedGuide .publicAudience
  exact ⟨hresolve, hreaders.2.2.2 "guide" guideSource hresolve⟩

/-- The article is hidden after the resolver has read it and before it reads the index row:
it is returned when nobody may see it any more. -/
theorem resolver_returns_hidden_article :
    ∃ hidden, hideGuide.run indexedGuide 0 = .ok hidden ∧
      resolve indexedGuide hidden "guide" .publicAudience = some guideSource ∧
      ¬Sees hidden "guide" .publicAudience := by
  refine ⟨_, rfl, resolve_indexedGuide _ rfl, ?_⟩
  rintro ⟨article, harticle, hreadable⟩
  have hpublic := hreadable.toPublic rfl
  rw [← Option.some.inj harticle] at hpublic
  revert hpublic
  decide

end AvantimePlatform.Knowledge
