import AvantimePlatform.Governance.PublicArticles
import AvantimePlatform.Lib.Checked

/-!
# The tables of the knowledge index

The articles with the columns that are indexed, the index events, the rows of the search
index and of the vector index, and `enqueue_knowledge_index_event`, the trigger that stores
an event in the transaction of each change of an article.

The key of an event names the article and its version, so each version of an article has
one event.  A deletion has a key of its own.
-/

namespace AvantimePlatform.Knowledge

open AvantimePlatform AvantimePlatform.Checked
open AvantimePlatform.Governance (KnowledgeOwnerScope KnowledgeVisibility ArticleStatus)

/-- A row of `KnowledgeArticle`, with what is indexed of it.  `content` is the text of its
JSON. -/
structure Article extends Governance.KnowledgeArticle where
  slug : String
  title : String
  summary : String
  tags : List String := []
  content : String
deriving DecidableEq

/-- `KnowledgeIndexEventStatus`. -/
inductive KnowledgeIndexEventStatus where
  | pending
  | processing
  | completed
  | failed
  | deadLetter
deriving DecidableEq

/-- A row of `KnowledgeIndexEvent`. -/
structure KnowledgeIndexEvent where
  id : String
  idempotencyKey : String
  articleId : String
  sourceVersion : Int
  ownerScope : KnowledgeOwnerScope
  companyId : Option String
  visibility : KnowledgeVisibility
  lifecycleStatus : ArticleStatus
  status : KnowledgeIndexEventStatus := .pending
  attempts : Nat := 0
  maxAttempts : Nat := 5
  nextAttemptAt : Int
  createdAt : Int
  leaseToken : Option String := none
  leaseUntil : Option Int := none
  lastFailureCode : Option String := none
  completedAt : Option Int := none
deriving DecidableEq

/-- What the two index tables store of an article, to be compared with it. -/
structure IndexedFields where
  articleId : String
  sourceVersion : Int
  generation : Int
  ownerScope : KnowledgeOwnerScope
  companyId : Option String
  visibility : KnowledgeVisibility
  lifecycleStatus : ArticleStatus
deriving DecidableEq

/-- A row of `KnowledgeSearchIndex`. -/
structure SearchRow extends IndexedFields where
  title : String
  summary : String
  tags : List String
  searchText : String
  operationalStatus : String := "READY"
deriving DecidableEq

/-- A row of `KnowledgeVectorIndex`. -/
structure VectorRow extends IndexedFields where
  embeddingModel : String
  embeddingVersion : String
  embedding : List Rat
  operationalStatus : String := "READY"
deriving DecidableEq

/-- The tables. -/
structure Database where
  articles : List Article := []
  events : List KnowledgeIndexEvent := []
  searchIndex : List SearchRow := []
  vectorIndex : List VectorRow := []

namespace Database

/-- `knowledgeArticle.findUnique({ where: { id } })`. -/
def article? (db : Database) (id : String) : Option Article :=
  KeyedList.find (fun article : Article => article.id) id db.articles

/-- `knowledgeSearchIndex.findUnique({ where: { articleId } })`. -/
def searchRow? (db : Database) (articleId : String) : Option SearchRow :=
  KeyedList.find (fun row : SearchRow => row.articleId) articleId db.searchIndex

/-- `knowledgeVectorIndex.findUnique({ where: { articleId } })`. -/
def vectorRow? (db : Database) (articleId : String) : Option VectorRow :=
  KeyedList.find (fun row : VectorRow => row.articleId) articleId db.vectorIndex

end Database

/-- `indexable` of `processKnowledgeIndexBatch`. -/
def Article.isIndexable (article : Article) : Bool :=
  article.status = .published && article.visibility ≠ .privateVisibility &&
    article.quarantinedAt.isNone

/-! ## The trigger -/

/-- `LEFT(value, n)`. -/
def left (value : String) (n : Nat) : String := String.ofList (value.toList.take n)

/-- The error of a row that a table does not take. -/
def databaseError : String := "PrismaClientError"

/-- The key of the event of a version of an article. -/
def eventKey (articleId : String) (version : Int) (suffix : String) : String :=
  "knowledge:" ++ articleId ++ ":" ++ toString version ++ suffix

/-- The id of the event of a version of an article. -/
def eventId (articleId : String) (version : Int) (suffix : String) : String :=
  "knowledge-" ++ articleId ++ "-" ++ toString version ++ suffix

/-- `event_suffix` of a deletion. -/
def deleteSuffix : String := ":delete"

/-- The row that the trigger inserts. -/
def indexEvent (article : Article) (suffix : String) (now : Int) : KnowledgeIndexEvent where
  id := eventId article.id article.version suffix
  idempotencyKey := eventKey article.id article.version suffix
  articleId := left article.id 200
  sourceVersion := article.version
  ownerScope := article.ownerScope
  companyId := article.companyId.map (left · 200)
  visibility := article.visibility
  lifecycleStatus := article.status
  nextAttemptAt := now
  createdAt := now

/-- The insert of the trigger.  A key that is there already is no error, but an id is, and
so are a key of more than 200 characters and a version that is not positive. -/
def enqueueKnowledgeIndexEvent (article : Article) (suffix : String) (now : Int)
    (events : List KnowledgeIndexEvent) : Except String (List KnowledgeIndexEvent) := do
  require ((eventKey article.id article.version suffix).length ≤ 200 ∧ 0 < article.version)
    databaseError
  if ∃ event ∈ events, event.idempotencyKey = eventKey article.id article.version suffix then
    return events
  else do
    require (∀ event ∈ events, event.id ≠ eventId article.id article.version suffix)
      databaseError
    return events ++ [indexEvent article suffix now]

/-- The condition of the trigger on an update. -/
def Article.firesTrigger (old new : Article) : Bool :=
  new.version ≠ old.version || new.ownerScope ≠ old.ownerScope ||
    new.companyId ≠ old.companyId || new.visibility ≠ old.visibility ||
    new.status ≠ old.status || new.quarantinedAt ≠ old.quarantinedAt

/-- The trigger on an update. -/
def enqueueUpdated (old new : Article) (now : Int) (events : List KnowledgeIndexEvent) :
    Except String (List KnowledgeIndexEvent) :=
  if old.firesTrigger new then enqueueKnowledgeIndexEvent new "" now events else .ok events

namespace Database

/-- `knowledgeArticle.updateMany`, with the trigger. -/
def updateArticles (db : Database) (p : Article → Bool) (f : Article → Article) (now : Int) :
    Except String Database := do
  let events ← (db.articles.filter p).foldlM
    (fun events old => enqueueUpdated old (f old) now events) db.events
  return { db with articles := KeyedList.updateMany p f db.articles, events := events }

/-- `knowledgeArticle.create`, with the trigger. -/
def createArticle (db : Database) (article : Article) (now : Int) : Except String Database := do
  require (∀ row ∈ db.articles, row.id ≠ article.id ∧ row.slug ≠ article.slug) databaseError
  let events ← enqueueKnowledgeIndexEvent article "" now db.events
  return { db with articles := db.articles ++ [article], events := events }

/-- The deletion of an article, with the trigger. -/
def deleteArticle (db : Database) (id : String) (now : Int) : Except String Database :=
  match db.article? id with
  | none => .ok db
  | some article => do
    let events ← enqueueKnowledgeIndexEvent article deleteSuffix now db.events
    return { db with articles := db.articles.filter (·.id ≠ id), events := events }

end Database

/-! ## The changes of an article -/

/-- The input of `createKnowledgeArticle`, but for the text that is not indexed. -/
structure NewArticle where
  title : String
  slug : String
  summary : String
  tags : List String
  content : String
  ownerScope : KnowledgeOwnerScope := .platform
  companyId : Option String := none
  visibility : KnowledgeVisibility := .privateVisibility

/-- The row that `createKnowledgeArticle` creates. -/
def NewArticle.article (input : NewArticle) (id : String) : Article where
  id := id
  companyId := if input.ownerScope = .organization then input.companyId else none
  ownerScope := input.ownerScope
  visibility := input.visibility
  slug := input.slug
  title := input.title
  summary := input.summary
  tags := input.tags
  content := input.content

/-- The condition of the update of `setKnowledgeArticleStatus`. -/
def Article.isPlatformTarget (row : Article) (id : String) (expectedVersion : Int) : Bool :=
  row.id = id && row.ownerScope = .platform && row.version = expectedVersion &&
    row.quarantinedAt.isNone

/-- The condition of the update of `requestPlatformKnowledgeReindex`. -/
def Article.isReindexTarget (row : Article) (id : String) (expectedVersion : Int) : Bool :=
  row.id = id && row.ownerScope = .platform && row.version = expectedVersion

/-- The data of the update of `requestPlatformKnowledgeReindex`. -/
def Article.reindex (row : Article) : Article :=
  { row with quarantinedAt := none, version := row.version + 1 }

/-- The data of the update of `setKnowledgeArticleStatus` and
`setOrganizationKnowledgeArticleStatus`. -/
def Article.setStatus (row : Article) (status : ArticleStatus) (now : Int) : Article :=
  { row with toKnowledgeArticle := row.toKnowledgeArticle.setStatus status now }

/-- The data of the update of the visibility route without an approval. -/
def Article.changeVisibility (row : Article) (update : Governance.VisibilityUpdate) : Article :=
  { row with toKnowledgeArticle := update.write row.toKnowledgeArticle }

/-- The data of the update of the visibility route with an approval. -/
def Article.publish (row : Article) (approvalId : String) : Article :=
  { row with toKnowledgeArticle := row.toKnowledgeArticle.publish approvalId }

/-- The data of the updates of the worker. -/
def Article.quarantine (row : Article) (now : Int) : Article :=
  { row with quarantinedAt := some now }

/-- A change of an article, in its own transaction. -/
inductive ArticleChange where
  | createKnowledgeArticle (input : NewArticle) (id : String)
  | setKnowledgeArticleStatus (id : String) (status : ArticleStatus) (expectedVersion : Int)
  | setOrganizationKnowledgeArticleStatus (companyId id : String) (status : ArticleStatus)
      (expectedVersion : Int)
  /-- The visibility route makes the update that it has read an article for. -/
  | writeVisibility (update : Governance.VisibilityUpdate)
  /-- The visibility route executes an approval. -/
  | publishArticle (id approvalId : String)
  | requestPlatformKnowledgeReindex (id : String) (expectedVersion : Int)
  | deleteArticle (id : String)

/-- The change, or the error that rolls it back. -/
def ArticleChange.run (db : Database) (now : Int) : ArticleChange → Except String Database
  | .createKnowledgeArticle input id => db.createArticle (input.article id) now
  | .setKnowledgeArticleStatus id status expectedVersion =>
    db.updateArticles (·.isPlatformTarget id expectedVersion) (·.setStatus status now) now
  | .setOrganizationKnowledgeArticleStatus companyId id status expectedVersion =>
    db.updateArticles (·.toKnowledgeArticle.isStatusTarget companyId id expectedVersion)
      (·.setStatus status now) now
  | .writeVisibility update =>
    db.updateArticles (fun row => update.selects row.toKnowledgeArticle) (·.changeVisibility update)
      now
  | .publishArticle id approvalId => db.updateArticles (·.id = id) (·.publish approvalId) now
  | .requestPlatformKnowledgeReindex id expectedVersion =>
    db.updateArticles (·.isReindexTarget id expectedVersion) Article.reindex now
  | .deleteArticle id => db.deleteArticle id now

end AvantimePlatform.Knowledge
