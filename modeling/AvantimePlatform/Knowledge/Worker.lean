import AvantimePlatform.Knowledge.Tables
import AvantimePlatform.Lib.LeaseQueue
import AvantimePlatform.Lib.Text

/-!
# The knowledge index worker

`knowledge-index-worker.ts` and the adapters of `knowledge-indexing.ts` that it writes with:
the claim of a batch of index events, the fenced upserts and removals of index rows, the
guarded updates that complete or fail an event, and the loop of
`processKnowledgeIndexBatch` as a call that makes one statement or one request after the
other.

The two removals of an article are made side by side.  When one of them fails, the loop goes
on while the other may still be in flight, so it stays with the call (`IndexBatch.strays`)
and may take effect at any later time.

`knowledge` is the system of all workers and of the changes of articles.  The cache has no
reader among them, and is only an operation that may fail.
-/

namespace AvantimePlatform.Knowledge

open AvantimePlatform AvantimePlatform.Checked AvantimePlatform.Interleaving
  AvantimePlatform.LeaseQueue

/-! ## The claim of a batch -/

/-- The input of `claimKnowledgeIndexBatch`, but for `now`. -/
structure BatchInput where
  batchSize : Nat
  leaseMs : Nat
  articleId : Option String := none

namespace KnowledgeIndexEvent

/-- The condition of the first statement of the claim. -/
def isExhausted (event : KnowledgeIndexEvent) (now : Int) : Bool :=
  event.status = .processing && event.leaseUntil.any (· ≤ now) &&
    decide (event.maxAttempts ≤ event.attempts)

/-- The condition of the candidates of the claim. -/
def isCandidate (event : KnowledgeIndexEvent) (now : Int) (articleId : Option String) : Bool :=
  decide (event.attempts < event.maxAttempts) && articleId.all (· = event.articleId) &&
    ((event.status = .pending || event.status = .failed) && decide (event.nextAttemptAt ≤ now) ||
      event.status = .processing && event.leaseUntil.any (· ≤ now))

/-- `ORDER BY "nextAttemptAt" ASC, "createdAt" ASC`. -/
def claimedBefore (event other : KnowledgeIndexEvent) : Bool :=
  decide (event.nextAttemptAt < other.nextAttemptAt) ||
    event.nextAttemptAt = other.nextAttemptAt && decide (event.createdAt ≤ other.createdAt)

/-- `SET "status" = 'DEAD_LETTER', ..` of the first statement of the claim. -/
def exhaust (event : KnowledgeIndexEvent) : KnowledgeIndexEvent :=
  { event with
    status := .deadLetter, lastFailureCode := some "LEASE_EXHAUSTED", leaseToken := none
    leaseUntil := none }

/-- `SET "status" = 'PROCESSING', ..` of the claim. -/
def claim (leaseToken : String) (leaseUntil : Int) (event : KnowledgeIndexEvent) :
    KnowledgeIndexEvent :=
  { event with
    status := .processing, attempts := event.attempts + 1, leaseToken := some leaseToken
    leaseUntil := some leaseUntil, lastFailureCode := none }

/-- `where: { id: event.id, status: 'PROCESSING', leaseToken: event.leaseToken }`. -/
def isHeldAs (event record : KnowledgeIndexEvent) : Bool :=
  event.id = record.id && event.status = .processing && event.leaseToken = record.leaseToken

/-- Where an event stands. -/
def phase (event : KnowledgeIndexEvent) : Phase :=
  match event.status with
  | .pending => .waiting
  | .failed => .waiting
  | .processing => .processing
  | .completed => .finished
  | .deadLetter => .dead

theorem phase_of_processing {event : KnowledgeIndexEvent} (h : event.status = .processing) :
    event.phase = .processing := by
  unfold phase
  rw [h]

theorem processing_of_isExhausted {event : KnowledgeIndexEvent} {now : Int}
    (h : event.isExhausted now = true) : event.status = .processing := by
  unfold isExhausted at h
  simp only [Bool.and_eq_true, decide_eq_true_eq] at h
  exact h.1.1

end KnowledgeIndexEvent

/-- The index events as a table of leased records. -/
def eventView : View KnowledgeIndexEvent String String where
  key := KnowledgeIndexEvent.id
  phase := KnowledgeIndexEvent.phase
  attempts := KnowledgeIndexEvent.attempts
  maxAttempts := KnowledgeIndexEvent.maxAttempts
  token := KnowledgeIndexEvent.leaseToken
  limit := 20

/-- The two statements of the claim, but for the articles. -/
def eventClaimRules (now : Int) (articleId : Option String) (leaseToken : String)
    (leaseUntil : Int) : ClaimRules eventView leaseToken where
  isExhausted := (·.isExhausted now)
  isCandidate := (·.isCandidate now articleId)
  before := KnowledgeIndexEvent.claimedBefore
  exhaust := KnowledgeIndexEvent.exhaust
  claim := KnowledgeIndexEvent.claim leaseToken leaseUntil
  exhausted_processing _ h :=
    KnowledgeIndexEvent.phase_of_processing (KnowledgeIndexEvent.processing_of_isExhausted h)
  candidate_left event h := by
    unfold KnowledgeIndexEvent.isCandidate at h
    simp only [Bool.and_eq_true, decide_eq_true_eq] at h
    exact h.1.1
  candidate_phase event h := by
    unfold KnowledgeIndexEvent.isCandidate at h
    simp only [Bool.and_eq_true, Bool.or_eq_true, decide_eq_true_eq] at h
    rcases h.2 with ⟨hstatus | hstatus, -⟩ | ⟨hstatus, -⟩
    · refine Or.inl ?_
      show event.phase = .waiting
      unfold KnowledgeIndexEvent.phase
      rw [hstatus]
    · refine Or.inl ?_
      show event.phase = .waiting
      unfold KnowledgeIndexEvent.phase
      rw [hstatus]
    · exact Or.inr (KnowledgeIndexEvent.phase_of_processing hstatus)
  exhaust_same _ := ⟨rfl, rfl⟩
  exhaust_attempts _ := rfl
  exhaust_phase _ := rfl
  exhaust_token _ := rfl
  claim_same _ := ⟨rfl, rfl⟩
  claim_attempts _ := rfl
  claim_phase _ := rfl
  claim_token _ := rfl

/-- `/^[a-zA-Z0-9][a-zA-Z0-9._:-]{2,199}$/u`. -/
def isSafeArticleId (value : String) : Bool :=
  match value.toList with
  | [] => false
  | first :: rest =>
    first.isAlphanum && decide (2 ≤ rest.length) && decide (rest.length ≤ 199) &&
      rest.all fun c => c.isAlphanum || c == '.' || c == '_' || c == ':' || c == '-'

/-- `input.articleId?.trim() || null`, checked. -/
def optionalArticleId (value : Option String) : Except String (Option String) :=
  match value.map Text.trim with
  | none => .ok none
  | some articleId =>
    if articleId = "" then .ok none
    else if isSafeArticleId articleId then .ok (some articleId)
    else .error "KNOWLEDGE_INDEX_ARTICLE_ID_INVALID"

/-- The articles that an exhausted event quarantines. -/
def Article.isQuarantinedBy (article : Article) (events : List KnowledgeIndexEvent) : Bool :=
  events.any (fun event => article.id = event.articleId && article.version = event.sourceVersion) &&
    article.quarantinedAt.isNone

/-- The first statement of the claim. -/
def exhaustEvents (db : Database) (now : Int) : Except String Database :=
  ({ db with
    events := KeyedList.updateMany (·.isExhausted now) (·.exhaust) db.events }).updateArticles
      (·.isQuarantinedBy (db.events.filter (·.isExhausted now))) (·.quarantine now) now

/-- `claimKnowledgeIndexBatch`.  `locked` are the rows that other transactions hold, which
`SKIP LOCKED` leaves out. -/
def claimKnowledgeIndexBatch (db : Database) (input : BatchInput) (now : Int)
    (leaseToken : String) (locked : List String) :
    Except String (Database × List KnowledgeIndexEvent) := do
  require (1 ≤ input.batchSize ∧ input.batchSize ≤ 100) "KNOWLEDGE_INDEX_BATCH_INVALID"
  require (1000 ≤ input.leaseMs ∧ input.leaseMs ≤ 600000) "KNOWLEDGE_INDEX_LEASE_INVALID"
  let articleId ← optionalArticleId input.articleId
  let exhausted ← exhaustEvents db now
  let claimed := (eventClaimRules now articleId leaseToken (now + input.leaseMs)).claimPicked
    locked input.batchSize exhausted.events
  return ({ exhausted with events := claimed.1 }, claimed.2)

/-! ## The guarded updates -/

/-- The lease that the worker got with the event is still its own. -/
def LeaseHeld (db : Database) (record : KnowledgeIndexEvent) : Prop :=
  db.events.countP (·.isHeldAs record) = 1

instance (db : Database) (record : KnowledgeIndexEvent) : Decidable (LeaseHeld db record) :=
  inferInstanceAs (Decidable (_ = _))

/-- The data of `completeKnowledgeIndexEvent`. -/
def KnowledgeIndexEvent.complete (now : Int) (event : KnowledgeIndexEvent) :
    KnowledgeIndexEvent :=
  { event with
    status := .completed, completedAt := some now, leaseToken := none, leaseUntil := none
    lastFailureCode := none }

/-- `completeKnowledgeIndexEvent`. -/
def completeKnowledgeIndexEvent (db : Database) (record : KnowledgeIndexEvent) (now : Int) :
    Except String Database :=
  if LeaseHeld db record then
    .ok { db with
      events := KeyedList.updateMany (·.isHeldAs record) (·.complete now) db.events }
  else .error "KNOWLEDGE_INDEX_LEASE_LOST"

/-- `knowledgeIndexBackoffMs`. -/
def knowledgeIndexBackoffMs (attempt : Nat) : Except String Nat :=
  if 1 ≤ attempt ∧ attempt ≤ 20 then .ok (min 300000 (1000 * 2 ^ (attempt - 1)))
  else .error "KNOWLEDGE_INDEX_ATTEMPT_INVALID"

/-- The date of the next attempt of a failed event. -/
def nextAttemptAfter (record : KnowledgeIndexEvent) (now : Int) : Except String Int :=
  if record.maxAttempts ≤ record.attempts then .ok now
  else (fun backoff : Nat => now + backoff) <$> knowledgeIndexBackoffMs record.attempts

/-- The data of the first update of `failKnowledgeIndexEvent`. -/
def KnowledgeIndexEvent.fail (exhausted : Bool) (nextAttemptAt : Int) (failureCode : String)
    (event : KnowledgeIndexEvent) : KnowledgeIndexEvent :=
  { event with
    status := if exhausted then .deadLetter else .failed, nextAttemptAt := nextAttemptAt
    leaseToken := none, leaseUntil := none, lastFailureCode := some failureCode }

/-- `'KNOWLEDGE_INDEX_OPERATION_FAILED'`, the code that the loop stores. -/
def operationFailed : String := "KNOWLEDGE_INDEX_OPERATION_FAILED"

/-- The transaction of `failKnowledgeIndexEvent` where its first update finds the event. -/
def failHeld (db : Database) (record : KnowledgeIndexEvent) (nextAttemptAt now : Int) :
    Except String Database :=
  let failed := { db with
    events := KeyedList.updateMany (·.isHeldAs record)
      (·.fail (decide (record.maxAttempts ≤ record.attempts)) nextAttemptAt operationFailed)
      db.events }
  if record.maxAttempts ≤ record.attempts then
    failed.updateArticles (·.isQuarantinedBy [record]) (·.quarantine now) now
  else .ok failed

/-- `failKnowledgeIndexEvent`. -/
def failKnowledgeIndexEvent (db : Database) (record : KnowledgeIndexEvent) (now : Int) :
    Except String Database := do
  let nextAttemptAt ← nextAttemptAfter record now
  require (LeaseHeld db record) "KNOWLEDGE_INDEX_LEASE_LOST"
  failHeld db record nextAttemptAt now

/-! ## The index rows -/

/-- What the index tables store of an article. -/
def Article.indexedFields (article : Article) : IndexedFields where
  articleId := article.id
  sourceVersion := article.version
  generation := article.version
  ownerScope := article.ownerScope
  companyId := article.companyId
  visibility := article.visibility
  lifecycleStatus := article.status

/-- The row of the search index of an article, as `knowledgeDocumentFromArticle` makes it. -/
def Article.searchRow (article : Article) : SearchRow where
  toIndexedFields := article.indexedFields
  title := article.title
  summary := article.summary
  tags := article.tags
  searchText := article.title ++ "\n" ++ article.summary ++ "\n" ++
    String.intercalate " " article.tags ++ "\n" ++ article.content

/-- What the gateway answers to a request for an embedding.  A number that is not finite is
`none`. -/
structure Embedding where
  vector : List (Option Rat)
  model : String
  version : String

/-- The row of the vector index of an article. -/
def Article.vectorRow (article : Article) (embedding : Embedding) : VectorRow where
  toIndexedFields := article.indexedFields
  embeddingModel := embedding.model
  embeddingVersion := embedding.version
  embedding := embedding.vector.filterMap id

section Fenced

variable {Row : Type} (fields : Row → IndexedFields)

/-- `INSERT .. ON CONFLICT ("articleId") DO UPDATE ..` of a row that replaces no newer one. -/
def upsertFenced (row : Row) (rows : List Row) : List Row :=
  match KeyedList.find (fun other => (fields other).articleId) (fields row).articleId rows with
  | none => rows ++ [row]
  | some old =>
    if (fields old).sourceVersion ≤ (fields row).sourceVersion then
      KeyedList.put (fun other => (fields other).articleId) row rows
    else rows

/-- `deleteMany` of the rows of an article up to a version. -/
def removeUpTo (articleId : String) (maximumVersion : Int) (rows : List Row) : List Row :=
  rows.filter fun row =>
    !((fields row).articleId = articleId && decide ((fields row).sourceVersion ≤ maximumVersion))

end Fenced

/-- `PostgreSQLKnowledgeSearchAdapter.upsert`. -/
def Database.upsertSearch (db : Database) (article : Article) : Database :=
  { db with
    searchIndex := upsertFenced SearchRow.toIndexedFields article.searchRow db.searchIndex }

/-- `PostgreSQLKnowledgeVectorAdapter.upsert`. -/
def Database.upsertVector (db : Database) (article : Article) (embedding : Embedding) :
    Except String Database := do
  require (embedding.vector ≠ [] ∧ ∀ value ∈ embedding.vector, value.isSome)
    "KNOWLEDGE_VECTOR_INVALID"
  return { db with
    vectorIndex := upsertFenced VectorRow.toIndexedFields (article.vectorRow embedding)
      db.vectorIndex }

/-- The two index tables. -/
inductive IndexTable where
  | search
  | vectors
deriving DecidableEq

/-- A removal of the index rows of an article. -/
structure Removal where
  table : IndexTable
  articleId : String
  maximumVersion : Int

/-- `PostgreSQLKnowledgeSearchAdapter.remove` and `PostgreSQLKnowledgeVectorAdapter.remove`. -/
def Database.remove (db : Database) (removal : Removal) : Database :=
  match removal.table with
  | .search =>
    { db with
      searchIndex := removeUpTo SearchRow.toIndexedFields removal.articleId removal.maximumVersion
        db.searchIndex }
  | .vectors =>
    { db with
      vectorIndex := removeUpTo VectorRow.toIndexedFields removal.articleId removal.maximumVersion
        db.vectorIndex }

/-! ## The calls -/

/-- What `processKnowledgeIndexBatch` counts. -/
structure IndexTally where
  completed : Nat := 0
  failed : Nat := 0
  deadLettered : Nat := 0

/-- The loop of `processKnowledgeIndexBatch` at one event. -/
structure IndexBatch where
  record : KnowledgeIndexEvent
  rest : List KnowledgeIndexEvent
  tally : IndexTally
  /-- The removals in flight that the loop waits for no more. -/
  strays : List Removal := []

/-- What the loop does next with its event. -/
inductive Place where
  /-- `knowledgeArticle.findUnique`. -/
  | readArticle
  /-- `cache.invalidate`, with the article that was read. -/
  | invalidate (article : Option Article)
  /-- The removals that are still to be made. -/
  | remove (removals : List Removal)
  /-- `createDocumentEmbeddings`. -/
  | embed (article : Article)
  /-- `search.upsert`. -/
  | upsertSearch (article : Article) (embedding : Embedding)
  /-- `vectors.upsert`. -/
  | upsertVector (article : Article) (embedding : Embedding)
  /-- `cache.put`. -/
  | put (article : Article)
  /-- `completeKnowledgeIndexEvent`. -/
  | complete
  /-- `failKnowledgeIndexEvent`. -/
  | fail

/-- A call of `processKnowledgeIndexBatch`. -/
inductive Call where
  | claim (input : BatchInput)
  | event (batch : IndexBatch) (place : Place)
  /-- The loop has ended while removals are in flight. -/
  | ended (strays : List Removal)

/-- What the world outside answers. -/
inductive Input where
  /-- The next statement is made.  `now` is the date, `uuid` the random id that a claim
  draws, `locked` the rows that others hold. -/
  | proceed (now : Int) (uuid : String) (locked : List String)
  /-- The removal at position `i` is made. -/
  | removed (i : Nat)
  /-- The removal at position `i` fails while the others are in flight. -/
  | removalFailed (i : Nat)
  /-- The removal in flight at position `i` takes effect. -/
  | late (i : Nat)
  /-- The gateway answers. -/
  | embedded (embedding : Embedding)
  /-- The statement or the request fails. -/
  | failure
  /-- The process stops. -/
  | crash

/-- The loop at the first of the remaining events. -/
def nextEvent (tally : IndexTally) (strays : List Removal) :
    List KnowledgeIndexEvent → Option Call
  | [] => if strays = [] then none else some (.ended strays)
  | record :: rest =>
    some (.event { record := record, rest := rest, tally := tally, strays := strays } .readArticle)

namespace IndexBatch

/-- The loop after its event. -/
def next (batch : IndexBatch) (tally : IndexTally) : Option Call :=
  nextEvent tally batch.strays batch.rest

/-- The two removals of the article of the event. -/
def removals (batch : IndexBatch) (maximumVersion : Int) : List Removal :=
  [{ table := .search, articleId := batch.record.articleId, maximumVersion },
    { table := .vectors, articleId := batch.record.articleId, maximumVersion }]

/-- Where the loop goes with the article that it has read. -/
def branch (batch : IndexBatch) : Option Article → Place
  | none => .remove (batch.removals batch.record.sourceVersion)
  | some article =>
    if article.version ≠ batch.record.sourceVersion then .complete
    else if article.isIndexable then .embed article
    else .remove (batch.removals article.version)

/-- What the loop counts of a failure. -/
def countedFailure (batch : IndexBatch) : IndexTally :=
  if batch.record.maxAttempts ≤ batch.record.attempts then
    { batch.tally with deadLettered := batch.tally.deadLettered + 1 }
  else { batch.tally with failed := batch.tally.failed + 1 }

/-- The loop at a place, with the same event. -/
def goto (batch : IndexBatch) (place : Place) : Option Call := some (.event batch place)

/-- The next statement of the loop. -/
def run (batch : IndexBatch) (db : Database) (now : Int) : Place → Option (Database × Option Call)
  | .readArticle => some (db, batch.goto (.invalidate (db.article? batch.record.articleId)))
  | .invalidate article => some (db, batch.goto (batch.branch article))
  | .remove [] => some (db, batch.goto .complete)
  | .remove (_ :: _) => none
  | .embed _ => none
  | .upsertSearch article embedding =>
    some (db.upsertSearch article, batch.goto (.upsertVector article embedding))
  | .upsertVector article embedding =>
    match db.upsertVector article embedding with
    | .ok db' => some (db', batch.goto (.put article))
    | .error _ => some (db, batch.goto .fail)
  | .put _ => some (db, batch.goto .complete)
  | .complete =>
    match completeKnowledgeIndexEvent db batch.record now with
    | .ok db' =>
      some (db', batch.next { batch.tally with completed := batch.tally.completed + 1 })
    | .error _ => some (db, batch.goto .fail)
  | .fail =>
    match failKnowledgeIndexEvent db batch.record now with
    | .ok db' => some (db', batch.next batch.countedFailure)
    | .error _ => some (db, none)

/-- A statement that fails is a failed event, and ends the call where that is being
stored. -/
def broken (batch : IndexBatch) : Place → Option Call
  | .fail => none
  | _ => batch.goto .fail

end IndexBatch

/-- One step of a call. -/
def Call.advance (db : Database) (input : Input) : Call → Option (Database × Option Call)
  | .claim batchInput =>
    match input with
    | .proceed now uuid locked =>
      match claimKnowledgeIndexBatch db batchInput now uuid locked with
      | .ok (db', records) => some (db', nextEvent {} [] records)
      | .error _ => some (db, none)
    | .failure => some (db, none)
    | .crash => some (db, none)
    | _ => none
  | .event batch place =>
    match input with
    | .proceed now _ _ => batch.run db now place
    | .removed i =>
      match place with
      | .remove removals =>
        (removals[i]?).map fun removal =>
          (db.remove removal, batch.goto (.remove (removals.eraseIdx i)))
      | _ => none
    | .removalFailed i =>
      match place with
      | .remove removals =>
        (removals[i]?).map fun _ =>
          (db, { batch with strays := batch.strays ++ removals.eraseIdx i }.goto .fail)
      | _ => none
    | .late i =>
      (batch.strays[i]?).map fun removal =>
        (db.remove removal,
          { batch with strays := batch.strays.eraseIdx i }.goto place)
    | .embedded embedding =>
      match place with
      | .embed article => some (db, batch.goto (.upsertSearch article embedding))
      | _ => none
    | .failure => some (db, batch.broken place)
    | .crash => some (db, none)
  | .ended strays =>
    match input with
    | .late i =>
      (strays[i]?).map fun removal =>
        (db.remove removal, nextEvent {} (strays.eraseIdx i) [])
    | .crash => some (db, none)
    | _ => none

/-- A call begins with its claim. -/
def Call.isInitial : Call → Bool
  | .claim _ => true
  | _ => false

/-- A change of an article at a date. -/
structure Env where
  change : ArticleChange
  now : Int

/-- A change that fails is rolled back. -/
def Env.apply (db : Database) (e : Env) : Database := (e.change.run db e.now).toOption.getD db

/-- Any number of workers, beside the changes of the articles. -/
def knowledge : Program Database Call Env Input where
  env := Env.apply
  initial := Call.isInitial
  advance db input call := call.advance db input

end AvantimePlatform.Knowledge
