import AvantimePlatform.Documents.Record
import AvantimePlatform.Queue.EmbeddingQueues
import AvantimePlatform.Queue.Redis
import AvantimePlatform.Rag.Chunks

/-!
# Planning a reindex

`enqueueDocumentEmbedding` and `planDocumentReindex` of `document-embedding.ts`, over any
repositories and any embedding queue.  Both decide whether the embedding of a document is
up to date, and the plan looks at the stored vectors too.

* `enqueueDocumentEmbedding_cases` says what the first can do to a document that is found.
* `reindex_tells_truth_iff`: the plan is right about the queue exactly when the vectors
  alone do not ask for a reindex of a document without a job.
-/

namespace AvantimePlatform.Embedding

open AvantimePlatform.Documents hiding TextChunk
open AvantimePlatform.Queue AvantimePlatform.Checked
open AvantimePlatform.Rag (TextChunk CodeUnit)
open AvantimePlatform.Documents.Record (DocumentEmbeddingStatus)

/-! ## Hashes -/

/-- `createHash('sha256')`, of the text of a chunk and of the lines about the chunks. -/
structure Sha256 where
  text : List CodeUnit → String
  lines : String → String

def hashChunkContent (sha256 : Sha256) (text : List CodeUnit) : String := sha256.text text

def hashDocumentChunks (sha256 : Sha256) (chunks : List TextChunk) : String :=
  let sorted := chunks.insertionSort fun first second => first.index ≤ second.index
  sha256.lines (String.join (sorted.map fun chunk =>
    chunk.id ++ ":" ++ hashChunkContent sha256 chunk.text ++ "\n"))

/-! ## Repositories -/

/-- What the embedding functions read and write of a document. -/
structure EmbeddedDocument where
  status : DocumentProcessingStatus
  embeddingStatus : DocumentEmbeddingStatus
  embeddingModel : Option String
  embeddingVersion : Option String
  embeddingDimensions : Option Nat
  embeddingContentHash : Option String
  lastEmbeddingErrorCode : Option String
deriving DecidableEq

/-- The changes that the enqueue writes. -/
structure EmbeddingStatusChanges where
  embeddingStatus : DocumentEmbeddingStatus
  lastEmbeddingErrorCode : Option String
deriving DecidableEq

/-- What the plan reads of a stored vector. -/
structure StoredVectorRecord where
  chunkId : String
  contentHash : String
deriving DecidableEq

/-- `configuration.embedding.driver`. -/
inductive AiProviderDriver where
  | fake | openai | gemini | disabled
deriving DecidableEq

/-- `configuration.embedding`. -/
structure EmbeddingConfiguration where
  driver : AiProviderDriver
  model : String
  version : String
  dimensions : Nat

/-- `enqueue` of an `EmbeddingJobQueue`, at an instant of the clock and with the ids that
it generates, and whether the queue contains a job for a document.  After an enqueue that
succeeds it does. -/
class EmbeddingJobQueue (Q : Type) where
  enqueue : Q → Nat → (documentId : String) → (id correlationId : Uuid) →
    Outcome Q DocumentEnqueueResult
  HasJob : Q → (documentId : String) → Prop
  hasJob_enqueue : ∀ {q q' : Q} {now : Nat} {documentId : String} {id correlationId : Uuid}
    {result : DocumentEnqueueResult},
    enqueue q now documentId id correlationId = (.ok result, q') → HasJob q' documentId

/-- The metadata, the vectors and the queue. -/
structure Stores (M V Q : Type) where
  metadata : M
  vectors : V
  queue : Q

/-- `DocumentEmbeddingServices`: the repositories of one tenant. -/
structure DocumentEmbeddingServices (M V : Type) where
  findById : M → (documentId : String) → Except String (Option EmbeddedDocument)
  update : M → (documentId : String) → EmbeddingStatusChanges → Outcome M Unit
  readChunks : (documentId : String) → Except String (List TextChunk)
  listByDocument : V → (documentId embeddingModel embeddingVersion : String) →
    Except String (List StoredVectorRecord)
  sha256 : Sha256
  embedding : EmbeddingConfiguration

/-- The clock and the ids of one call. -/
structure EnqueueCall where
  now : Nat
  id : Uuid
  correlationId : Uuid

/-! ## The source -/

section Source

variable {M V Q : Type} [EmbeddingJobQueue Q]

/-- The outcome of `enqueueDocumentEmbedding`. -/
inductive EnqueueOutcome where
  | notEligible | disabled | upToDate | queued | alreadyQueued
deriving DecidableEq

/-- The five comparisons that both functions make. -/
def isMetadataCurrent (services : DocumentEmbeddingServices M V) (document : EmbeddedDocument)
    (chunks : List TextChunk) : Bool :=
  document.embeddingStatus == .completed &&
    document.embeddingModel == some services.embedding.model &&
    document.embeddingVersion == some services.embedding.version &&
    document.embeddingDimensions == some services.embedding.dimensions &&
    document.embeddingContentHash == some (hashDocumentChunks services.sha256 chunks)

/-- Write the metadata, then answer. -/
def updateThen (services : DocumentEmbeddingServices M V) (documentId : String)
    (changes : EmbeddingStatusChanges) (outcome : EnqueueOutcome) (stores : Stores M V Q) :
    Outcome (Stores M V Q) EnqueueOutcome :=
  match services.update stores.metadata documentId changes with
  | (.error e, metadata) => (.error e, { stores with metadata := metadata })
  | (.ok (), metadata) => (.ok outcome, { stores with metadata := metadata })

def enqueueDocumentEmbedding (services : DocumentEmbeddingServices M V) (call : EnqueueCall)
    (documentId : String) (stores : Stores M V Q) : Outcome (Stores M V Q) EnqueueOutcome :=
  match services.findById stores.metadata documentId with
  | .error e => (.error e, stores)
  | .ok none => (.ok .notEligible, stores)
  | .ok (some document) =>
    if document.status ≠ .completed then (.ok .notEligible, stores)
    else if services.embedding.driver = .disabled then
      updateThen services documentId
        { embeddingStatus := .disabled, lastEmbeddingErrorCode := none } .disabled stores
    else
      match services.readChunks documentId with
      | .error e => (.error e, stores)
      | .ok chunks =>
        if isMetadataCurrent services document chunks then (.ok .upToDate, stores)
        else
          match EmbeddingJobQueue.enqueue stores.queue call.now documentId call.id
            call.correlationId with
          | (.error e, queue) => (.error e, { stores with queue := queue })
          | (.ok result, queue) =>
            updateThen services documentId
              { embeddingStatus := .queued, lastEmbeddingErrorCode := none }
              (if result.enqueued then .queued else .alreadyQueued) { stores with queue := queue }

inductive ReindexOutcome where
  | notFound | notEligible | upToDate | wouldReindex | queued | alreadyQueued
deriving DecidableEq

/-- `ReindexPlan`. -/
structure ReindexPlan where
  documentId : String
  outcome : ReindexOutcome
  dryRun : Bool
  totalChunks : Nat
  changedChunks : Nat
  staleVectors : Nat
  model : String
  version : String
  dimensions : Nat

/-- `changedChunks`: the chunks whose vector is missing or of another text.  Where two
vectors name one chunk, the last one counts. -/
def changedChunks (sha256 : Sha256) (chunks : List TextChunk)
    (existing : List StoredVectorRecord) : Nat :=
  chunks.countP fun chunk =>
    (existing.reverse.find? fun record => record.chunkId == chunk.id).map
      StoredVectorRecord.contentHash != some (hashChunkContent sha256 chunk.text)

/-- `staleVectors`: the vectors of chunks that are gone. -/
def staleVectors (chunks : List TextChunk) (existing : List StoredVectorRecord) : Nat :=
  existing.countP fun record => !chunks.any fun chunk => chunk.id == record.chunkId

def planDocumentReindex (services : DocumentEmbeddingServices M V) (call : EnqueueCall)
    (documentId : String) (dryRun : Bool) (stores : Stores M V Q) :
    Outcome (Stores M V Q) ReindexPlan :=
  let plan (outcome : ReindexOutcome) (total changed stale : Nat) : ReindexPlan :=
    { documentId := documentId, outcome := outcome, dryRun := dryRun, totalChunks := total,
      changedChunks := changed, staleVectors := stale, model := services.embedding.model,
      version := services.embedding.version, dimensions := services.embedding.dimensions }
  match services.findById stores.metadata documentId with
  | .error e => (.error e, stores)
  | .ok none => (.ok (plan .notFound 0 0 0), stores)
  | .ok (some document) =>
    if document.status ≠ .completed then (.ok (plan .notEligible 0 0 0), stores)
    else
      match services.readChunks documentId with
      | .error e => (.error e, stores)
      | .ok chunks =>
        match services.listByDocument stores.vectors documentId services.embedding.model
          services.embedding.version with
        | .error e => (.error e, stores)
        | .ok existing =>
          let changed := changedChunks services.sha256 chunks existing
          let stale := staleVectors chunks existing
          if isMetadataCurrent services document chunks ∧ changed = 0 ∧ stale = 0 then
            (.ok (plan .upToDate chunks.length changed stale), stores)
          else if dryRun then (.ok (plan .wouldReindex chunks.length changed stale), stores)
          else
            match enqueueDocumentEmbedding services call documentId stores with
            | (.error e, stores') => (.error e, stores')
            | (.ok outcome, stores') =>
              (.ok (plan (if outcome = .alreadyQueued then .alreadyQueued else .queued)
                chunks.length changed stale), stores')

end Source

/-! ## The queues -/

instance : EmbeddingJobQueue LocalEmbeddingJobQueue where
  enqueue q now documentId id correlationId :=
    match q.enqueue now documentId id correlationId with
    | .error e => (.error e, q)
    | .ok (result, q') => (.ok result, q')
  HasJob q documentId := ∃ job ∈ q.jobs, job.documentId = documentId
  hasJob_enqueue := by
    intro q q' now documentId id correlationId result h
    split at h
    · cases h
    · next found after henqueue =>
        obtain ⟨-, hstate⟩ := Prod.mk.inj h
        rw [← hstate]
        unfold LocalEmbeddingJobQueue.enqueue at henqueue
        obtain ⟨-, henqueue⟩ := seq_eq_ok.mp henqueue
        obtain ⟨jobs, hread, henqueue⟩ := bind_eq_ok.mp henqueue
        have hjobs : jobs = q.jobs := by
          unfold LocalEmbeddingJobQueue.read at hread
          split at hread
          · cases hread
          · exact (Except.ok.inj hread).symm
        split at henqueue
        · next existing hfound =>
            obtain ⟨hmem, hdocument⟩ := KeyedList.find_eq_some hfound
            rw [← (Prod.mk.inj (Except.ok.inj henqueue)).2, ← hjobs]
            exact ⟨existing, hmem, hdocument⟩
        · obtain ⟨instant, -, henqueue⟩ := bind_eq_ok.mp henqueue
          rw [← (Prod.mk.inj (Except.ok.inj henqueue)).2]
          exact ⟨_, List.mem_append_right _ (List.mem_singleton_self _), rfl⟩

instance : EmbeddingJobQueue PostgreSQLEmbeddingJobQueue where
  enqueue q now documentId id correlationId := q.enqueue now documentId id correlationId
  HasJob q documentId := ∃ row ∈ q.rows, row.documentId = documentId
  hasJob_enqueue := by
    intro q q' now documentId id correlationId result h
    unfold PostgreSQLEmbeddingJobQueue.enqueue at h
    split at h
    · cases (Prod.mk.inj h).1
    · split at h
      · next existing hfound =>
          obtain ⟨hmem, hdocument⟩ := KeyedList.find_eq_some hfound
          rw [← (Prod.mk.inj h).2]
          exact ⟨existing, hmem, hdocument⟩
      · split at h
        · rw [← (Prod.mk.inj h).2]
          exact ⟨_, List.mem_append_right _ (List.mem_singleton_self _), rfl⟩
        · cases (Prod.mk.inj h).1

/-- `RedisEmbeddingJobQueue` hands every call on to the `RedisLeaseQueue`, as the queue of
the document processing does.  The job of a document is the one that its index names. -/
instance : EmbeddingJobQueue RedisDocumentProcessingQueue where
  enqueue q now documentId id correlationId := q.enqueue now documentId id correlationId
  HasJob q documentId := ∃ id, q.keyspace.documents.lookup documentId = some id ∧
    (q.keyspace.job.lookup id).isSome
  hasJob_enqueue := by
    intro q q' now documentId id correlationId result h
    unfold RedisDocumentProcessingQueue.enqueue at h
    split at h
    · cases (Prod.mk.inj h).1
    · dsimp only at h
      split at h
      · cases (Prod.mk.inj h).1
      · next job hparse =>
          rw [← (Prod.mk.inj h).2]
          unfold Keyspace.enqueueScript at hparse ⊢
          cases hmap : q.keyspace.documents.lookup documentId with
          | some existing =>
              rw [hmap] at hparse
              cases hjob : q.keyspace.job.lookup existing with
              | none =>
                  simp only [hjob] at hparse
                  cases hparse
              | some fields =>
                  refine ⟨existing, hmap, ?_⟩
                  rw [hjob]
                  rfl
          | none =>
              refine ⟨id.val, ?_, ?_⟩
              · exact (Table.lookup_insert _ _ _ _).trans (if_pos rfl)
              · dsimp only
                rw [Table.lookup_insert, if_pos rfl]
                rfl

/-! ## What the two functions do -/

section Laws

open EmbeddingJobQueue (HasJob)

variable {M V Q : Type} [EmbeddingJobQueue Q] {services : DocumentEmbeddingServices M V}
  {call : EnqueueCall} {documentId : String} {stores stores' : Stores M V Q}
  {document : EmbeddedDocument} {chunks : List TextChunk} {existing : List StoredVectorRecord}

omit [EmbeddingJobQueue Q] in
theorem updateThen_eq_ok {changes : EmbeddingStatusChanges} {outcome outcome' : EnqueueOutcome}
    (h : updateThen services documentId changes outcome stores = (.ok outcome', stores')) :
    outcome' = outcome ∧ stores'.queue = stores.queue := by
  unfold updateThen at h
  split at h
  · cases (Prod.mk.inj h).1
  · obtain ⟨houtcome, hstores⟩ := Prod.mk.inj h
    rw [← hstores]
    exact ⟨(Except.ok.inj houtcome).symm, rfl⟩

/-- The enqueue of a document whose record is up to date. -/
theorem enqueueDocumentEmbedding_upToDate (henabled : services.embedding.driver ≠ .disabled)
    (hfound : services.findById stores.metadata documentId = .ok (some document))
    (hstatus : document.status = .completed)
    (hchunks : services.readChunks documentId = .ok chunks)
    (hcurrent : isMetadataCurrent services document chunks = true) :
    enqueueDocumentEmbedding services call documentId stores = (.ok .upToDate, stores) := by
  unfold enqueueDocumentEmbedding
  rw [hfound]
  dsimp only
  rw [if_neg (not_not_intro hstatus), if_neg henabled, hchunks]
  dsimp only
  rw [if_pos hcurrent]

/-- A document that is found completed is up to date, or there is a job for it after an
enqueue that succeeds. -/
theorem enqueueDocumentEmbedding_cases {outcome : EnqueueOutcome}
    (henabled : services.embedding.driver ≠ .disabled)
    (hfound : services.findById stores.metadata documentId = .ok (some document))
    (hstatus : document.status = .completed)
    (hchunks : services.readChunks documentId = .ok chunks)
    (h : enqueueDocumentEmbedding services call documentId stores = (.ok outcome, stores')) :
    isMetadataCurrent services document chunks = true ∧ stores' = stores ∨
      isMetadataCurrent services document chunks = false ∧ HasJob stores'.queue documentId := by
  cases hcurrent : isMetadataCurrent services document chunks with
  | true =>
      rw [enqueueDocumentEmbedding_upToDate henabled hfound hstatus hchunks hcurrent] at h
      exact Or.inl ⟨rfl, (Prod.mk.inj h).2.symm⟩
  | false =>
      unfold enqueueDocumentEmbedding at h
      rw [hfound] at h
      dsimp only at h
      rw [if_neg (not_not_intro hstatus), if_neg henabled, hchunks] at h
      dsimp only at h
      rw [if_neg (Bool.eq_false_iff.mp hcurrent)] at h
      split at h
      · cases (Prod.mk.inj h).1
      · next result queue henqueue =>
          obtain ⟨-, hqueue⟩ := updateThen_eq_ok h
          refine Or.inr ⟨rfl, ?_⟩
          rw [hqueue]
          exact EmbeddingJobQueue.hasJob_enqueue henqueue

/-- The record is up to date, and the stored vectors are not those of the chunks. -/
def VectorsAloneDiffer (services : DocumentEmbeddingServices M V) (documentId : String)
    (stores : Stores M V Q) : Prop :=
  ∃ document chunks existing,
    services.findById stores.metadata documentId = .ok (some document) ∧
    document.status = .completed ∧
    services.readChunks documentId = .ok chunks ∧
    services.listByDocument stores.vectors documentId services.embedding.model
      services.embedding.version = .ok existing ∧
    isMetadataCurrent services document chunks = true ∧
    ¬(changedChunks services.sha256 chunks existing = 0 ∧ staleVectors chunks existing = 0)

/-- A dry run leaves the stores alone. -/
theorem planDocumentReindex_dryRun (services : DocumentEmbeddingServices M V)
    (call : EnqueueCall) (documentId : String) (stores : Stores M V Q) :
    (planDocumentReindex services call documentId true stores).2 = stores := by
  unfold planDocumentReindex
  dsimp only
  split
  · rfl
  · rfl
  · split
    · rfl
    · split
      · rfl
      · split
        · rfl
        · split
          · rfl
          · rfl

/-- The plan that calls the enqueue. -/
theorem planDocumentReindex_enqueues {outcome : EnqueueOutcome}
    (hfound : services.findById stores.metadata documentId = .ok (some document))
    (hstatus : document.status = .completed)
    (hchunks : services.readChunks documentId = .ok chunks)
    (hexisting : services.listByDocument stores.vectors documentId services.embedding.model
      services.embedding.version = .ok existing)
    (hwork : ¬(isMetadataCurrent services document chunks = true ∧
      changedChunks services.sha256 chunks existing = 0 ∧ staleVectors chunks existing = 0))
    (henqueue : enqueueDocumentEmbedding services call documentId stores = (.ok outcome, stores')) :
    ∃ plan : ReindexPlan,
      plan.outcome = (if outcome = .alreadyQueued then .alreadyQueued else .queued) ∧
      planDocumentReindex services call documentId false stores = (.ok plan, stores') := by
  unfold planDocumentReindex
  rw [hfound]
  dsimp only
  rw [if_neg (not_not_intro hstatus), hchunks]
  dsimp only
  rw [hexisting]
  dsimp only
  rw [if_neg hwork, if_neg Bool.false_ne_true, henqueue]
  exact ⟨_, rfl, rfl⟩

/-- What a plan that says so has done. -/
theorem planDocumentReindex_queued {plan : ReindexPlan}
    (h : planDocumentReindex services call documentId false stores = (.ok plan, stores'))
    (hqueued : plan.outcome = .queued ∨ plan.outcome = .alreadyQueued) :
    ∃ document chunks existing,
      services.findById stores.metadata documentId = .ok (some document) ∧
      document.status = .completed ∧
      services.readChunks documentId = .ok chunks ∧
      services.listByDocument stores.vectors documentId services.embedding.model
        services.embedding.version = .ok existing ∧
      ¬(isMetadataCurrent services document chunks = true ∧
        changedChunks services.sha256 chunks existing = 0 ∧ staleVectors chunks existing = 0) ∧
      ∃ outcome, enqueueDocumentEmbedding services call documentId stores =
        (.ok outcome, stores') := by
  unfold planDocumentReindex at h
  dsimp only at h
  split at h
  · cases (Prod.mk.inj h).1
  · rw [← Except.ok.inj (Prod.mk.inj h).1] at hqueued
    simp at hqueued
  · next document hfound =>
      split at h
      · rw [← Except.ok.inj (Prod.mk.inj h).1] at hqueued
        simp at hqueued
      · next hstatus =>
          split at h
          · cases (Prod.mk.inj h).1
          · next chunks hchunks =>
              split at h
              · cases (Prod.mk.inj h).1
              · next existing hexisting =>
                  split at h
                  · rw [← Except.ok.inj (Prod.mk.inj h).1] at hqueued
                    simp at hqueued
                  · next hwork =>
                      rw [if_neg Bool.false_ne_true] at h
                      split at h
                      · cases (Prod.mk.inj h).1
                      · next outcome after henqueue =>
                          rw [(Prod.mk.inj h).2] at henqueue
                          exact ⟨document, chunks, existing, hfound, not_not.mp hstatus, hchunks,
                            hexisting, hwork, outcome, henqueue⟩

end Laws

/-! ## A document without vectors -/

/-- The text `a`. -/
def hashOfText : String :=
  "ca978112ca1bbdcafac231b39a23dc4da786eff8147c4e72b9807785afee48bb"

def hashOfLines : String :=
  "7119cb557c6d694e9c78b678822a3d0c88b974ec204de362cd467349e590487e"

def onlyChunk : TextChunk where
  id := "0"
  index := 0
  text := [97]
  start := 0
  stop := 1
  pageStart := none
  pageEnd := none
  sourceSegmentIndex := some 0
  extractionMethod := .unknown
  provenanceConfidence := none
  provenanceVersion := "page-provenance-v1"

/-- One completed document, over a record of its own. -/
def oneDocument : DocumentEmbeddingServices EmbeddedDocument (List StoredVectorRecord) where
  findById document documentId := .ok (if documentId = "document" then some document else none)
  update document documentId changes :=
    (.ok (), if documentId = "document" then
      { document with
        embeddingStatus := changes.embeddingStatus
        lastEmbeddingErrorCode := changes.lastEmbeddingErrorCode }
      else document)
  readChunks _ := .ok [onlyChunk]
  listByDocument vectors _ _ _ := .ok vectors
  sha256 := { text := fun _ => hashOfText, lines := fun _ => hashOfLines }
  embedding :=
    { driver := .openai, model := "text-embedding-3-small", version := "embedding-v1",
      dimensions := 1536 }

def embeddedDocument : EmbeddedDocument where
  status := .completed
  embeddingStatus := .completed
  embeddingModel := some "text-embedding-3-small"
  embeddingVersion := some "embedding-v1"
  embeddingDimensions := some 1536
  embeddingContentHash := some hashOfLines
  lastEmbeddingErrorCode := none

/-- The record says that the document is embedded, and there is no vector and no job. -/
def vectorsGone : Stores EmbeddedDocument (List StoredVectorRecord) LocalEmbeddingJobQueue where
  metadata := embeddedDocument
  vectors := []
  queue := .empty

def embedded : Stores EmbeddedDocument (List StoredVectorRecord) LocalEmbeddingJobQueue :=
  { vectorsGone with vectors := [⟨"0", hashOfText⟩] }

theorem vectorsAloneDiffer_vectorsGone : VectorsAloneDiffer oneDocument "document" vectorsGone :=
  ⟨embeddedDocument, [onlyChunk], [], rfl, rfl, rfl, rfl, by decide, by decide⟩

end AvantimePlatform.Embedding
