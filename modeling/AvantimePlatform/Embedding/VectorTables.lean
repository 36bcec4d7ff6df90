import AvantimePlatform.Embedding.VectorRepositories
import AvantimePlatform.Lib.KeyedContents
import AvantimePlatform.Lib.Separators

/-!
# The two vector repositories

`InMemoryVectorRepository` keeps its records in a map whose keys are texts, and
`PostgreSQLVectorRepository` in the rows of a table.  The search is left out.

* `memoryKey_inj`: vectors with safe names have one text as their key only when they have one
  key.
* `repositories_agree`: the two answer every run of operations alike, as long as the records fit
  the columns of the table and both know the same documents.
-/

namespace AvantimePlatform.Embedding

open AvantimePlatform.Documents AvantimePlatform.Queue AvantimePlatform.KeyedList
open AvantimePlatform.Rag (CodeUnit)
open AvantimePlatform.Rag.Loading (VectorRecord validateRecord)

/-! ## Rows -/

/-- A record with its company. -/
structure CompanyVector where
  companyId : String
  record : VectorRecord

namespace CompanyVector

/-- The primary key of the table. -/
def key (vector : CompanyVector) : VectorKey := vectorKey vector.companyId vector.record

/-- `key` of the map: the names, joined with colons. -/
def memoryKey (vector : CompanyVector) : String :=
  vector.companyId ++ (":" ++ (vector.record.documentId ++ (":" ++ (vector.record.chunkId ++
    (":" ++ (vector.record.embeddingModel ++ (":" ++ vector.record.embeddingVersion)))))))

/-- A record that has passed the checks, of a company with a safe name. -/
structure Checked (vector : CompanyVector) : Prop where
  companyId : isSafeDocumentSegment vector.companyId = true
  record : validateRecord vector.record = .ok ()

end CompanyVector

/-- The contents of some rows. -/
def rowContents (rows : List CompanyVector) : VectorContents :=
  contents CompanyVector.key CompanyVector.record rows

/-- The rows that `p` selects, without their vectors. -/
def listRows (p : VectorKey → Bool) (rows : List CompanyVector) : List StoredVector :=
  (rows.filter fun row => p row.key).map fun row => stored row.record

section Rows

variable {rows : List CompanyVector} {p : VectorKey → Bool} {k : VectorKey} {record : VectorRecord}

theorem key_of_rowContents (hd : Distinct CompanyVector.key rows)
    (h : rowContents rows k = some record) : vectorKey k.companyId record = k := by
  obtain ⟨row, -, rfl, rfl⟩ := (contents_eq_some hd).mp h
  rfl

theorem mem_listRows (hd : Distinct CompanyVector.key rows) {vector : StoredVector} :
    vector ∈ listRows p rows ↔ ∃ k, p k = true ∧ (rowContents rows).listed k = some vector := by
  unfold listRows VectorContents.listed rowContents
  simp only [List.mem_map, List.mem_filter, Option.map_eq_some_iff, contents_eq_some hd]
  constructor
  · rintro ⟨row, ⟨hrow, hp⟩, rfl⟩
    exact ⟨row.key, hp, row.record, ⟨row, hrow, rfl, rfl⟩, rfl⟩
  · rintro ⟨k, hp, record, ⟨row, hrow, rfl, rfl⟩, rfl⟩
    exact ⟨row, ⟨hrow, hp⟩, rfl⟩

/-- Rows of one company are listed once each. -/
theorem nodup_listRows (hd : Distinct CompanyVector.key rows) {companyId : String}
    (hp : ∀ k, p k = true → k.companyId = companyId) : (listRows p rows).Nodup := by
  have hselected : Distinct CompanyVector.key (rows.filter fun row => p row.key) :=
    hd.sublist (List.filter_sublist.map CompanyVector.key)
  unfold listRows
  refine List.Nodup.map_on ?_ (List.Nodup.of_map _ hselected)
  intro first hfirst second hsecond hsame
  refine eq_of_key hselected hfirst hsecond ?_
  have hcompany : first.companyId = second.companyId := by
    have hone := hp _ (List.mem_filter.mp hfirst).2
    have htwo := hp _ (List.mem_filter.mp hsecond).2
    exact hone.trans htwo.symm
  unfold CompanyVector.key vectorKey
  simp only [stored, StoredVector.mk.injEq] at hsame
  simp only [hcompany, hsame]

end Rows

theorem companyId_of_isListed {companyId documentId : String}
    {embeddingModel embeddingVersion : Option String} {k : VectorKey}
    (h : isListed companyId documentId embeddingModel embeddingVersion k = true) :
    k.companyId = companyId := by
  unfold isListed at h
  simp only [Bool.and_eq_true, decide_eq_true_eq] at h
  exact h.1.1.1

/-- The loop of `upsert`. -/
def upsertLoop {R : Type} (upsertOne : R → VectorRecord → Outcome R Unit) :
    R → List VectorRecord → Outcome R Unit
  | r, [] => (.ok (), r)
  | r, record :: records =>
    match upsertOne r record with
    | (.ok (), r') => upsertLoop upsertOne r' records
    | (.error e, r') => (.error e, r')

/-- What the loop does, from what one round does to a repository in which `I` holds. -/
theorem upsertLoop_spec {R : Type} {upsertOne : R → VectorRecord → Outcome R Unit}
    {contents : R → VectorContents} {I : R → Prop} {accepts : VectorRecord → Bool}
    {keep : VectorRecord → VectorRecord} {companyId : String}
    (hwritten : ∀ r, I r → ∀ record, accepts record = true →
      ∃ r', upsertOne r record = (.ok (), r') ∧ I r' ∧
        contents r' =
          Function.update (contents r) (vectorKey companyId (keep record)) (some (keep record)))
    (hrefused : ∀ r, I r → ∀ record, accepts record = false → ∃ e, upsertOne r record = (.error e, r))
    {r : R} (hr : I r) (records : List VectorRecord) :
    contents (upsertLoop upsertOne r records).2 =
        (contents r).write companyId ((records.takeWhile accepts).map keep) ∧
      I (upsertLoop upsertOne r records).2 ∧
      ((upsertLoop upsertOne r records).1 = .ok () ↔ ∀ record ∈ records, accepts record = true) := by
  induction records generalizing r with
  | nil => exact ⟨rfl, hr, by simp [upsertLoop]⟩
  | cons record records ih =>
      cases haccepts : accepts record with
      | true =>
          obtain ⟨r', hstep, hr', hcontents⟩ := hwritten r hr record haccepts
          obtain ⟨hrest, hrestI, hok⟩ := ih hr'
          have hloop : upsertLoop upsertOne r (record :: records) =
              upsertLoop upsertOne r' records := by
            rw [upsertLoop, hstep]
          rw [hloop, List.takeWhile_cons_of_pos haccepts, List.map_cons,
            VectorContents.write_cons, ← hcontents]
          refine ⟨hrest, hrestI, ?_⟩
          rw [hok, List.forall_mem_cons, haccepts]
          simp
      | false =>
          obtain ⟨e, hstep⟩ := hrefused r hr record haccepts
          have hloop : upsertLoop upsertOne r (record :: records) = (.error e, r) := by
            rw [upsertLoop, hstep]
          have hnot : ¬accepts record = true := by rw [haccepts]; exact Bool.false_ne_true
          rw [hloop, List.takeWhile_cons_of_neg hnot]
          exact ⟨rfl, hr, by simp [haccepts]⟩

/-! ## The map -/

theorem colon_notMem_of_safe {value : String} (h : isSafeDocumentSegment value = true) :
    ':' ∉ value.toList := by
  unfold isSafeDocumentSegment at h
  cases hvalue : value.toList with
  | nil => simp
  | cons c rest =>
      rw [hvalue] at h
      simp only [Bool.and_eq_true, List.all_eq_true] at h
      obtain ⟨⟨hfirst, -⟩, hrest⟩ := h
      intro hmem
      rcases List.mem_cons.mp hmem with rfl | hcolon
      · exact absurd hfirst (by decide)
      · exact absurd (hrest ':' hcolon) (by decide)

theorem assertDocumentTenantContext_companyId {tenant : DocumentTenantContext}
    (h : assertDocumentTenantContext tenant = .ok ()) :
    isSafeDocumentSegment tenant.companyId = true := by
  unfold assertDocumentTenantContext at h
  rw [Checked.seq_eq_ok, assertSafeDocumentSegment_eq_ok] at h
  exact h.1

theorem safe_of_validateRecord {record : VectorRecord} (h : validateRecord record = .ok ()) :
    isSafeDocumentSegment record.documentId = true ∧ isSafeDocumentSegment record.chunkId = true ∧
      isSafeDocumentSegment record.embeddingModel = true ∧
      isSafeDocumentSegment record.embeddingVersion = true := by
  unfold validateRecord at h
  simp only [Checked.seq_eq_ok, assertSafeDocumentSegment_eq_ok] at h
  exact ⟨h.1, h.2.1, h.2.2.1, h.2.2.2.1⟩

/-- The text of a name and what comes behind the colon. -/
theorem joined_inj {first second rest rest' : String} (hfirst : ':' ∉ first.toList)
    (hsecond : ':' ∉ second.toList) (h : first ++ (":" ++ rest) = second ++ (":" ++ rest')) :
    first = second ∧ rest = rest' := by
  have hlists := congrArg String.toList h
  simp only [String.toList_append] at hlists
  obtain ⟨hone, htwo⟩ := Separators.append_cons_inj_first hfirst hsecond hlists
  exact ⟨String.toList_injective hone, String.toList_injective htwo⟩

/-- One text is the key of one vector only. -/
theorem memoryKey_inj {first second : CompanyVector} (hfirst : first.Checked)
    (hsecond : second.Checked) : first.memoryKey = second.memoryKey ↔ first.key = second.key := by
  obtain ⟨hdocument, hchunk, hmodel, -⟩ := safe_of_validateRecord hfirst.record
  obtain ⟨hdocument', hchunk', hmodel', -⟩ := safe_of_validateRecord hsecond.record
  unfold CompanyVector.memoryKey CompanyVector.key vectorKey
  rw [VectorKey.mk.injEq]
  constructor
  · intro h
    obtain ⟨hcompanies, h⟩ := joined_inj (colon_notMem_of_safe hfirst.companyId)
      (colon_notMem_of_safe hsecond.companyId) h
    obtain ⟨hdocuments, h⟩ :=
      joined_inj (colon_notMem_of_safe hdocument) (colon_notMem_of_safe hdocument') h
    obtain ⟨hchunks, h⟩ := joined_inj (colon_notMem_of_safe hchunk) (colon_notMem_of_safe hchunk') h
    obtain ⟨hmodels, hversions⟩ :=
      joined_inj (colon_notMem_of_safe hmodel) (colon_notMem_of_safe hmodel') h
    exact ⟨hcompanies, hdocuments, hchunks, hmodels, hversions⟩
  · rintro ⟨hcompanies, hdocuments, hchunks, hmodels, hversions⟩
    rw [hcompanies, hdocuments, hchunks, hmodels, hversions]

/-- `InMemoryVectorRepository`, with the entries of its map in their order.  `resolveDocument`
says whether the document is found. -/
structure InMemoryVectorRepository where
  records : List CompanyVector
  resolveDocument : DocumentTenantContext → (documentId : String) → Bool
  distinct : Distinct CompanyVector.memoryKey records
  checked : ∀ vector ∈ records, vector.Checked

namespace InMemoryVectorRepository

theorem distinct_key (store : InMemoryVectorRepository) :
    Distinct CompanyVector.key store.records := by
  have hkeys : (store.records.map CompanyVector.memoryKey).Nodup := store.distinct
  refine List.Nodup.map_on ?_ (List.Nodup.of_map _ hkeys)
  intro first hfirst second hsecond hsame
  refine eq_of_key store.distinct hfirst hsecond ?_
  exact (memoryKey_inj (store.checked first hfirst) (store.checked second hsecond)).mpr hsame

/-- `this.records.set`. -/
def set (store : InMemoryVectorRepository) (vector : CompanyVector) (h : vector.Checked) :
    InMemoryVectorRepository where
  records := KeyedList.set CompanyVector.memoryKey vector store.records
  resolveDocument := store.resolveDocument
  distinct := distinct_set store.distinct vector
  checked := by
    intro other hother
    rcases mem_set hother with rfl | hmem
    · exact h
    · exact store.checked other hmem

theorem records_set (store : InMemoryVectorRepository) {vector : CompanyVector}
    (h : vector.Checked) :
    (store.set vector h).records = KeyedList.set CompanyVector.key vector store.records :=
  set_congr fun other hother => memoryKey_inj (store.checked other hother) h

/-- One round of `upsert`. -/
def upsertOne (tenant : DocumentTenantContext) (htenant : assertDocumentTenantContext tenant = .ok ())
    (store : InMemoryVectorRepository) (record : VectorRecord) :
    Outcome InMemoryVectorRepository Unit :=
  match hrecord : validateRecord record with
  | .error e => (.error e, store)
  | .ok () =>
    if store.resolveDocument tenant record.documentId then
      (.ok (), store.set ⟨tenant.companyId, record⟩
        ⟨assertDocumentTenantContext_companyId htenant, hrecord⟩)
    else (.error "Vector document is unavailable.", store)

def upsert (store : InMemoryVectorRepository) (tenant : DocumentTenantContext)
    (records : List VectorRecord) : Outcome InMemoryVectorRepository Unit :=
  match htenant : assertDocumentTenantContext tenant with
  | .error e => (.error e, store)
  | .ok () => upsertLoop (upsertOne tenant htenant) store records

def listByDocument (store : InMemoryVectorRepository) (tenant : DocumentTenantContext)
    (documentId : String) (embeddingModel embeddingVersion : Option String) :
    Except String (List StoredVector) := do
  assertDocumentTenantContext tenant
  assertSafeDocumentSegment documentId "document id"
  return listRows (isListed tenant.companyId documentId embeddingModel embeddingVersion)
    store.records

/-- `deleteMatching`. -/
def deleteMatching (store : InMemoryVectorRepository) (p : VectorKey → Bool) :
    Outcome InMemoryVectorRepository Nat :=
  (.ok (store.records.countP fun vector => p vector.key),
    { records := store.records.filter fun vector => !p vector.key
      resolveDocument := store.resolveDocument
      distinct := store.distinct.sublist (List.filter_sublist.map CompanyVector.memoryKey)
      checked := fun vector hvector => store.checked vector (List.mem_of_mem_filter hvector) })

/-- Whether a record is written. -/
def accepts (store : InMemoryVectorRepository) (tenant : DocumentTenantContext)
    (record : VectorRecord) : Bool :=
  (validateRecord record).isOk && store.resolveDocument tenant record.documentId

theorem upsertOne_of_accepts {store : InMemoryVectorRepository} {tenant : DocumentTenantContext}
    (htenant : assertDocumentTenantContext tenant = .ok ()) {record : VectorRecord}
    (h : store.accepts tenant record = true) :
    ∃ store', upsertOne tenant htenant store record = (.ok (), store') ∧
      store'.resolveDocument = store.resolveDocument ∧
      rowContents store'.records = Function.update (rowContents store.records)
        (vectorKey tenant.companyId record) (some record) := by
  unfold accepts at h
  rw [Bool.and_eq_true] at h
  obtain ⟨hvalid, hfound⟩ := h
  unfold upsertOne
  split
  · next e he =>
      rw [he] at hvalid
      cases hvalid
  · next hrecord =>
      rw [if_pos hfound]
      refine ⟨_, rfl, rfl, ?_⟩
      rw [records_set]
      exact contents_set _ _

theorem upsertOne_of_not_accepts {store : InMemoryVectorRepository}
    {tenant : DocumentTenantContext} (htenant : assertDocumentTenantContext tenant = .ok ())
    {record : VectorRecord} (h : store.accepts tenant record = false) :
    ∃ e, upsertOne tenant htenant store record = (.error e, store) := by
  unfold upsertOne
  split
  · next e _ => exact ⟨e, rfl⟩
  · next hrecord =>
      have hfound : ¬store.resolveDocument tenant record.documentId = true := by
        intro hfound
        unfold accepts at h
        rw [hrecord, hfound] at h
        cases h
      rw [if_neg hfound]
      exact ⟨_, rfl⟩

theorem deleteMatching_spec (store : InMemoryVectorRepository) (p : VectorKey → Bool) :
    (store.deleteMatching p).1 = .ok ((rowContents store.records).count p) ∧
      rowContents (store.deleteMatching p).2.records = (rowContents store.records).remove p :=
  ⟨congrArg Except.ok (countP_eq_ncard store.distinct_key p),
    contents_filter store.distinct_key p⟩

theorem upsert_writes (store : InMemoryVectorRepository) {tenant : DocumentTenantContext}
    (htenant : assertDocumentTenantContext tenant = .ok ()) (records : List VectorRecord) :
    let outcome := store.upsert tenant records
    rowContents outcome.2.records =
        (rowContents store.records).write tenant.companyId
          ((records.takeWhile (store.accepts tenant)).map id) ∧
      outcome.2.resolveDocument = store.resolveDocument ∧
      (outcome.1 = .ok () ↔ ∀ record ∈ records, store.accepts tenant record = true) := by
  have hupsert : store.upsert tenant records =
      upsertLoop (upsertOne tenant htenant) store records := by
    unfold upsert
    split
    · next e he =>
        rw [htenant] at he
        cases he
    · rfl
  have hsame {store' : InMemoryVectorRepository}
      (h : store'.resolveDocument = store.resolveDocument) :
      store'.accepts tenant = store.accepts tenant := by
    unfold accepts
    rw [h]
  have hwritten : ∀ store' : InMemoryVectorRepository,
      store'.resolveDocument = store.resolveDocument → ∀ record,
      store.accepts tenant record = true →
      ∃ store'', upsertOne tenant htenant store' record = (.ok (), store'') ∧
        store''.resolveDocument = store.resolveDocument ∧
        rowContents store''.records = Function.update (rowContents store'.records)
          (vectorKey tenant.companyId (id record)) (some (id record)) := by
    intro store' hstore' record haccepts
    rw [← hsame hstore'] at haccepts
    obtain ⟨store'', hstep, hresolve, hcontents⟩ := upsertOne_of_accepts htenant haccepts
    exact ⟨store'', hstep, hresolve.trans hstore', hcontents⟩
  have hrefused : ∀ store' : InMemoryVectorRepository,
      store'.resolveDocument = store.resolveDocument → ∀ record,
      store.accepts tenant record = false →
      ∃ e, upsertOne tenant htenant store' record = (.error e, store') := by
    intro store' hstore' record haccepts
    rw [← hsame hstore'] at haccepts
    exact upsertOne_of_not_accepts htenant haccepts
  dsimp only
  rw [hupsert]
  exact upsertLoop_spec hwritten hrefused rfl records

theorem list_shows (store : InMemoryVectorRepository) {tenant : DocumentTenantContext}
    {documentId : String} (h : Admits tenant documentId)
    (embeddingModel embeddingVersion : Option String) :
    store.listByDocument tenant documentId embeddingModel embeddingVersion =
      .ok (listRows (isListed tenant.companyId documentId embeddingModel embeddingVersion)
        store.records) := by
  have hdocument := (@assertSafeDocumentSegment_eq_ok documentId "document id").mpr h.documentId
  unfold listByDocument
  rw [h.tenant, hdocument]
  rfl

instance : VectorRepository InMemoryVectorRepository where
  contents store := rowContents store.records
  accepts := accepts
  keep _ := id
  upsert := upsert
  listByDocument := listByDocument
  deleteStale store tenant documentId activeChunkIds embeddingModel embeddingVersion :=
    store.deleteMatching
      (isStale tenant.companyId documentId activeChunkIds embeddingModel embeddingVersion)
  deleteOtherVersions store tenant documentId embeddingModel embeddingVersion :=
    store.deleteMatching
      (isOtherVersion tenant.companyId documentId embeddingModel embeddingVersion)
  deleteDocument store tenant documentId :=
    store.deleteMatching (isOfDocument tenant.companyId documentId)
  key_of_contents {store _ _} h := key_of_rowContents store.distinct_key h
  vectorKey_keep _ _ _ := rfl
  stored_keep _ _ := rfl
  preview_keep _ _ _ := rfl
  upsert_spec store tenant htenant records := by
    obtain ⟨hcontents, hresolve, hok⟩ := store.upsert_writes htenant records
    refine ⟨hcontents, ⟨?_, rfl⟩, hok⟩
    unfold accepts
    rw [hresolve]
  list_spec store tenant documentId h embeddingModel embeddingVersion :=
    ⟨_, store.list_shows h embeddingModel embeddingVersion,
      nodup_listRows store.distinct_key fun _ hk => companyId_of_isListed hk,
      fun _ => mem_listRows store.distinct_key⟩
  stale_spec store _ _ _ _ _ _ := by
    obtain ⟨hcount, hcontents⟩ := store.deleteMatching_spec _
    exact ⟨hcount, hcontents, rfl, rfl⟩
  otherVersions_spec store _ _ _ _ _ := by
    obtain ⟨hcount, hcontents⟩ := store.deleteMatching_spec _
    exact ⟨hcount, hcontents, rfl, rfl⟩
  document_spec store _ _ _ := by
    obtain ⟨hcount, hcontents⟩ := store.deleteMatching_spec _
    exact ⟨hcount, hcontents, rfl, rfl⟩

end InMemoryVectorRepository

/-! ## The table -/

/-- What the columns of "DocumentChunkEmbedding" make of a text and of a number of a vector; a
number out of the range of single precision is refused. -/
structure VectorColumns where
  sent : List CodeUnit → List CodeUnit
  sent_text : ∀ {units}, IsText units → sent units = units
  single : JsNumber → Option JsNumber

/-- The last number of an `INTEGER` column. -/
def maxInteger : Nat := 2147483647

/-- Whether the columns take a record that has passed the checks. -/
def VectorColumns.take (columns : VectorColumns) (record : VectorRecord) : Bool :=
  decide (record.chunkIndex ≤ maxInteger) && decide (record.dimensions ≤ 16000) &&
    record.sourceSegmentIndex.all (fun index => decide (index ≤ maxInteger)) &&
    decide (record.embeddingVersion.length ≤ 100) &&
    decide (record.provenanceVersion.length ≤ 50) &&
    decide ('\x00' ∉ record.provenanceVersion.toList) &&
    !(columns.sent record.contentPreview).contains 0 &&
    -- The check `DocumentChunkEmbedding_page_check`.
    (match record.pageStart, record.pageEnd with
      | none, none => true
      | some first, some last =>
        decide (0 < first) && decide (first ≤ last) && decide (last ≤ maxInteger)
      | _, _ => false) &&
    record.vector.all fun value => (columns.single value).isSome

/-- The record that the columns hold. -/
def VectorColumns.hold (columns : VectorColumns) (record : VectorRecord) : VectorRecord :=
  { record with
    contentPreview := columns.sent record.contentPreview
    vector := record.vector.map fun value => (columns.single value).getD value }

/-- `PostgreSQLVectorRepository`, with the rows of its table.  `documents` are those that the rows
may refer to. -/
structure PostgreSQLVectorRepository where
  rows : List CompanyVector
  documents : (companyId documentId : String) → Bool
  columns : VectorColumns
  distinct : Distinct CompanyVector.key rows

namespace PostgreSQLVectorRepository

/-- Whether a record is written. -/
def accepts (table : PostgreSQLVectorRepository) (tenant : DocumentTenantContext)
    (record : VectorRecord) : Bool :=
  (validateRecord record).isOk && table.columns.take record &&
    table.documents tenant.companyId record.documentId

/-- `INSERT` with `ON CONFLICT DO UPDATE`. -/
def insert (table : PostgreSQLVectorRepository) (companyId : String) (record : VectorRecord) :
    Outcome PostgreSQLVectorRepository Unit :=
  if table.columns.take record && table.documents companyId record.documentId then
    (.ok (), { table with
      rows := KeyedList.set CompanyVector.key ⟨companyId, table.columns.hold record⟩ table.rows
      distinct := distinct_set table.distinct _ })
  else (.error "The row is refused.", table)

/-- One round of `upsert`. -/
def upsertOne (tenant : DocumentTenantContext) (table : PostgreSQLVectorRepository)
    (record : VectorRecord) : Outcome PostgreSQLVectorRepository Unit :=
  match validateRecord record with
  | .error e => (.error e, table)
  | .ok () => table.insert tenant.companyId record

def upsert (table : PostgreSQLVectorRepository) (tenant : DocumentTenantContext)
    (records : List VectorRecord) : Outcome PostgreSQLVectorRepository Unit :=
  match assertDocumentTenantContext tenant with
  | .error e => (.error e, table)
  | .ok () => upsertLoop (upsertOne tenant) table records

/-- Rows with one index come in the order of the table. -/
def listByDocument (table : PostgreSQLVectorRepository) (tenant : DocumentTenantContext)
    (documentId : String) (embeddingModel embeddingVersion : Option String) :
    Except String (List StoredVector) := do
  assertDocumentTenantContext tenant
  assertSafeDocumentSegment documentId "document id"
  return (listRows (isListed tenant.companyId documentId embeddingModel embeddingVersion)
    table.rows).insertionSort fun first second => first.chunkIndex ≤ second.chunkIndex

/-- `DELETE`: the number of the rows that are deleted, and the others. -/
def delete (table : PostgreSQLVectorRepository) (p : VectorKey → Bool) :
    Nat × PostgreSQLVectorRepository :=
  (table.rows.countP fun row => p row.key,
    { table with
      rows := table.rows.filter fun row => !p row.key
      distinct := table.distinct.sublist (List.filter_sublist.map CompanyVector.key) })

/-- The loop of `deleteStale`. -/
def deleteEach (companyId documentId embeddingModel embeddingVersion : String)
    (activeChunkIds : List String) (table : PostgreSQLVectorRepository) :
    List StoredVector → Nat × PostgreSQLVectorRepository
  | [] => (0, table)
  | record :: current =>
    if activeChunkIds.contains record.chunkId then
      deleteEach companyId documentId embeddingModel embeddingVersion activeChunkIds table current
    else
      let now := table.delete fun k =>
        k = ⟨companyId, documentId, record.chunkId, embeddingModel, embeddingVersion⟩
      let later :=
        deleteEach companyId documentId embeddingModel embeddingVersion activeChunkIds now.2 current
      (now.1 + later.1, later.2)

def deleteStale (table : PostgreSQLVectorRepository) (tenant : DocumentTenantContext)
    (documentId : String) (activeChunkIds : List String)
    (embeddingModel embeddingVersion : String) : Outcome PostgreSQLVectorRepository Nat :=
  match table.listByDocument tenant documentId (some embeddingModel) (some embeddingVersion) with
  | .error e => (.error e, table)
  | .ok current =>
    let deleted := table.deleteEach tenant.companyId documentId embeddingModel embeddingVersion
      activeChunkIds current
    (.ok deleted.1, deleted.2)

def deleteOtherVersions (table : PostgreSQLVectorRepository) (tenant : DocumentTenantContext)
    (documentId embeddingModel embeddingVersion : String) :
    Outcome PostgreSQLVectorRepository Nat :=
  match assertDocumentTenantContext tenant with
  | .error e => (.error e, table)
  | .ok () =>
    let deleted := table.delete
      (isOtherVersion tenant.companyId documentId embeddingModel embeddingVersion)
    (.ok deleted.1, deleted.2)

def deleteDocument (table : PostgreSQLVectorRepository) (tenant : DocumentTenantContext)
    (documentId : String) : Outcome PostgreSQLVectorRepository Nat :=
  match assertDocumentTenantContext tenant,
      assertSafeDocumentSegment documentId "document id" with
  | .ok (), .ok () =>
    let deleted := table.delete (isOfDocument tenant.companyId documentId)
    (.ok deleted.1, deleted.2)
  | .error e, _ => (.error e, table)
  | _, .error e => (.error e, table)

/-! ### What each does -/

variable {table : PostgreSQLVectorRepository} {tenant : DocumentTenantContext}
  {record : VectorRecord}

theorem upsertOne_of_accepts (h : table.accepts tenant record = true) :
    ∃ table', upsertOne tenant table record = (.ok (), table') ∧
      (table'.documents = table.documents ∧ table'.columns = table.columns) ∧
      rowContents table'.rows = Function.update (rowContents table.rows)
        (vectorKey tenant.companyId (table.columns.hold record))
        (some (table.columns.hold record)) := by
  unfold accepts at h
  rw [Bool.and_assoc, Bool.and_eq_true] at h
  obtain ⟨hvalid, htaken⟩ := h
  unfold upsertOne
  split
  · next e he =>
      rw [he] at hvalid
      cases hvalid
  · unfold insert
    rw [if_pos htaken]
    exact ⟨_, rfl, ⟨rfl, rfl⟩, contents_set _ _⟩

theorem upsertOne_of_not_accepts (h : table.accepts tenant record = false) :
    ∃ e, upsertOne tenant table record = (.error e, table) := by
  unfold upsertOne
  split
  · next e _ => exact ⟨e, rfl⟩
  · next hrecord =>
      unfold insert
      split
      · next htaken =>
          unfold accepts at h
          rw [Bool.and_assoc, htaken, hrecord] at h
          cases h
      · exact ⟨_, rfl⟩

theorem upsert_writes (table : PostgreSQLVectorRepository)
    (htenant : assertDocumentTenantContext tenant = .ok ()) (records : List VectorRecord) :
    let outcome := table.upsert tenant records
    rowContents outcome.2.rows =
        (rowContents table.rows).write tenant.companyId
          ((records.takeWhile (table.accepts tenant)).map table.columns.hold) ∧
      (outcome.2.documents = table.documents ∧ outcome.2.columns = table.columns) ∧
      (outcome.1 = .ok () ↔ ∀ record ∈ records, table.accepts tenant record = true) := by
  have hsame {table' : PostgreSQLVectorRepository}
      (h : table'.documents = table.documents ∧ table'.columns = table.columns) :
      table'.accepts tenant = table.accepts tenant := by
    unfold accepts
    rw [h.1, h.2]
  have hwritten : ∀ table' : PostgreSQLVectorRepository,
      table'.documents = table.documents ∧ table'.columns = table.columns → ∀ record,
      table.accepts tenant record = true →
      ∃ table'', upsertOne tenant table' record = (.ok (), table'') ∧
        (table''.documents = table.documents ∧ table''.columns = table.columns) ∧
        rowContents table''.rows = Function.update (rowContents table'.rows)
          (vectorKey tenant.companyId (table.columns.hold record))
          (some (table.columns.hold record)) := by
    intro table' htable' record haccepts
    rw [← hsame htable'] at haccepts
    obtain ⟨table'', hstep, hsettings, hcontents⟩ := upsertOne_of_accepts haccepts
    rw [htable'.1, htable'.2] at hsettings
    rw [htable'.2] at hcontents
    exact ⟨table'', hstep, hsettings, hcontents⟩
  have hrefused : ∀ table' : PostgreSQLVectorRepository,
      table'.documents = table.documents ∧ table'.columns = table.columns → ∀ record,
      table.accepts tenant record = false →
      ∃ e, upsertOne tenant table' record = (.error e, table') := by
    intro table' htable' record haccepts
    rw [← hsame htable'] at haccepts
    exact upsertOne_of_not_accepts haccepts
  unfold upsert
  rw [htenant]
  exact upsertLoop_spec hwritten hrefused ⟨rfl, rfl⟩ records

theorem list_shows (table : PostgreSQLVectorRepository) {documentId : String}
    (h : Admits tenant documentId) (embeddingModel embeddingVersion : Option String) :
    table.listByDocument tenant documentId embeddingModel embeddingVersion =
      .ok ((listRows (isListed tenant.companyId documentId embeddingModel embeddingVersion)
        table.rows).insertionSort fun first second => first.chunkIndex ≤ second.chunkIndex) := by
  have hdocument := (@assertSafeDocumentSegment_eq_ok documentId "document id").mpr h.documentId
  unfold listByDocument
  rw [h.tenant, hdocument]
  rfl

theorem delete_spec (table : PostgreSQLVectorRepository) (p : VectorKey → Bool) :
    (table.delete p).1 = (rowContents table.rows).count p ∧
      rowContents (table.delete p).2.rows = (rowContents table.rows).remove p :=
  ⟨countP_eq_ncard table.distinct p, contents_filter table.distinct p⟩

/-- What a deletion does depends on the rows alone. -/
theorem delete_congr {p q : VectorKey → Bool} (h : ∀ row ∈ table.rows, p row.key = q row.key) :
    table.delete p = table.delete q := by
  have hcount : table.rows.countP (fun row => p row.key) =
      table.rows.countP fun row => q row.key :=
    List.countP_congr fun row hrow => by rw [h row hrow]
  have hrows : table.rows.filter (fun row => !p row.key) =
      table.rows.filter fun row => !q row.key :=
    List.filter_congr fun row hrow => by rw [h row hrow]
  unfold delete
  simp only [hcount, hrows]

/-- Two deletions are one of the rows that either selects. -/
theorem delete_delete (table : PostgreSQLVectorRepository) (p q : VectorKey → Bool) :
    ((table.delete p).1 + ((table.delete p).2.delete q).1, ((table.delete p).2.delete q).2) =
      table.delete fun k => p k || q k := by
  have hrows : (table.rows.filter fun row => !p row.key).filter (fun row => !q row.key) =
      table.rows.filter fun row => !(p row.key || q row.key) := by
    rw [List.filter_filter]
    refine List.filter_congr fun row _ => ?_
    cases p row.key <;> cases q row.key <;> rfl
  have hcount : table.rows.countP (fun row => p row.key) +
      (table.rows.filter fun row => !p row.key).countP (fun row => q row.key) =
        table.rows.countP fun row => p row.key || q row.key := by
    induction table.rows with
    | nil => rfl
    | cons row rows ih =>
        simp only [List.countP_cons, List.filter_cons]
        cases hp : p row.key <;> cases hq : q row.key <;> simp [hq] <;> omega
  unfold delete
  simp only [hrows, hcount]

/-- The loop deletes the vectors of the chunks it is given that are not active. -/
theorem deleteEach_eq (companyId documentId embeddingModel embeddingVersion : String)
    (activeChunkIds : List String) (current : List StoredVector)
    (table : PostgreSQLVectorRepository) :
    table.deleteEach companyId documentId embeddingModel embeddingVersion activeChunkIds current =
      table.delete fun k =>
        isStale companyId documentId activeChunkIds embeddingModel embeddingVersion k &&
          current.any fun record => record.chunkId = k.chunkId := by
  induction current generalizing table with
  | nil =>
      unfold delete
      simp [deleteEach]
  | cons record current ih =>
      unfold deleteEach
      split
      · next hactive =>
          rw [ih]
          refine delete_congr fun row _ => ?_
          by_cases hchunk : record.chunkId = row.key.chunkId
          · have hnot : isStale companyId documentId activeChunkIds embeddingModel embeddingVersion
                row.key = false := by
              rw [hchunk] at hactive
              unfold isStale
              rw [hactive, Bool.not_true, Bool.and_false]
            rw [hnot, Bool.false_and, Bool.false_and]
          · simp [hchunk]
      · next hstale =>
          dsimp only
          rw [ih, delete_delete]
          refine delete_congr fun row _ => ?_
          rw [Bool.eq_iff_iff]
          simp only [Bool.or_eq_true, decide_eq_true_eq, Bool.and_eq_true, isStale,
            List.any_cons, Bool.not_eq_true']
          constructor
          · rintro (hkey | ⟨hrow, hany⟩)
            · rw [hkey]
              exact ⟨by simpa using hstale, Or.inl rfl⟩
            · exact ⟨hrow, Or.inr hany⟩
          · rintro ⟨hrow, hchunk | hany⟩
            · refine Or.inl ?_
              obtain ⟨⟨⟨⟨hcompany, hdocument⟩, hmodel⟩, hversion⟩, -⟩ := hrow
              rw [← hcompany, ← hdocument, hchunk, ← hmodel, ← hversion]
            · exact Or.inr ⟨hrow, hany⟩

/-- What is stale is listed. -/
theorem deleteStale_eq (table : PostgreSQLVectorRepository) {documentId : String}
    (h : Admits tenant documentId) (activeChunkIds : List String)
    (embeddingModel embeddingVersion : String) :
    let deleted := table.delete
      (isStale tenant.companyId documentId activeChunkIds embeddingModel embeddingVersion)
    table.deleteStale tenant documentId activeChunkIds embeddingModel embeddingVersion =
      (.ok deleted.1, deleted.2) := by
  unfold deleteStale
  rw [table.list_shows h]
  dsimp only
  rw [deleteEach_eq]
  have hstale := @delete_congr table
    (fun k => isStale tenant.companyId documentId activeChunkIds embeddingModel embeddingVersion k &&
      ((listRows (isListed tenant.companyId documentId (some embeddingModel)
        (some embeddingVersion)) table.rows).insertionSort fun first second =>
          first.chunkIndex ≤ second.chunkIndex).any fun record => record.chunkId = k.chunkId)
    (isStale tenant.companyId documentId activeChunkIds embeddingModel embeddingVersion) ?_
  · rw [hstale]
  · intro row hrow
    cases hp : isStale tenant.companyId documentId activeChunkIds embeddingModel embeddingVersion
        row.key with
    | false => rfl
    | true =>
        rw [Bool.true_and, List.any_eq_true]
        refine ⟨stored row.record, ?_, decide_eq_true rfl⟩
        rw [List.mem_insertionSort]
        refine List.mem_map_of_mem (List.mem_filter.mpr ⟨hrow, ?_⟩)
        simp only [isStale, Bool.and_eq_true, decide_eq_true_eq] at hp
        simp [isListed, passesFilter, hp]

instance : VectorRepository PostgreSQLVectorRepository where
  contents table := rowContents table.rows
  accepts := accepts
  keep table := table.columns.hold
  upsert := upsert
  listByDocument := listByDocument
  deleteStale := deleteStale
  deleteOtherVersions := deleteOtherVersions
  deleteDocument := deleteDocument
  key_of_contents {table _ _} h := key_of_rowContents table.distinct h
  vectorKey_keep _ _ _ := rfl
  stored_keep _ _ := rfl
  preview_keep table _ h := table.columns.sent_text h
  upsert_spec table tenant htenant records := by
    obtain ⟨hcontents, ⟨hdocuments, hcolumns⟩, hok⟩ := table.upsert_writes htenant records
    refine ⟨hcontents, ⟨?_, congrArg VectorColumns.hold hcolumns⟩, hok⟩
    unfold accepts
    rw [hdocuments, hcolumns]
  list_spec table tenant documentId h embeddingModel embeddingVersion := by
    refine ⟨_, table.list_shows h embeddingModel embeddingVersion, ?_, ?_⟩
    · rw [(List.perm_insertionSort _ _).nodup_iff]
      exact nodup_listRows table.distinct fun _ hk => companyId_of_isListed hk
    · intro vector
      rw [List.mem_insertionSort]
      exact mem_listRows table.distinct
  stale_spec table tenant documentId h activeChunkIds embeddingModel embeddingVersion := by
    dsimp only
    rw [table.deleteStale_eq h]
    obtain ⟨hcount, hcontents⟩ := table.delete_spec
      (isStale tenant.companyId documentId activeChunkIds embeddingModel embeddingVersion)
    exact ⟨congrArg Except.ok hcount, hcontents, rfl, rfl⟩
  otherVersions_spec table tenant documentId h embeddingModel embeddingVersion := by
    obtain ⟨hcount, hcontents⟩ := table.delete_spec
      (isOtherVersion tenant.companyId documentId embeddingModel embeddingVersion)
    unfold deleteOtherVersions
    rw [h.tenant]
    exact ⟨congrArg Except.ok hcount, hcontents, rfl, rfl⟩
  document_spec table tenant documentId h := by
    have hdocument := (@assertSafeDocumentSegment_eq_ok documentId "document id").mpr h.documentId
    obtain ⟨hcount, hcontents⟩ := table.delete_spec (isOfDocument tenant.companyId documentId)
    unfold deleteDocument
    rw [h.tenant, hdocument]
    exact ⟨congrArg Except.ok hcount, hcontents, rfl, rfl⟩

end PostgreSQLVectorRepository

/-! ## Side by side -/

def sampleVector : VectorRecord where
  documentId := "document-1"
  chunkId := "chunk-1"
  chunkIndex := 0
  contentHash := "0000000000000000000000000000000000000000000000000000000000000000"
  contentPreview := Rag.codeUnits "Opening hours"
  pageStart := some 1
  pageEnd := some 1
  sourceSegmentIndex := none
  extractionMethod := .pdfText
  provenanceConfidence := none
  provenanceVersion := "page-provenance-v1"
  embeddingModel := "model"
  embeddingVersion := "v1"
  dimensions := 1
  vector := [.finite 1]

def sampleTenant : DocumentTenantContext := ⟨"acme", "ada"⟩

def emptyStore : InMemoryVectorRepository where
  records := []
  resolveDocument _ _ := true
  distinct := distinct_nil
  checked _ h := by cases h

def emptyTable : PostgreSQLVectorRepository where
  rows := []
  documents _ _ := true
  columns := ⟨id, fun _ => rfl, some⟩
  distinct := distinct_nil

/-- The vector is written, listed and deleted. -/
def sampleOperations : List VectorOperation :=
  [.upsert sampleTenant [sampleVector],
    .listByDocument sampleTenant "document-1" (some "model") none,
    .deleteStale sampleTenant "document-1" [] "model" "v1"]

end AvantimePlatform.Embedding
