import AvantimePlatform.Queue.Interface
import AvantimePlatform.Rag.VectorRecords

/-!
# Vector repositories

What the repositories of `vector-repository.ts` have in common.  The contents of a repository
are a partial map from keys to records; `VectorRepository` has the operations and what each of
them does to the contents and answers of them.

* `agree_step`: repositories that list the same answer an operation alike, and list the same
  behind it.
* `agree_run` is that of a run of operations.
-/

namespace AvantimePlatform.Embedding

open AvantimePlatform.Documents AvantimePlatform.Queue
open AvantimePlatform.Rag (CodeUnit ExtractionMethod codeUnits)
open AvantimePlatform.Rag.Loading (VectorRecord)

/-! ## Contents -/

/-- The primary key of a vector. -/
structure VectorKey where
  companyId : String
  documentId : String
  chunkId : String
  embeddingModel : String
  embeddingVersion : String
deriving DecidableEq

def vectorKey (companyId : String) (record : VectorRecord) : VectorKey where
  companyId := companyId
  documentId := record.documentId
  chunkId := record.chunkId
  embeddingModel := record.embeddingModel
  embeddingVersion := record.embeddingVersion

/-- `StoredVectorRecord`: a record without its vector. -/
structure StoredVector where
  documentId : String
  chunkId : String
  chunkIndex : Nat
  contentHash : String
  contentPreview : List CodeUnit
  pageStart : Option Nat
  pageEnd : Option Nat
  sourceSegmentIndex : Option Nat
  extractionMethod : ExtractionMethod
  provenanceConfidence : Option ℚ
  provenanceVersion : String
  embeddingModel : String
  embeddingVersion : String
  dimensions : Nat
deriving DecidableEq

/-- `stored`. -/
def stored (record : VectorRecord) : StoredVector where
  documentId := record.documentId
  chunkId := record.chunkId
  chunkIndex := record.chunkIndex
  contentHash := record.contentHash
  contentPreview := record.contentPreview
  pageStart := record.pageStart
  pageEnd := record.pageEnd
  sourceSegmentIndex := record.sourceSegmentIndex
  extractionMethod := record.extractionMethod
  provenanceConfidence := record.provenanceConfidence
  provenanceVersion := record.provenanceVersion
  embeddingModel := record.embeddingModel
  embeddingVersion := record.embeddingVersion
  dimensions := record.dimensions

/-- A text that a string can hold: no unit of it is half of a pair. -/
def IsText (units : List CodeUnit) : Prop := ∃ text, codeUnits text = units

/-- A record of each key, if there is one. -/
abbrev VectorContents := VectorKey → Option VectorRecord

namespace VectorContents

variable {first second : VectorContents} {p : VectorKey → Bool}

/-- Write records, one after another. -/
def write (companyId : String) (contents : VectorContents) (records : List VectorRecord) :
    VectorContents :=
  records.foldl
    (fun contents record => Function.update contents (vectorKey companyId record) (some record))
    contents

/-- Remove the records with the keys that `p` selects. -/
def remove (p : VectorKey → Bool) (contents : VectorContents) : VectorContents :=
  fun k => if p k then none else contents k

/-- The number of the records with the keys that `p` selects. -/
noncomputable def count (p : VectorKey → Bool) (contents : VectorContents) : Nat :=
  Set.ncard {k | p k = true ∧ (contents k).isSome = true}

/-- What a list shows of the contents. -/
def listed (contents : VectorContents) : VectorKey → Option StoredVector :=
  fun k => (contents k).map stored

@[simp] theorem write_nil (companyId : String) (contents : VectorContents) :
    contents.write companyId [] = contents := rfl

@[simp] theorem write_cons (companyId : String) (contents : VectorContents) (record : VectorRecord)
    (records : List VectorRecord) :
    contents.write companyId (record :: records) =
      VectorContents.write companyId
        (Function.update contents (vectorKey companyId record) (some record)) records := rfl

theorem isSome_listed (contents : VectorContents) (k : VectorKey) :
    (contents.listed k).isSome = (contents k).isSome :=
  Option.isSome_map

theorem count_congr (h : first.listed = second.listed) : first.count p = second.count p := by
  unfold count
  congr 1
  ext k
  simp only [Set.mem_ofPred_eq, ← isSome_listed, h]

theorem listed_remove (contents : VectorContents) :
    (contents.remove p).listed = fun k => if p k = true then none else contents.listed k := by
  funext k
  unfold listed remove
  split <;> rfl

/-- Two writes list the same when their records do. -/
theorem listed_write {companyId : String} {f g : VectorRecord → VectorRecord}
    {records : List VectorRecord} (h : first.listed = second.listed)
    (hkey : ∀ record ∈ records, vectorKey companyId (f record) = vectorKey companyId (g record))
    (hstored : ∀ record ∈ records, stored (f record) = stored (g record)) :
    (first.write companyId (records.map f)).listed =
      (second.write companyId (records.map g)).listed := by
  induction records generalizing first second with
  | nil => exact h
  | cons record records ih =>
      rw [List.map_cons, List.map_cons, write_cons, write_cons]
      refine ih ?_ (fun other hother => hkey other (List.mem_cons_of_mem record hother))
        fun other hother => hstored other (List.mem_cons_of_mem record hother)
      funext k
      have hk := congrFun h k
      unfold listed at hk ⊢
      rw [Function.update_apply, Function.update_apply, hkey record List.mem_cons_self]
      split
      · rw [Option.map_some, Option.map_some, hstored record List.mem_cons_self]
      · exact hk

end VectorContents

/-! ## What the deletions select -/

/-- `deleteStale`: vectors of the version whose chunk is not an active one. -/
def isStale (companyId documentId : String) (activeChunkIds : List String)
    (embeddingModel embeddingVersion : String) (k : VectorKey) : Bool :=
  k.companyId = companyId && k.documentId = documentId && k.embeddingModel = embeddingModel &&
    k.embeddingVersion = embeddingVersion && !activeChunkIds.contains k.chunkId

/-- `deleteOtherVersions`: vectors of another model or version. -/
def isOtherVersion (companyId documentId embeddingModel embeddingVersion : String)
    (k : VectorKey) : Bool :=
  k.companyId = companyId && k.documentId = documentId &&
    (k.embeddingModel ≠ embeddingModel || k.embeddingVersion ≠ embeddingVersion)

/-- `deleteDocument`. -/
def isOfDocument (companyId documentId : String) (k : VectorKey) : Bool :=
  k.companyId = companyId && k.documentId = documentId

/-- `options.embeddingModel` and `options.embeddingVersion` of `listByDocument`: an empty text
is no filter. -/
def passesFilter (option : Option String) (value : String) : Bool :=
  option.all fun text => text = "" || value = text

/-- `listByDocument`. -/
def isListed (companyId documentId : String) (embeddingModel embeddingVersion : Option String)
    (k : VectorKey) : Bool :=
  k.companyId = companyId && k.documentId = documentId &&
    passesFilter embeddingModel k.embeddingModel && passesFilter embeddingVersion k.embeddingVersion

/-! ## Repositories -/

/-- The arguments that every operation on a document checks. -/
structure Admits (tenant : DocumentTenantContext) (documentId : String) : Prop where
  tenant : assertDocumentTenantContext tenant = .ok ()
  documentId : isSafeDocumentSegment documentId = true

/-- `VectorRepository`.  `accepts` says which records of a company are written, and `keep` what
is kept of one that is. -/
class VectorRepository (R : Type) where
  contents : R → VectorContents
  accepts : R → DocumentTenantContext → VectorRecord → Bool
  keep : R → VectorRecord → VectorRecord
  upsert : R → DocumentTenantContext → List VectorRecord → Outcome R Unit
  listByDocument : R → DocumentTenantContext → (documentId : String) →
    (embeddingModel embeddingVersion : Option String) → Except String (List StoredVector)
  deleteStale : R → DocumentTenantContext → (documentId : String) → (activeChunkIds : List String) →
    (embeddingModel embeddingVersion : String) → Outcome R Nat
  deleteOtherVersions : R → DocumentTenantContext →
    (documentId embeddingModel embeddingVersion : String) → Outcome R Nat
  deleteDocument : R → DocumentTenantContext → (documentId : String) → Outcome R Nat
  key_of_contents : ∀ {r : R} {k : VectorKey} {record : VectorRecord},
    contents r k = some record → vectorKey k.companyId record = k
  vectorKey_keep : ∀ (r : R) (companyId : String) (record : VectorRecord),
    vectorKey companyId (keep r record) = vectorKey companyId record
  stored_keep : ∀ (r : R) (record : VectorRecord),
    stored (keep r record) =
      { stored record with contentPreview := (keep r record).contentPreview }
  preview_keep : ∀ (r : R) {record : VectorRecord}, IsText record.contentPreview →
    (keep r record).contentPreview = record.contentPreview
  upsert_spec : ∀ (r : R) {tenant : DocumentTenantContext},
    assertDocumentTenantContext tenant = .ok () → ∀ records : List VectorRecord,
      let outcome := upsert r tenant records
      contents outcome.2 =
        (contents r).write tenant.companyId
          ((records.takeWhile (accepts r tenant)).map (keep r)) ∧
      (accepts outcome.2 = accepts r ∧ keep outcome.2 = keep r) ∧
      (outcome.1 = .ok () ↔ ∀ record ∈ records, accepts r tenant record = true)
  list_spec : ∀ (r : R) {tenant : DocumentTenantContext} {documentId : String},
    Admits tenant documentId → ∀ embeddingModel embeddingVersion : Option String,
      ∃ listed, listByDocument r tenant documentId embeddingModel embeddingVersion = .ok listed ∧
        listed.Nodup ∧ ∀ vector, vector ∈ listed ↔ ∃ k,
          isListed tenant.companyId documentId embeddingModel embeddingVersion k = true ∧
            (contents r).listed k = some vector
  stale_spec : ∀ (r : R) {tenant : DocumentTenantContext} {documentId : String},
    Admits tenant documentId →
      ∀ (activeChunkIds : List String) (embeddingModel embeddingVersion : String),
        let p := isStale tenant.companyId documentId activeChunkIds embeddingModel embeddingVersion
        let outcome := deleteStale r tenant documentId activeChunkIds embeddingModel embeddingVersion
        outcome.1 = .ok ((contents r).count p) ∧ contents outcome.2 = (contents r).remove p ∧
          accepts outcome.2 = accepts r ∧ keep outcome.2 = keep r
  otherVersions_spec : ∀ (r : R) {tenant : DocumentTenantContext} {documentId : String},
    Admits tenant documentId → ∀ embeddingModel embeddingVersion : String,
      let p := isOtherVersion tenant.companyId documentId embeddingModel embeddingVersion
      let outcome := deleteOtherVersions r tenant documentId embeddingModel embeddingVersion
      outcome.1 = .ok ((contents r).count p) ∧ contents outcome.2 = (contents r).remove p ∧
        accepts outcome.2 = accepts r ∧ keep outcome.2 = keep r
  document_spec : ∀ (r : R) {tenant : DocumentTenantContext} {documentId : String},
    Admits tenant documentId →
      let p := isOfDocument tenant.companyId documentId
      let outcome := deleteDocument r tenant documentId
      outcome.1 = .ok ((contents r).count p) ∧ contents outcome.2 = (contents r).remove p ∧
        accepts outcome.2 = accepts r ∧ keep outcome.2 = keep r

/-! ## Runs of operations -/

/-- An operation, with its arguments. -/
inductive VectorOperation where
  | upsert (tenant : DocumentTenantContext) (records : List VectorRecord)
  | listByDocument (tenant : DocumentTenantContext) (documentId : String)
      (embeddingModel embeddingVersion : Option String)
  | deleteStale (tenant : DocumentTenantContext) (documentId : String)
      (activeChunkIds : List String) (embeddingModel embeddingVersion : String)
  | deleteOtherVersions (tenant : DocumentTenantContext)
      (documentId embeddingModel embeddingVersion : String)
  | deleteDocument (tenant : DocumentTenantContext) (documentId : String)

inductive VectorAnswer where
  | done
  | refused
  | listed (vectors : List StoredVector)
  | deleted (count : Nat)

def VectorAnswer.ofCount : Except String Nat → VectorAnswer
  | .ok count => .deleted count
  | .error _ => .refused

/-- The same answer; what a list lists may come in another order. -/
inductive VectorAnswer.Same : VectorAnswer → VectorAnswer → Prop where
  | done : Same .done .done
  | refused : Same .refused .refused
  | listed {first second : List StoredVector} (h : first.Perm second) :
      Same (.listed first) (.listed second)
  | deleted (count : Nat) : Same (.deleted count) (.deleted count)

namespace VectorOperation

/-- The arguments are such as the callers check before, and the previews are texts. -/
def Admissible : VectorOperation → Prop
  | upsert tenant records => assertDocumentTenantContext tenant = .ok () ∧
      ∀ record ∈ records, IsText record.contentPreview
  | listByDocument tenant documentId _ _ => Admits tenant documentId
  | deleteStale tenant documentId _ _ _ => Admits tenant documentId
  | deleteOtherVersions tenant documentId _ _ => Admits tenant documentId
  | deleteDocument tenant documentId => Admits tenant documentId

/-- The records that are to be written, with their tenant. -/
def written : VectorOperation → List (DocumentTenantContext × VectorRecord)
  | upsert tenant records => records.map fun record => (tenant, record)
  | _ => []

end VectorOperation

section Runs

open VectorRepository

variable {R S : Type} [VectorRepository R] [VectorRepository S] {r : R} {s : S}

/-- One operation. -/
def perform (r : R) : VectorOperation → VectorAnswer × R
  | .upsert tenant records =>
    match VectorRepository.upsert r tenant records with
    | (.ok (), r') => (.done, r')
    | (.error _, r') => (.refused, r')
  | .listByDocument tenant documentId embeddingModel embeddingVersion =>
    match VectorRepository.listByDocument r tenant documentId embeddingModel embeddingVersion with
    | .ok vectors => (.listed vectors, r)
    | .error _ => (.refused, r)
  | .deleteStale tenant documentId activeChunkIds embeddingModel embeddingVersion =>
    let outcome :=
      VectorRepository.deleteStale r tenant documentId activeChunkIds embeddingModel embeddingVersion
    (.ofCount outcome.1, outcome.2)
  | .deleteOtherVersions tenant documentId embeddingModel embeddingVersion =>
    let outcome :=
      VectorRepository.deleteOtherVersions r tenant documentId embeddingModel embeddingVersion
    (.ofCount outcome.1, outcome.2)
  | .deleteDocument tenant documentId =>
    let outcome := VectorRepository.deleteDocument r tenant documentId
    (.ofCount outcome.1, outcome.2)

/-- A run of operations: the answers, and the repository behind it. -/
def performAll (r : R) : List VectorOperation → List VectorAnswer × R
  | [] => ([], r)
  | operation :: operations =>
    let now := perform r operation
    let later := performAll now.2 operations
    (now.1 :: later.1, later.2)

/-- Two repositories that list the same, and accept the same of `records`. -/
structure Agree (r : R) (s : S) (records : List (DocumentTenantContext × VectorRecord)) : Prop where
  listed : (contents r).listed = (contents s).listed
  accepts : ∀ item ∈ records, accepts r item.1 item.2 = accepts s item.1 item.2

theorem takeWhile_congr_mem {α : Type} {p q : α → Bool} {xs : List α} (h : ∀ x ∈ xs, p x = q x) :
    xs.takeWhile p = xs.takeWhile q := by
  induction xs with
  | nil => rfl
  | cons x xs ih =>
      have hrest := ih fun y hy => h y (List.mem_cons_of_mem x hy)
      rw [List.takeWhile_cons, List.takeWhile_cons, h x List.mem_cons_self, hrest]

theorem stored_keep_of_isText (r : R) {record : VectorRecord} (h : IsText record.contentPreview) :
    stored (keep r record) = stored record := by
  rw [stored_keep, preview_keep r h]
  rfl

/-- Removing the same keys keeps what is listed the same. -/
theorem agree_remove {records : List (DocumentTenantContext × VectorRecord)}
    (h : Agree r s records) {r' : R} {s' : S} {p : VectorKey → Bool}
    (hr : contents r' = (contents r).remove p ∧ accepts r' = accepts r ∧ keep r' = keep r)
    (hs : contents s' = (contents s).remove p ∧ accepts s' = accepts s ∧ keep s' = keep s) :
    Agree r' s' records := by
  constructor
  · rw [hr.1, hs.1, VectorContents.listed_remove, VectorContents.listed_remove, h.listed]
  · intro item hitem
    rw [hr.2.1, hs.2.1, h.accepts item hitem]

/-- Repositories that list the same answer an operation alike. -/
theorem agree_step {operation : VectorOperation}
    {rest : List (DocumentTenantContext × VectorRecord)}
    (hadmissible : operation.Admissible) (h : Agree r s (operation.written ++ rest)) :
    (perform r operation).1.Same (perform s operation).1 ∧
      Agree (perform r operation).2 (perform s operation).2 rest := by
  have hrest : Agree r s rest :=
    ⟨h.listed, fun item hitem => h.accepts item (List.mem_append_right _ hitem)⟩
  cases operation with
  | upsert tenant records =>
      have hrecords : ∀ record ∈ records, accepts r tenant record = accepts s tenant record :=
        fun record hrecord => h.accepts (tenant, record)
          (List.mem_append_left _ (List.mem_map_of_mem hrecord))
      obtain ⟨htenant, htexts⟩ := hadmissible
      obtain ⟨hcontents, ⟨haccepts, -⟩, hok⟩ := upsert_spec r htenant records
      obtain ⟨hcontents', ⟨haccepts', -⟩, hok'⟩ := upsert_spec s htenant records
      have hsame : (VectorRepository.upsert r tenant records).1 = .ok () ↔
          (VectorRepository.upsert s tenant records).1 = .ok () := by
        rw [hok, hok']
        exact forall₂_congr fun record hrecord => by rw [hrecords record hrecord]
      have hafter : Agree (VectorRepository.upsert r tenant records).2
          (VectorRepository.upsert s tenant records).2 rest := by
        refine ⟨?_, ?_⟩
        · rw [hcontents, hcontents', takeWhile_congr_mem hrecords]
          refine VectorContents.listed_write h.listed (fun record _ => ?_) fun record hrecord => ?_
          · rw [vectorKey_keep, vectorKey_keep]
          · have htext := htexts record (List.takeWhile_subset _ hrecord)
            rw [stored_keep_of_isText r htext, stored_keep_of_isText s htext]
        · intro item hitem
          rw [haccepts, haccepts', hrest.accepts item hitem]
      unfold perform
      dsimp only
      rcases hr : VectorRepository.upsert r tenant records with ⟨_ | ⟨⟩, r'⟩ <;>
        rcases hs : VectorRepository.upsert s tenant records with ⟨_ | ⟨⟩, s'⟩ <;>
        rw [hr, hs] at hafter hsame
      · exact ⟨.refused, hafter⟩
      · exact absurd (hsame.mpr rfl) (by simp)
      · exact absurd (hsame.mp rfl) (by simp)
      · exact ⟨.done, hafter⟩
  | listByDocument tenant documentId embeddingModel embeddingVersion =>
      obtain ⟨first, hfirst, hnodup, hmem⟩ :=
        list_spec r hadmissible embeddingModel embeddingVersion
      obtain ⟨second, hsecond, hnodup', hmem'⟩ :=
        list_spec s hadmissible embeddingModel embeddingVersion
      have hperm : first.Perm second := by
        rw [List.perm_ext_iff_of_nodup hnodup hnodup']
        intro vector
        rw [hmem, hmem', h.listed]
      unfold perform
      dsimp only
      rw [hfirst, hsecond]
      exact ⟨.listed hperm, hrest⟩
  | deleteStale tenant documentId activeChunkIds embeddingModel embeddingVersion =>
      obtain ⟨hcount, hr⟩ := stale_spec r hadmissible activeChunkIds embeddingModel embeddingVersion
      obtain ⟨hcount', hs⟩ :=
        stale_spec s hadmissible activeChunkIds embeddingModel embeddingVersion
      unfold perform
      dsimp only
      rw [hcount, hcount', VectorContents.count_congr h.listed]
      exact ⟨.deleted _, agree_remove hrest hr hs⟩
  | deleteOtherVersions tenant documentId embeddingModel embeddingVersion =>
      obtain ⟨hcount, hr⟩ := otherVersions_spec r hadmissible embeddingModel embeddingVersion
      obtain ⟨hcount', hs⟩ := otherVersions_spec s hadmissible embeddingModel embeddingVersion
      unfold perform
      dsimp only
      rw [hcount, hcount', VectorContents.count_congr h.listed]
      exact ⟨.deleted _, agree_remove hrest hr hs⟩
  | deleteDocument tenant documentId =>
      obtain ⟨hcount, hr⟩ := document_spec r hadmissible
      obtain ⟨hcount', hs⟩ := document_spec s hadmissible
      unfold perform
      dsimp only
      rw [hcount, hcount', VectorContents.count_congr h.listed]
      exact ⟨.deleted _, agree_remove hrest hr hs⟩

/-- Repositories that list the same answer a run of operations alike. -/
theorem agree_run {operations : List VectorOperation}
    (hadmissible : ∀ operation ∈ operations, operation.Admissible)
    (h : Agree r s (operations.flatMap (·.written))) :
    List.Forall₂ VectorAnswer.Same (performAll r operations).1 (performAll s operations).1 ∧
      (contents (performAll r operations).2).listed =
        (contents (performAll s operations).2).listed := by
  induction operations generalizing r s with
  | nil => exact ⟨.nil, h.listed⟩
  | cons operation operations ih =>
      obtain ⟨hanswer, hafter⟩ := agree_step (hadmissible operation List.mem_cons_self) h
      obtain ⟨hanswers, hlisted⟩ :=
        ih (fun other hother => hadmissible other (List.mem_cons_of_mem operation hother)) hafter
      exact ⟨.cons hanswer hanswers, hlisted⟩

end Runs

end AvantimePlatform.Embedding
