import AvantimePlatform.Documents.Record
import AvantimePlatform.Lib.Text

/-!
# Retrieval

The types of `retrieval.ts`, what its three retrievers share, and the part of the
configuration that they read.  Numbers are exact.  `localeCompare` is that of some locale.
-/

namespace AvantimePlatform.Rag

/-! ## Requests -/

structure RetrievalFilters where
  createdFrom : Option String
  createdTo : Option String

/-- `RetrievalRequest`, without the tenant and the correlation id. -/
structure RetrievalRequest where
  query : String
  topK : Option Int
  filters : Option RetrievalFilters

/-- `configuration.hybrid` and `configuration.limits`. -/
structure HybridConfiguration where
  lexicalWeight : ℚ
  semanticWeight : ℚ
  topK : Int
  minimumScore : ℚ
  maximumChunksPerDocument : Nat
  queryMaximumCharacters : Nat

/-- `parseOptionalDate`, up to the date: the retrievers that use it parse it again. -/
def parseOptionalDate (dates : Documents.Record.DateParser) (value : Option String)
    (name : String) : Except String Unit :=
  match value.filter (· != "") with
  | none => .ok ()
  | some value => if dates.isDate value then .ok () else .error (name ++ " is invalid.")

/-- `validateRequest`. -/
def validateRequest (dates : Documents.Record.DateParser) (request : RetrievalRequest)
    (configuration : HybridConfiguration) : Except String (String × Nat) :=
  let query := Text.trim request.query
  if Text.utf16Length query < 2 ∨ configuration.queryMaximumCharacters < Text.utf16Length query ∨
      '\x00' ∈ query.toList then
    .error "Search query length is invalid."
  else
    let topK := request.topK.getD configuration.topK
    if topK ≤ 0 ∨ 100 < topK then .error "topK must be between 1 and 100."
    else
      match parseOptionalDate dates (request.filters.bind (·.createdFrom)) "createdFrom" with
      | .error e => .error e
      | .ok () =>
        match parseOptionalDate dates (request.filters.bind (·.createdTo)) "createdTo" with
        | .error e => .error e
        | .ok () => .ok (query, topK.toNat)

theorem validateRequest_topK {dates : Documents.Record.DateParser} {request : RetrievalRequest}
    {configuration : HybridConfiguration} {query : String} {topK : Nat}
    (h : validateRequest dates request configuration = .ok (query, topK)) :
    1 ≤ topK ∧ topK ≤ 100 := by
  unfold validateRequest at h
  dsimp only at h
  split at h
  · cases h
  · split at h
    · cases h
    · next hrange =>
        split at h
        · cases h
        · split at h
          · cases h
          · have htopK := (Prod.mk.inj (Except.ok.inj h)).2
            omega

theorem validateRequest_eq_topK {dates : Documents.Record.DateParser} {request : RetrievalRequest}
    {configuration : HybridConfiguration} {query : String} {topK : Nat}
    (h : validateRequest dates request configuration = .ok (query, topK)) :
    topK = (request.topK.getD configuration.topK).toNat := by
  unfold validateRequest at h
  dsimp only at h
  split at h
  · cases h
  · split at h
    · cases h
    · split at h
      · cases h
      · split at h
        · cases h
        · exact (Prod.mk.inj (Except.ok.inj h)).2.symm

/-! ## Results -/

inductive RetrievalSourceType where
  | document | article
deriving DecidableEq

def RetrievalSourceType.name : RetrievalSourceType → String
  | document => "DOCUMENT"
  | article => "ARTICLE"

structure RetrievalScoreComponents where
  lexical : ℚ
  semantic : ℚ
  hybrid : ℚ
deriving DecidableEq

structure RetrievalResult where
  sourceType : RetrievalSourceType
  sourceId : String
  sourceTitle : String
  documentId : Option String
  documentTitle : Option String
  articleId : Option String
  articleSlug : Option String
  chunkId : String
  chunkIndex : Nat
  pageStart : Option Nat
  pageEnd : Option Nat
  preview : String
  score : ℚ
  scoreComponents : RetrievalScoreComponents
deriving DecidableEq

/-- `first || second` of two texts. -/
def orElseText (first second : String) : String := if first = "" then second else first

/-- `Number(value.toFixed(6))` of a number that is not negative: the nearest number of
millionths, and the larger of two that are equally near. -/
def toFixed6 (value : ℚ) : ℚ := ⌊value * 1000000 + 1 / 2⌋ / 1000000

theorem toFixed6_nonneg {value : ℚ} (h : 0 ≤ value) : 0 ≤ toFixed6 value := by
  unfold toFixed6
  have hfloor : 0 ≤ ⌊value * 1000000 + 1 / 2⌋ := Int.floor_nonneg.mpr (by positivity)
  have hcast : (0 : ℚ) ≤ ⌊value * 1000000 + 1 / 2⌋ := by exact_mod_cast hfloor
  positivity

theorem toFixed6_le_one {value : ℚ} (h : value ≤ 1) : toFixed6 value ≤ 1 := by
  unfold toFixed6
  have hlt : ⌊value * 1000000 + 1 / 2⌋ < 1000001 := by
    rw [Int.floor_lt]
    push_cast
    linarith
  have hle : ⌊value * 1000000 + 1 / 2⌋ ≤ 1000000 := by omega
  have hcast : (⌊value * 1000000 + 1 / 2⌋ : ℚ) ≤ 1000000 := by exact_mod_cast hle
  rw [div_le_one (by norm_num)]
  exact hcast

/-- `Math.max(0, ...scores)`. -/
def maximumScore (results : List RetrievalResult) : ℚ :=
  (results.map RetrievalResult.score).foldr max 0

theorem score_le_maximumScore {results : List RetrievalResult} {result : RetrievalResult}
    (h : result ∈ results) : result.score ≤ maximumScore results := by
  unfold maximumScore
  induction results with
  | nil => cases h
  | cons first results ih =>
      rcases List.mem_cons.mp h with rfl | hmem
      · exact le_max_left _ _
      · exact le_max_of_le_right (ih hmem)

theorem maximumScore_perm {first second : List RetrievalResult} (h : first.Perm second) :
    maximumScore first = maximumScore second :=
  (h.map RetrievalResult.score).foldr_eq 0

/-! ## The order of strings -/

/-- `localeCompare` of a locale: a total preorder of the strings, in which `A` is before
`D`. -/
structure Collation where
  compare : String → String → Ordering
  lawful : Std.TransCmp compare
  article_lt_document : compare "ARTICLE" "DOCUMENT" = .lt

instance (collation : Collation) : Std.TransCmp collation.compare := collation.lawful

/-- Larger numbers first. -/
def descending {α : Type} (field : α → ℚ) (first second : α) : Ordering :=
  compare (field second) (field first)

instance {α : Type} (field : α → ℚ) : Std.TransCmp (descending field) :=
  @Std.TransCmp.opposite α (compareOn field) inferInstance

end AvantimePlatform.Rag
