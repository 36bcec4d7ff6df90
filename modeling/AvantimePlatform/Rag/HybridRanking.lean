import AvantimePlatform.Lib.CappedSelection
import AvantimePlatform.Lib.KeyedMap
import AvantimePlatform.Rag.Retrieval

/-!
# Hybrid ranking

`DefaultHybridRetriever.retrieve` of `retrieval.ts`, on what the two retrievers return.  The
two lists are collected under their keys, scored, sorted and cut.

* `fuse_perm`: where no list names a key twice, the order of the lists does not show in
  the candidates.
* `rank_perm`: sorting candidates that no two tie-breakers leave equal forgets their order.
* `hybrid_ranking` puts the laws of the selection on top of these.
-/

namespace AvantimePlatform.Rag

open AvantimePlatform.KeyedList (collect Distinct)
open AvantimePlatform.CappedSelection (select)

/-! ## The source -/

/-- The key under which the two lists are merged. -/
def resultKey (result : RetrievalResult) : String :=
  result.sourceType.name ++ ":" ++ result.sourceId ++ ":" ++ result.chunkId

/-- The key of the source of a result. -/
def sourceKey (result : RetrievalResult) : String :=
  result.sourceType.name ++ ":" ++ result.sourceId

/-- A result with its two normalised scores. -/
structure FusedResult extends RetrievalResult where
  lexicalNormalized : ℚ
  semanticNormalized : ℚ
deriving DecidableEq

def FusedResult.key (result : FusedResult) : String := resultKey result.toRetrievalResult

/-- `maximum > 0 ? score / maximum : 0`. -/
def normalized (maximum score : ℚ) : ℚ := if 0 < maximum then score / maximum else 0

/-- A lexical result replaces what stands under its key. -/
def addLexical (maximum : ℚ) (_ : Option FusedResult) (result : RetrievalResult) : FusedResult :=
  { result with
    lexicalNormalized := normalized maximum result.score
    semanticNormalized := 0 }

/-- A semantic result is merged with what stands under its key. -/
def addSemantic (maximum : ℚ) (existing : Option FusedResult) (result : RetrievalResult) :
    FusedResult :=
  let base := (existing.map FusedResult.toRetrievalResult).getD result
  { base with
    sourceTitle := orElseText result.sourceTitle ((existing.map (·.sourceTitle)).getD "")
    preview := orElseText ((existing.map (·.preview)).getD "") result.preview
    pageStart := result.pageStart <|> existing.bind (·.pageStart)
    pageEnd := result.pageEnd <|> existing.bind (·.pageEnd)
    lexicalNormalized := (existing.map (·.lexicalNormalized)).getD 0
    semanticNormalized := normalized maximum result.score }

/-- `combined`: the candidates. -/
def fuse (lexical semantic : List RetrievalResult) : List FusedResult :=
  collect FusedResult.key resultKey (addSemantic (maximumScore semantic))
    (collect FusedResult.key resultKey (addLexical (maximumScore lexical)) [] lexical) semantic

/-- The score of a candidate. -/
def scored (configuration : HybridConfiguration) (result : FusedResult) : RetrievalResult :=
  let hybrid := (result.lexicalNormalized * configuration.lexicalWeight +
    result.semanticNormalized * configuration.semanticWeight) /
      (configuration.lexicalWeight + configuration.semanticWeight)
  { result.toRetrievalResult with
    score := toFixed6 hybrid
    scoreComponents :=
      { lexical := toFixed6 result.lexicalNormalized
        semantic := toFixed6 result.semanticNormalized
        hybrid := toFixed6 hybrid } }

/-- The comparison of the sort, with its four tie-breakers. -/
def rankOrder (collation : Collation) : RetrievalResult → RetrievalResult → Ordering :=
  compareLex (descending fun result => result.score)
    (compareLex (descending fun result => result.scoreComponents.semantic)
      (compareLex (fun first second =>
          collation.compare first.sourceType.name second.sourceType.name)
        (compareLex (fun first second => collation.compare first.sourceId second.sourceId)
          (compareOn fun result => result.chunkIndex))))

/-- The first result ranks no later than the second. -/
def Ranks (collation : Collation) (first second : RetrievalResult) : Prop :=
  (rankOrder collation first second).isLE

instance (collation : Collation) : DecidableRel (Ranks collation) :=
  fun first second => inferInstanceAs (Decidable ((rankOrder collation first second).isLE = true))

/-- The candidates at or above the minimum score. -/
def eligible (configuration : HybridConfiguration) (candidates : List FusedResult) :
    List RetrievalResult :=
  (candidates.map (scored configuration)).filter
    fun result => configuration.minimumScore ≤ result.score

/-- `ranked`. -/
def rank (collation : Collation) (configuration : HybridConfiguration)
    (candidates : List FusedResult) : List RetrievalResult :=
  (eligible configuration candidates).insertionSort (Ranks collation)

/-- `DefaultHybridRetriever.retrieve`, on what the two retrievers return. -/
def retrieve (dates : Documents.Record.DateParser) (collation : Collation)
    (configuration : HybridConfiguration) (request : RetrievalRequest)
    (lexical semantic : List RetrievalResult) : Except String (List RetrievalResult) :=
  match validateRequest dates request configuration with
  | .error e => .error e
  | .ok (_, topK) =>
    .ok (select sourceKey configuration.maximumChunksPerDocument topK (fun _ => 0) 0
      (rank collation configuration (fuse lexical semantic)))

/-! ## The candidates -/

section Candidates

variable {lexical semantic lexical' semantic' : List RetrievalResult} {maximum : ℚ}
  {configuration : HybridConfiguration}

theorem key_addLexical (old : Option FusedResult) (result : RetrievalResult)
    (_ : ∀ x ∈ old, x.key = resultKey result) : (addLexical maximum old result).key =
      resultKey result := rfl

/-- What is merged stays under its key. -/
theorem key_addSemantic (old : Option FusedResult) (result : RetrievalResult)
    (hold : ∀ x ∈ old, x.key = resultKey result) :
    (addSemantic maximum old result).key = resultKey result := by
  cases old with
  | none => rfl
  | some existing => exact hold existing rfl

theorem distinct_fuse (lexical semantic : List RetrievalResult) :
    Distinct FusedResult.key (fuse lexical semantic) :=
  KeyedList.distinct_collect (KeyedList.distinct_collect KeyedList.distinct_nil lexical) semantic

/-- Lists that name no key twice can come in any order. -/
theorem fuse_perm (hlexical : (lexical.map resultKey).Nodup)
    (hsemantic : (semantic.map resultKey).Nodup) (hl : lexical.Perm lexical')
    (hs : semantic.Perm semantic') :
    (fuse lexical semantic).Perm (fuse lexical' semantic') := by
  unfold fuse
  rw [← maximumScore_perm hl, ← maximumScore_perm hs]
  exact KeyedList.collect_perm key_addSemantic
    (KeyedList.distinct_collect KeyedList.distinct_nil lexical)
    (KeyedList.collect_perm key_addLexical KeyedList.distinct_nil (List.Perm.refl []) hlexical hl)
    hsemantic hs

/-- Between zero and one. -/
def InUnit (value : ℚ) : Prop := 0 ≤ value ∧ value ≤ 1

theorem inUnit_normalized {results : List RetrievalResult} {result : RetrievalResult}
    (hmem : result ∈ results) (hscore : 0 ≤ result.score) :
    InUnit (normalized (maximumScore results) result.score) := by
  unfold normalized
  split
  · next hpos =>
      exact ⟨div_nonneg hscore hpos.le, (div_le_one hpos).mpr (score_le_maximumScore hmem)⟩
  · exact ⟨le_refl 0, zero_le_one⟩

/-- The normalised scores of a candidate. -/
def WellNormalized (result : FusedResult) : Prop :=
  InUnit result.lexicalNormalized ∧ InUnit result.semanticNormalized

theorem wellNormalized_fuse (hlexical : ∀ result ∈ lexical, 0 ≤ result.score)
    (hsemantic : ∀ result ∈ semantic, 0 ≤ result.score) :
    ∀ result ∈ fuse lexical semantic, WellNormalized result := by
  have hzero : InUnit 0 := ⟨le_refl 0, zero_le_one⟩
  refine KeyedList.forall_collect (KeyedList.forall_collect (by simp) ?_) ?_
  · intro old result hresult _
    exact ⟨inUnit_normalized hresult (hlexical result hresult), hzero⟩
  · intro old result hresult hold
    refine ⟨?_, inUnit_normalized hresult (hsemantic result hresult)⟩
    cases old with
    | none => exact hzero
    | some existing => exact (hold existing rfl).1

/-- The weighted mean of two numbers between zero and one. -/
theorem inUnit_weighted {first second firstWeight secondWeight : ℚ} (hfirst : InUnit first)
    (hsecond : InUnit second) (hfirstWeight : 0 ≤ firstWeight) (hsecondWeight : 0 ≤ secondWeight)
    (htotal : 0 < firstWeight + secondWeight) :
    InUnit ((first * firstWeight + second * secondWeight) / (firstWeight + secondWeight)) := by
  have hle : first * firstWeight ≤ firstWeight := mul_le_of_le_one_left hfirstWeight hfirst.2
  have hle' : second * secondWeight ≤ secondWeight :=
    mul_le_of_le_one_left hsecondWeight hsecond.2
  have hnonneg : 0 ≤ first * firstWeight := mul_nonneg hfirst.1 hfirstWeight
  have hnonneg' : 0 ≤ second * secondWeight := mul_nonneg hsecond.1 hsecondWeight
  constructor
  · exact div_nonneg (by linarith) htotal.le
  · rw [div_le_one htotal]
    linarith

theorem score_scored (hlexical : 0 ≤ configuration.lexicalWeight)
    (hsemantic : 0 ≤ configuration.semanticWeight)
    (htotal : 0 < configuration.lexicalWeight + configuration.semanticWeight)
    {result : FusedResult} (h : WellNormalized result) :
    InUnit (scored configuration result).score := by
  have hmean := inUnit_weighted h.1 h.2 hlexical hsemantic htotal
  exact ⟨toFixed6_nonneg hmean.1, toFixed6_le_one hmean.2⟩

theorem mem_eligible {candidates : List FusedResult} {result : RetrievalResult} :
    result ∈ eligible configuration candidates ↔
      (∃ candidate ∈ candidates, scored configuration candidate = result) ∧
        configuration.minimumScore ≤ result.score := by
  unfold eligible
  rw [List.mem_filter, List.mem_map, decide_eq_true_iff]

theorem resultKey_scored (candidate : FusedResult) :
    resultKey (scored configuration candidate) = candidate.key := rfl

/-- No two eligible candidates have one key. -/
theorem distinct_eligible {candidates : List FusedResult}
    (h : Distinct FusedResult.key candidates) :
    ((eligible configuration candidates).map resultKey).Nodup := by
  have hmap : ((candidates.map (scored configuration)).map resultKey).Nodup := by
    rw [List.map_map]
    exact h
  exact hmap.sublist (List.filter_sublist.map resultKey)

end Candidates

/-! ## The order -/

section Order

variable {collation : Collation} {configuration : HybridConfiguration}
  {candidates candidates' : List FusedResult} {first second : RetrievalResult}

instance (collation : Collation) : Std.TransCmp
    (fun first second : RetrievalResult => collation.compare first.sourceId second.sourceId) where
  eq_swap := Std.OrientedCmp.eq_swap
  isLE_trans := Std.TransCmp.isLE_trans

instance (collation : Collation) : Std.TransCmp (fun first second : RetrievalResult =>
    collation.compare first.sourceType.name second.sourceType.name) where
  eq_swap := Std.OrientedCmp.eq_swap
  isLE_trans := Std.TransCmp.isLE_trans

instance (collation : Collation) : Std.TransCmp (rankOrder collation) := by
  unfold rankOrder
  infer_instance

instance (collation : Collation) : IsTrans RetrievalResult (Ranks collation) where
  trans _ _ _ := Std.TransCmp.isLE_trans

theorem rankOrder_swap (collation : Collation) (first second : RetrievalResult) :
    rankOrder collation second first = (rankOrder collation first second).swap :=
  Std.OrientedCmp.eq_swap

instance (collation : Collation) : Std.Total (Ranks collation) where
  total first second := by
    unfold Ranks
    rw [rankOrder_swap collation first second]
    cases rankOrder collation first second with
    | lt => exact Or.inl rfl
    | eq => exact Or.inl rfl
    | gt => exact Or.inr rfl

/-- The ranked list is sorted. -/
theorem pairwise_rank (collation : Collation) (configuration : HybridConfiguration)
    (candidates : List FusedResult) :
    (rank collation configuration candidates).Pairwise (Ranks collation) :=
  List.pairwise_insertionSort (Ranks collation) _

theorem perm_rank (collation : Collation) (configuration : HybridConfiguration)
    (candidates : List FusedResult) :
    (rank collation configuration candidates).Perm (eligible configuration candidates) :=
  List.perm_insertionSort (Ranks collation) _

theorem compareLex_eq {α : Type} {cmp cmp' : α → α → Ordering} {a b : α} :
    compareLex cmp cmp' a b = .eq ↔ cmp a b = .eq ∧ cmp' a b = .eq := by
  unfold compareLex
  cases cmp a b with
  | lt => simp
  | eq => simp
  | gt => simp

/-- Two results that rank equally have the same source, up to the collation, and the same
chunk index. -/
theorem rankOrder_eq (h : rankOrder collation first second = .eq) :
    first.sourceType = second.sourceType ∧
      collation.compare first.sourceId second.sourceId = .eq ∧
      first.chunkIndex = second.chunkIndex := by
  unfold rankOrder at h
  obtain ⟨-, h⟩ := compareLex_eq.mp h
  obtain ⟨-, h⟩ := compareLex_eq.mp h
  obtain ⟨htype, h⟩ := compareLex_eq.mp h
  obtain ⟨hid, hindex⟩ := compareLex_eq.mp h
  refine ⟨?_, hid, Std.LawfulEqCmp.eq_of_compare hindex⟩
  have hlt := collation.article_lt_document
  have hgt : collation.compare "DOCUMENT" "ARTICLE" = .gt := by
    have hswap : collation.compare "DOCUMENT" "ARTICLE" =
        (collation.compare "ARTICLE" "DOCUMENT").swap := Std.OrientedCmp.eq_swap
    rw [hswap, hlt]
    rfl
  cases hfirst : first.sourceType with
  | document =>
      cases hsecond : second.sourceType with
      | document => rfl
      | article =>
          rw [hfirst, hsecond, RetrievalSourceType.name, RetrievalSourceType.name, hgt] at htype
          cases htype
  | article =>
      cases hsecond : second.sourceType with
      | article => rfl
      | document =>
          rw [hfirst, hsecond, RetrievalSourceType.name, RetrievalSourceType.name, hlt] at htype
          cases htype

/-- No two candidates have one source, up to the collation, and one chunk index. -/
def UniqueIndex (collation : Collation) (candidates : List FusedResult) : Prop :=
  ∀ first ∈ candidates, ∀ second ∈ candidates, first.sourceType = second.sourceType →
    collation.compare first.sourceId second.sourceId = .eq →
    first.chunkIndex = second.chunkIndex → first = second

/-- Sorting such candidates forgets their order. -/
theorem rank_perm (hunique : UniqueIndex collation candidates)
    (hperm : candidates.Perm candidates') :
    rank collation configuration candidates = rank collation configuration candidates' := by
  refine List.Perm.eq_of_pairwise ?_ (pairwise_rank _ _ _) (pairwise_rank _ _ _) ?_
  · intro a b ha hb hab hba
    have heq : rankOrder collation a b = .eq := by
      unfold Ranks at hab hba
      rw [rankOrder_swap collation a b] at hba
      cases horder : rankOrder collation a b with
      | eq => rfl
      | lt =>
          rw [horder] at hba
          cases hba
      | gt =>
          rw [horder] at hab
          cases hab
    obtain ⟨htype, hid, hindex⟩ := rankOrder_eq heq
    obtain ⟨⟨first, hfirst, rfl⟩, -⟩ := mem_eligible.mp ((perm_rank _ _ _).mem_iff.mp ha)
    obtain ⟨⟨second, hsecond, rfl⟩, -⟩ := mem_eligible.mp ((perm_rank _ _ _).mem_iff.mp hb)
    rw [hunique first hfirst second (hperm.mem_iff.mpr hsecond) htype hid hindex]
  · have heligible : (eligible configuration candidates).Perm
        (eligible configuration candidates') :=
      (hperm.map (scored configuration)).filter _
    exact ((perm_rank _ _ _).trans heligible).trans (perm_rank _ _ _).symm

end Order

/-! ## The selection -/

section Selection

variable {dates : Documents.Record.DateParser} {collation : Collation}
  {configuration : HybridConfiguration} {request : RetrievalRequest} {query : String}
  {topK : Nat} {lexical semantic : List RetrievalResult}

/-- Two results of one source. -/
def SameSource (first second : RetrievalResult) : Prop :=
  first.sourceType = second.sourceType ∧ first.sourceId = second.sourceId

instance : DecidableRel SameSource :=
  fun first second => inferInstanceAs (Decidable (first.sourceType = second.sourceType ∧ _))

theorem sourceKey_eq_iff {first second : RetrievalResult} :
    sourceKey first = sourceKey second ↔ SameSource first second := by
  constructor
  · intro h
    have hlist := congrArg String.toList h
    unfold sourceKey at hlist
    rw [String.toList_append, String.toList_append, String.toList_append,
      String.toList_append] at hlist
    cases hfirst : first.sourceType with
    | document =>
        cases hsecond : second.sourceType with
        | document =>
            rw [hfirst, hsecond] at hlist
            exact ⟨hfirst.trans hsecond.symm,
              String.toList_injective (List.append_cancel_left hlist)⟩
        | article =>
            rw [hfirst, hsecond] at hlist
            exact absurd (List.cons.inj hlist).1 (by decide)
    | article =>
        cases hsecond : second.sourceType with
        | document =>
            rw [hfirst, hsecond] at hlist
            exact absurd (List.cons.inj hlist).1 (by decide)
        | article =>
            rw [hfirst, hsecond] at hlist
            exact ⟨hfirst.trans hsecond.symm,
              String.toList_injective (List.append_cancel_left hlist)⟩
  · rintro ⟨htype, hid⟩
    unfold sourceKey
    rw [htype, hid]

/-- `first` stands before `second` in the list. -/
def Before (ranked : List RetrievalResult) (first second : RetrievalResult) : Prop :=
  ∃ front back, ranked = front ++ second :: back ∧ first ∈ front

/-- What a list selected from the candidates should be. -/
structure HybridSelection (collation : Collation) (configuration : HybridConfiguration)
    (topK : Nat) (candidates : List FusedResult) (selected : List RetrievalResult) : Prop where
  candidate : ∀ result ∈ selected, result ∈ eligible configuration candidates
  length : selected.length ≤ topK
  distinct : (selected.map fun result => (result.sourceType, result.sourceId, result.chunkId)).Nodup
  perSource : ∀ result, selected.countP (fun other => SameSource other result) ≤
    configuration.maximumChunksPerDocument
  scores : ∀ result ∈ selected, InUnit result.score ∧ configuration.minimumScore ≤ result.score
  sorted : selected.Pairwise (Ranks collation)
  maximal : ∀ result ∈ eligible configuration candidates, result ∉ selected →
    (selected.length = topK ∧
      ∀ other ∈ selected, Before (rank collation configuration candidates) other result) ∨
    ∃ better, better <+: selected ∧
      (∀ other ∈ better, Before (rank collation configuration candidates) other result) ∧
      configuration.maximumChunksPerDocument ≤
        better.countP (fun other => SameSource other result)

/-- What `retrieve` selects from the ranked candidates. -/
def selection (collation : Collation) (configuration : HybridConfiguration) (topK : Nat)
    (candidates : List FusedResult) : List RetrievalResult :=
  select sourceKey configuration.maximumChunksPerDocument topK (fun _ => 0) 0
    (rank collation configuration candidates)

theorem retrieve_eq (hvalid : validateRequest dates request configuration = .ok (query, topK)) :
    retrieve dates collation configuration request lexical semantic =
      .ok (selection collation configuration topK (fuse lexical semantic)) := by
  unfold retrieve
  rw [hvalid]
  rfl

theorem countP_sameSource (results : List RetrievalResult) (result : RetrievalResult) :
    results.countP (fun other => SameSource other result) =
      results.countP (fun other => sourceKey other = sourceKey result) := by
  refine List.countP_congr fun other _ => ?_
  rw [decide_eq_true_iff, decide_eq_true_iff, sourceKey_eq_iff]

theorem hybridSelection_selection {candidates : List FusedResult} (hpos : 0 < topK)
    (hdistinct : Distinct FusedResult.key candidates)
    (hscores : ∀ result ∈ eligible configuration candidates, InUnit result.score) :
    HybridSelection collation configuration topK candidates
      (selection collation configuration topK candidates) := by
  have hsublist : (selection collation configuration topK candidates).Sublist
      (rank collation configuration candidates) :=
    CappedSelection.select_sublist _ _ _ _ _ _
  have hperm := perm_rank collation configuration candidates
  have hcandidate : ∀ result ∈ selection collation configuration topK candidates,
      result ∈ eligible configuration candidates :=
    fun result hresult => hperm.mem_iff.mp (hsublist.subset hresult)
  constructor
  case candidate => exact hcandidate
  case length =>
    have hlength : 0 + (selection collation configuration topK candidates).length ≤ topK :=
      CappedSelection.length_select hpos (rank collation configuration candidates)
    omega
  case distinct =>
    have hkeys : ((rank collation configuration candidates).map resultKey).Nodup :=
      (hperm.map resultKey).nodup_iff.mpr (distinct_eligible hdistinct)
    have hselected := hkeys.sublist (hsublist.map resultKey)
    have hmap : (selection collation configuration topK candidates).map resultKey =
        ((selection collation configuration topK candidates).map
          fun result => (result.sourceType, result.sourceId, result.chunkId)).map
          fun triple => triple.1.name ++ ":" ++ triple.2.1 ++ ":" ++ triple.2.2 := by
      rw [List.map_map]
      rfl
    rw [hmap] at hselected
    exact List.Nodup.of_map _ hselected
  case perSource =>
    intro result
    have hcount := @CappedSelection.countP_select _ _ _ sourceKey
      configuration.maximumChunksPerDocument topK 0 (fun _ => 0) (sourceKey result)
      (Nat.zero_le _) (rank collation configuration candidates)
    rw [countP_sameSource]
    unfold selection
    omega
  case scores =>
    intro result hresult
    have heligible := hcandidate result hresult
    exact ⟨hscores result heligible, (mem_eligible.mp heligible).2⟩
  case sorted => exact (pairwise_rank collation configuration candidates).sublist hsublist
  case maximal =>
    intro result hresult hleft
    obtain ⟨front, back, hsplit⟩ := List.append_of_mem (hperm.mem_iff.mpr hresult)
    unfold selection at hleft ⊢
    rw [hsplit] at hleft ⊢
    rcases CappedSelection.maximal_select hpos hleft with ⟨hfull, hfront⟩ |
      ⟨better, hbetter, hfront, hshare⟩
    · exact Or.inl ⟨hfull, fun other hother => ⟨front, back, rfl, hfront other hother⟩⟩
    · refine Or.inr ⟨better, hbetter, fun other hother => ⟨front, back, rfl, hfront other hother⟩, ?_⟩
      rw [countP_sameSource]
      exact hshare

/-- The hybrid retriever returns what it should, and does not look at the order of two
lists that name no key twice, where the tie-breakers tell the candidates apart. -/
theorem hybrid_ranking (hlexical : ∀ result ∈ lexical, InUnit result.score)
    (hsemantic : ∀ result ∈ semantic, InUnit result.score)
    (hlexicalWeight : 0 ≤ configuration.lexicalWeight)
    (hsemanticWeight : 0 ≤ configuration.semanticWeight)
    (htotal : 0 < configuration.lexicalWeight + configuration.semanticWeight)
    (hvalid : validateRequest dates request configuration = .ok (query, topK)) :
    ∃ selected,
      retrieve dates collation configuration request lexical semantic = .ok selected ∧
      HybridSelection collation configuration topK (fuse lexical semantic) selected ∧
      ((lexical.map resultKey).Nodup → (semantic.map resultKey).Nodup →
        UniqueIndex collation (fuse lexical semantic) →
        ∀ lexical' semantic', lexical.Perm lexical' → semantic.Perm semantic' →
          retrieve dates collation configuration request lexical' semantic' = .ok selected) := by
  refine ⟨_, retrieve_eq hvalid, ?_, ?_⟩
  · refine hybridSelection_selection (validateRequest_topK hvalid).1
      (distinct_fuse lexical semantic) fun result hresult => ?_
    obtain ⟨⟨candidate, hcandidate, rfl⟩, -⟩ := mem_eligible.mp hresult
    have hwell := wellNormalized_fuse (fun result hresult => (hlexical result hresult).1)
      (fun result hresult => (hsemantic result hresult).1) candidate hcandidate
    exact score_scored hlexicalWeight hsemanticWeight htotal hwell
  · intro hlexicalKeys hsemanticKeys hunique lexical' semantic' hl hs
    have hperm := fuse_perm hlexicalKeys hsemanticKeys hl hs
    rw [retrieve_eq hvalid]
    unfold selection
    rw [rank_perm hunique hperm]

end Selection

/-! ## A chunk id that stands for two chunks -/

/-- The order of the code points. -/
def codePoints : Collation where
  compare := compare
  lawful := inferInstance
  article_lt_document := by decide

def anyDate : Documents.Record.DateParser where
  isDate value := value != ""
  empty := rfl

/-- The configured defaults. -/
def defaultHybrid : HybridConfiguration where
  lexicalWeight := 9 / 20
  semanticWeight := 11 / 20
  topK := 12
  minimumScore := 1 / 5
  maximumChunksPerDocument := 3
  queryMaximumCharacters := 2000

def leave : RetrievalRequest where
  query := "leave"
  topK := none
  filters := none

/-- A lexical result of the document `d`. -/
def lexicalResult (chunkId : String) (chunkIndex : Nat) (score : ℚ) : RetrievalResult where
  sourceType := .document
  sourceId := "d"
  sourceTitle := "Handbook"
  documentId := some "d"
  documentTitle := some "Handbook"
  articleId := none
  articleSlug := none
  chunkId := chunkId
  chunkIndex := chunkIndex
  pageStart := none
  pageEnd := none
  preview := "leave"
  score := score
  scoreComponents := { lexical := score, semantic := 0, hybrid := score }

theorem validateRequest_leave :
    validateRequest anyDate leave defaultHybrid = .ok ("leave", 12) := by decide

/-- Two chunks of a document, in either order. -/
theorem hybrid_ranking_two_chunks :
    ∃ selected,
      retrieve anyDate codePoints defaultHybrid leave
        [lexicalResult "0" 0 1, lexicalResult "1" 1 (1 / 2)] [] = .ok selected ∧
      HybridSelection codePoints defaultHybrid 12
        (fuse [lexicalResult "0" 0 1, lexicalResult "1" 1 (1 / 2)] []) selected ∧
      retrieve anyDate codePoints defaultHybrid leave
        [lexicalResult "1" 1 (1 / 2), lexicalResult "0" 0 1] [] = .ok selected := by
  have hscores : ∀ result ∈ [lexicalResult "0" 0 1, lexicalResult "1" 1 (1 / 2)],
      InUnit result.score := by
    intro result hresult
    rcases List.mem_cons.mp hresult with rfl | hresult
    · exact ⟨zero_le_one, le_refl 1⟩
    · rw [List.mem_singleton.mp hresult]
      exact ⟨by norm_num [lexicalResult], by norm_num [lexicalResult]⟩
  have hnone : ∀ result ∈ ([] : List RetrievalResult), InUnit result.score := by simp
  have hunique : UniqueIndex codePoints
      (fuse [lexicalResult "0" 0 1, lexicalResult "1" 1 (1 / 2)] []) := by
    unfold UniqueIndex
    decide +kernel
  obtain ⟨selected, hretrieve, hselection, horder⟩ := hybrid_ranking hscores hnone
    (by norm_num [defaultHybrid]) (by norm_num [defaultHybrid]) (by norm_num [defaultHybrid])
    validateRequest_leave
  have hswapped := horder (by decide) (by decide) hunique _ []
    (List.Perm.swap _ _ _) (List.Perm.refl [])
  exact ⟨selected, hretrieve, hselection, hswapped⟩

/-- One chunk id twice in a list, for two chunk indexes: the last one counts. -/
theorem hybrid_order_matters :
    ([lexicalResult "c" 0 1, lexicalResult "c" 1 (1 / 2)].map fun result =>
        (result.sourceType, result.sourceId, result.chunkIndex)).Nodup ∧
      [lexicalResult "c" 0 1, lexicalResult "c" 1 (1 / 2)].Perm
        [lexicalResult "c" 1 (1 / 2), lexicalResult "c" 0 1] ∧
      retrieve anyDate codePoints defaultHybrid leave
          [lexicalResult "c" 0 1, lexicalResult "c" 1 (1 / 2)] [] ≠
        retrieve anyDate codePoints defaultHybrid leave
          [lexicalResult "c" 1 (1 / 2), lexicalResult "c" 0 1] [] := by
  refine ⟨by decide, List.Perm.swap _ _ _, ?_⟩
  rw [retrieve_eq validateRequest_leave, retrieve_eq validateRequest_leave]
  decide +kernel

end AvantimePlatform.Rag
