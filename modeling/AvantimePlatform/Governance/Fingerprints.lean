import AvantimePlatform.Governance.Policy
import AvantimePlatform.Lib.IsoInstant
import AvantimePlatform.Lib.JsonText
import AvantimePlatform.Lib.Separators

/-!
# Fingerprints of approvals

`governanceApprovalFingerprint` down to the text that is hashed: the JSON text of the
payload, with the parameters sorted by `localeCompare`.

* `canonicalMembers_eq_iff`: the sorted parameters are the same exactly when the maps are.
* `fingerprint_eq_iff`: two accepted payloads have one fingerprint exactly when they are the
  same, numbers that are not finite counting as `null`.
* `governanceApprovalFingerprint_eq`: it is the fingerprint of the approvals, over the
  digest of this text.
-/

namespace AvantimePlatform.Governance

open AvantimePlatform AvantimePlatform.Checked AvantimePlatform.JsonText

/-! ## The payload and its text -/

/-- `FingerprintInput`.  A date is its UTC calendar fields; `none` is `null` or
`undefined`. -/
structure FingerprintPayload where
  actionType : GovernanceApprovalAction
  scope : GovernanceScope
  companyId : Option String
  resourceId : Option String
  expectedVersion : Option JsNumber
  safeParameters : SafeParameters
  requesterId : String
  expiresAt : IsoInstant
deriving DecidableEq

/-- What the function takes from the language and its library: the text of a number,
`localeCompare`, and the digest as hexadecimal text. -/
structure FingerprintRuntime where
  numberText : ℚ → List Char
  localeCompare : String → String → Ordering
  sha256 : String → String

def GovernanceApprovalAction.name : GovernanceApprovalAction → String
  | platformOwnerAssign => "PLATFORM_OWNER_ASSIGN"
  | platformOwnerRemove => "PLATFORM_OWNER_REMOVE"
  | organizationLastOwnerTransfer => "ORGANIZATION_LAST_OWNER_TRANSFER"
  | organizationRequiredSsoEmergencyDisable => "ORGANIZATION_REQUIRED_SSO_EMERGENCY_DISABLE"
  | organizationBreakGlassDisable => "ORGANIZATION_BREAK_GLASS_DISABLE"
  | identityProviderDelete => "IDENTITY_PROVIDER_DELETE"
  | platformAuditExport => "PLATFORM_AUDIT_EXPORT"
  | organizationAuditExport => "ORGANIZATION_AUDIT_EXPORT"
  | bulkTenantExport => "BULK_TENANT_EXPORT"
  | knowledgeVisibilityPublic => "KNOWLEDGE_VISIBILITY_PUBLIC"
  | crossTenantSupportDestructiveAction => "CROSS_TENANT_SUPPORT_DESTRUCTIVE_ACTION"

def GovernanceScope.name : GovernanceScope → String
  | platform => "PLATFORM"
  | organization => "ORGANIZATION"

/-- The value as JSON has it: a number that is not finite is `null`. -/
def SafeValue.scalar : SafeValue → Scalar
  | .string value => .string value
  | .number (.finite value) => .number value
  | .number .nonFinite => .null
  | .boolean value => .boolean value
  | .null => .null

/-- `value ?? null`. -/
def nullable : Option String → Scalar
  | none => .null
  | some value => .string value

/-- `expectedVersion ?? null`. -/
def FingerprintPayload.version (payload : FingerprintPayload) : Scalar :=
  match payload.expectedVersion with
  | none => .null
  | some version => (SafeValue.number version).scalar

/-- One entry is not behind another. -/
def KeyLe (localeCompare : String → String → Ordering) {β : Type} (left right : String × β) : Prop :=
  (localeCompare left.1 right.1).isLE = true

instance (localeCompare : String → String → Ordering) {β : Type} (left right : String × β) :
    Decidable (KeyLe localeCompare left right) :=
  inferInstanceAs (Decidable (_ = true))

/-- The entries of `canonicalObject`, in the order of `localeCompare`. -/
def sortedEntries (localeCompare : String → String → Ordering) (entries : List (String × SafeValue)) :
    List (String × SafeValue) :=
  entries.insertionSort (KeyLe localeCompare)

/-- And their values in JSON. -/
def canonicalMembers (localeCompare : String → String → Ordering)
    (entries : List (String × SafeValue)) : List (String × Scalar) :=
  (sortedEntries localeCompare entries).map fun entry => (entry.1, entry.2.scalar)

/-- The object that is written. -/
def FingerprintPayload.fields (localeCompare : String → String → Ordering)
    (payload : FingerprintPayload) : List (String × Field) :=
  [("actionType", .scalar (.string payload.actionType.name)),
   ("scope", .scalar (.string payload.scope.name)),
   ("companyId", .scalar (nullable payload.companyId)),
   ("resourceId", .scalar (nullable payload.resourceId)),
   ("expectedVersion", .scalar payload.version),
   ("safeParameters", .object (canonicalMembers localeCompare payload.safeParameters.entries)),
   ("requesterId", .scalar (.string payload.requesterId)),
   ("expiresAt", .scalar (.string (String.ofList payload.expiresAt.toISOString)))]

/-- `canonical`, the text. -/
def FingerprintRuntime.canonicalText (runtime : FingerprintRuntime) (fields : List (String × Field)) :
    String :=
  String.ofList (objectText (fieldText runtime.numberText) fields)

/-- `governanceApprovalFingerprint`. -/
def FingerprintRuntime.fingerprint (runtime : FingerprintRuntime) (payload : FingerprintPayload) :
    Except String String :=
  match getGovernanceApprovalPolicy payload.actionType with
  | none => .error "UNKNOWN_APPROVAL_ACTION"
  | some approvalPolicy => do
    require (approvalPolicy.scope = payload.scope) "UNKNOWN_APPROVAL_ACTION"
    require (payload.safeParameters.keys.length = approvalPolicy.safeParameterKeys.length ∧
      ∀ key ∈ payload.safeParameters.keys, key ∈ approvalPolicy.safeParameterKeys)
      "UNSAFE_APPROVAL_PARAMETER"
    require (payload.scope = .organization → ∃ companyId ∈ payload.companyId, companyId ≠ "")
      "APPROVAL_ORGANIZATION_REQUIRED"
    return runtime.sha256 (runtime.canonicalText (payload.fields runtime.localeCompare))

/-! ## The same payload -/

/-- A parameter as JSON has it. -/
def SafeParameters.written (parameters : SafeParameters) (key : String) : Option Scalar :=
  (parameters.get key).map SafeValue.scalar

/-- The payloads are the same, up to numbers that are not finite and `null`. -/
structure SamePayload (first second : FingerprintPayload) : Prop where
  actionType : first.actionType = second.actionType
  scope : first.scope = second.scope
  companyId : first.companyId = second.companyId
  resourceId : first.resourceId = second.resourceId
  version : first.version = second.version
  safeParameters : ∀ key, first.safeParameters.written key = second.safeParameters.written key
  requesterId : first.requesterId = second.requesterId
  expiresAt : first.expiresAt = second.expiresAt

/-- `localeCompare` is a total preorder that tells the keys of each policy apart. -/
structure OrdersKeys (localeCompare : String → String → Ordering) : Prop where
  lawful : Std.TransCmp localeCompare
  distinguishes (actionType : GovernanceApprovalAction) :
    ∀ left ∈ (governanceApprovalPolicies actionType).safeParameterKeys,
      ∀ right ∈ (governanceApprovalPolicies actionType).safeParameterKeys,
        localeCompare left right = .eq → left = right

/-- What the fingerprint rests on: numbers and keys are told apart, and the digest has no
collisions. -/
structure FingerprintRuntime.IsFaithful (runtime : FingerprintRuntime) : Prop where
  numbers : NumberTexts runtime.numberText
  keys : OrdersKeys runtime.localeCompare
  digest : Function.Injective runtime.sha256

/-! ## Sorting the parameters -/

section Sorting

variable {localeCompare : String → String → Ordering} {parameters first second : SafeParameters}
  {key : String}

theorem SafeParameters.get_eq_some_iff {value : SafeValue} :
    parameters.get key = some value ↔ (key, value) ∈ parameters.entries := by
  obtain ⟨entries, hnodup⟩ := parameters
  unfold SafeParameters.get
  induction entries with
  | nil => simp
  | cons entry entries ih =>
      rw [List.map_cons, List.nodup_cons] at hnodup
      have htail := ih hnodup.2
      rw [List.find?_cons, List.mem_cons]
      by_cases hkey : entry.1 = key
      · have hnot : (key, value) ∉ entries := by
          intro hmem
          apply hnodup.1
          rw [hkey]
          exact List.mem_map_of_mem hmem
        simp [hkey, hnot, Prod.ext_iff, eq_comm]
      · have hne : (key, value) ≠ entry := fun h => hkey (congrArg Prod.fst h).symm
        simp only [beq_eq_false_iff_ne.mpr hkey, hne, false_or]
        exact htail

theorem SafeParameters.written_eq_some_iff {scalar : Scalar} :
    parameters.written key = some scalar ↔
      (key, scalar) ∈ canonicalMembers localeCompare parameters.entries := by
  unfold SafeParameters.written canonicalMembers sortedEntries
  rw [Option.map_eq_some_iff, List.mem_map]
  constructor
  · rintro ⟨value, hvalue, rfl⟩
    exact ⟨(key, value), List.mem_insertionSort _ |>.mpr (get_eq_some_iff.mp hvalue), rfl⟩
  · rintro ⟨entry, hentry, heq⟩
    obtain ⟨rfl, rfl⟩ := Prod.mk.inj heq
    exact ⟨entry.2, get_eq_some_iff.mpr ((List.mem_insertionSort _).mp hentry), rfl⟩

theorem map_fst_canonicalMembers (entries : List (String × SafeValue)) :
    ((canonicalMembers localeCompare entries).map Prod.fst).Perm (entries.map Prod.fst) := by
  unfold canonicalMembers sortedEntries
  rw [List.map_map]
  exact (List.perm_insertionSort _ entries).map Prod.fst

/-- No key is written twice. -/
theorem nodup_canonicalMembers (parameters : SafeParameters) :
    (canonicalMembers localeCompare parameters.entries).Nodup := by
  apply List.Nodup.of_map Prod.fst
  exact (map_fst_canonicalMembers parameters.entries).nodup_iff.mpr parameters.nodup

theorem keyLe_total (hlawful : Std.TransCmp localeCompare) {β : Type} (left right : String × β) :
    KeyLe localeCompare left right ∨ KeyLe localeCompare right left := by
  unfold KeyLe
  rw [@Std.OrientedCmp.eq_swap _ localeCompare _ right.1 left.1]
  cases localeCompare left.1 right.1 <;> simp

theorem keyLe_trans (hlawful : Std.TransCmp localeCompare) {β : Type} {a b c : String × β}
    (hab : KeyLe localeCompare a b) (hbc : KeyLe localeCompare b c) : KeyLe localeCompare a c :=
  Std.TransCmp.isLE_trans hab hbc

/-- The keys are written in order. -/
theorem pairwise_canonicalMembers (hlawful : Std.TransCmp localeCompare)
    (entries : List (String × SafeValue)) :
    (canonicalMembers localeCompare entries).Pairwise (KeyLe localeCompare) := by
  have htotal : Std.Total (KeyLe localeCompare (β := SafeValue)) := ⟨keyLe_total hlawful⟩
  have htrans : IsTrans (String × SafeValue) (KeyLe localeCompare) :=
    ⟨fun _ _ _ => keyLe_trans hlawful⟩
  exact (List.pairwise_insertionSort (KeyLe localeCompare) entries).map _ fun _ _ h => h

/-- The sorted parameters are the same exactly when the maps are. -/
theorem canonicalMembers_eq_iff {keys : List String} (hlawful : Std.TransCmp localeCompare)
    (hkeys : ∀ left ∈ keys, ∀ right ∈ keys, localeCompare left right = .eq → left = right)
    (hfirst : ∀ key ∈ first.keys, key ∈ keys) (hsecond : ∀ key ∈ second.keys, key ∈ keys) :
    canonicalMembers localeCompare first.entries = canonicalMembers localeCompare second.entries ↔
      ∀ key, first.written key = second.written key := by
  constructor
  · intro h key
    apply Option.ext
    intro scalar
    rw [@SafeParameters.written_eq_some_iff localeCompare, h,
      ← @SafeParameters.written_eq_some_iff localeCompare]
  · intro h
    have hmem (entry : String × Scalar) :
        entry ∈ canonicalMembers localeCompare first.entries ↔
          entry ∈ canonicalMembers localeCompare second.entries := by
      rw [← SafeParameters.written_eq_some_iff, ← SafeParameters.written_eq_some_iff, h]
    have hperm := (List.perm_ext_iff_of_nodup (nodup_canonicalMembers first)
      (nodup_canonicalMembers second)).mpr hmem
    refine hperm.eq_of_pairwise ?_ (pairwise_canonicalMembers hlawful _)
      (pairwise_canonicalMembers hlawful _)
    intro left right hleft hright hle hge
    have hleftKey : left.1 ∈ keys :=
      hfirst _ ((map_fst_canonicalMembers _).mem_iff.mp (List.mem_map_of_mem hleft))
    have hrightKey : right.1 ∈ keys :=
      hsecond _ ((map_fst_canonicalMembers _).mem_iff.mp (List.mem_map_of_mem hright))
    have hsame : left.1 = right.1 :=
      hkeys _ hleftKey _ hrightKey (Std.OrientedCmp.isLE_antisymm hle hge)
    have hleftWritten : first.written left.1 = some left.2 :=
      (@SafeParameters.written_eq_some_iff localeCompare _ _ _).mpr hleft
    have hrightWritten : second.written right.1 = some right.2 :=
      (@SafeParameters.written_eq_some_iff localeCompare _ _ _).mpr hright
    rw [hsame, h, hrightWritten] at hleftWritten
    exact Prod.ext hsame (Option.some.inj hleftWritten).symm

end Sorting

/-! ## The fingerprint -/

section Fingerprint

variable {runtime : FingerprintRuntime} {first second payload : FingerprintPayload}
  {fingerprint fingerprint' : String}

/-- What an accepted payload has, and its fingerprint. -/
theorem fingerprint_eq_ok (h : runtime.fingerprint payload = .ok fingerprint) :
    (∀ key ∈ payload.safeParameters.keys,
        key ∈ (governanceApprovalPolicies payload.actionType).safeParameterKeys) ∧
      fingerprint = runtime.sha256 (runtime.canonicalText (payload.fields runtime.localeCompare)) := by
  change (do
    require ((governanceApprovalPolicies payload.actionType).scope = payload.scope) _
    require (_ ∧ _) _
    require _ _
    return _ : Except String String) = .ok fingerprint at h
  rw [seq_eq_ok, seq_eq_ok, require_eq_ok, require_eq_ok, seq_eq_ok] at h
  obtain ⟨-, ⟨-, hkeys⟩, -, hfingerprint⟩ := h
  exact ⟨hkeys, (Except.ok.inj hfingerprint).symm⟩

theorem name_injective : Function.Injective GovernanceApprovalAction.name := by
  intro first second h
  cases first <;> cases second <;> first | rfl | exact absurd h (by decide)

theorem scopeName_injective : Function.Injective GovernanceScope.name := by
  intro first second h
  cases first <;> cases second <;> first | rfl | exact absurd h (by decide)

theorem nullable_injective : Function.Injective nullable := by
  intro first second h
  cases first with
  | none =>
      cases second with
      | none => rfl
      | some value => cases h
  | some value =>
      cases second with
      | none => cases h
      | some value' => rw [Scalar.string.inj h]

/-- The same is written exactly of the same payloads. -/
theorem fields_eq_iff {localeCompare : String → String → Ordering}
    (hkeys : OrdersKeys localeCompare)
    (hfirst : ∀ key ∈ first.safeParameters.keys,
      key ∈ (governanceApprovalPolicies first.actionType).safeParameterKeys)
    (hsecond : ∀ key ∈ second.safeParameters.keys,
      key ∈ (governanceApprovalPolicies second.actionType).safeParameterKeys) :
    first.fields localeCompare = second.fields localeCompare ↔ SamePayload first second := by
  have hparameters (haction : first.actionType = second.actionType) :
      canonicalMembers localeCompare first.safeParameters.entries =
          canonicalMembers localeCompare second.safeParameters.entries ↔
        ∀ key, first.safeParameters.written key = second.safeParameters.written key := by
    rw [← haction] at hsecond
    exact canonicalMembers_eq_iff hkeys.lawful (hkeys.distinguishes first.actionType) hfirst hsecond
  unfold FingerprintPayload.fields
  simp only [List.cons.injEq, Prod.mk.injEq, true_and, and_true, Field.scalar.injEq,
    Field.object.injEq, Scalar.string.injEq, String.ofList_inj]
  constructor
  · rintro ⟨haction, hscope, hcompany, hresource, hversion, hmembers, hrequester, hexpires⟩
    have hsame := name_injective haction
    exact ⟨hsame, scopeName_injective hscope, nullable_injective hcompany,
      nullable_injective hresource, hversion, (hparameters hsame).mp hmembers, hrequester,
      IsoInstant.toISOString_injective hexpires⟩
  · intro h
    exact ⟨congrArg _ h.actionType, congrArg _ h.scope, congrArg _ h.companyId,
      congrArg _ h.resourceId, h.version, (hparameters h.actionType).mpr h.safeParameters,
      h.requesterId, congrArg _ h.expiresAt⟩

theorem canonicalText_injective (hnumbers : NumberTexts runtime.numberText) :
    Function.Injective runtime.canonicalText := by
  intro first second h
  exact objectText_injective (selfDelimiting_fieldText hnumbers) (String.ofList_inj.mp h)

/-- Two accepted payloads have one fingerprint exactly when they are the same, with numbers
that are not finite as `null`. -/
theorem fingerprint_eq_iff (hruntime : runtime.IsFaithful)
    (hfirst : runtime.fingerprint first = .ok fingerprint)
    (hsecond : runtime.fingerprint second = .ok fingerprint') :
    fingerprint = fingerprint' ↔ SamePayload first second := by
  obtain ⟨hkeys, rfl⟩ := fingerprint_eq_ok hfirst
  obtain ⟨hkeys', rfl⟩ := fingerprint_eq_ok hsecond
  rw [hruntime.digest.eq_iff, (canonicalText_injective hruntime.numbers).eq_iff,
    fields_eq_iff hruntime.keys hkeys hkeys']

end Fingerprint

/-! ## The fingerprint of an approval -/

section Approvals

variable {runtime : FingerprintRuntime}

/-- The payload of an approval, whose dates are time values. -/
def FingerprintInput.toPayload (calendar : Int → IsoInstant) (input : FingerprintInput) :
    FingerprintPayload where
  actionType := input.actionType
  scope := input.scope
  companyId := input.companyId
  resourceId := input.resourceId
  expectedVersion := input.expectedVersion.map JsNumber.ofInt
  safeParameters := input.safeParameters
  requesterId := input.requesterId
  expiresAt := calendar input.expiresAt

/-- What is written of an approval. -/
def CanonicalApproval.fields (calendar : Int → IsoInstant)
    (localeCompare : String → String → Ordering) (approval : CanonicalApproval) :
    List (String × Field) :=
  [("actionType", .scalar (.string approval.actionType.name)),
   ("scope", .scalar (.string approval.scope.name)),
   ("companyId", .scalar (nullable approval.companyId)),
   ("resourceId", .scalar (nullable approval.resourceId)),
   ("expectedVersion", .scalar (match approval.expectedVersion with
      | none => .null
      | some version => .number version)),
   ("safeParameters", .object (canonicalMembers localeCompare approval.safeParameters)),
   ("requesterId", .scalar (.string approval.requesterId)),
   ("expiresAt", .scalar (.string (String.ofList (calendar approval.expiresAt).toISOString)))]

/-- The digest of an approval. -/
def FingerprintRuntime.approvalDigest (runtime : FingerprintRuntime) (calendar : Int → IsoInstant)
    (approval : CanonicalApproval) : String :=
  runtime.sha256 (runtime.canonicalText (approval.fields calendar runtime.localeCompare))

/-- The order in which the parameters come is forgotten. -/
theorem sortedEntries_eq_of_perm {localeCompare : String → String → Ordering} {keys : List String}
    {entries entries' : List (String × SafeValue)} (hlawful : Std.TransCmp localeCompare)
    (hkeys : ∀ left ∈ keys, ∀ right ∈ keys, localeCompare left right = .eq → left = right)
    (hnodup : (entries.map Prod.fst).Nodup) (hmem : ∀ entry ∈ entries, entry.1 ∈ keys)
    (hperm : entries.Perm entries') :
    sortedEntries localeCompare entries = sortedEntries localeCompare entries' := by
  have htotal : Std.Total (KeyLe localeCompare (β := SafeValue)) := ⟨keyLe_total hlawful⟩
  have htrans : IsTrans (String × SafeValue) (KeyLe localeCompare) :=
    ⟨fun _ _ _ => keyLe_trans hlawful⟩
  have hsorted : (sortedEntries localeCompare entries).Perm (sortedEntries localeCompare entries') :=
    (List.perm_insertionSort _ entries).trans (hperm.trans (List.perm_insertionSort _ entries').symm)
  refine hsorted.eq_of_pairwise ?_ (List.pairwise_insertionSort _ _)
    (List.pairwise_insertionSort _ _)
  intro left right hleft hright hle hge
  have hleft' : left ∈ entries := (List.mem_insertionSort _).mp hleft
  have hright' : right ∈ entries := hperm.mem_iff.mpr ((List.mem_insertionSort _).mp hright)
  have hsame : left.1 = right.1 :=
    hkeys _ (hmem _ hleft') _ (hmem _ hright') (Std.OrientedCmp.isLE_antisymm hle hge)
  exact List.inj_on_of_nodup_map hnodup hleft' hright' hsame

/-- The fingerprint of the approvals is the one of their payloads. -/
theorem governanceApprovalFingerprint_eq (hkeys : OrdersKeys runtime.localeCompare)
    (calendar : Int → IsoInstant) (input : FingerprintInput) :
    governanceApprovalFingerprint (runtime.approvalDigest calendar) input =
      runtime.fingerprint (input.toPayload calendar) := by
  let accepted : Prop := input.safeParameters.keys.length =
      (governanceApprovalPolicies input.actionType).safeParameterKeys.length ∧
    ∀ key ∈ input.safeParameters.keys,
      key ∈ (governanceApprovalPolicies input.actionType).safeParameterKeys
  show (do
    require ((governanceApprovalPolicies input.actionType).scope = input.scope) _
    require accepted "UNSAFE_APPROVAL_PARAMETER"
    require _ _
    return runtime.approvalDigest calendar input.canonical : Except String String) = (do
    require ((governanceApprovalPolicies input.actionType).scope = input.scope) _
    require accepted "UNSAFE_APPROVAL_PARAMETER"
    require _ _
    return runtime.sha256 _)
  by_cases hallowed : ∀ key ∈ input.safeParameters.keys,
      key ∈ (governanceApprovalPolicies input.actionType).safeParameterKeys
  · have hperm : input.safeParameters.entries.Perm (canonicalObject input.safeParameters) :=
      (List.perm_insertionSort _ _).symm
    have hmembers := sortedEntries_eq_of_perm hkeys.lawful (hkeys.distinguishes input.actionType)
      input.safeParameters.nodup (fun entry h => hallowed _ (List.mem_map_of_mem h)) hperm
    have hfields : input.canonical.fields calendar runtime.localeCompare =
        (input.toPayload calendar).fields runtime.localeCompare := by
      have hversion : (input.toPayload calendar).version = match input.expectedVersion with
          | none => .null
          | some version => .number version := by
        unfold FingerprintPayload.version FingerprintInput.toPayload
        dsimp only
        cases input.expectedVersion with
        | none => rfl
        | some version => rfl
      unfold CanonicalApproval.fields FingerprintPayload.fields
      rw [hversion]
      show _ = [_, _, _, _, _,
        (_, Field.object (canonicalMembers runtime.localeCompare input.safeParameters.entries)), _, _]
      unfold canonicalMembers
      rw [hmembers]
      rfl
    unfold FingerprintRuntime.approvalDigest
    rw [hfields]
    rfl
  · have hrequire : require accepted "UNSAFE_APPROVAL_PARAMETER" =
        (.error "UNSAFE_APPROVAL_PARAMETER" : Except String Unit) :=
      if_neg fun h => hallowed h.2
    rw [hrequire]
    rfl

end Approvals

/-! ## Two approvals -/

/-- A number as JavaScript writes it when it is an integer that is not large. -/
def plainNumber (value : ℚ) : List Char :=
  (toString value.num).toList ++ if value.den = 1 then [] else '.' :: (toString (value.den : Int)).toList

theorem digit_mem_numberCharacters {c : Char} (h : c.isDigit = true) : c ∈ numberCharacters := by
  have hdigits : ∀ n < 58, 48 ≤ n → Char.ofNat n ∈ numberCharacters := by decide
  have hrange := Char.isDigit_iff_toNat.mp h
  have hlow : 48 ≤ c.toNat := hrange.1
  have hhigh : c.toNat ≤ 57 := hrange.2
  rw [← Char.ofNat_toNat c]
  exact hdigits c.toNat (by omega) hlow

theorem numberTexts_plainNumber : NumberTexts plainNumber where
  injective first second h := by
    have hdot (n : Int) : '.' ∉ (toString n).toList := by
      intro hmem
      rcases Separators.mem_toString_int hmem with hdigit | hsign
      · exact absurd hdigit (by decide)
      · exact absurd hsign (by decide)
    unfold plainNumber at h
    split at h
    · next hone =>
        split at h
        · next hone' =>
            rw [List.append_nil, List.append_nil] at h
            exact Rat.ext (Separators.toString_int_injective h) (hone.trans hone'.symm)
        · refine absurd ?_ (hdot first.num)
          rw [List.append_nil] at h
          rw [h]
          exact List.mem_append_right _ List.mem_cons_self
    · split at h
      · refine absurd ?_ (hdot second.num)
        rw [List.append_nil] at h
        rw [← h]
        exact List.mem_append_right _ List.mem_cons_self
      · obtain ⟨hnum, hden⟩ := Separators.append_cons_inj (hdot _) (hdot _) h
        exact Rat.ext (Separators.toString_int_injective hnum)
          (Int.ofNat.inj (Separators.toString_int_injective hden))
  ne_nil value := by
    unfold plainNumber
    intro h
    exact Separators.toString_int_ne_nil _ (List.append_eq_nil_iff.mp h).1
  characters value c hc := by
    have hint {n : Int} (h : c ∈ (toString n).toList) : c ∈ numberCharacters := by
      rcases Separators.mem_toString_int h with hdigit | rfl
      · exact digit_mem_numberCharacters hdigit
      · decide
    unfold plainNumber at hc
    rcases List.mem_append.mp hc with hnum | hden
    · exact hint hnum
    · split at hden
      · cases hden
      · rcases List.mem_cons.mp hden with rfl | hden
        · decide
        · exact hint hden

/-- The text of an approval that assigns a platform owner. -/
def assignText : String :=
  "\x7b\"actionType\":\"PLATFORM_OWNER_ASSIGN\",\"scope\":\"PLATFORM\",\"companyId\":null," ++
  "\"resourceId\":\"assignment-target\",\"expectedVersion\":1," ++
  "\"safeParameters\":\x7b\"assignmentVersion\":1,\"targetUserId\":\"user-2\"\x7d," ++
  "\"requesterId\":\"requester\",\"expiresAt\":\"2026-08-01T12:00:00.000Z\"\x7d"

/-- Its digest. -/
def assignDigest : String := "2836b19cbddcc8bce75b8eafa7be34fe5e4e0d9db9c8392486ecc3f56c973466"

/-- A digest without collisions, which is right on that text. -/
def plainDigest (text : String) : String := if text = assignText then assignDigest else "#" ++ text

theorem plainDigest_injective : Function.Injective plainDigest := by
  have hhash (text : String) : assignDigest ≠ "#" ++ text := by
    intro h
    have hlist := congrArg String.toList h
    rw [String.toList_append] at hlist
    have hhead : some '2' = some '#' := congrArg List.head? hlist
    exact absurd hhead (by decide)
  intro first second h
  unfold plainDigest at h
  split at h
  · next hfirst =>
      split at h
      · next hsecond => rw [hfirst, hsecond]
      · exact absurd h (hhash second)
  · split at h
    · exact absurd h.symm (hhash first)
    · exact String.append_right_inj _ |>.mp h

/-- A runtime whose order is the one of the code points. -/
def plainRuntime : FingerprintRuntime where
  numberText := plainNumber
  localeCompare := compare
  sha256 := plainDigest

theorem isFaithful_plainRuntime : plainRuntime.IsFaithful where
  numbers := numberTexts_plainNumber
  keys :=
    { lawful := inferInstanceAs (Std.TransCmp (compare : String → String → Ordering))
      distinguishes := fun _ _ _ _ _ h => Std.LawfulEqOrd.eq_of_compare h }
  digest := plainDigest_injective

/-- A payload that assigns a platform owner. -/
def assignPayload (safeParameters : SafeParameters) : FingerprintPayload where
  actionType := .platformOwnerAssign
  scope := .platform
  companyId := none
  resourceId := some "assignment-target"
  expectedVersion := some (.finite 1)
  safeParameters := safeParameters
  requesterId := "requester"
  expiresAt := ⟨2026, 8, 1, 43200000, by decide, by decide, by decide, by decide⟩

/-- The parameters, with the user first. -/
def userFirst (assignmentVersion : SafeValue) : SafeParameters where
  entries := [("targetUserId", .string "user-2"), ("assignmentVersion", assignmentVersion)]
  nodup := by simp

/-- And with the version first. -/
def versionFirst (assignmentVersion : SafeValue) : SafeParameters where
  entries := [("assignmentVersion", assignmentVersion), ("targetUserId", .string "user-2")]
  nodup := by simp

theorem fingerprint_userFirst :
    plainRuntime.fingerprint (assignPayload (userFirst (.version 1))) = .ok assignDigest := by
  decide +kernel

theorem fields_versionFirst :
    (assignPayload (versionFirst (.version 1))).fields plainRuntime.localeCompare =
      (assignPayload (userFirst (.version 1))).fields plainRuntime.localeCompare := by
  decide

theorem fingerprint_eq_iff_assignPayload :
    plainRuntime.fingerprint (assignPayload (userFirst (.version 1))) = .ok assignDigest ∧
      plainRuntime.fingerprint (assignPayload (versionFirst (.version 1))) = .ok assignDigest ∧
      (assignDigest = assignDigest ↔
        SamePayload (assignPayload (userFirst (.version 1)))
          (assignPayload (versionFirst (.version 1)))) := by
  have hfirst := fingerprint_userFirst
  have hsecond : plainRuntime.fingerprint (assignPayload (versionFirst (.version 1))) =
      .ok assignDigest := by
    have haccepted : ∃ fingerprint,
        plainRuntime.fingerprint (assignPayload (versionFirst (.version 1))) = .ok fingerprint :=
      ⟨_, rfl⟩
    obtain ⟨fingerprint, hfingerprint⟩ := haccepted
    rw [hfingerprint, (fingerprint_eq_ok hfingerprint).2, fields_versionFirst,
      ← (fingerprint_eq_ok hfirst).2]
  exact ⟨hfirst, hsecond, fingerprint_eq_iff isFaithful_plainRuntime hfirst hsecond⟩

/-- A version that is not a number has the fingerprint of none. -/
theorem fingerprint_of_nonFinite :
    plainRuntime.IsFaithful ∧
      (userFirst (.number .nonFinite)).get "assignmentVersion" ≠
        (userFirst .null).get "assignmentVersion" ∧
      ∃ fingerprint,
        plainRuntime.fingerprint (assignPayload (userFirst (.number .nonFinite))) =
          .ok fingerprint ∧
        plainRuntime.fingerprint (assignPayload (userFirst .null)) = .ok fingerprint := by
  refine ⟨isFaithful_plainRuntime, by decide, _, rfl, ?_⟩
  decide +kernel

end AvantimePlatform.Governance
