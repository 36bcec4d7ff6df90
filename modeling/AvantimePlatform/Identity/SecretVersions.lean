import AvantimePlatform.Identity.Encryption
import AvantimePlatform.Identity.RequiredSso
import AvantimePlatform.Lib.Separators

/-!
# The key versions of client secrets

A provider has its encrypted client secret reference and, beside it, the version of the key.
`createOidcProvider` and `updateOidcProvider` encrypt a reference that they are given under
the environment of the call.  An update without one keeps the old ciphertext, and writes the
version of its own environment beside it.

* `Embeds`: the version that a ciphertext was made under.  There is one
  (`Embeds.unique`).
* `TellsTruth`: every stored ciphertext has its own version beside it.
* `tells_truth_iff`: along a run it always does exactly when each update without a
  reference happens under the version of the ciphertext that it keeps.
-/

namespace AvantimePlatform.Identity

open AvantimePlatform AvantimePlatform.Base64Url AvantimePlatform.Checked
  AvantimePlatform.Transition

/-! ## The version of a ciphertext -/

/-- The ciphertext was written with this version. -/
def Embeds (encrypted version : String) : Prop :=
  ∃ iv tag ciphertext, encrypted = secretText version iv tag ciphertext

theorem toList_secretText (version : String) (iv tag ciphertext : Bytes) :
    (secretText version iv tag ciphertext).toList =
      "v2.".toList ++ ((version.toList ++ '.' :: encode iv) ++ '.' :: encode tag) ++
        '.' :: encode ciphertext := by
  unfold secretText
  rw [String.toList_ofList]
  simp [List.intercalate_cons_cons]

theorem Embeds.unique {encrypted version other : String} (h : Embeds encrypted version)
    (hother : Embeds encrypted other) : version = other := by
  obtain ⟨iv, tag, ciphertext, rfl⟩ := h
  obtain ⟨iv', tag', ciphertext', heq⟩ := hother
  have hlist := congrArg String.toList heq
  rw [toList_secretText, toList_secretText] at hlist
  -- the three fields behind the version have no dot
  have hfields := (Separators.append_cons_inj (dot_notMem_encode ciphertext)
    (dot_notMem_encode ciphertext') hlist).1
  have htag := (Separators.append_cons_inj (dot_notMem_encode tag) (dot_notMem_encode tag')
    (List.append_cancel_left hfields)).1
  have hiv := (Separators.append_cons_inj (dot_notMem_encode iv) (dot_notMem_encode iv') htag).1
  exact String.toList_inj.mp hiv

/-! ## The calls -/

/-- The tables, with the column `secretKeyVersion` of the providers. -/
structure SecretTables where
  db : OidcTables
  secretKeyVersion : Nat → Option String

/-- What a call encrypts: a reference, if one was given, under an environment and with
random bytes. -/
structure SecretReference where
  clientSecretReference : Option String
  environment : EncryptionEnvironment
  iv : Bytes
deriving DecidableEq

/-- `clientSecretReference ? encryptIdentitySecret(…) : null`. -/
def SecretReference.encrypted (gcm : Aes256Gcm) (secret : SecretReference) :
    Except String (Option String) :=
  match secret.clientSecretReference with
  | none => .ok none
  | some reference =>
    if reference = "" then .ok none
    else
      (encryptIdentitySecret gcm (Text.trim reference) .oidcClientSecretRef secret.environment
        secret.iv).map some

/-- `encryptedReference ? getIdentityEncryptionKey().version : null`. -/
def SecretReference.keyVersion (secret : SecretReference) :
    Option String → Except String (Option String)
  | none => .ok none
  | some _ => (getIdentityEncryptionKey secret.environment).map fun current => some current.version

/-- The configuration with the encrypted reference. -/
def OidcProviderConfiguration.withReference (configuration : OidcProviderConfiguration)
    (encrypted : Option String) : OidcProviderConfiguration :=
  { configuration with clientSecretRefEncrypted := encrypted }

/-- `createOidcProvider`. -/
def createOidcProvider (gcm : Aes256Gcm) (tables : SecretTables) (input : CreateProviderInput)
    (secret : SecretReference) : Except String SecretTables := do
  let _ ← input.session.requirePermissionTenant input.session.mayManageProviders
  let encryptedReference ← secret.encrypted gcm
  let keyVersion ← secret.keyVersion encryptedReference
  let db ← CreateProviderInput.create tables.db
    { input with configuration := input.configuration.withReference encryptedReference }
  return { db, secretKeyVersion := Function.update tables.secretKeyVersion tables.db.serial keyVersion }

/-- `updateOidcProvider`. -/
def updateOidcProvider (gcm : Aes256Gcm) (tables : SecretTables) (input : UpdateProviderInput)
    (secret : SecretReference) : Except String SecretTables := do
  let current ← input.load tables.db
  let given ← secret.encrypted gcm
  let encryptedReference := given.or current.tenantConfiguration.clientSecretRefEncrypted
  let keyVersion ← secret.keyVersion encryptedReference
  let db ← UpdateProviderInput.write tables.db
    { input with configuration := input.configuration.withReference encryptedReference } current
  return { db, secretKeyVersion := Function.update tables.secretKeyVersion current.id keyVersion }

inductive SecretCall where
  | create (input : CreateProviderInput) (secret : SecretReference)
  | update (input : UpdateProviderInput) (secret : SecretReference)
deriving DecidableEq

/-- A call from its first query to its update.  One that fails changes nothing. -/
def SecretTables.call (gcm : Aes256Gcm) (tables : SecretTables) : SecretCall → SecretTables
  | .create input secret => ((createOidcProvider gcm tables input secret).toOption).getD tables
  | .update input secret => ((updateOidcProvider gcm tables input secret).toOption).getD tables

/-- One call after another. -/
def secretCalls (gcm : Aes256Gcm) (tables : SecretTables) (call : SecretCall) :
    Option SecretTables :=
  some (tables.call gcm call)

/-! ## The property -/

/-- A provider with a ciphertext has its version beside it. -/
def TellsTruth (tables : SecretTables) : Prop :=
  ∀ id row encrypted, tables.db.provider? id = some row →
    row.tenantConfiguration.clientSecretRefEncrypted = some encrypted →
      ∃ version, tables.secretKeyVersion id = some version ∧ Embeds encrypted version

/-- An update that brings no reference keeps a ciphertext of its own version. -/
def KeepsVersion (tables : SecretTables) : SecretCall → Prop
  | .create _ _ => True
  | .update input secret =>
    ∀ row encrypted current, secret.clientSecretReference.getD "" = "" →
      input.load tables.db = .ok row →
      (∀ other ∈ tables.db.providers, other.key = input.configuration.key → other.id = row.id) →
      row.tenantConfiguration.clientSecretRefEncrypted = some encrypted →
      getIdentityEncryptionKey secret.environment = .ok current →
        Embeds encrypted current.version

/-- Ids are unique, and the column tells the truth. -/
structure TruthfulTables (tables : SecretTables) : Prop where
  keyed : OidcKeyed tables.db
  truth : TellsTruth tables

/-! ## One call -/

section Calls

variable {gcm : Aes256Gcm} {tables tables' : SecretTables} {secret : SecretReference}
  {encryptedReference keyVersion : Option String}

/-- What was encrypted just now has the version beside it. -/
theorem embeds_of_encrypted {encrypted : String} (h : secret.encrypted gcm = .ok (some encrypted)) :
    ∃ current, getIdentityEncryptionKey secret.environment = .ok current ∧
      Embeds encrypted current.version := by
  unfold SecretReference.encrypted at h
  split at h
  · cases h
  · split at h
    · cases h
    · next reference _ =>
        cases hcurrent : getIdentityEncryptionKey secret.environment with
        | error e =>
            unfold encryptIdentitySecret at h
            rw [hcurrent] at h
            cases h
        | ok current =>
            rw [encryptIdentitySecret_eq hcurrent] at h
            have htext := Option.some.inj (Except.ok.inj h)
            exact ⟨current, rfl, _, _, _, htext.symm⟩

/-- A reference that was given is encrypted. -/
theorem encrypted_eq_none_iff (h : secret.encrypted gcm = .ok encryptedReference) :
    encryptedReference = none ↔ secret.clientSecretReference.getD "" = "" := by
  unfold SecretReference.encrypted at h
  split at h
  · next hnone =>
      rw [← Except.ok.inj h, hnone]
      simp
  · next reference hreference =>
      rw [hreference, Option.getD_some]
      split at h
      · next hempty => simp [← Except.ok.inj h, hempty]
      · next hne =>
          cases hencrypt : encryptIdentitySecret gcm (Text.trim reference) .oidcClientSecretRef
              secret.environment secret.iv with
          | error e =>
              rw [hencrypt] at h
              cases h
          | ok encrypted =>
              rw [hencrypt] at h
              simp [← Except.ok.inj h, hne]

theorem keyVersion_of_some {encrypted : String}
    (h : secret.keyVersion (some encrypted) = .ok keyVersion) :
    ∃ current, getIdentityEncryptionKey secret.environment = .ok current ∧
      keyVersion = some current.version := by
  unfold SecretReference.keyVersion at h
  cases hcurrent : getIdentityEncryptionKey secret.environment with
  | error e =>
      rw [hcurrent] at h
      cases h
  | ok current =>
      rw [hcurrent] at h
      exact ⟨current, rfl, (Except.ok.inj h).symm⟩

theorem encrypted_of_none (gcm : Aes256Gcm) (h : secret.clientSecretReference.getD "" = "") :
    secret.encrypted gcm = .ok none := by
  unfold SecretReference.encrypted
  split
  · rfl
  · next reference hreference =>
      rw [hreference, Option.getD_some] at h
      rw [if_pos h]

/-! ### Creating a provider -/

theorem createOidcProvider_eq_ok {input : CreateProviderInput}
    (h : createOidcProvider gcm tables input secret = .ok tables') :
    ∃ encryptedReference keyVersion companyId,
      secret.encrypted gcm = .ok encryptedReference ∧
      secret.keyVersion encryptedReference = .ok keyVersion ∧
      tables' =
        { db :=
            { tables.db with
              serial := tables.db.serial + 1
              providers := tables.db.providers ++
                [(input.configuration.withReference encryptedReference).created tables.db.serial
                  companyId] }
          secretKeyVersion :=
            Function.update tables.secretKeyVersion tables.db.serial keyVersion } := by
  unfold createOidcProvider at h
  obtain ⟨-, -, hrest⟩ := bind_eq_ok.mp h
  obtain ⟨encryptedReference, hencrypted, hrest⟩ := bind_eq_ok.mp hrest
  obtain ⟨keyVersion, hversion, hrest⟩ := bind_eq_ok.mp hrest
  obtain ⟨db, hdb, hrest⟩ := bind_eq_ok.mp hrest
  unfold CreateProviderInput.create at hdb
  obtain ⟨companyId, -, hcreate⟩ := bind_eq_ok.mp hdb
  rw [seq_eq_ok] at hcreate
  refine ⟨encryptedReference, keyVersion, companyId, hencrypted, hversion, ?_⟩
  rw [← Except.ok.inj hrest, ← Except.ok.inj hcreate.2]

/-- A created provider has the version of its ciphertext beside it. -/
theorem truthful_create {input : CreateProviderInput} (hbefore : TruthfulTables tables)
    (h : createOidcProvider gcm tables input secret = .ok tables') : TruthfulTables tables' := by
  obtain ⟨encryptedReference, keyVersion, companyId, hencrypted, hversion, rfl⟩ :=
    createOidcProvider_eq_ok h
  have hfresh := hbefore.keyed.fresh
  have hkeyed := (OidcWrote.created
    { input with configuration := input.configuration.withReference encryptedReference }
    companyId).keyed hbefore.keyed
  refine ⟨hkeyed, ?_⟩
  intro id row encrypted hrow hcref
  have hfind : (if id = tables.db.serial then
      some ((input.configuration.withReference encryptedReference).created tables.db.serial companyId)
      else tables.db.provider? id) = some row :=
    (@KeyedList.find_append_new _ _ _ _ id tables.db.providers
      ((input.configuration.withReference encryptedReference).created tables.db.serial companyId)
      hfresh).symm.trans hrow
  show ∃ version, Function.update tables.secretKeyVersion tables.db.serial keyVersion id =
    some version ∧ Embeds encrypted version
  by_cases hid : id = tables.db.serial
  · rw [if_pos hid] at hfind
    rw [← Option.some.inj hfind] at hcref
    obtain rfl : encryptedReference = some encrypted := hcref
    obtain ⟨current, hcurrent, hembeds⟩ := embeds_of_encrypted hencrypted
    obtain ⟨current', hcurrent', rfl⟩ := keyVersion_of_some hversion
    obtain rfl := Except.ok.inj (hcurrent.symm.trans hcurrent')
    exact ⟨current.version, by rw [hid, Function.update_self], hembeds⟩
  · rw [if_neg hid] at hfind
    rw [Function.update_of_ne hid]
    exact hbefore.truth id row encrypted hfind hcref

/-! ### Updating a provider -/

/-- What the first half of an update has found. -/
theorem updateLoad_found {input : UpdateProviderInput} {current : IdentityProvider}
    (h : input.load tables.db = .ok current) :
    ∃ companyId, input.session.requirePermissionTenant input.session.mayManageProviders =
        .ok companyId ∧ tables.db.provider? current.id = some current ∧
      current.companyId = some companyId ∧ current.configurationVersion = input.expectedVersion := by
  unfold UpdateProviderInput.load at h
  obtain ⟨companyId, hcompany, hrest⟩ := bind_eq_ok.mp h
  obtain ⟨row, hload, hrest⟩ := bind_eq_ok.mp hrest
  rw [seq_eq_ok, require_eq_ok, seq_eq_ok] at hrest
  obtain ⟨hversion, -, hrow⟩ := hrest
  obtain rfl := Except.ok.inj hrow
  obtain ⟨hfind, hrowCompany, -⟩ := loadProvider_eq_ok hload
  have hid : row.id = input.providerId := provider_id hfind
  exact ⟨companyId, hcompany, by rw [hid]; exact hfind, hrowCompany, hversion⟩

/-- The tables after an update that has read `current`. -/
def SecretTables.updated (tables : SecretTables) (configuration : OidcProviderConfiguration)
    (encryptedReference keyVersion : Option String) (current : IdentityProvider) : SecretTables where
  db := tables.db.setProvider
    ((configuration.withReference encryptedReference).updated current current)
  secretKeyVersion := Function.update tables.secretKeyVersion current.id keyVersion

/-- The second half of an update that has just read its provider. -/
theorem updateWrite_eq_ok_iff {input : UpdateProviderInput} {current : IdentityProvider}
    {db : OidcTables} (h : input.load tables.db = .ok current) (encryptedReference : Option String) :
    UpdateProviderInput.write tables.db
        { input with configuration := input.configuration.withReference encryptedReference } current =
      .ok db ↔
    (∀ row ∈ tables.db.providers, row.key = input.configuration.key → row.id = current.id) ∧
      db = tables.db.setProvider
        ((input.configuration.withReference encryptedReference).updated current current) := by
  obtain ⟨companyId, hcompany, hfind, hrowCompany, hversion⟩ := updateLoad_found h
  have hupdate := updateProvider_of_finds (p := fun _ => true)
    ((input.configuration.withReference encryptedReference).updated current) hfind hversion
    hrowCompany rfl
  unfold UpdateProviderInput.write
  rw [bind_eq_ok]
  constructor
  · rintro ⟨companyId', hcompany', hrest⟩
    obtain rfl := Except.ok.inj (hcompany.symm.trans hcompany')
    rw [seq_eq_ok, require_eq_ok] at hrest
    exact ⟨hrest.1, (Except.ok.inj (hupdate.symm.trans hrest.2)).symm⟩
  · rintro ⟨hkey, rfl⟩
    refine ⟨companyId, hcompany, ?_⟩
    rw [seq_eq_ok, require_eq_ok]
    exact ⟨hkey, hupdate⟩

/-- What an update that commits has found, and what it leaves. -/
theorem updateOidcProvider_eq_ok {input : UpdateProviderInput} :
    updateOidcProvider gcm tables input secret = .ok tables' ↔
      ∃ current given keyVersion, input.load tables.db = .ok current ∧
        (∀ row ∈ tables.db.providers, row.key = input.configuration.key → row.id = current.id) ∧
        secret.encrypted gcm = .ok given ∧
        secret.keyVersion (given.or current.tenantConfiguration.clientSecretRefEncrypted) =
          .ok keyVersion ∧
        tables' = tables.updated input.configuration
          (given.or current.tenantConfiguration.clientSecretRefEncrypted) keyVersion current := by
  unfold updateOidcProvider
  constructor
  · intro h
    obtain ⟨current, hload, hrest⟩ := bind_eq_ok.mp h
    obtain ⟨given, hgiven, hrest⟩ := bind_eq_ok.mp hrest
    obtain ⟨keyVersion, hversion, hrest⟩ := bind_eq_ok.mp hrest
    obtain ⟨db, hdb, hrest⟩ := bind_eq_ok.mp hrest
    obtain ⟨hkey, rfl⟩ := (updateWrite_eq_ok_iff hload _).mp hdb
    exact ⟨current, given, keyVersion, hload, hkey, hgiven, hversion, (Except.ok.inj hrest).symm⟩
  · rintro ⟨current, given, keyVersion, hload, hkey, hgiven, hversion, rfl⟩
    rw [hload]
    refine bind_eq_ok.mpr ⟨current, rfl, bind_eq_ok.mpr ⟨given, hgiven, bind_eq_ok.mpr
      ⟨keyVersion, hversion, bind_eq_ok.mpr ⟨_, (updateWrite_eq_ok_iff hload _).mpr ⟨hkey, rfl⟩, rfl⟩⟩⟩⟩

/-- The provider that an update leaves. -/
theorem provider_updated {configuration : OidcProviderConfiguration} {current : IdentityProvider}
    (hfind : tables.db.provider? current.id = some current) (id : Nat) :
    (tables.updated configuration encryptedReference keyVersion current).db.provider? id =
      if id = current.id then
        some ((configuration.withReference encryptedReference).updated current current)
      else tables.db.provider? id :=
  have hold : tables.db.provider?
      ((configuration.withReference encryptedReference).updated current current).id = some current :=
    hfind
  provider_setProvider hold id

theorem clientSecretRefEncrypted_updated {configuration : OidcProviderConfiguration}
    {current : IdentityProvider} (given : Option String) :
    ((configuration.withReference
      (given.or current.tenantConfiguration.clientSecretRefEncrypted)).updated current
        current).tenantConfiguration.clientSecretRefEncrypted =
      given.or current.tenantConfiguration.clientSecretRefEncrypted := by
  show (given.or current.tenantConfiguration.clientSecretRefEncrypted).orElse (fun _ =>
    current.tenantConfiguration.clientSecretRefEncrypted) = _
  cases given with
  | some encrypted => rfl
  | none =>
      cases current.tenantConfiguration.clientSecretRefEncrypted with
      | some encrypted => rfl
      | none => rfl

/-- An update that keeps its version leaves the truth beside the ciphertext. -/
theorem truthful_update {input : UpdateProviderInput} (hbefore : TruthfulTables tables)
    (hkeeps : KeepsVersion tables (.update input secret))
    (h : updateOidcProvider gcm tables input secret = .ok tables') : TruthfulTables tables' := by
  obtain ⟨current, given, keyVersion, hload, hkey, hgiven, hversion, rfl⟩ :=
    updateOidcProvider_eq_ok.mp h
  obtain ⟨-, -, hfind, -, -⟩ := updateLoad_found hload
  refine ⟨hbefore.keyed.setProvider _ hfind, ?_⟩
  intro id row encrypted hrow hcref
  rw [provider_updated hfind] at hrow
  show ∃ version, Function.update tables.secretKeyVersion current.id keyVersion id =
    some version ∧ Embeds encrypted version
  by_cases hid : id = current.id
  · rw [if_pos hid] at hrow
    rw [← Option.some.inj hrow, clientSecretRefEncrypted_updated] at hcref
    rw [hcref] at hversion
    obtain ⟨key, hkeyVersion, rfl⟩ := keyVersion_of_some hversion
    refine ⟨key.version, by rw [hid, Function.update_self], ?_⟩
    cases given with
    | some fresh =>
        obtain rfl : fresh = encrypted := Option.some.inj hcref
        obtain ⟨key', hkey', hembeds⟩ := embeds_of_encrypted hgiven
        obtain rfl := Except.ok.inj (hkeyVersion.symm.trans hkey')
        exact hembeds
    | none =>
        have hempty := (encrypted_eq_none_iff hgiven).mp rfl
        exact hkeeps current encrypted key hempty hload hkey hcref hkeyVersion
  · rw [if_neg hid] at hrow
    rw [Function.update_of_ne hid]
    exact hbefore.truth id row encrypted hrow hcref

/-- An update that does not keep its version leaves something else there. -/
theorem not_tellsTruth_of_update {input : UpdateProviderInput}
    (hkeeps : ¬KeepsVersion tables (.update input secret)) :
    ¬TellsTruth (tables.call gcm (.update input secret)) := by
  unfold KeepsVersion at hkeeps
  push Not at hkeeps
  obtain ⟨row, encrypted, current, hempty, hload, hkey, hcref, hcurrent, hnot⟩ := hkeeps
  obtain ⟨-, -, hfind, -, -⟩ := updateLoad_found hload
  have hversion : secret.keyVersion ((none : Option String).or
      row.tenantConfiguration.clientSecretRefEncrypted) = .ok (some current.version) := by
    rw [hcref]
    show (getIdentityEncryptionKey secret.environment).map _ = _
    rw [hcurrent]
    rfl
  have hupdate := updateOidcProvider_eq_ok.mpr
    ⟨row, none, some current.version, hload, hkey, encrypted_of_none gcm hempty, hversion, rfl⟩
  intro htruth
  change TellsTruth ((updateOidcProvider gcm tables input secret).toOption.getD tables) at htruth
  rw [hupdate] at htruth
  obtain ⟨version, hsaid, hembeds⟩ := htruth row.id _ encrypted
    ((provider_updated hfind row.id).trans (if_pos rfl))
    ((clientSecretRefEncrypted_updated none).trans hcref)
  change Function.update tables.secretKeyVersion row.id (some current.version) row.id =
    some version at hsaid
  rw [Function.update_self] at hsaid
  rw [← Option.some.inj hsaid] at hembeds
  exact hnot hembeds

/-- A call that keeps its version keeps the tables truthful. -/
theorem truthful_call {call : SecretCall} (hbefore : TruthfulTables tables)
    (hkeeps : KeepsVersion tables call) : TruthfulTables (tables.call gcm call) := by
  cases call with
  | create input secret =>
      show TruthfulTables ((createOidcProvider gcm tables input secret).toOption.getD tables)
      cases hcreate : createOidcProvider gcm tables input secret with
      | error e => exact hbefore
      | ok after => exact truthful_create hbefore hcreate
  | update input secret =>
      show TruthfulTables ((updateOidcProvider gcm tables input secret).toOption.getD tables)
      cases hupdate : updateOidcProvider gcm tables input secret with
      | error e => exact hbefore
      | ok after => exact truthful_update hbefore hkeeps hupdate

end Calls

/-! ## Runs -/

def noProviders : SecretTables where
  db := {}
  secretKeyVersion _ := none

/-- A provider is created with a reference, under the version `v1`. -/
def createUnderV1 : SecretCall :=
  .create { session := sampleSession, configuration := sampleConfiguration }
    { clientSecretReference := some "vault:client", environment := sampleEnvironment "v1"
      iv := sampleIv }

/-- It is updated without one. -/
def updateUnder (version : String) : SecretCall :=
  .update
    { session := sampleSession, providerId := 0, expectedVersion := 1
      configuration := sampleConfiguration, controlledIssuerRevalidation := false }
    { clientSecretReference := none, environment := sampleEnvironment version, iv := sampleIv }

theorem truthful_noProviders : TruthfulTables noProviders := by
  refine ⟨⟨List.nodup_nil, ?_, List.nodup_nil⟩, ?_⟩
  · simp [noProviders]
  · intro id row encrypted hrow
    cases hrow

/-- The ciphertext of the reference. -/
def referenceUnderV1 : String :=
  secretText "v1" sampleIv
    (sampleGcm.encrypt sampleKeyBytes sampleIv (additionalData .oidcClientSecretRef "v1")
      (utf8 "vault:client")).2
    (sampleGcm.encrypt sampleKeyBytes sampleIv (additionalData .oidcClientSecretRef "v1")
      (utf8 "vault:client")).1

end AvantimePlatform.Identity
