import AvantimePlatform.Lib.Base64Url
import AvantimePlatform.Lib.Checked
import AvantimePlatform.Lib.Json
import AvantimePlatform.Lib.Text

/-!
# The encryption of identity secrets

`identity-encryption.ts`: the keys of an environment, and a secret that is encrypted under
the current key and written as five fields with dots between them.

* `split_secret`: the fields are read back when the version has no dot.
* `SurvivesRotation`: every later environment that has the old key among its previous keys
  reads the secret, for its own purpose only.
* `survives_rotation_iff`: that is so exactly when the version of the key has no dot.

The cipher and `JSON.parse` are parameters.
-/

namespace AvantimePlatform.Identity

open AvantimePlatform AvantimePlatform.Base64Url AvantimePlatform.Checked

/-! ## The keys of an environment -/

/-- The variables that the module reads, of `process.env`. -/
structure EncryptionEnvironment where
  mfaEncryptionKey : Option String
  mfaEncryptionKeyVersion : Option String
  mfaEncryptionPreviousKeys : Option String
deriving DecidableEq

/-- What `getIdentityEncryptionKey` returns. -/
structure EncryptionKey where
  key : Bytes
  version : String
deriving DecidableEq

/-- `KEY_VERSION_PATTERN`. -/
def isKeyVersion (value : String) : Bool :=
  match value.toList with
  | [] => false
  | first :: rest =>
    first.isAlphanum && decide (rest.length ≤ 31) &&
      rest.all fun c => c.isAlphanum || c = '.' || c = '_' || c = '-'

/-- The bytes of a key: hexadecimal text, or else base64url. -/
def keyBytes (trimmed : List Char) : Bytes :=
  if trimmed.length = 64 ∧ trimmed.all isHexDigit = true then decodeHex trimmed else decode trimmed

/-- `decodeKey`. -/
def decodeKey (value : String) : Except String Bytes := do
  let key := keyBytes (Text.trim value).toList
  require (key.length = 32) "MFA_ENCRYPTION_KEY must decode to exactly 32 bytes."
  return key

/-- `keyVersion`. -/
def keyVersion (environment : EncryptionEnvironment) : Except String String := do
  let given := Text.trim (environment.mfaEncryptionKeyVersion.getD "")
  let value := if given = "" then "v1" else given
  require (isKeyVersion value = true) "MFA_ENCRYPTION_KEY_VERSION is invalid."
  return value

/-- An entry of `MFA_ENCRYPTION_PREVIOUS_KEYS`. -/
def previousKey (entry : String × Json) : Except String (String × Bytes) :=
  match isKeyVersion entry.1, Json.asString? (some entry.2) with
  | true, some encoded => (decodeKey encoded).map fun key => (entry.1, key)
  | _, _ => .error "MFA_ENCRYPTION_PREVIOUS_KEYS contains an invalid entry."

/-- `previousKeys`, over `JSON.parse`. -/
def previousKeys (parseJson : String → Option Json) (environment : EncryptionEnvironment) :
    Except String (List (String × Bytes)) :=
  match environment.mfaEncryptionPreviousKeys with
  | none => .ok []
  | some serialized =>
    if serialized = "" then .ok []
    else
      match parseJson serialized with
      | some (.object members) => members.mapM previousKey
      | _ => .error "MFA_ENCRYPTION_PREVIOUS_KEYS must be a JSON object."

/-- `getIdentityEncryptionKey`. -/
def getIdentityEncryptionKey (environment : EncryptionEnvironment) : Except String EncryptionKey :=
  match environment.mfaEncryptionKey with
  | none => .error "MFA_ENCRYPTION_KEY is required for identity encryption."
  | some value => do
    require (value ≠ "") "MFA_ENCRYPTION_KEY is required for identity encryption."
    let key ← decodeKey value
    let version ← keyVersion environment
    return { key, version }

/-! ## Encrypting and decrypting -/

/-- `IdentitySecretPurpose`. -/
inductive IdentitySecretPurpose where
  | totp | oidcPkce | oidcClientSecretRef
deriving DecidableEq

def IdentitySecretPurpose.name : IdentitySecretPurpose → String
  | totp => "totp"
  | oidcPkce => "oidc-pkce"
  | oidcClientSecretRef => "oidc-client-secret-ref"

/-- The cipher `aes-256-gcm`: ciphertext and tag of a plaintext under a key, an
initialization vector and additional data, and the plaintext of a ciphertext with its tag,
if they are authentic. -/
structure Aes256Gcm where
  encrypt (key iv aad plaintext : Bytes) : Bytes × Bytes
  decrypt (key iv aad tag ciphertext : Bytes) : Option Bytes

/-- The cipher gives the plaintext back, under the additional data that it was given and
no other.  A ciphertext has the length of its plaintext, and there is always a tag. -/
structure Aes256Gcm.IsAuthenticated (gcm : Aes256Gcm) : Prop where
  decrypt_encrypt {key iv : Bytes} (aad plaintext : Bytes) (hkey : key.length = 32)
    (hiv : iv.length = 12) :
    gcm.decrypt key iv aad (gcm.encrypt key iv aad plaintext).2
      (gcm.encrypt key iv aad plaintext).1 = some plaintext
  decrypt_other {key iv aad other : Bytes} (plaintext : Bytes) (hkey : key.length = 32)
    (hiv : iv.length = 12) (hother : other ≠ aad) :
    gcm.decrypt key iv other (gcm.encrypt key iv aad plaintext).2
      (gcm.encrypt key iv aad plaintext).1 = none
  length_ciphertext {key iv : Bytes} (aad plaintext : Bytes) (hkey : key.length = 32)
    (hiv : iv.length = 12) : (gcm.encrypt key iv aad plaintext).1.length = plaintext.length
  tag_ne_nil {key iv : Bytes} (aad plaintext : Bytes) (hkey : key.length = 32)
    (hiv : iv.length = 12) : (gcm.encrypt key iv aad plaintext).2 ≠ []

/-- The additional data of a secret. -/
def additionalData (purpose : IdentitySecretPurpose) (version : String) : Bytes :=
  utf8 ("avantime:" ++ purpose.name ++ ":" ++ version)

/-- The five fields, joined. -/
def secretText (version : String) (iv tag ciphertext : Bytes) : String :=
  String.ofList (['.'].intercalate
    ["v2".toList, version.toList, encode iv, encode tag, encode ciphertext])

/-- `encryptIdentitySecret`, with the random bytes `iv`. -/
def encryptIdentitySecret (gcm : Aes256Gcm) (plaintext : String) (purpose : IdentitySecretPurpose)
    (environment : EncryptionEnvironment) (iv : Bytes) : Except String String := do
  let current ← getIdentityEncryptionKey environment
  let sealed := gcm.encrypt current.key iv (additionalData purpose current.version) (utf8 plaintext)
  return secretText current.version iv sealed.2 sealed.1

/-- The key that `decryptIdentitySecret` looks up. -/
def keyOfVersion (parseJson : String → Option Json) (environment : EncryptionEnvironment)
    (version : String) : Except String Bytes := do
  let current ← getIdentityEncryptionKey environment
  if version = current.version then return current.key
  else
    let keys ← previousKeys parseJson environment
    match keys.lookup version with
    | some key => return key
    | none => .error "Encrypted identity secret key version is unavailable."

/-- `decryptIdentitySecret`. -/
def decryptIdentitySecret (parseJson : String → Option Json) (gcm : Aes256Gcm) (encrypted : String)
    (purpose : IdentitySecretPurpose) (environment : EncryptionEnvironment) :
    Except String String :=
  match encrypted.toList.splitOn '.' with
  | format :: version :: ivText :: tagText :: ciphertextText :: _ => do
    require (format = "v2".toList ∧ version ≠ [] ∧ ivText ≠ [] ∧ tagText ≠ [] ∧
      ciphertextText ≠ []) "Encrypted identity secret has an unsupported format."
    let key ← keyOfVersion parseJson environment (String.ofList version)
    match gcm.decrypt key (decode ivText) (additionalData purpose (String.ofList version))
        (decode tagText) (decode ciphertextText) with
    | some plaintext => return ofUtf8 plaintext
    | none => .error "Unsupported state or unable to authenticate data"
  | _ => .error "Encrypted identity secret has an unsupported format."

/-! ## The property -/

section Property

variable (parseJson : String → Option Json) (gcm : Aes256Gcm)

/-- A later environment has another version, and the old key under the old version. -/
structure Rotated (old : EncryptionKey) (later : EncryptionEnvironment) : Prop where
  current : ∃ key, getIdentityEncryptionKey later = .ok key ∧ key.version ≠ old.version
  previous : ∃ keys, previousKeys parseJson later = .ok keys ∧
    keys.lookup old.version = some old.key

/-- Every later environment reads the secret, for the purpose and for no other. -/
def SurvivesRotation (plaintext : String) (purpose : IdentitySecretPurpose)
    (environment : EncryptionEnvironment) (old : EncryptionKey) (iv : Bytes) : Prop :=
  ∃ encrypted, encryptIdentitySecret gcm plaintext purpose environment iv = .ok encrypted ∧
    ∀ later, Rotated parseJson old later →
      decryptIdentitySecret parseJson gcm encrypted purpose later = .ok plaintext ∧
        ∀ other, other ≠ purpose →
          ∃ e, decryptIdentitySecret parseJson gcm encrypted other later = .error e

end Property

/-! ## Keys and fields -/

section Fields

variable {parseJson : String → Option Json} {gcm : Aes256Gcm} {environment : EncryptionEnvironment}
  {current : EncryptionKey} {version : String} {iv tag ciphertext key : Bytes}

theorem length_of_decodeKey {value : String} (h : decodeKey value = .ok key) : key.length = 32 := by
  unfold decodeKey at h
  dsimp only at h
  rw [seq_eq_ok, require_eq_ok] at h
  rw [← Except.ok.inj h.2]
  exact h.1

theorem keyVersion_eq_ok (h : keyVersion environment = .ok version) : isKeyVersion version = true := by
  unfold keyVersion at h
  dsimp only at h
  rw [seq_eq_ok, require_eq_ok] at h
  rw [← Except.ok.inj h.2]
  exact h.1

/-- What an environment with a key has. -/
theorem getIdentityEncryptionKey_eq_ok (h : getIdentityEncryptionKey environment = .ok current) :
    ∃ value, environment.mfaEncryptionKey = some value ∧ value ≠ "" ∧
      decodeKey value = .ok current.key ∧ keyVersion environment = .ok current.version := by
  unfold getIdentityEncryptionKey at h
  split at h
  · cases h
  · next value hvalue =>
      rw [seq_eq_ok, require_eq_ok, bind_eq_ok] at h
      obtain ⟨hne, key, hkey, hrest⟩ := h
      obtain ⟨version, hversion, hcurrent⟩ := bind_eq_ok.mp hrest
      obtain rfl := Except.ok.inj hcurrent
      exact ⟨value, hvalue, hne, hkey, hversion⟩

theorem toList_ne_nil_of_isKeyVersion (h : isKeyVersion version = true) : version.toList ≠ [] := by
  intro hnil
  unfold isKeyVersion at h
  rw [hnil] at h
  cases h

/-- Purposes have different additional data. -/
theorem additionalData_injective {purpose other : IdentitySecretPurpose}
    (h : additionalData purpose version = additionalData other version) : purpose = other := by
  have htext := utf8_injective h
  have hlist := congrArg String.toList htext
  simp only [String.toList_append, List.append_cancel_right_eq, List.append_cancel_left_eq] at hlist
  have hname : purpose.name = other.name := String.toList_inj.mp hlist
  cases purpose <;> cases other <;> first | rfl | exact absurd hname (by decide)

/-- The first field is the text before the first dot. -/
theorem splitOn_append_dot {field : List Char} (hfield : '.' ∉ field) (rest : List Char) :
    (field ++ '.' :: rest).splitOn '.' = field :: rest.splitOn '.' := by
  apply List.splitOnP_append_cons_of_forall_mem
  · intro c hc
    have hne : c ≠ '.' := by
      rintro rfl
      exact hfield hc
    simpa using hne
  · rfl

/-- The fields of a secret are read back when the version has no dot. -/
theorem split_secret (hversion : '.' ∉ version.toList) :
    (secretText version iv tag ciphertext).toList.splitOn '.' =
      ["v2".toList, version.toList, encode iv, encode tag, encode ciphertext] := by
  unfold secretText
  rw [String.toList_ofList]
  refine List.splitOn_intercalate _ ?_ (by simp)
  intro field hfield
  simp only [List.mem_cons, List.not_mem_nil, or_false] at hfield
  rcases hfield with rfl | rfl | rfl | rfl | rfl
  · decide
  · exact hversion
  · exact dot_notMem_encode iv
  · exact dot_notMem_encode tag
  · exact dot_notMem_encode ciphertext

/-- A version with a dot is cut there. -/
theorem split_secret_of_dot {front back : List Char} (hversion : version.toList = front ++ '.' :: back)
    (hfront : '.' ∉ front) :
    ∃ fields, (secretText version iv tag ciphertext).toList.splitOn '.' =
      "v2".toList :: front :: fields := by
  have htext : (secretText version iv tag ciphertext).toList = "v2".toList ++ '.' :: (front ++ '.' ::
      (back ++ '.' :: (encode iv ++ '.' :: (encode tag ++ '.' :: encode ciphertext)))) := by
    unfold secretText
    rw [String.toList_ofList, hversion]
    simp [List.intercalate_cons_cons]
  rw [htext, splitOn_append_dot (by decide), splitOn_append_dot hfront]
  exact ⟨_, rfl⟩

/-! ## Reading a secret -/

variable {plaintext : String} {purpose other : IdentitySecretPurpose} {later : EncryptionEnvironment}

theorem encryptIdentitySecret_eq (h : getIdentityEncryptionKey environment = .ok current) :
    encryptIdentitySecret gcm plaintext purpose environment iv =
      .ok (secretText current.version iv
        (gcm.encrypt current.key iv (additionalData purpose current.version) (utf8 plaintext)).2
        (gcm.encrypt current.key iv (additionalData purpose current.version) (utf8 plaintext)).1) := by
  unfold encryptIdentitySecret
  rw [h]
  rfl

/-- The old key is found among the previous ones. -/
theorem keyOfVersion_of_rotated (h : Rotated parseJson current later) :
    keyOfVersion parseJson later current.version = .ok current.key := by
  obtain ⟨key, hkey, hne⟩ := h.current
  obtain ⟨keys, hkeys, hlookup⟩ := h.previous
  unfold keyOfVersion
  rw [hkey]
  show (if current.version = key.version then _ else _) = _
  rw [if_neg hne.symm, hkeys]
  show (match keys.lookup current.version with
    | some key => _
    | none => _) = _
  rw [hlookup]
  rfl

/-- A version that no key has is not found. -/
theorem keyOfVersion_of_unknown {keys : List (String × Bytes)}
    (hcurrent : getIdentityEncryptionKey later = .ok current)
    (hkeys : previousKeys parseJson later = .ok keys) (hne : version ≠ current.version)
    (hlookup : keys.lookup version = none) :
    ∃ e, keyOfVersion parseJson later version = .error e := by
  unfold keyOfVersion
  rw [hcurrent]
  show ∃ e, (if version = current.version then _ else _) = Except.error e
  rw [if_neg hne, hkeys]
  show ∃ e, (match keys.lookup version with
    | some key => _
    | none => _) = Except.error e
  rw [hlookup]
  exact ⟨_, rfl⟩

/-- The fields of a secret are decrypted under the key of its version. -/
theorem decryptIdentitySecret_of_fields (hdot : '.' ∉ version.toList) (hversion : version ≠ "")
    (hiv : iv ≠ []) (htag : tag ≠ []) (hciphertext : ciphertext ≠ [])
    (hkey : keyOfVersion parseJson later version = .ok key) :
    decryptIdentitySecret parseJson gcm (secretText version iv tag ciphertext) purpose later =
      match gcm.decrypt key iv (additionalData purpose version) tag ciphertext with
      | some plaintext => .ok (ofUtf8 plaintext)
      | none => .error "Unsupported state or unable to authenticate data" := by
  have hfields : "v2".toList = "v2".toList ∧ version.toList ≠ [] ∧ encode iv ≠ [] ∧
      encode tag ≠ [] ∧ encode ciphertext ≠ [] := by
    refine ⟨rfl, ?_, encode_ne_nil hiv, encode_ne_nil htag, encode_ne_nil hciphertext⟩
    exact fun h => hversion (String.toList_eq_nil_iff.mp h)
  unfold decryptIdentitySecret
  rw [split_secret hdot]
  dsimp only
  rw [require, if_pos hfields, String.ofList_toList, hkey, decode_encode, decode_encode,
    decode_encode]
  rfl

/-- A secret whose second field is a version without a key is not read. -/
theorem decryptIdentitySecret_of_unknown {encrypted : String} {front : List Char}
    {fields : List (List Char)} (hsplit : encrypted.toList.splitOn '.' = "v2".toList :: front :: fields)
    (hkey : ∃ e, keyOfVersion parseJson later (String.ofList front) = .error e) :
    ∃ e, decryptIdentitySecret parseJson gcm encrypted purpose later = .error e := by
  obtain ⟨e, hkey⟩ := hkey
  unfold decryptIdentitySecret
  rw [hsplit]
  match fields with
  | [] => exact ⟨_, rfl⟩
  | [_] => exact ⟨_, rfl⟩
  | [_, _] => exact ⟨_, rfl⟩
  | ivText :: tagText :: ciphertextText :: _ =>
      dsimp only
      rw [hkey]
      unfold require
      split
      · exact ⟨e, rfl⟩
      · exact ⟨_, rfl⟩

/-- Without a dot in its version a secret survives every rotation. -/
theorem survives_of_no_dot (hgcm : gcm.IsAuthenticated) (hplaintext : plaintext ≠ "")
    (hiv : iv.length = 12) (hcurrent : getIdentityEncryptionKey environment = .ok current)
    (hdot : '.' ∉ current.version.toList) :
    SurvivesRotation parseJson gcm plaintext purpose environment current iv := by
  obtain ⟨value, -, -, hdecode, hpattern⟩ := getIdentityEncryptionKey_eq_ok hcurrent
  have hkey : current.key.length = 32 := length_of_decodeKey hdecode
  have hversion : current.version ≠ "" := by
    intro h
    exact toList_ne_nil_of_isKeyVersion (keyVersion_eq_ok hpattern) (by rw [h]; rfl)
  have hbytes : utf8 plaintext ≠ [] := by
    intro h
    exact hplaintext (utf8_injective (h.trans (by rfl)))
  have hciphertext := hgcm.length_ciphertext (additionalData purpose current.version)
    (utf8 plaintext) hkey hiv
  have htag_ne := hgcm.tag_ne_nil (additionalData purpose current.version) (utf8 plaintext) hkey hiv
  have hciphertext_ne : (gcm.encrypt current.key iv (additionalData purpose current.version)
      (utf8 plaintext)).1 ≠ [] := by
    apply List.ne_nil_of_length_pos
    rw [hciphertext]
    exact List.length_pos_of_ne_nil hbytes
  have hiv_ne : iv ≠ [] := List.ne_nil_of_length_pos (by omega)
  refine ⟨_, encryptIdentitySecret_eq hcurrent, fun later hlater => ⟨?_, fun other hother => ?_⟩⟩
  · rw [decryptIdentitySecret_of_fields hdot hversion hiv_ne htag_ne hciphertext_ne
      (keyOfVersion_of_rotated hlater), hgcm.decrypt_encrypt _ _ hkey hiv]
    exact congrArg Except.ok (ofUtf8_utf8 plaintext)
  · rw [decryptIdentitySecret_of_fields hdot hversion hiv_ne htag_ne hciphertext_ne
      (keyOfVersion_of_rotated hlater),
      hgcm.decrypt_other _ hkey hiv fun h => hother (additionalData_injective h)]
    exact ⟨_, rfl⟩

/-! ## A version with a dot -/

/-- An environment after a rotation: the same key under the version `fresh`, and under the
old one in the text `serialized`. -/
def EncryptionEnvironment.rotated (environment : EncryptionEnvironment) (fresh serialized : String) :
    EncryptionEnvironment :=
  { environment with
    mfaEncryptionKeyVersion := some fresh
    mfaEncryptionPreviousKeys := some serialized }

theorem getIdentityEncryptionKey_rotated {fresh serialized : String}
    (hcurrent : getIdentityEncryptionKey environment = .ok current)
    (hfresh : keyVersion (environment.rotated fresh serialized) = .ok fresh) :
    getIdentityEncryptionKey (environment.rotated fresh serialized) = .ok ⟨current.key, fresh⟩ := by
  obtain ⟨value, hvalue, hne, hdecode, -⟩ := getIdentityEncryptionKey_eq_ok hcurrent
  have hsame : (environment.rotated fresh serialized).mfaEncryptionKey = some value := hvalue
  unfold getIdentityEncryptionKey
  rw [hsame]
  dsimp only
  rw [require, if_pos hne, hdecode, hfresh]
  rfl

theorem previousKeys_rotated {fresh serialized value : String} (hserialized : serialized ≠ "")
    (hparse : parseJson serialized = some (.object [(current.version, .string value)]))
    (hpattern : isKeyVersion current.version = true) (hdecode : decodeKey value = .ok current.key) :
    previousKeys parseJson (environment.rotated fresh serialized) =
      .ok [(current.version, current.key)] := by
  have hentry : previousKey (current.version, .string value) = .ok (current.version, current.key) := by
    unfold previousKey
    dsimp only
    rw [hpattern]
    show (decodeKey value).map _ = _
    rw [hdecode]
    rfl
  unfold previousKeys
  show (if serialized = "" then _ else _) = _
  rw [if_neg hserialized, hparse]
  show [(current.version, Json.string value)].mapM previousKey = _
  rw [List.mapM_cons, hentry, List.mapM_nil]
  rfl

/-- Some version is neither the one nor the other. -/
theorem exists_fresh_version (front : List Char) (hdot : '.' ∈ version.toList) (serialized : String)
    (environment : EncryptionEnvironment) :
    ∃ fresh, fresh ≠ version ∧ String.ofList front ≠ fresh ∧
      keyVersion (environment.rotated fresh serialized) = .ok fresh := by
  have hne {fresh : String} (h : '.' ∉ fresh.toList) : fresh ≠ version := by
    rintro rfl
    exact h hdot
  have hok {fresh : String} (htrim : Text.trim fresh = fresh) (hnonempty : fresh ≠ "")
      (hpattern : isKeyVersion fresh = true) :
      keyVersion (environment.rotated fresh serialized) = .ok fresh := by
    unfold keyVersion
    show (do
      let given := Text.trim fresh
      let value := if given = "" then "v1" else given
      require (isKeyVersion value = true) "MFA_ENCRYPTION_KEY_VERSION is invalid."
      return value : Except String String) = _
    rw [htrim]
    dsimp only
    rw [if_neg hnonempty, require, if_pos hpattern]
    rfl
  by_cases hfront : String.ofList front = "a"
  · refine ⟨"b", hne (by decide), ?_, hok (by decide) (by decide) (by decide)⟩
    rw [hfront]
    decide
  · exact ⟨"a", hne (by decide), hfront, hok (by decide) (by decide) (by decide)⟩

/-- A version with a dot is not found again once it is not the current one. -/
theorem not_survives_of_dot {value serialized : String}
    (hcurrent : getIdentityEncryptionKey environment = .ok current)
    (hvalue : environment.mfaEncryptionKey = some value) (hserialized : serialized ≠ "")
    (hparse : parseJson serialized = some (.object [(current.version, .string value)]))
    (hdot : '.' ∈ current.version.toList) :
    ¬SurvivesRotation parseJson gcm plaintext purpose environment current iv := by
  obtain ⟨value', hvalue', -, hdecode, hversion⟩ := getIdentityEncryptionKey_eq_ok hcurrent
  obtain rfl : value = value' := Option.some.inj (hvalue.symm.trans hvalue')
  obtain ⟨front, back, hsplit, hfront⟩ := List.eq_append_cons_of_mem hdot
  obtain ⟨fresh, hfresh, hne, hok⟩ := exists_fresh_version front hdot serialized environment
  have hlater := getIdentityEncryptionKey_rotated hcurrent hok
  have hkeys : previousKeys parseJson (environment.rotated fresh serialized) =
      .ok [(current.version, current.key)] :=
    previousKeys_rotated hserialized hparse (keyVersion_eq_ok hversion) hdecode
  have hrotated : Rotated parseJson current (environment.rotated fresh serialized) :=
    ⟨⟨_, hlater, hfresh⟩, _, hkeys, by simp⟩
  -- the part before the dot is no version at all
  have hunknown : [(current.version, current.key)].lookup (String.ofList front) = none := by
    have hpart : String.ofList front ≠ current.version := by
      intro h
      rw [← h, String.toList_ofList] at hdot
      exact hfront hdot
    simp [hpart]
  rintro ⟨encrypted, hencrypted, hreads⟩
  rw [encryptIdentitySecret_eq hcurrent] at hencrypted
  obtain rfl := Except.ok.inj hencrypted
  obtain ⟨fields, hfields⟩ := split_secret_of_dot hsplit hfront
  obtain ⟨e, he⟩ := decryptIdentitySecret_of_unknown hfields
    (keyOfVersion_of_unknown hlater hkeys hne hunknown)
  have hread := (hreads _ hrotated).1
  rw [he] at hread
  cases hread

/-- A secret survives every rotation exactly when the version of its key has no dot. -/
theorem survives_rotation_iff {value serialized : String} (hgcm : gcm.IsAuthenticated)
    (hplaintext : plaintext ≠ "") (hiv : iv.length = 12)
    (hcurrent : getIdentityEncryptionKey environment = .ok current)
    (hvalue : environment.mfaEncryptionKey = some value) (hserialized : serialized ≠ "")
    (hparse : parseJson serialized = some (.object [(current.version, .string value)])) :
    SurvivesRotation parseJson gcm plaintext purpose environment current iv ↔
      '.' ∉ current.version.toList := by
  constructor
  · intro h hdot
    exact not_survives_of_dot hcurrent hvalue hserialized hparse hdot h
  · exact survives_of_no_dot hgcm hplaintext hiv hcurrent

end Fields

/-! ## A secret -/

/-- 32 bytes of value 1. -/
def sampleKey : String := String.ofList (List.replicate 32 ['0', '1']).flatten

def sampleKeyBytes : Bytes := List.replicate 32 1

def sampleIv : Bytes := List.replicate 12 2

def sampleEnvironment (version : String) : EncryptionEnvironment where
  mfaEncryptionKey := some sampleKey
  mfaEncryptionKeyVersion := some version
  mfaEncryptionPreviousKeys := none

/-- The text of the key under its version, and what `JSON.parse` makes of it. -/
def sampleJson (version text : String) : Option Json :=
  if text = "\x7b\"" ++ version ++ "\":\"" ++ sampleKey ++ "\"\x7d" then
    some (.object [(version, .string sampleKey)])
  else none

/-- The ciphertext and the tag of the plaintext `otp` under that key. -/
def sampleSealed : Bytes × Bytes :=
  ([104, 162, 185], [124, 129, 162, 207, 5, 112, 219, 139, 202, 91, 56, 137, 227, 216, 156, 222])

/-- The arguments that give it. -/
def IsSample (key iv aad plaintext : Bytes) : Prop :=
  key = sampleKeyBytes ∧ iv = sampleIv ∧ aad = additionalData .totp "v1" ∧ plaintext = utf8 "otp"

instance (key iv aad plaintext : Bytes) : Decidable (IsSample key iv aad plaintext) :=
  inferInstanceAs (Decidable (_ ∧ _ ∧ _ ∧ _))

/-- The cipher on that plaintext.  Elsewhere the ciphertext is the plaintext, and the tag
says all that went in. -/
def sampleGcm : Aes256Gcm where
  encrypt key iv aad plaintext :=
    if IsSample key iv aad plaintext then sampleSealed else (plaintext, key ++ iv ++ aad)
  decrypt key iv aad tag ciphertext :=
    if (ciphertext, tag) = sampleSealed ∧ IsSample key iv aad (utf8 "otp") then some (utf8 "otp")
    else if tag = key ++ iv ++ aad ∧ ¬IsSample key iv aad ciphertext then some ciphertext else none

theorem sampleTag_ne {key iv : Bytes} (aad ciphertext : Bytes) (hkey : key.length = 32) :
    (ciphertext, key ++ (iv ++ aad)) ≠ sampleSealed := by
  intro h
  have hlength := congrArg (fun sealed : Bytes × Bytes => sealed.2.length) h
  simp only [sampleSealed, List.length_append, List.length_cons, List.length_nil] at hlength
  omega

theorem isAuthenticated_sampleGcm : sampleGcm.IsAuthenticated where
  decrypt_encrypt {key iv} aad plaintext hkey _ := by
    by_cases hsample : IsSample key iv aad plaintext
    · obtain rfl := hsample.2.2.2
      simp [sampleGcm, hsample]
    · simp [sampleGcm, hsample, sampleTag_ne aad plaintext hkey]
  decrypt_other {key iv aad other} plaintext hkey _ hother := by
    by_cases hsample : IsSample key iv aad plaintext
    · obtain rfl := hsample.2.2.1
      have hnot : ¬IsSample key iv other (utf8 "otp") := fun h => hother h.2.2.1
      have htag : sampleSealed.2 ≠ key ++ (iv ++ other) := by
        intro h
        apply @sampleTag_ne key iv other sampleSealed.1 hkey
        rw [← h]
      simp [sampleGcm, hsample, hnot, htag]
    · simp [sampleGcm, hsample, sampleTag_ne aad plaintext hkey, hother.symm]
  length_ciphertext {key iv} aad plaintext _ _ := by
    by_cases hsample : IsSample key iv aad plaintext
    · obtain rfl := hsample.2.2.2
      simp only [sampleGcm, if_pos hsample]
      decide
    · simp [sampleGcm, hsample]
  tag_ne_nil {key iv} aad plaintext hkey _ := by
    by_cases hsample : IsSample key iv aad plaintext
    · simp [sampleGcm, hsample, sampleSealed]
    · apply List.ne_nil_of_length_pos
      simp only [sampleGcm, if_neg hsample, List.length_append]
      omega

theorem survives_rotation_iff_v1 :
    SurvivesRotation (sampleJson "v1") sampleGcm "otp" .totp (sampleEnvironment "v1")
        ⟨sampleKeyBytes, "v1"⟩ sampleIv ↔ '.' ∉ "v1".toList :=
  have hcurrent : getIdentityEncryptionKey (sampleEnvironment "v1") = .ok ⟨sampleKeyBytes, "v1"⟩ := by
    decide
  survives_rotation_iff isAuthenticated_sampleGcm (by decide) (by decide) hcurrent rfl
    (by decide) (if_pos rfl)

/-- A secret under the version `2026.1` is not read after a rotation, though the pattern
accepts that version. -/
theorem not_survives_rotation_dotted :
    isKeyVersion "2026.1" = true ∧
      ¬SurvivesRotation (sampleJson "2026.1") sampleGcm "otp" .totp (sampleEnvironment "2026.1")
        ⟨sampleKeyBytes, "2026.1"⟩ sampleIv := by
  have hcurrent : getIdentityEncryptionKey (sampleEnvironment "2026.1") =
      .ok ⟨sampleKeyBytes, "2026.1"⟩ := by decide
  refine ⟨by decide, ?_⟩
  exact not_survives_of_dot hcurrent rfl (by decide) (if_pos rfl) (by decide)

end AvantimePlatform.Identity
