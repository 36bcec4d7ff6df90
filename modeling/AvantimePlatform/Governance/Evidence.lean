import AvantimePlatform.Lib.Checked
import AvantimePlatform.Lib.JsValues
import AvantimePlatform.Lib.JsonSearch
import AvantimePlatform.Rag.Chunks

/-!
# Evidence and sign-offs

`canonicalGovernanceJson`, the checks of evidence and of sign-offs, and their envelopes: how
one is made, verified, written to a file and read from one.  The values are those of
JavaScript, as a file can hold them and as a caller can pass them.

* `canonicalGovernanceJson_eq`: the canonical text is the text of the sorted value, with what
  a template writes of `undefined`.
* `evidenceChecks_sorted` and `signOffChecks_sorted`: the checks do not see the order of
  members.
-/

namespace AvantimePlatform.Governance

open AvantimePlatform AvantimePlatform.Checked AvantimePlatform.JsonTree AvantimePlatform.JsonSearch

/-! ## The canonical text -/

/-- The order of `sort()`, by code units. -/
def unitsLe (first second : String) : Prop :=
  (Rag.codeUnits first).map UInt16.toNat ≤ (Rag.codeUnits second).map UInt16.toNat

instance : DecidableRel unitsLe := fun _ second =>
  inferInstanceAs (Decidable (_ ≤ (Rag.codeUnits second).map UInt16.toNat))

section Canonical

variable (format : NumberFormat)

mutual

/-- `canonicalGovernanceJson`; `none` is `undefined`. -/
def canonicalGovernanceJson : JsValue → Option (List Char)
  | .atom .undefined => none
  | .atom value => some (value.letters format)
  | .string value => some (JsonText.quote value.toList)
  | .array items => some ('[' :: (joined ',' (canonicalItemTexts items) ++ [']']))
  | .object members =>
    some ('\x7b' :: (joined ',' (((canonicalMemberTexts members).insertionSort
      fun first second => unitsLe first.1 second.1).map Prod.snd) ++ ['\x7d']))

/-- The parts that `join` puts together: `undefined` is an empty one. -/
def canonicalItemTexts : List JsValue → List (List Char)
  | [] => []
  | item :: items => (canonicalGovernanceJson item).getD [] :: canonicalItemTexts items

/-- The members, each with its name. -/
def canonicalMemberTexts : List (String × JsValue) → List (String × List Char)
  | [] => []
  | (name, value) :: members =>
    (name, JsonText.quote name.toList ++
      ':' :: (canonicalGovernanceJson value).getD "undefined".toList) :: canonicalMemberTexts members

end

end Canonical

/-! ## Regular expressions -/

/-- A character of one class, and a number of characters of another. -/
structure Pattern where
  first : Char → Bool
  rest : Char → Bool
  least : Nat
  most : Nat

def Pattern.test (pattern : Pattern) : List Char → Bool
  | [] => false
  | c :: text =>
    pattern.first c && text.all pattern.rest && decide (pattern.least ≤ text.length) &&
      decide (text.length ≤ pattern.most)

def isReferenceChar (c : Char) : Bool := c.isAlphanum || "._:/-".toList.contains c

/-- `SAFE_REFERENCE` of the evidence. -/
def safeReference : Pattern := ⟨Char.isAlphanum, isReferenceChar, 0, 199⟩

/-- `SAFE_REFERENCE` of the sign-offs. -/
def signOffReference : Pattern := ⟨Char.isAlphanum, isReferenceChar, 2, 199⟩

/-- `SAFE_TEXT`. -/
def safeText : Pattern :=
  ⟨fun c => c.isAlphanum || "<>=".toList.contains c,
   fun c => c.isAlphanum || " .,;:_/()@+<>=-".toList.contains c, 0, 249⟩

/-- `[a-f0-9]`. -/
def isHexLetter (c : Char) : Bool := c.isDigit || ('a' ≤ c && c ≤ 'f')

def commitHash : Pattern := ⟨isHexLetter, isHexLetter, 6, 63⟩

/-- `SHA256`. -/
def sha256Hash : Pattern := ⟨isHexLetter, isHexLetter, 63, 63⟩

/-- A word anywhere, whatever the case of its letters. -/
def hasWord (words : List String) (text : List Char) : Bool :=
  words.any fun word => found (wordThen word.toList fun _ => true) none text

/-- `SENSITIVE_KEY`. -/
def sensitiveKey : List Char → Bool :=
  hasWord ["authorization", "cookie", "credential", "email", "password", "recovery", "secret",
    "session", "token"]

/-- A letter of a word, as `\b` has it when case is ignored. -/
def isWordLetter (c : Char) : Bool := (fold c).isAlphanum || c == '_'

/-- `[a-zA-Z0-9]`, whatever the case. -/
def isKeyLetter (c : Char) : Bool := (fold c).isAlphanum

/-- What no evidence contains. -/
def sensitiveMatcher : Matcher :=
  either (wordThen "bearer".toList fun rest => rest.head?.any Text.isBlank)
    (either (wordThen "password".toList fun _ => true)
      (either (wordThen "set-cookie".toList fun _ => true)
        (either (wordThen "-----begin".toList fun _ => true)
          (atBoundary isWordLetter (wordThen "sk-".toList fun rest =>
            decide (20 ≤ rest.length) && (rest.take 20).all isKeyLetter)))))

def sensitiveText (text : List Char) : Bool := found sensitiveMatcher none text

/-! ## The checks -/

/-- The language and its library: numbers, `Date.parse`, and the digest in hexadecimal. -/
structure EvidenceRuntime where
  format : NumberFormat
  isDate : List Char → Bool
  sha256 : List Char → String

/-- What is missing is a `TypeError`. -/
def orTypeError {β : Type} : Option β → Except String β
  | some value => .ok value
  | none => .error "TypeError"

def isOneOf (names : List String) (value : JsValue) : Bool :=
  match JsValue.text? value with
  | some name => names.contains name
  | none => false

/-- No key but these. -/
def keysWithin (allowed : List String) (error : String) (value : JsValue) : Except String Unit := do
  let keys ← orTypeError (JsValue.keys? value)
  require (∀ key ∈ keys, key ∈ allowed) error

/-- `=== 1`. -/
def isVersionOne (value : JsValue) : Bool := JsValue.number? value == some Double.one

section Checks

variable (runtime : EvidenceRuntime)

/-- `test(value)` of a regular expression, or of `Date.parse`. -/
def demand (test : List Char → Bool) (error : String) (value : JsValue) : Except String Unit := do
  let text ← orTypeError (JsValue.toText? runtime.format value)
  require (test text) error

/-- The same of a member that can be left out. -/
def demandIfDefined (test : List Char → Bool) (error : String) (value : JsValue) :
    Except String Unit :=
  if JsValue.isUndefined value then .ok () else demand runtime test error value

/-- `GOVERNANCE_EVIDENCE_INVALID`. -/
def invalidEvidence : String := "GOVERNANCE_EVIDENCE_INVALID"

def sensitiveEvidence : String := "GOVERNANCE_EVIDENCE_SENSITIVE"

def evidenceKeys : List String :=
  ["schemaVersion", "generatedAt", "environment", "ceremony", "status", "correlationId", "commitSha",
   "migrationVersion", "actorHashes", "reviewerSignOff", "records"]

def recordKeys : List String :=
  ["type", "status", "reference", "timestamp", "expectedOutcome", "actualOutcome", "auditEventIds",
   "notificationIds", "approvalId", "supportSessionId", "resourceVersion", "artifacts", "details"]

def ceremonies : List String :=
  ["platform-owner-bootstrap", "support-session", "controlled-approval", "invariants",
   "managed-preflight", "notification-validation", "invalidation-validation", "dependency-report",
   "manual-accessibility", "recovery-drill"]

def evidenceStatuses : List String := ["passed", "failed", "pending"]

/-- One of `artifacts`. -/
def artifactChecks (artifact : JsValue) : Except String Unit := do
  keysWithin ["kind", "reference", "sanitized"] invalidEvidence artifact
  require (isOneOf ["screenshot", "json"] (JsValue.get artifact "kind")) invalidEvidence
  require (JsValue.boolean? (JsValue.get artifact "sanitized") = some true) invalidEvidence
  demand runtime safeReference.test invalidEvidence (JsValue.get artifact "reference")

/-- One of the entries of `details`. -/
def detailAllowed (entry : String × JsValue) : Bool :=
  !sensitiveKey entry.1.toList && safeReference.test entry.1.toList &&
    match entry.2 with
    | .string value => safeText.test value.toList && decide (value.length ≤ 200)
    | .atom (.nonFinite _) => false
    | _ => true

/-- `[...(value ?? [])]`. -/
def spread (value : JsValue) : Except String (List JsValue) :=
  if JsValue.isNullish value then .ok [] else orTypeError (JsValue.iterated? value)

/-- `value ?? []`, of which a method is called. -/
def itemsOrNone (value : JsValue) : Except String (List JsValue) :=
  if JsValue.isNullish value then .ok [] else orTypeError (JsValue.items? value)

/-- `Object.entries(value ?? {})`. -/
def entriesOrNone (value : JsValue) : List (String × JsValue) := (JsValue.entries? value).getD []

/-- `Number.isSafeInteger(value)`, of a member that can be left out. -/
def isVersionOrUndefined (value : JsValue) : Bool :=
  JsValue.isUndefined value || (JsValue.number? value).any Double.isSafeInteger

/-- One of `records`. -/
def recordChecks (record : JsValue) : Except String Unit := do
  keysWithin recordKeys invalidEvidence record
  require (isOneOf evidenceStatuses (JsValue.get record "status")) invalidEvidence
  demand runtime safeReference.test invalidEvidence (JsValue.get record "type")
  demandIfDefined runtime safeReference.test invalidEvidence (JsValue.get record "reference")
  demand runtime safeText.test invalidEvidence (JsValue.get record "expectedOutcome")
  demand runtime safeText.test invalidEvidence (JsValue.get record "actualOutcome")
  demandIfDefined runtime safeReference.test invalidEvidence (JsValue.get record "approvalId")
  demandIfDefined runtime safeReference.test invalidEvidence (JsValue.get record "supportSessionId")
  require (isVersionOrUndefined (JsValue.get record "resourceVersion")) invalidEvidence
  let auditEventIds ← spread (JsValue.get record "auditEventIds")
  let notificationIds ← spread (JsValue.get record "notificationIds")
  (auditEventIds ++ notificationIds).forM (demand runtime safeReference.test invalidEvidence)
  let artifacts ← itemsOrNone (JsValue.get record "artifacts")
  artifacts.forM (artifactChecks runtime)
  demand runtime runtime.isDate invalidEvidence (JsValue.get record "timestamp")
  require (∀ entry ∈ entriesOrNone (JsValue.get record "details"), detailAllowed entry)
    sensitiveEvidence

/-- `reviewerSignOff`, which can be `null`. -/
def signOffTextChecks (value : JsValue) : Except String Unit :=
  match value with
  | .atom .null => .ok ()
  | value => demand runtime safeText.test invalidEvidence value

/-- The checks of `validateGovernanceEvidence`. -/
def evidenceChecks (evidence : JsValue) : Except String Unit := do
  keysWithin evidenceKeys invalidEvidence evidence
  require (isVersionOne (JsValue.get evidence "schemaVersion")) invalidEvidence
  require (isOneOf ["integration", "staging"] (JsValue.get evidence "environment")) invalidEvidence
  require (isOneOf ceremonies (JsValue.get evidence "ceremony")) invalidEvidence
  require (isOneOf evidenceStatuses (JsValue.get evidence "status")) invalidEvidence
  demand runtime runtime.isDate invalidEvidence (JsValue.get evidence "generatedAt")
  demand runtime safeReference.test invalidEvidence (JsValue.get evidence "correlationId")
  demand runtime commitHash.test invalidEvidence (JsValue.get evidence "commitSha")
  demand runtime safeReference.test invalidEvidence (JsValue.get evidence "migrationVersion")
  let actorHashes ← orTypeError (JsValue.items? (JsValue.get evidence "actorHashes"))
  actorHashes.forM (demand runtime sha256Hash.test invalidEvidence)
  signOffTextChecks runtime (JsValue.get evidence "reviewerSignOff")
  let records ← orTypeError (JsValue.iterated? (JsValue.get evidence "records"))
  records.forM (recordChecks runtime)
  require (sensitiveText (JsValue.stringify runtime.format evidence) = false) sensitiveEvidence

/-- `validateGovernanceEvidence`. -/
def validateGovernanceEvidence (evidence : JsValue) : Except String JsValue := do
  evidenceChecks runtime evidence
  return evidence

/-- `GOVERNANCE_SIGN_OFF_INVALID`. -/
def invalidSignOff : String := "GOVERNANCE_SIGN_OFF_INVALID"

def signOffKeys : List String :=
  ["schemaVersion", "environment", "ceremony", "status", "commitSha", "migrationVersion",
   "correlationId", "evidenceSha256", "operatorHash", "reviewerHash", "operatorSignatureReference",
   "reviewerSignatureReference", "externalApprovalReference", "signedAt", "deviations", "blockers",
   "riskReferences"]

/-- `===`, of two values that are no objects and no numbers. -/
def sameText (first second : JsValue) : Bool :=
  match JsValue.text? first, JsValue.text? second with
  | some one, some other => one == other
  | _, _ => false

/-- `validateReferences`. -/
def referenceChecks (value : JsValue) : Except String (List JsValue) := do
  let items ← orTypeError (JsValue.items? value)
  items.forM (demand runtime signOffReference.test invalidSignOff)
  return items

/-- The checks of `validateGovernanceSignOff`. -/
def signOffChecks (signOff : JsValue) : Except String Unit := do
  keysWithin signOffKeys invalidSignOff signOff
  require (isVersionOne (JsValue.get signOff "schemaVersion")) invalidSignOff
  require (isOneOf ["staging"] (JsValue.get signOff "environment")) invalidSignOff
  require (isOneOf ["bootstrap", "support", "approval", "knowledge", "recovery", "managed-validation"]
    (JsValue.get signOff "ceremony")) invalidSignOff
  require (isOneOf ["passed", "failed"] (JsValue.get signOff "status")) invalidSignOff
  demand runtime commitHash.test invalidSignOff (JsValue.get signOff "commitSha")
  demand runtime signOffReference.test invalidSignOff (JsValue.get signOff "migrationVersion")
  demand runtime signOffReference.test invalidSignOff (JsValue.get signOff "correlationId")
  demand runtime sha256Hash.test invalidSignOff (JsValue.get signOff "evidenceSha256")
  demand runtime sha256Hash.test invalidSignOff (JsValue.get signOff "operatorHash")
  demand runtime sha256Hash.test invalidSignOff (JsValue.get signOff "reviewerHash")
  require (sameText (JsValue.get signOff "operatorHash") (JsValue.get signOff "reviewerHash") = false)
    invalidSignOff
  demand runtime signOffReference.test invalidSignOff
    (JsValue.get signOff "operatorSignatureReference")
  demand runtime signOffReference.test invalidSignOff
    (JsValue.get signOff "reviewerSignatureReference")
  demand runtime signOffReference.test invalidSignOff
    (JsValue.get signOff "externalApprovalReference")
  demand runtime runtime.isDate invalidSignOff (JsValue.get signOff "signedAt")
  let deviations ← referenceChecks runtime (JsValue.get signOff "deviations")
  let blockers ← referenceChecks runtime (JsValue.get signOff "blockers")
  let _ ← referenceChecks runtime (JsValue.get signOff "riskReferences")
  require (isOneOf ["passed"] (JsValue.get signOff "status") = true →
    blockers.length = 0 ∧ deviations.length = 0) "GOVERNANCE_SIGN_OFF_BLOCKED"

/-- `validateGovernanceSignOff`. -/
def validateGovernanceSignOff (signOff : JsValue) : Except String JsValue := do
  signOffChecks runtime signOff
  return signOff

end Checks

/-! ## Envelopes -/

/-- Evidence or a sign-off: the fields of the envelope, the end of the name of a file, the
checks, and the errors. -/
structure EnvelopeKind where
  field : String
  hashField : String
  fileSuffix : String
  checks : EvidenceRuntime → JsValue → Except String Unit
  invalid : String
  tampered : String
  pathInvalid : String

def evidenceEnvelope : EnvelopeKind where
  field := "evidence"
  hashField := "evidenceSha256"
  fileSuffix := ".evidence.json"
  checks := evidenceChecks
  invalid := "GOVERNANCE_EVIDENCE_ENVELOPE_INVALID"
  tampered := "GOVERNANCE_EVIDENCE_TAMPERED"
  pathInvalid := "GOVERNANCE_EVIDENCE_PATH_INVALID"

def signOffEnvelope : EnvelopeKind where
  field := "signOff"
  hashField := "signOffSha256"
  fileSuffix := ".signoff.json"
  checks := signOffChecks
  invalid := "GOVERNANCE_SIGN_OFF_INVALID"
  tampered := "GOVERNANCE_SIGN_OFF_TAMPERED"
  pathInvalid := "GOVERNANCE_SIGN_OFF_PATH_INVALID"

/-- What is written. -/
structure EvidenceFile where
  output : List Char
  text : List Char
  sha256 : JsValue

/-- The file name behind its first letter: `[a-z0-9][a-z0-9._-]{2,120}`. -/
def fileNamePattern : Pattern :=
  ⟨fun c => c.isDigit || c.isLower, fun c => c.isDigit || c.isLower || "._-".toList.contains c, 2, 120⟩

/-- The whole name, with its end. -/
def isFileName (suffix fileName : List Char) : Bool :=
  suffix.isSuffixOf fileName &&
    fileNamePattern.test (fileName.take (fileName.length - suffix.length))

/-- `path.resolve(root, fileName)`, of a root that is resolved and a name without a slash. -/
def resolveInRoot (root fileName : List Char) : List Char :=
  if root = ['/'] then '/' :: fileName else root ++ '/' :: fileName

namespace EnvelopeKind

variable (kind : EnvelopeKind) (runtime : EvidenceRuntime)

/-- `governanceEvidenceHash(canonicalGovernanceJson(value))`. -/
def hash (value : JsValue) : Except String String := do
  let canonical ← orTypeError (canonicalGovernanceJson runtime.format value)
  return runtime.sha256 canonical

/-- `createGovernanceEvidenceEnvelope` and `createGovernanceSignOffEnvelope`. -/
def create (value : JsValue) : Except String JsValue := do
  kind.checks runtime value
  let sha256 ← hash runtime value
  return .object [("envelopeVersion", .atom (.number Double.one)), (kind.field, value),
    (kind.hashField, .string sha256)]

/-- `verifyGovernanceEvidenceEnvelope` and `verifyGovernanceSignOffEnvelope`. -/
def verify (envelope : JsValue) : Except String JsValue := do
  keysWithin ["envelopeVersion", kind.field, kind.hashField] kind.invalid envelope
  require (isVersionOne (JsValue.get envelope "envelopeVersion")) kind.invalid
  demand runtime sha256Hash.test kind.invalid (JsValue.get envelope kind.hashField)
  kind.checks runtime (JsValue.get envelope kind.field)
  let actual ← hash runtime (JsValue.get envelope kind.field)
  require (JsValue.text? (JsValue.get envelope kind.hashField) = some actual) kind.tampered
  return envelope

/-- `writeGovernanceEvidenceEnvelope` and `writeGovernanceSignOff`, into a file that is not
there yet. -/
def write (root fileName : List Char) (value : JsValue) : Except String EvidenceFile := do
  require (isFileName kind.fileSuffix.toList fileName) kind.pathInvalid
  let output := resolveInRoot root fileName
  require ((root ++ ['/']).isPrefixOf output) kind.pathInvalid
  let envelope ← kind.create runtime value
  let canonical ← orTypeError (canonicalGovernanceJson runtime.format envelope)
  return { output := output, text := canonical ++ ['\n'],
           sha256 := JsValue.get envelope kind.hashField }

/-- `verifyGovernanceEvidenceFile` and `verifyGovernanceSignOffFile`, of the text of a file. -/
def verifyFile (source : List Char) : Except String JsValue := do
  match JsValue.parseJson runtime.format source with
  | some parsed => kind.verify runtime parsed
  | none => .error "SyntaxError"

end EnvelopeKind

end AvantimePlatform.Governance
