import AvantimePlatform.Lib.Checked
import AvantimePlatform.Lib.JsNumber
import AvantimePlatform.Lib.Text

/-!
# Approval policies

`governance-approval-policy.ts`: the actions that need a second person, the policy
of each, the step-up check, and the fingerprint of a request.  The fingerprint is a
digest of the request in canonical form; the digest (SHA-256 of the JSON text) is a
parameter.
-/

namespace AvantimePlatform.Governance

open AvantimePlatform.Checked

inductive GovernanceApprovalAction where
  | platformOwnerAssign
  | platformOwnerRemove
  | organizationLastOwnerTransfer
  | organizationRequiredSsoEmergencyDisable
  | organizationBreakGlassDisable
  | identityProviderDelete
  | platformAuditExport
  | organizationAuditExport
  | bulkTenantExport
  | knowledgeVisibilityPublic
  | crossTenantSupportDestructiveAction
deriving DecidableEq

inductive GovernanceScope where
  | platform | organization
deriving DecidableEq

/-- `GovernanceApprovalPolicy`, as far as requests, decisions and executions read it. -/
structure GovernanceApprovalPolicy where
  actionType : GovernanceApprovalAction
  scope : GovernanceScope
  minimumApprovals : Nat
  ttlSeconds : Nat
  confirmationPhrase : String
  safeParameterKeys : List String

/-- `policy`: what all policies have in common. -/
def policy (actionType : GovernanceApprovalAction) (scope : GovernanceScope)
    (confirmationPhrase : String) (safeParameterKeys : List String) :
    GovernanceApprovalPolicy where
  actionType := actionType
  scope := scope
  minimumApprovals := 1
  ttlSeconds := 10 * 60
  confirmationPhrase := confirmationPhrase
  safeParameterKeys := safeParameterKeys

/-- `GOVERNANCE_APPROVAL_POLICIES`. -/
def governanceApprovalPolicies : GovernanceApprovalAction → GovernanceApprovalPolicy
  | .platformOwnerAssign =>
    policy .platformOwnerAssign .platform "ASSIGN PLATFORM OWNER"
      ["targetUserId", "assignmentVersion"]
  | .platformOwnerRemove =>
    policy .platformOwnerRemove .platform "REMOVE PLATFORM OWNER"
      ["targetUserId", "assignmentVersion"]
  | .organizationLastOwnerTransfer =>
    policy .organizationLastOwnerTransfer .organization "TRANSFER LAST OWNER"
      ["sourceMembershipId", "targetMembershipId"]
  | .organizationRequiredSsoEmergencyDisable =>
    policy .organizationRequiredSsoEmergencyDisable .organization "EMERGENCY DISABLE SSO"
      ["policyVersion"]
  | .organizationBreakGlassDisable =>
    policy .organizationBreakGlassDisable .organization "DISABLE BREAK GLASS" ["policyVersion"]
  | .identityProviderDelete =>
    policy .identityProviderDelete .organization "DELETE IDENTITY PROVIDER"
      ["providerId", "configurationVersion"]
  | .platformAuditExport =>
    policy .platformAuditExport .platform "EXPORT PLATFORM AUDIT" ["from", "to", "format"]
  | .organizationAuditExport =>
    policy .organizationAuditExport .organization "EXPORT ORGANIZATION AUDIT"
      ["from", "to", "format"]
  | .bulkTenantExport =>
    policy .bulkTenantExport .organization "EXPORT TENANT DATA" ["exportKind", "format"]
  | .knowledgeVisibilityPublic =>
    policy .knowledgeVisibilityPublic .organization "PUBLISH ORGANIZATION KNOWLEDGE"
      ["articleId", "articleVersion"]
  | .crossTenantSupportDestructiveAction =>
    policy .crossTenantSupportDestructiveAction .platform "EXECUTE SUPPORT ACTION"
      ["supportSessionId", "operation", "resourceId", "resourceVersion"]

/-- `getGovernanceApprovalPolicy`, at the action types that the column can hold. -/
def getGovernanceApprovalPolicy (actionType : GovernanceApprovalAction) :
    Option GovernanceApprovalPolicy :=
  some (governanceApprovalPolicies actionType)

theorem minimumApprovals_eq_one (actionType : GovernanceApprovalAction) :
    (governanceApprovalPolicies actionType).minimumApprovals = 1 := by
  cases actionType <;> rfl

/-! ## Parameters -/

/-- `string | number | boolean | null`. -/
inductive SafeValue where
  | string (value : String)
  | number (value : JsNumber)
  | boolean (value : Bool)
  | null
deriving DecidableEq

/-- A version as a parameter. -/
def SafeValue.version (value : Int) : SafeValue := .number (.finite value)

/-- `Record<string, string | number | boolean | null>`: no key twice. -/
structure SafeParameters where
  entries : List (String × SafeValue)
  nodup : (entries.map Prod.fst).Nodup
deriving DecidableEq

namespace SafeParameters

/-- `Object.keys`. -/
def keys (parameters : SafeParameters) : List String := parameters.entries.map Prod.fst

/-- `parameters[key]`. -/
def get (parameters : SafeParameters) (key : String) : Option SafeValue :=
  (parameters.entries.find? fun entry => entry.1 == key).map Prod.snd

end SafeParameters

/-! ## The fingerprint -/

structure FingerprintInput where
  actionType : GovernanceApprovalAction
  scope : GovernanceScope
  companyId : Option String
  resourceId : Option String
  expectedVersion : Option Int
  safeParameters : SafeParameters
  requesterId : String
  expiresAt : Int
deriving DecidableEq

/-- The entries in the order of their keys. -/
def canonicalObject (parameters : SafeParameters) : List (String × SafeValue) :=
  parameters.entries.insertionSort fun left right => left.1 ≤ right.1

/-- What is written as JSON and hashed. -/
structure CanonicalApproval where
  actionType : GovernanceApprovalAction
  scope : GovernanceScope
  companyId : Option String
  resourceId : Option String
  expectedVersion : Option Int
  safeParameters : List (String × SafeValue)
  requesterId : String
  expiresAt : Int
deriving DecidableEq

def FingerprintInput.canonical (input : FingerprintInput) : CanonicalApproval where
  actionType := input.actionType
  scope := input.scope
  companyId := input.companyId
  resourceId := input.resourceId
  expectedVersion := input.expectedVersion
  safeParameters := canonicalObject input.safeParameters
  requesterId := input.requesterId
  expiresAt := input.expiresAt

/-- `governanceApprovalFingerprint`, over a digest. -/
def governanceApprovalFingerprint (digest : CanonicalApproval → String)
    (input : FingerprintInput) : Except String String :=
  match getGovernanceApprovalPolicy input.actionType with
  | none => .error "UNKNOWN_APPROVAL_ACTION"
  | some approvalPolicy => do
    require (approvalPolicy.scope = input.scope) "UNKNOWN_APPROVAL_ACTION"
    require (input.safeParameters.keys.length = approvalPolicy.safeParameterKeys.length ∧
      ∀ key ∈ input.safeParameters.keys, key ∈ approvalPolicy.safeParameterKeys)
      "UNSAFE_APPROVAL_PARAMETER"
    require (input.scope = .organization → ∃ companyId ∈ input.companyId, companyId ≠ "")
      "APPROVAL_ORGANIZATION_REQUIRED"
    return digest input.canonical

/-! ## Step-up -/

/-- `AppSession`, as far as approvals read it.  An absent `mfaSatisfied` is `false`, an
absent `authenticationAt` is 0. -/
structure AppSession where
  userId : String
  companyId : Option String
  mfaSatisfied : Bool
  authenticationAt : Int
deriving DecidableEq

/-- `approvalStepUpSatisfied`. -/
def approvalStepUpSatisfied (session : AppSession) (now : Int) : Bool :=
  session.mfaSatisfied && decide (0 < session.authenticationAt) &&
    decide (session.authenticationAt ≤ now) && decide (now - session.authenticationAt ≤ 600000)

end AvantimePlatform.Governance
