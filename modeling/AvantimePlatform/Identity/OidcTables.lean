import AvantimePlatform.Identity.Providers
import AvantimePlatform.Lib.Checked
import AvantimePlatform.Lib.Text
import AvantimePlatform.Lib.Versioned

/-!
# Providers, authorization requests and sign-on policies

The rows that the operations on OIDC providers share, and each query and update of them.
An operation reads its provider, and writes it under the version that its caller expects.
Every write of a provider raises its version.
-/

namespace AvantimePlatform.Identity

open AvantimePlatform AvantimePlatform.Checked

/-! ## The rows -/

inductive OidcAuthorizationPurpose where
  | login | link | providerValidation
deriving DecidableEq

/-- A row of `OidcAuthorizationRequest`. -/
structure OidcAuthorizationRequest where
  id : Nat
  providerId : Nat
  userId : Option String
  purpose : OidcAuthorizationPurpose := .login
  stateHash : String
  redirectUri : String
  expiresAt : Int
  consumedAt : Option Int := none
  validatedAt : Option Int := none
deriving DecidableEq

inductive OrganizationSsoRequirement where
  | disabled | optional | required
deriving DecidableEq

/-- The sign-on part of a row of `OrganizationIdentityPolicy`. -/
structure OrganizationIdentityPolicy where
  companyId : String
  ssoRequirement : OrganizationSsoRequirement := .disabled
  ssoProviderId : Option Nat := none
  ssoEnforcementAt : Option Int := none
  ssoGracePeriodDays : Int := 0
  localLoginAllowed : Bool := true
  configurationVersion : Int := 1
deriving DecidableEq

structure OidcTables where
  serial : Nat := 0
  providers : List IdentityProvider := []
  authorizationRequests : List OidcAuthorizationRequest := []
  policies : List OrganizationIdentityPolicy := []
deriving DecidableEq

namespace OidcTables

def provider? (db : OidcTables) (id : Nat) : Option IdentityProvider :=
  KeyedList.find IdentityProvider.id id db.providers

def policy? (db : OidcTables) (companyId : String) : Option OrganizationIdentityPolicy :=
  KeyedList.find OrganizationIdentityPolicy.companyId companyId db.policies

/-- `loadProvider`. -/
def loadProvider (db : OidcTables) (companyId : String) (id : Nat) :
    Except String IdentityProvider :=
  match db.provider? id with
  | none => .error "PROVIDER_NOT_FOUND"
  | some row =>
    if row.companyId = some companyId ∧ row.kind = .oidc then .ok row
    else .error "PROVIDER_NOT_FOUND"

/-- An update of a provider of the company at the expected version, which also has `p`. -/
def updateProvider (db : OidcTables) (companyId : String) (id : Nat) (expectedVersion : Int)
    (p : IdentityProvider → Bool) (f : IdentityProvider → IdentityProvider) :
    Except String OidcTables :=
  match Versioned.guardedWrite IdentityProvider.id IdentityProvider.configurationVersion id
      expectedVersion (fun row => row.companyId = some companyId && p row) f db.providers with
  | none => .error "CONFIGURATION_VERSION_CONFLICT"
  | some rows => .ok { db with providers := rows }

end OidcTables

/-! ## Sessions -/

/-- The session of the caller.  `mayManageProviders` and `mayManagePolicy` are what
`evaluateOrganizationPermission` decides for `identity.providers.manage` and
`identity.policy.manage`. -/
structure OidcSession where
  userId : String
  companyId : Option String
  mayManageProviders : Bool := true
  mayManagePolicy : Bool := true
  mfaSatisfied : Bool := true
  authenticationAt : Option Int := none
deriving DecidableEq

/-- `requirePermissionTenant`. -/
def OidcSession.requirePermissionTenant (session : OidcSession) (allowed : Bool) :
    Except String String :=
  match session.companyId with
  | none => .error "ADMIN_TENANT_REQUIRED"
  | some companyId =>
    if allowed = true ∧ companyId ≠ "" then .ok companyId else .error "ADMIN_TENANT_REQUIRED"

/-! ## Creating and changing a provider -/

/-- What `validateOidcProviderConfigurationInput` returns, with the fields that are written
as they were given.  `clientSecretRefEncrypted` is the encrypted reference, if one was
given. -/
structure OidcProviderConfiguration where
  key : String
  oidcProfile : OidcProviderProfile
  issuer : String
  discoveryUrl : String
  clientId : String
  clientSecretRefEncrypted : Option String
  redirectUri : String
  allowedDomains : List String
  organizationMappingMode : OidcOrganizationMappingMode
  tenantMappingPolicy : TenantMappingPolicy
  claimMapping : OidcClaimMapping
  sessionPolicy : OidcProviderSessionPolicy
deriving DecidableEq

/-- The fields that a validation depends on, under the reference `reference`. -/
def OidcProviderConfiguration.tenantConfiguration (configuration : OidcProviderConfiguration)
    (reference : Option String) : OidcTenantConfiguration where
  issuer := some configuration.issuer
  clientId := some configuration.clientId
  clientSecretRefEncrypted := reference
  allowedDomains := configuration.allowedDomains
  organizationMappingMode := configuration.organizationMappingMode
  tenantMappingPolicy := configuration.tenantMappingPolicy
  claimMapping := configuration.claimMapping

structure CreateProviderInput where
  session : OidcSession
  configuration : OidcProviderConfiguration
deriving DecidableEq

/-- The row that `createOidcProvider` creates. -/
def OidcProviderConfiguration.created (configuration : OidcProviderConfiguration) (id : Nat)
    (companyId : String) : IdentityProvider where
  id := id
  key := configuration.key
  oidcProfile := configuration.oidcProfile
  companyId := some companyId
  tenantConfiguration :=
    configuration.tenantConfiguration configuration.clientSecretRefEncrypted
  discoveryUrl := some configuration.discoveryUrl
  redirectUri := some configuration.redirectUri
  sessionPolicy := configuration.sessionPolicy

/-- `createOidcProvider`.  The key is unique. -/
def CreateProviderInput.create (db : OidcTables) (input : CreateProviderInput) :
    Except String OidcTables := do
  let companyId ← input.session.requirePermissionTenant input.session.mayManageProviders
  require (∀ row ∈ db.providers, row.key ≠ input.configuration.key) "P2002"
  return { db with
    serial := db.serial + 1
    providers := db.providers ++ [input.configuration.created db.serial companyId] }

structure UpdateProviderInput where
  session : OidcSession
  providerId : Nat
  expectedVersion : Int
  configuration : OidcProviderConfiguration
  controlledIssuerRevalidation : Bool
deriving DecidableEq

/-- The first half of `updateOidcProvider`. -/
def UpdateProviderInput.load (db : OidcTables) (input : UpdateProviderInput) :
    Except String IdentityProvider := do
  let companyId ← input.session.requirePermissionTenant input.session.mayManageProviders
  let current ← db.loadProvider companyId input.providerId
  require (current.configurationVersion = input.expectedVersion) "CONFIGURATION_VERSION_CONFLICT"
  require (current.tenantConfiguration.issuer = some input.configuration.issuer ∨
    input.controlledIssuerRevalidation = true) "ISSUER_REVALIDATION_REQUIRED"
  return current

/-- The row that `updateOidcProvider` leaves, when it has read `current`. -/
def OidcProviderConfiguration.updated (configuration : OidcProviderConfiguration)
    (current row : IdentityProvider) : IdentityProvider :=
  { row with
    key := configuration.key
    oidcProfile := configuration.oidcProfile
    tenantConfiguration :=
      configuration.tenantConfiguration (configuration.clientSecretRefEncrypted.orElse fun _ =>
        current.tenantConfiguration.clientSecretRefEncrypted)
    discoveryUrl := some configuration.discoveryUrl
    redirectUri := some configuration.redirectUri
    sessionPolicy := configuration.sessionPolicy
    authorizationEndpoint := none
    tokenEndpoint := none
    jwksUri := none
    metadataExpiresAt := none
    validationStatus :=
      if current.tenantConfiguration.issuer ≠ some configuration.issuer then .revalidationRequired
      else .notValidated
    validationEvidenceRef := none
    enabled := false
    configurationVersion := row.configurationVersion + 1 }

/-- The second half of `updateOidcProvider`. -/
def UpdateProviderInput.write (db : OidcTables) (input : UpdateProviderInput)
    (current : IdentityProvider) : Except String OidcTables := do
  let companyId ← input.session.requirePermissionTenant input.session.mayManageProviders
  require (∀ row ∈ db.providers, row.key = input.configuration.key → row.id = current.id) "P2002"
  db.updateProvider companyId current.id input.expectedVersion (fun _ => true)
    (input.configuration.updated current)

/-! ## Switching a provider on and off -/

structure SetEnabledInput where
  session : OidcSession
  providerId : Nat
  enabled : Bool
  expectedVersion : Int
  now : Int
deriving DecidableEq

/-- What a provider needs to be used: endpoints and a client secret. -/
def IdentityProvider.HasContract (row : IdentityProvider) : Prop :=
  isText row.authorizationEndpoint = true ∧ isText row.tokenEndpoint = true ∧
    isText row.jwksUri = true ∧ isText row.tenantConfiguration.clientSecretRefEncrypted = true

instance (row : IdentityProvider) : Decidable row.HasContract :=
  inferInstanceAs (Decidable (_ ∧ _))

/-- `metadataExpiresAt` is there and after `now`. -/
def IdentityProvider.hasFreshMetadata (row : IdentityProvider) (now : Int) : Bool :=
  row.metadataExpiresAt.any fun expiresAt => now < expiresAt

/-- The first part of `setOidcProviderEnabled`. -/
def SetEnabledInput.load (db : OidcTables) (input : SetEnabledInput) :
    Except String IdentityProvider := do
  let companyId ← input.session.requirePermissionTenant input.session.mayManageProviders
  let provider ← db.loadProvider companyId input.providerId
  require (provider.configurationVersion = input.expectedVersion) "CONFIGURATION_VERSION_CONFLICT"
  require (input.enabled = true → provider.validationStatus = .tenantValidated ∧
    provider.HasContract ∧ provider.hasFreshMetadata input.now = true)
    "PROVIDER_VALIDATION_REQUIRED"
  return provider

/-- The update of `setOidcProviderEnabled`. -/
def IdentityProvider.switched (enabled : Bool) (row : IdentityProvider) : IdentityProvider :=
  { row with enabled := enabled, configurationVersion := row.configurationVersion + 1 }

/-- The last part of `setOidcProviderEnabled`. -/
def SetEnabledInput.write (db : OidcTables) (input : SetEnabledInput)
    (provider : IdentityProvider) : Except String OidcTables := do
  let companyId ← input.session.requirePermissionTenant input.session.mayManageProviders
  db.updateProvider companyId provider.id input.expectedVersion (fun _ => true)
    (IdentityProvider.switched input.enabled)

/-! ## Metadata -/

/-- `validHttpsUrl`.  `new URL` throws on the empty text. -/
structure UrlRules where
  validHttpsUrl : String → Bool
  validHttpsUrl_empty : validHttpsUrl "" = false

/-- What the discovery document of a provider says. -/
structure OidcMetadata where
  issuer : String
  authorizationEndpoint : String
  tokenEndpoint : String
  jwksUri : String
deriving DecidableEq

/-- `discoverOidcProvider` with `validateOidcProviderContract`, on the document it was
answered. -/
def discoverOidcProvider (urls : UrlRules) (provider : IdentityProvider) (metadata : OidcMetadata) :
    Except String OidcMetadata := do
  require (some metadata.issuer = provider.tenantConfiguration.issuer) "OIDC_DISCOVERY_MISMATCH"
  require (isSafeProviderKey provider.key = true ∧
    provider.tenantConfiguration.clientId.any (fun clientId =>
      clientId ≠ "" && Text.utf16Length clientId ≤ 300) = true ∧
    urls.validHttpsUrl metadata.issuer = true ∧
    urls.validHttpsUrl metadata.authorizationEndpoint = true ∧
    urls.validHttpsUrl metadata.tokenEndpoint = true ∧
    urls.validHttpsUrl metadata.jwksUri = true ∧
    provider.redirectUri.any urls.validHttpsUrl = true) "INVALID_PROVIDER_CONFIGURATION"
  return metadata

structure RefreshInput where
  session : OidcSession
  providerId : Nat
  expectedVersion : Int
  now : Int
deriving DecidableEq

/-- The first part of `refreshOidcProviderMetadata`. -/
def RefreshInput.load (db : OidcTables) (input : RefreshInput) : Except String IdentityProvider := do
  let companyId ← input.session.requirePermissionTenant input.session.mayManageProviders
  let provider ← db.loadProvider companyId input.providerId
  require (provider.configurationVersion = input.expectedVersion ∧
    isText provider.discoveryUrl = true ∧ isText provider.tenantConfiguration.issuer = true ∧
    isText provider.tenantConfiguration.clientId = true ∧ isText provider.redirectUri = true)
    "CONFIGURATION_VERSION_CONFLICT"
  return provider

def metadataLifetimeMs : Int := 24 * 60 * 60000

/-- `nextStatus`. -/
def OidcProviderValidationStatus.afterRefresh :
    OidcProviderValidationStatus → OidcProviderValidationStatus
  | .tenantValidated => .tenantValidated
  | _ => .metadataValidated

/-- The row that `refreshOidcProviderMetadata` leaves, when it has read `provider`. -/
def OidcMetadata.refreshed (metadata : OidcMetadata) (provider : IdentityProvider) (now : Int)
    (row : IdentityProvider) : IdentityProvider :=
  { row with
    authorizationEndpoint := some metadata.authorizationEndpoint
    tokenEndpoint := some metadata.tokenEndpoint
    jwksUri := some metadata.jwksUri
    metadataExpiresAt := some (now + metadataLifetimeMs)
    validationStatus := provider.validationStatus.afterRefresh
    configurationVersion := row.configurationVersion + 1 }

/-- The last part of `refreshOidcProviderMetadata`. -/
def RefreshInput.write (db : OidcTables) (input : RefreshInput) (provider : IdentityProvider)
    (metadata : OidcMetadata) : Except String OidcTables := do
  let companyId ← input.session.requirePermissionTenant input.session.mayManageProviders
  db.updateProvider companyId provider.id input.expectedVersion (fun _ => true)
    (metadata.refreshed provider input.now)

/-! ## The callback -/

/-- What `completeOidcCallback` is given.  `stateHash` is `hashOidcValue(state)`. -/
structure CallbackInput where
  stateHash : String
  redirectUri : String
  currentSession : Option OidcSession
  now : Int
deriving DecidableEq

/-- `providerEligible`. -/
def OidcAuthorizationRequest.isEligible (request : OidcAuthorizationRequest)
    (provider : IdentityProvider) : Bool :=
  if request.purpose = .providerValidation then
    !provider.enabled && provider.validationStatus = .metadataValidated
  else provider.enabled && provider.validationStatus = .tenantValidated

/-- The query of `consumeOidcAuthorization`, with its checks. -/
def CallbackInput.findRequest (db : OidcTables) (input : CallbackInput) :
    Except String (OidcAuthorizationRequest × IdentityProvider) := do
  match db.authorizationRequests.find? fun row => row.stateHash == input.stateHash with
  | none => .error "INVALID_OR_EXPIRED_STATE"
  | some request =>
    match db.provider? request.providerId with
    | none => .error "INVALID_OR_EXPIRED_STATE"
    | some provider =>
      require (request.isEligible provider = true ∧ request.consumedAt = none ∧
        input.now < request.expiresAt ∧ request.redirectUri = input.redirectUri)
        "INVALID_OR_EXPIRED_STATE"
      return (request, provider)

/-- An update of the requests that `p` selects, which has to find one. -/
def OidcTables.updateRequest (db : OidcTables) (p : OidcAuthorizationRequest → Bool)
    (f : OidcAuthorizationRequest → OidcAuthorizationRequest) (code : String) :
    Except String OidcTables := do
  require (db.authorizationRequests.countP p = 1) code
  return { db with authorizationRequests := KeyedList.updateMany p f db.authorizationRequests }

/-- The update of `consumeOidcAuthorization`. -/
def CallbackInput.consume (db : OidcTables) (input : CallbackInput)
    (request : OidcAuthorizationRequest) : Except String OidcTables :=
  db.updateRequest
    (fun row => row.id = request.id && row.consumedAt.isNone && input.now < row.expiresAt)
    (fun row => { row with consumedAt := some input.now }) "STATE_REPLAYED"

/-- The checks of `completeOidcCallback` on the provider it has read. -/
def IdentityProvider.isAvailable (row : IdentityProvider) : Bool :=
  isText row.companyId && isText row.tenantConfiguration.issuer &&
    isText row.tenantConfiguration.clientId && isText row.redirectUri && decide row.HasContract

/-- `ValidatedOidcIdentity`.  The email is the one that `normalizeIdentityEmail` gives. -/
structure ValidatedOidcIdentity where
  subject : String
  emailNormalized : String
  tenantId : Option String := none
  hostedDomain : Option String := none
deriving DecidableEq

/-- `stringArray(policy[key])`. -/
def TenantMappingPolicy.stringArray (policy : TenantMappingPolicy) (key : String) : List String :=
  match policy.lookup key with
  | some (.inr values) => values
  | _ => []

/-- A text that is there and one of `values`. -/
def isAmong (values : List String) (value : Option String) : Bool :=
  isText value && value.any fun text => values.contains text

/-- `validateOidcTenantMapping`. -/
def validateOidcTenantMapping (provider : IdentityProvider) (identity : ValidatedOidcIdentity) :
    Except String Unit := do
  let configuration := provider.tenantConfiguration
  let domains := configuration.allowedDomains.map Text.toLowerCase
  let hostedDomain := identity.hostedDomain.map Text.toLowerCase
  if provider.oidcProfile = .googleWorkspace then
    require (isAmong domains hostedDomain = true) "HOSTED_DOMAIN_NOT_ALLOWED"
  else
    require (domains = [] ∨ (emailDomain? identity.emailNormalized).getD "" ∈ domains)
      "EMAIL_DOMAIN_NOT_ALLOWED"
  match configuration.organizationMappingMode with
  | .static => return ()
  | .providerTenantClaim =>
    require (isAmong (configuration.tenantMappingPolicy.stringArray "allowedTenantIds")
      identity.tenantId = true) "PROVIDER_TENANT_NOT_ALLOWED"
  | .hostedDomain =>
    let allowed := configuration.tenantMappingPolicy.stringArray "allowedHostedDomains"
    require (isAmong ((if allowed = [] then domains else allowed).map Text.toLowerCase)
      hostedDomain = true) "HOSTED_DOMAIN_NOT_ALLOWED"
  | .claim =>
    require (isAmong (configuration.tenantMappingPolicy.stringArray "allowedValues")
      identity.tenantId = true) "ORGANIZATION_CLAIM_NOT_ALLOWED"

def validationSessionMaxAgeMs : Int := 10 * 60000

/-- The session that a validation needs. -/
def CallbackInput.validationSession (input : CallbackInput) (request : OidcAuthorizationRequest)
    (provider : IdentityProvider) : Except String OidcSession :=
  match input.currentSession with
  | none => .error "VALIDATION_SESSION_MISMATCH"
  | some session =>
    if session.mayManageProviders = true ∧ some session.userId = request.userId ∧
        session.companyId = provider.companyId ∧ session.mfaSatisfied = true ∧
        session.authenticationAt.any (fun at' =>
          at' ≠ 0 && input.now - at' ≤ validationSessionMaxAgeMs) = true
    then .ok session
    else .error "VALIDATION_SESSION_MISMATCH"

/-- The update that marks a validation request. -/
def CallbackInput.mark (db : OidcTables) (input : CallbackInput)
    (request : OidcAuthorizationRequest) (session : OidcSession) : Except String OidcTables :=
  db.updateRequest
    (fun row => row.id = request.id && row.providerId = request.providerId &&
      row.userId = some session.userId && row.purpose = .providerValidation &&
      row.consumedAt.isSome && row.validatedAt.isNone)
    (fun row => { row with validatedAt := some input.now }) "VALIDATION_REPLAYED"

/-- The checks of `recordOidcTenantValidationFromCallback`.  `snapshot` is the provider that
the callback has validated with, `loaded` the one that is read here. -/
def CallbackInput.findAuthorization (db : OidcTables) (input : CallbackInput)
    (request : OidcAuthorizationRequest) (snapshot loaded : IdentityProvider)
    (session : OidcSession) : Except String Unit :=
  require ((∃ row ∈ db.authorizationRequests, row.id = request.id ∧ row.providerId = loaded.id ∧
        row.userId = some session.userId ∧ row.purpose = .providerValidation ∧
        row.consumedAt.isSome = true ∧ row.validatedAt.isSome = true ∧ input.now < row.expiresAt) ∧
      loaded.configurationVersion = snapshot.configurationVersion ∧
      loaded.validationStatus = .metadataValidated ∧ loaded.hasFreshMetadata input.now = true ∧
      isText loaded.tenantConfiguration.clientSecretRefEncrypted = true)
    "EXTERNAL_VALIDATION_PREREQUISITES_MISSING"

/-- The row that `recordOidcTenantValidationFromCallback` leaves. -/
def IdentityProvider.validated (evidenceReference : String) (row : IdentityProvider) :
    IdentityProvider :=
  { row with
    validationStatus := .tenantValidated
    validationEvidenceRef := some evidenceReference
    configurationVersion := row.configurationVersion + 1 }

/-- Its update. -/
def OidcSession.record (session : OidcSession) (db : OidcTables)
    (request : OidcAuthorizationRequest) (snapshot loaded : IdentityProvider) :
    Except String OidcTables := do
  let companyId ← session.requirePermissionTenant session.mayManageProviders
  db.updateProvider companyId loaded.id snapshot.configurationVersion
    (fun row => row.validationStatus = .metadataValidated)
    (IdentityProvider.validated s!"oidc-validation:{request.id}")

/-! ## The sign-on policy -/

/-- The times are valid, and the numbers safe integers. -/
structure SsoPolicyInput where
  session : OidcSession
  requirement : OrganizationSsoRequirement
  providerId : Option Nat
  enforcementAt : Option Int
  gracePeriodDays : Int
  localLoginAllowed : Bool
  expectedVersion : Int
deriving DecidableEq

/-- The checks of `updateOrganizationSsoPolicy` before its first query. -/
def SsoPolicyInput.checks (input : SsoPolicyInput) : Except String String := do
  let companyId ← input.session.requirePermissionTenant input.session.mayManagePolicy
  require (0 ≤ input.gracePeriodDays ∧ input.gracePeriodDays ≤ 365 ∧ 0 ≤ input.expectedVersion ∧
    (input.requirement = .disabled → input.providerId = none) ∧
    (input.requirement ≠ .disabled → input.providerId ≠ none) ∧
    (input.requirement = .required → input.localLoginAllowed = false)) "INVALID_SSO_POLICY"
  return companyId

/-- Its check of the provider. -/
def SsoPolicyInput.load (db : OidcTables) (input : SsoPolicyInput) : Except String Unit := do
  let companyId ← input.checks
  match input.providerId with
  | none => return ()
  | some providerId =>
    let provider ← db.loadProvider companyId providerId
    require (provider.validationStatus = .tenantValidated ∧
      (input.requirement = .required → provider.enabled = true)) "PROVIDER_VALIDATION_REQUIRED"

/-- Its query of the policy: whether there is one. -/
def SsoPolicyInput.findPolicy (db : OidcTables) (input : SsoPolicyInput) : Except String Bool := do
  let companyId ← input.checks
  let existing := db.policy? companyId
  require ((existing.map (·.configurationVersion)).getD 0 = input.expectedVersion)
    "CONFIGURATION_VERSION_CONFLICT"
  return existing.isSome

/-- The fields that `updateOrganizationSsoPolicy` writes. -/
def SsoPolicyInput.written (input : SsoPolicyInput) (row : OrganizationIdentityPolicy) :
    OrganizationIdentityPolicy :=
  { row with
    ssoRequirement := input.requirement
    ssoProviderId := input.providerId
    ssoEnforcementAt := input.enforcementAt
    ssoGracePeriodDays := input.gracePeriodDays
    localLoginAllowed := if input.requirement = .disabled then true else input.localLoginAllowed }

/-- Its update of the policy that it has found, or its creation of one. -/
def SsoPolicyInput.write (db : OidcTables) (input : SsoPolicyInput) (existing : Bool) :
    Except String OidcTables := do
  let companyId ← input.checks
  match db.policy? companyId, existing with
  | some row, true =>
    return { db with
      policies := KeyedList.put OrganizationIdentityPolicy.companyId
        { input.written row with configurationVersion := row.configurationVersion + 1 }
        db.policies }
  | none, false =>
    return { db with policies := db.policies ++ [input.written { companyId := companyId }] }
  | none, true => .error "P2025"
  | some _, false => .error "P2002"

inductive LoginMethod where
  | localLogin | oidc
deriving DecidableEq

/-- `isOrganizationLoginMethodAllowed`. -/
def isOrganizationLoginMethodAllowed (policy : Option OrganizationIdentityPolicy)
    (method : LoginMethod) (providerId : Option Nat) (now : Int) : Bool :=
  match policy with
  | none => method = .localLogin
  | some policy =>
    if policy.ssoRequirement = .disabled then method = .localLogin
    else if method = .oidc then providerId.isSome && policy.ssoProviderId = providerId
    else if !policy.localLoginAllowed then false
    else if policy.ssoRequirement ≠ .required then true
    else
      match policy.ssoEnforcementAt with
      | none => true
      | some enforcementAt => now < enforcementAt + max 0 policy.ssoGracePeriodDays * 86400000

end AvantimePlatform.Identity
