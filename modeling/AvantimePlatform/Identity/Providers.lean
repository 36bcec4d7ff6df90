import Mathlib

/-!
# Identity providers

The row of an identity provider, as far as the operations read and write it.  A
configuration is what `validateOidcProviderConfigurationInput` returns.
-/

namespace AvantimePlatform.Identity

inductive IdentityProviderKind where
  | localLogin | oidc | saml
deriving DecidableEq

inductive OidcProviderProfile where
  | microsoftEntraId | googleWorkspace | genericOidc
deriving DecidableEq

inductive OidcOrganizationMappingMode where
  | static | providerTenantClaim | hostedDomain | claim
deriving DecidableEq

inductive OidcProviderSessionPolicy where
  | preserveExisting | revokeOnDisable
deriving DecidableEq

inductive OidcProviderValidationStatus where
  | notValidated | metadataValidated | tenantValidated | revalidationRequired | failed
deriving DecidableEq

/-- `OidcClaimMapping`, with its defaults. -/
structure OidcClaimMapping where
  subject : String := "sub"
  email : String := "email"
  emailVerified : String := "email_verified"
  tenant : String := "tid"
  groups : String := "groups"
  hostedDomain : String := "hd"
deriving DecidableEq

/-- `Record<string, string | string[]>`. -/
abbrev TenantMappingPolicy := List (String × (String ⊕ List String))

/-- What a validation callback checks tokens and tenants with. -/
structure OidcTenantConfiguration where
  issuer : Option String
  clientId : Option String
  clientSecretRefEncrypted : Option String
  allowedDomains : List String
  organizationMappingMode : OidcOrganizationMappingMode
  tenantMappingPolicy : TenantMappingPolicy
  claimMapping : OidcClaimMapping
deriving DecidableEq

/-- A row of `IdentityProvider`. -/
structure IdentityProvider where
  id : Nat
  key : String
  kind : IdentityProviderKind := .oidc
  oidcProfile : OidcProviderProfile := .genericOidc
  companyId : Option String
  tenantConfiguration : OidcTenantConfiguration
  discoveryUrl : Option String
  authorizationEndpoint : Option String := none
  tokenEndpoint : Option String := none
  jwksUri : Option String := none
  redirectUri : Option String
  sessionPolicy : OidcProviderSessionPolicy := .revokeOnDisable
  metadataExpiresAt : Option Int := none
  validationStatus : OidcProviderValidationStatus := .notValidated
  validationEvidenceRef : Option String := none
  configurationVersion : Int := 1
  enabled : Bool := false
deriving DecidableEq

/-- A nullable text that is there: `Boolean(value)`. -/
def isText (value : Option String) : Bool := value.any (· != "")

/-- `SAFE_PROVIDER_KEY`. -/
def isSafeProviderKey (value : String) : Bool :=
  let lowerOrDigit := fun c : Char => c.isLower || c.isDigit
  match value.toList with
  | [] => false
  | first :: rest =>
    lowerOrDigit first && decide (1 ≤ rest.length ∧ rest.length ≤ 99) &&
      rest.all fun c => lowerOrDigit c || c = '.' || c = '_' || c = '-'

/-- `normalizeIdentityEmail(email).split('@')[1]`. -/
def emailDomain? (emailNormalized : String) : Option String :=
  (emailNormalized.splitOn "@")[1]?

end AvantimePlatform.Identity
