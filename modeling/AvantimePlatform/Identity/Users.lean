import AvantimePlatform.Team.Roles

/-!
# Users that authenticate

The rows that the authentication reads, and the identity that it makes of them.
-/

namespace AvantimePlatform.Identity

open AvantimePlatform.Team (OrganizationRole PlatformRole MembershipStatus)

/-- A membership of a user, as the authentication reads it. -/
structure UserMembership where
  companyId : String
  active : Bool := true
  organizationRole : OrganizationRole := .member
  status : MembershipStatus := .active
  version : Int := 1
deriving DecidableEq

/-- A row of `User`, with its memberships. -/
structure AuthUser where
  id : String
  email : String := ""
  role : PlatformRole := .client
  active : Bool := true
  disabledAt : Option Int := none
  companyId : Option String := none
  memberships : List UserMembership := []
deriving DecidableEq

/-- `SessionIdentity`. -/
structure SessionIdentity where
  userId : String
  email : String
  role : PlatformRole
  companyId : Option String
  organizationRole : Option OrganizationRole
  membershipStatus : Option MembershipStatus
  membershipVersion : Option Int
  mfaSatisfied : Bool
  identityProviderId : Option String := none
deriving DecidableEq

/-- `chooseMembership`. -/
def chooseMembership (user : AuthUser) : Option UserMembership :=
  let active := user.memberships.filter fun row => row.active && row.status = .active
  match active.find? fun row => some row.companyId = user.companyId with
  | some preferred => some preferred
  | none =>
    match active with
    | [only] => some only
    | _ => none

/-- `user.active && !user.disabledAt`. -/
def AuthUser.isEnabled (user : AuthUser) : Bool := user.active && user.disabledAt.isNone

/-- `toIdentity`. -/
def toIdentity (user : AuthUser) (mfaSatisfied : Bool) : Option SessionIdentity :=
  let membership := chooseMembership user
  if !user.isEnabled || (user.role = .client && membership.isNone) then none
  else
    some
      { userId := user.id
        email := user.email
        role := user.role
        companyId := membership.map (·.companyId)
        organizationRole := membership.map (·.organizationRole)
        membershipStatus := membership.map (·.status)
        membershipVersion := membership.map (·.version)
        mfaSatisfied := mfaSatisfied }

/-- An identity is that of an enabled user. -/
theorem toIdentity_eq_some {user : AuthUser} {mfaSatisfied : Bool} {identity : SessionIdentity}
    (h : toIdentity user mfaSatisfied = some identity) :
    user.isEnabled = true ∧ identity.userId = user.id := by
  unfold toIdentity at h
  dsimp only at h
  split at h
  · cases h
  · next hcond =>
    rw [Bool.or_eq_true, not_or] at hcond
    rw [← Option.some.inj h]
    exact ⟨by simpa using hcond.1, rfl⟩

end AvantimePlatform.Identity
