import Mathlib

/-!
# Organization roles

The role decisions of `organization-permissions.ts` and `team.ts`: which role a
session acts with, which roles it may invite, whom it may manage, which role it may
assign, and the check on a critical action.

Two decisions answer the same question in different ways.  `canManageMembership` is a
table of the current roles that an actor may manage; `evaluateRoleAssignment` is a
table of the next roles that it may assign.
-/

namespace AvantimePlatform.Team

inductive OrganizationRole where
  | owner | admin | manager | member | viewer
deriving DecidableEq

namespace OrganizationRole

def all : List OrganizationRole := [owner, admin, manager, member, viewer]

/-- The spelling of a role in the source. -/
def name : OrganizationRole → String
  | owner => "OWNER"
  | admin => "ADMIN"
  | manager => "MANAGER"
  | member => "MEMBER"
  | viewer => "VIEWER"

/-- `organizationRoles.has(value)`, with the role that the value names. -/
def ofName? (value : String) : Option OrganizationRole :=
  all.find? fun role => role.name == value

/-- `roleRank`. -/
def rank : OrganizationRole → Nat
  | viewer => 1
  | member => 2
  | manager => 3
  | admin => 4
  | owner => 5

end OrganizationRole

open OrganizationRole

inductive PlatformRole where
  | client | admin
deriving DecidableEq

inductive MembershipStatus where
  | active | invited | suspended | removed
deriving DecidableEq

/-- `AppSession`, as far as the team reads it.  The email is the one that comparisons
use: trimmed, normalized and in lower case.  An absent `mfaSatisfied` is `false`, an
absent `authenticationAt` is 0. -/
structure TeamSession where
  userId : String
  companyId : Option String
  emailNormalized : String
  role : PlatformRole := .client
  organizationRole : Option OrganizationRole := none
  mfaSatisfied : Bool := false
  authenticationAt : Int := 0
deriving DecidableEq

/-- `requireCompanyId`. -/
def TeamSession.requireCompanyId (session : TeamSession) : Except String String :=
  match session.companyId with
  | some companyId => if companyId = "" then .error "MEMBERSHIP_NOT_FOUND" else .ok companyId
  | none => .error "MEMBERSHIP_NOT_FOUND"

/-- `resolveOrganizationRole`: the role of the session, or the one that its platform role
stands for. -/
def resolveOrganizationRole (session : TeamSession) : Option OrganizationRole :=
  match session.organizationRole with
  | some role => some role
  | none =>
    match session.requireCompanyId with
    | .error _ => none
    | .ok _ => some (if session.role = .admin then .admin else .member)

/-- `canInviteRole`. -/
def canInviteRole (actorRole invitedRole : OrganizationRole) : Bool :=
  if invitedRole = .owner then false
  else if actorRole = .owner then true
  else if actorRole = .admin then true
  else actorRole = .manager && (invitedRole = .member || invitedRole = .viewer)

/-- `canManageMembership`. -/
def canManageMembership (actorRole targetRole : OrganizationRole) : Bool :=
  if actorRole = .owner then true
  else if actorRole = .admin then targetRole ≠ .owner
  else actorRole = .manager && (targetRole = .member || targetRole = .viewer)

/-- Whoever may manage a member does not rank below it. -/
theorem rank_le_of_canManageMembership {actorRole targetRole : OrganizationRole}
    (h : canManageMembership actorRole targetRole = true) : targetRole.rank ≤ actorRole.rank := by
  revert h
  cases actorRole <;> cases targetRole <;> decide

/-- The confirmation of `'organization.owner.assign'`. -/
def ownerAssignConfirmation : String := "ASSIGN OWNER"

/-- `evaluateCriticalOrganizationAction(session, 'organization.owner.assign', …).allowed`. -/
def ownerAssignmentAllowed (session : TeamSession) (confirmation : Option String) (now : Int) :
    Bool :=
  session.mfaSatisfied && decide (0 < session.authenticationAt) &&
    decide (now - session.authenticationAt ≤ 600000) &&
    decide (confirmation = some ownerAssignConfirmation)

/-- The input of `evaluateRoleAssignment`. -/
structure RoleAssignment where
  actorId : String
  actorRole : OrganizationRole
  targetUserId : String
  currentRole : OrganizationRole
  nextRole : String
  activeOwnerCount : Nat
  allowAdminOwnerAssignment : Bool
deriving DecidableEq

/-- `assignable`. -/
def assignable (allowAdminOwnerAssignment : Bool) : OrganizationRole → List OrganizationRole
  | owner => [owner, admin, manager, member, viewer]
  | admin =>
    if allowAdminOwnerAssignment then [owner, admin, manager, member, viewer]
    else [admin, manager, member, viewer]
  | manager => [member, viewer]
  | member => []
  | viewer => []

/-- `evaluateRoleAssignment`: the role to assign, or the reason against it. -/
def evaluateRoleAssignment (input : RoleAssignment) : Except String OrganizationRole :=
  match ofName? input.nextRole with
  | none => .error "INVALID_ROLE"
  | some nextRole =>
    if input.actorId = input.targetUserId ∧ input.currentRole.rank < nextRole.rank then
      .error "SELF_ESCALATION_DENIED"
    else if input.currentRole = .owner ∧ nextRole ≠ .owner ∧ input.activeOwnerCount ≤ 1 then
      .error "LAST_OWNER_PROTECTED"
    else if nextRole ∈ assignable input.allowAdminOwnerAssignment input.actorRole then
      .ok nextRole
    else .error "ROLE_DELEGATION_DENIED"

/-- What the decision checks. -/
theorem evaluateRoleAssignment_eq_ok {input : RoleAssignment} {role : OrganizationRole} :
    evaluateRoleAssignment input = .ok role ↔
      ofName? input.nextRole = some role ∧
        ¬(input.actorId = input.targetUserId ∧ input.currentRole.rank < role.rank) ∧
        ¬(input.currentRole = .owner ∧ role ≠ .owner ∧ input.activeOwnerCount ≤ 1) ∧
        role ∈ assignable input.allowAdminOwnerAssignment input.actorRole := by
  unfold evaluateRoleAssignment
  cases hname : ofName? input.nextRole with
  | none => simp
  | some nextRole =>
      simp only [Option.some_inj]
      split_ifs with hself hlast hrole
      · refine iff_of_false (by simp) ?_
        rintro ⟨rfl, hnot, -⟩
        exact hnot hself
      · refine iff_of_false (by simp) ?_
        rintro ⟨rfl, -, hnot, -⟩
        exact hnot hlast
      · constructor
        · intro h
          rw [← Except.ok.inj h]
          exact ⟨rfl, hself, hlast, hrole⟩
        · rintro ⟨rfl, -⟩
          rfl
      · refine iff_of_false (by simp) ?_
        rintro ⟨rfl, -, -, hmem⟩
        exact hrole hmem

end AvantimePlatform.Team
