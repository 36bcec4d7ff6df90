import AvantimePlatform.Lib.Checked
import AvantimePlatform.Lib.Interleaving
import AvantimePlatform.Lib.KeyedList
import AvantimePlatform.Team.Roles

/-!
# Memberships and invitations

The tables behind `team.ts` and its operations, each as the statements it awaits:

* `inviteCompanyMember` looks for a membership, revokes the open invitations of the
  address, and creates its own;
* `acceptCompanyInvitation` reads the invitation, reads the user with its membership,
  and commits a transaction that closes the invitation and upserts the membership;
* `changeOrganizationMemberRole` and `changeOrganizationMembershipStatus` read the
  membership, and commit a transaction that counts the owners under the company lock;
* `revokeCompanyInvitation` and `bootstrapFirstOrganizationOwner` are one statement or
  transaction each.

A transaction that throws leaves the tables as they were.  An `updateMany` by primary
key finds at most one row.  Users change at any time.
-/

namespace AvantimePlatform.Team

open AvantimePlatform AvantimePlatform.Checked AvantimePlatform.Interleaving

/-- A row of `OrganizationMembership`. -/
structure OrganizationMembership where
  id : String
  userId : String
  companyId : String
  organizationRole : OrganizationRole := .member
  status : MembershipStatus := .active
  version : Int := 1
  active : Bool := true
deriving DecidableEq

/-- A row of `IdentityInvitation`. -/
structure IdentityInvitation where
  id : String
  tokenHash : String
  companyId : String
  emailNormalized : String
  organizationRole : OrganizationRole := .member
  invitedBy : String
  acceptedBy : Option String := none
  expiresAt : Int
  acceptedAt : Option Int := none
  revokedAt : Option Int := none
deriving DecidableEq

/-- A row of `User`, with whether it has a verified external identity. -/
structure TeamUser where
  id : String
  emailNormalized : String
  emailVerifiedAt : Option Int := none
  hasVerifiedExternalIdentity : Bool := false
  companyId : Option String := none
deriving DecidableEq

structure TeamTables where
  users : List TeamUser := []
  memberships : List OrganizationMembership := []
  invitations : List IdentityInvitation := []
deriving DecidableEq

/-- What the database answers when a statement breaks a unique key. -/
def uniqueError : String := "P2002"

namespace TeamTables

def user? (db : TeamTables) (id : String) : Option TeamUser := KeyedList.find TeamUser.id id db.users

def membership? (db : TeamTables) (id : String) : Option OrganizationMembership :=
  KeyedList.find OrganizationMembership.id id db.memberships

/-- The key `@@unique([userId, companyId])`. -/
def membershipOf? (db : TeamTables) (userId companyId : String) : Option OrganizationMembership :=
  db.memberships.find? fun row => row.userId == userId && row.companyId == companyId

def invitation? (db : TeamTables) (id : String) : Option IdentityInvitation :=
  KeyedList.find IdentityInvitation.id id db.invitations

/-- The key `tokenHash`. -/
def invitationOf? (db : TeamTables) (tokenHash : String) : Option IdentityInvitation :=
  db.invitations.find? fun row => row.tokenHash == tokenHash

def setMembership (db : TeamTables) (row : OrganizationMembership) : TeamTables :=
  { db with memberships := KeyedList.put OrganizationMembership.id row db.memberships }

def setInvitation (db : TeamTables) (row : IdentityInvitation) : TeamTables :=
  { db with invitations := KeyedList.put IdentityInvitation.id row db.invitations }

end TeamTables

/-- `{ companyId, organizationRole: 'OWNER', status: 'ACTIVE', active: true }`. -/
def OrganizationMembership.isActiveOwner (row : OrganizationMembership) (companyId : String) :
    Bool :=
  row.companyId = companyId && row.organizationRole = .owner && row.status = .active && row.active

/-- `activeOwnerCount`. -/
def TeamTables.activeOwnerCount (db : TeamTables) (companyId : String) : Nat :=
  db.memberships.countP (·.isActiveOwner companyId)

/-! ## Invitations -/

structure InviteInput where
  session : TeamSession
  emailNormalized : String
  role : Option OrganizationRole
  now : Int
deriving DecidableEq

/-- `INVITATION_TTL_MS`. -/
def invitationTtlMs : Int := 72 * 60 * 60000

/-- The checks of `inviteCompanyMember` before its first statement: the company and the
role to invite. -/
def InviteInput.checks (input : InviteInput) : Except String (String × OrganizationRole) := do
  let companyId ← input.session.requireCompanyId
  let role := input.role.getD .member
  require (∃ actorRole ∈ resolveOrganizationRole input.session, canInviteRole actorRole role = true)
    "INVITATION_FORBIDDEN"
  return (companyId, role)

/-- The address belongs to a member of the company: its `existing`. -/
def TeamTables.hasMemberWithEmail (db : TeamTables) (companyId emailNormalized : String) : Bool :=
  db.memberships.any fun row =>
    row.companyId = companyId &&
      (db.user? row.userId).any (·.emailNormalized == emailNormalized) &&
      (row.status = .active || row.status = .suspended || row.status = .removed)

/-- The condition of the update that revokes the open invitations of an address. -/
def IdentityInvitation.isOpenFor (row : IdentityInvitation) (companyId emailNormalized : String) :
    Bool :=
  row.companyId = companyId && row.emailNormalized = emailNormalized &&
    row.acceptedAt.isNone && row.revokedAt.isNone

/-- That update. -/
def TeamTables.revokeOpen (db : TeamTables) (companyId emailNormalized : String) (now : Int) :
    TeamTables :=
  { db with
    invitations := KeyedList.updateMany (·.isOpenFor companyId emailNormalized)
      (fun row => { row with revokedAt := some now }) db.invitations }

/-- The invitation that is created. -/
def InviteInput.invitation (input : InviteInput) (companyId : String) (role : OrganizationRole)
    (id tokenHash : String) : IdentityInvitation where
  id := id
  tokenHash := tokenHash
  companyId := companyId
  emailNormalized := input.emailNormalized
  organizationRole := role
  invitedBy := input.session.userId
  expiresAt := input.now + invitationTtlMs

/-- The creation of the invitation. -/
def createInvitation (db : TeamTables) (row : IdentityInvitation) : Except String TeamTables := do
  require (db.invitation? row.id = none ∧ db.invitationOf? row.tokenHash = none) uniqueError
  return { db with invitations := db.invitations ++ [row] }

structure RevokeInput where
  session : TeamSession
  invitationId : String
  now : Int
deriving DecidableEq

/-- `revokeCompanyInvitation`. -/
def revokeCompanyInvitation (db : TeamTables) (input : RevokeInput) : Except String TeamTables := do
  let companyId ← input.session.requireCompanyId
  match db.invitation? input.invitationId with
  | none => .error "INVITATION_NOT_FOUND"
  | some row => do
    require (row.companyId = companyId ∧ row.acceptedAt = none ∧ row.revokedAt = none)
      "INVITATION_NOT_FOUND"
    return db.setInvitation { row with revokedAt := some input.now }

structure AcceptInput where
  session : TeamSession
  tokenHash : String
  now : Int
deriving DecidableEq

/-- The checks of `acceptCompanyInvitation` on the invitation it has read. -/
def AcceptInput.invitationValid (input : AcceptInput) (row : IdentityInvitation) : Bool :=
  row.acceptedAt.isNone && row.revokedAt.isNone && decide (input.now < row.expiresAt) &&
    row.organizationRole ≠ .owner && row.emailNormalized = input.session.emailNormalized

/-- The checks on the user it has read, and on its membership in the company. -/
def acceptUserChecks (user : TeamUser) (membership : Option OrganizationMembership) :
    Except String Unit := do
  require (user.emailVerifiedAt.isSome = true ∨ user.hasVerifiedExternalIdentity = true)
    "INVITATION_IDENTITY_UNVERIFIED"
  require (∀ row ∈ membership, row.status ≠ .removed ∧ row.status ≠ .suspended)
    "INVITATION_FORBIDDEN"

/-- The condition of the update that accepts an invitation. -/
def IdentityInvitation.isAcceptable (row : IdentityInvitation) (now : Int) : Bool :=
  row.acceptedAt.isNone && row.revokedAt.isNone && decide (now < row.expiresAt)

/-- The membership that an acceptance leaves of the one it finds. -/
def OrganizationMembership.admitMember (row : OrganizationMembership) (role : OrganizationRole) :
    OrganizationMembership :=
  { row with
    active := true, status := .active, organizationRole := role, version := row.version + 1 }

/-- The membership that an acceptance creates. -/
def admitted (id userId companyId : String) (role : OrganizationRole) : OrganizationMembership where
  id := id
  userId := userId
  companyId := companyId
  organizationRole := role

/-- The upsert of an acceptance. -/
def TeamTables.admitMember (db : TeamTables) (userId companyId : String) (role : OrganizationRole)
    (id : String) : Except String TeamTables :=
  match db.membershipOf? userId companyId with
  | some row => .ok (db.setMembership (row.admitMember role))
  | none => do
    require (db.membership? id = none) uniqueError
    return { db with memberships := db.memberships ++ [admitted id userId companyId role] }

/-- `if (!user.companyId)` the company of the invitation becomes the user's. -/
def TeamTables.setUserCompany (db : TeamTables) (user : TeamUser) (companyId : String) :
    TeamTables :=
  if user.companyId.any (· != "") then db
  else
    { db with
      users := KeyedList.updateMany (·.id == user.id)
        (fun row => { row with companyId := some companyId }) db.users }

/-- The transaction of `acceptCompanyInvitation`. -/
def acceptCommit (db : TeamTables) (input : AcceptInput) (invitation : IdentityInvitation)
    (user : TeamUser) (id : String) : Except String TeamTables :=
  match db.invitation? invitation.id with
  | none => .error "INVITATION_INVALID"
  | some row => do
    require (row.isAcceptable input.now = true) "INVITATION_INVALID"
    let accepted := db.setInvitation
      { row with acceptedAt := some input.now, acceptedBy := some input.session.userId }
    let member ← accepted.admitMember input.session.userId invitation.companyId
      invitation.organizationRole id
    return member.setUserCompany user invitation.companyId

/-! ## Changes of a membership -/

/-- The condition of `loadMembershipForChange`. -/
def TeamTables.membershipForChange? (db : TeamTables) (companyId membershipId : String) :
    Option OrganizationMembership :=
  (db.membership? membershipId).filter fun row =>
    row.companyId == companyId && decide (row.status ≠ .removed)

structure ChangeRoleInput where
  session : TeamSession
  membershipId : String
  nextRole : String
  expectedVersion : Int
  allowAdminOwnerAssignment : Bool := false
  confirmation : Option String := none
  now : Int
deriving DecidableEq

/-- The decision on a role change, on the membership that the call has read. -/
def ChangeRoleInput.assignment (input : ChangeRoleInput) (actorRole : OrganizationRole)
    (read : OrganizationMembership) (activeOwnerCount : Nat) : RoleAssignment where
  actorId := input.session.userId
  actorRole := actorRole
  targetUserId := read.userId
  currentRole := read.organizationRole
  nextRole := input.nextRole
  activeOwnerCount := activeOwnerCount
  allowAdminOwnerAssignment := input.allowAdminOwnerAssignment

/-- The reason code that a refused assignment is reported with. -/
def assignmentDenied (reason : String) : String :=
  if reason = "LAST_OWNER_PROTECTED" then "LAST_OWNER_PROTECTED" else "ROLE_ASSIGNMENT_DENIED"

/-- The role that a change of role assigns: the decision inside its transaction. -/
def changeRoleDecision (db : TeamTables) (input : ChangeRoleInput)
    (read : OrganizationMembership) : Except String OrganizationRole :=
  match resolveOrganizationRole input.session with
  | none => .error "ROLE_ASSIGNMENT_DENIED"
  | some actorRole =>
    match evaluateRoleAssignment
        (input.assignment actorRole read (db.activeOwnerCount read.companyId)) with
    | .ok role => .ok role
    | .error reason => .error (assignmentDenied reason)

/-- The membership with its next role. -/
def OrganizationMembership.assign (row : OrganizationMembership) (nextRole : OrganizationRole) :
    OrganizationMembership :=
  { row with organizationRole := nextRole, version := row.version + 1 }

/-- The transaction of `changeOrganizationMemberRole`, after its read. -/
def changeRoleCommit (db : TeamTables) (input : ChangeRoleInput) (read : OrganizationMembership) :
    Except String TeamTables := do
  require (input.nextRole = OrganizationRole.owner.name →
      ownerAssignmentAllowed input.session input.confirmation input.now = true)
    "ROLE_ASSIGNMENT_DENIED"
  let nextRole ← changeRoleDecision db input read
  match db.membership? read.id with
  | none => .error "MEMBERSHIP_VERSION_CONFLICT"
  | some row => do
    require (row.companyId = read.companyId ∧ row.version = input.expectedVersion ∧
      row.status = .active) "MEMBERSHIP_VERSION_CONFLICT"
    return db.setMembership (row.assign nextRole)

/-- `'ACTIVE' | 'SUSPENDED' | 'REMOVED'`. -/
inductive MembershipChange where
  | active | suspended | removed
deriving DecidableEq

def MembershipChange.status : MembershipChange → MembershipStatus
  | .active => .active
  | .suspended => .suspended
  | .removed => .removed

structure ChangeStatusInput where
  session : TeamSession
  membershipId : String
  status : MembershipChange
  expectedVersion : Int
  now : Int
deriving DecidableEq

/-- The checks of `changeOrganizationMembershipStatus` on the membership it has read. -/
def changeStatusChecks (input : ChangeStatusInput) (read : OrganizationMembership) :
    Except String Unit := do
  require (¬(read.userId = input.session.userId ∧ input.status ≠ .active))
    "SELF_MEMBERSHIP_CHANGE_DENIED"
  require (∃ actorRole ∈ resolveOrganizationRole input.session,
      canManageMembership actorRole read.organizationRole = true)
    "ROLE_ASSIGNMENT_DENIED"

/-- The membership with its next status. -/
def OrganizationMembership.setStatus (row : OrganizationMembership) (status : MembershipChange) :
    OrganizationMembership :=
  { row with
    status := status.status, active := status = .active, version := row.version + 1 }

/-- Its transaction. -/
def changeStatusCommit (db : TeamTables) (input : ChangeStatusInput)
    (read : OrganizationMembership) : Except String TeamTables := do
  changeStatusChecks input read
  require (read.organizationRole = .owner → input.status ≠ .active →
      1 < db.activeOwnerCount read.companyId)
    "LAST_OWNER_PROTECTED"
  match db.membership? read.id with
  | none => .error "MEMBERSHIP_VERSION_CONFLICT"
  | some row => do
    require (row.companyId = read.companyId ∧ row.version = input.expectedVersion)
      "MEMBERSHIP_VERSION_CONFLICT"
    return db.setMembership (row.setStatus input.status)

structure BootstrapInput where
  session : TeamSession
  membershipId : String
  expectedVersion : Int
  confirmation : Option String := none
  now : Int
deriving DecidableEq

/-- The membership that a bootstrap promotes. -/
def OrganizationMembership.canBootstrap (row : OrganizationMembership) (input : BootstrapInput)
    (companyId : String) : Bool :=
  row.userId = input.session.userId && row.companyId = companyId && row.organizationRole = .admin &&
    row.status = .active && row.active && row.version = input.expectedVersion

/-- `bootstrapFirstOrganizationOwner`. -/
def bootstrapFirstOrganizationOwner (db : TeamTables) (input : BootstrapInput) :
    Except String TeamTables := do
  let companyId ← input.session.requireCompanyId
  require (resolveOrganizationRole input.session = some .admin ∧ input.session.role = .admin ∧
      ownerAssignmentAllowed input.session input.confirmation input.now = true)
    "FIRST_OWNER_BOOTSTRAP_DENIED"
  require (db.activeOwnerCount companyId = 0) "FIRST_OWNER_BOOTSTRAP_DENIED"
  match db.membership? input.membershipId with
  | none => .error "FIRST_OWNER_BOOTSTRAP_DENIED"
  | some row => do
    require (row.canBootstrap input companyId = true) "FIRST_OWNER_BOOTSTRAP_DENIED"
    return db.setMembership (row.assign .owner)

/-! ## The calls -/

/-- What `inviteCompanyMember` does next. -/
inductive InvitePlace where
  | find
  | revokeOpen (companyId : String) (role : OrganizationRole)
  | create (companyId : String) (role : OrganizationRole)
deriving DecidableEq

/-- What `acceptCompanyInvitation` does next. -/
inductive AcceptPlace where
  | findInvitation
  | findUser (invitation : IdentityInvitation)
  | commit (invitation : IdentityInvitation) (user : TeamUser)
deriving DecidableEq

/-- A call in progress.  A change of a membership holds what it has read. -/
inductive TeamCall where
  | invite (input : InviteInput) (place : InvitePlace)
  | accept (input : AcceptInput) (place : AcceptPlace)
  | revoke (input : RevokeInput)
  | changeRole (input : ChangeRoleInput) (read : Option OrganizationMembership)
  | changeStatus (input : ChangeStatusInput) (read : Option OrganizationMembership)
  | bootstrap (input : BootstrapInput)
deriving DecidableEq

/-- What the world outside answers to a statement. -/
inductive TeamInput where
  /-- It is made; `id` and `tokenHash` are those of a row it creates. -/
  | proceed (id tokenHash : String)
  /-- It fails, or the process stops; a transaction is rolled back. -/
  | failure
deriving DecidableEq

/-- The tables that a transaction leaves. -/
def settle (db : TeamTables) : Except String TeamTables → TeamTables
  | .ok db' => db'
  | .error _ => db

def InvitePlace.run (db : TeamTables) (input : InviteInput) (id tokenHash : String) :
    InvitePlace → TeamTables × Option TeamCall
  | .find =>
    match input.checks with
    | .error _ => (db, none)
    | .ok (companyId, role) =>
      if db.hasMemberWithEmail companyId input.emailNormalized then (db, none)
      else (db, some (.invite input (.revokeOpen companyId role)))
  | .revokeOpen companyId role =>
    (db.revokeOpen companyId input.emailNormalized input.now,
      some (.invite input (.create companyId role)))
  | .create companyId role =>
    (settle db (createInvitation db (input.invitation companyId role id tokenHash)), none)

def AcceptPlace.run (db : TeamTables) (input : AcceptInput) (id : String) :
    AcceptPlace → TeamTables × Option TeamCall
  | .findInvitation =>
    match db.invitationOf? input.tokenHash with
    | none => (db, none)
    | some row =>
      if input.invitationValid row then (db, some (.accept input (.findUser row))) else (db, none)
  | .findUser invitation =>
    match db.user? input.session.userId with
    | none => (db, none)
    | some user =>
      match acceptUserChecks user (db.membershipOf? user.id invitation.companyId) with
      | .ok () => (db, some (.accept input (.commit invitation user)))
      | .error _ => (db, none)
  | .commit invitation user => (settle db (acceptCommit db input invitation user id), none)

/-- The read of a change of a membership. -/
def readForChange (db : TeamTables) (session : TeamSession) (membershipId : String) :
    Option OrganizationMembership :=
  match session.requireCompanyId with
  | .error _ => none
  | .ok companyId => db.membershipForChange? companyId membershipId

/-- One step of a call. -/
def TeamCall.advance (db : TeamTables) : TeamInput → TeamCall → TeamTables × Option TeamCall
  | .failure, _ => (db, none)
  | .proceed id tokenHash, .invite input place => place.run db input id tokenHash
  | .proceed id _, .accept input place => place.run db input id
  | .proceed _ _, .revoke input => (settle db (revokeCompanyInvitation db input), none)
  | .proceed _ _, .changeRole input none =>
    (db, (readForChange db input.session input.membershipId).map fun row =>
      .changeRole input (some row))
  | .proceed _ _, .changeRole input (some read) => (settle db (changeRoleCommit db input read), none)
  | .proceed _ _, .changeStatus input none =>
    (db, (readForChange db input.session input.membershipId).map fun row =>
      .changeStatus input (some row))
  | .proceed _ _, .changeStatus input (some read) =>
    (settle db (changeStatusCommit db input read), none)
  | .proceed _ _, .bootstrap input => (settle db (bootstrapFirstOrganizationOwner db input), none)

/-- A call begins with its first statement. -/
def TeamCall.isInitial : TeamCall → Bool
  | .invite _ .find => true
  | .accept _ .findInvitation => true
  | .revoke _ => true
  | .changeRole _ none => true
  | .changeStatus _ none => true
  | .bootstrap _ => true
  | _ => false

/-- Any number of calls over the tables.  Users change at any time. -/
def team : Program TeamTables TeamCall (List TeamUser) TeamInput where
  env db users := { db with users := users }
  initial := TeamCall.isInitial
  advance db input call := some (call.advance db input)

abbrev TeamWorld := World TeamTables TeamCall

abbrev TeamEvent := Event (List TeamUser) TeamCall TeamInput

end AvantimePlatform.Team
