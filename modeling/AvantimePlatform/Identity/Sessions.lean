import AvantimePlatform.Identity.Users
import AvantimePlatform.Lib.KeyedList

/-!
# Sessions

The rows of `UserSession`, the sessions of the memory store, and what the functions of
`session.ts` do to them: the check and the activity write of `resolveSessionToken`, and the
two revocations.  Instants are milliseconds.
-/

namespace AvantimePlatform.Identity

open AvantimePlatform.Team (OrganizationRole PlatformRole MembershipStatus)

/-- `SESSION_ABSOLUTE_TTL_SECONDS * 1000`. -/
def absoluteTtlMs : Int := 60 * 60 * 8 * 1000

/-- `SESSION_IDLE_TTL_SECONDS * 1000`. -/
def idleTtlMs : Int := 60 * 30 * 1000

/-- `SESSION_ACTIVITY_WRITE_INTERVAL_MS`. -/
def activityWriteIntervalMs : Int := 60000

/-- `token.startsWith(SESSION_TOKEN_PREFIX)`. -/
def hasTokenPrefix (token : String) : Bool := token.toList.take 4 == ['a', 't', 's', '_']

inductive PlatformSystemRole where
  | platformOwner | platformAdmin | platformSupport | platformAuditor | platformOperator
deriving DecidableEq

/-- `SessionIdentity`, with all its fields. -/
structure SignedInIdentity where
  userId : String
  name : String
  company : String
  companyId : Option String
  identityProviderId : Option String
  email : String
  role : PlatformRole
  platformRoles : Option (List PlatformSystemRole)
  organizationRole : Option OrganizationRole
  membershipStatus : Option MembershipStatus
  membershipVersion : Option Int
  mfaSatisfied : Option Bool
  authenticationAt : Option Int
deriving DecidableEq

/-- `AppSession`. -/
structure SignedInSession extends SignedInIdentity where
  sessionId : String
  expiresAt : Int
deriving DecidableEq

/-! ## The database -/

/-- A membership of a user, with the name of its company. -/
structure SessionMembership where
  companyId : String
  active : Bool
  organizationRole : OrganizationRole
  status : MembershipStatus
  version : Int
  companyName : String
deriving DecidableEq

structure PlatformRoleAssignment where
  role : PlatformSystemRole
  active : Bool
  disabledAt : Option Int
deriving DecidableEq

/-- The user that a session's query includes. -/
structure SessionUser where
  id : String
  email : String
  name : String
  role : PlatformRole
  active : Bool
  disabledAt : Option Int
  companyName : Option String
  memberships : List SessionMembership
  platformRoleAssignments : List PlatformRoleAssignment
deriving DecidableEq

/-- A row of `UserSession`, as far as `session.ts` reads it. -/
structure UserSessionRow where
  id : String
  tokenHash : String
  userId : String
  companyId : Option String
  identityProviderId : Option String
  lastActivityAt : Int
  expiresAt : Int
  idleExpiresAt : Int
  revokedAt : Option Int
  authenticationAt : Int
deriving DecidableEq

/-- The row that `createUserSession` inserts; the database dates its first activity. -/
def createdRow (identity : SignedInIdentity) (id tokenHash : String) (now lastActivityAt : Int) :
    UserSessionRow where
  id := id
  tokenHash := tokenHash
  userId := identity.userId
  companyId := identity.companyId
  identityProviderId := identity.identityProviderId
  lastActivityAt := lastActivityAt
  expiresAt := now + absoluteTtlMs
  idleExpiresAt := now + idleTtlMs
  revokedAt := none
  authenticationAt := identity.authenticationAt.getD now

namespace UserSessionRow

/-- The check of `resolveDatabaseSession`. -/
def isLive (row : UserSessionRow) (now : Int) : Bool :=
  row.revokedAt.isNone && decide (now < row.expiresAt) && decide (now < row.idleExpiresAt)

/-- A minute has passed since the last activity. -/
def needsActivity (row : UserSessionRow) (now : Int) : Bool :=
  decide (activityWriteIntervalMs ≤ now - row.lastActivityAt)

/-- The `data` of the activity write, from the row that was read. -/
def touched (read : UserSessionRow) (now : Int) (row : UserSessionRow) : UserSessionRow :=
  { row with lastActivityAt := now, idleExpiresAt := min read.expiresAt (now + idleTtlMs) }

/-- `toAppSession`, over the memberships and roles that the query includes. -/
def toAppSession (row : UserSessionRow) (user : SessionUser) : Option SignedInSession :=
  let memberships := user.memberships.filter fun m => m.active && m.status == .active
  let membership := row.companyId.bind fun companyId =>
    memberships.find? fun m => m.active && m.status == .active && m.companyId == companyId
  if !user.active || user.disabledAt.isSome then none
  else if user.role == .client && membership.isNone then none
  else
    some
      { sessionId := row.id
        userId := user.id
        name := user.name
        company := ((membership.map SessionMembership.companyName).orElse
          fun _ => user.companyName).getD "Avantime"
        companyId := membership.map SessionMembership.companyId
        identityProviderId := row.identityProviderId
        email := user.email
        role := user.role
        platformRoles := some ((user.platformRoleAssignments.filter fun assignment =>
          assignment.active && assignment.disabledAt.isNone).map PlatformRoleAssignment.role)
        organizationRole := membership.map SessionMembership.organizationRole
        membershipStatus := membership.map SessionMembership.status
        membershipVersion := membership.map SessionMembership.version
        mfaSatisfied := some true
        authenticationAt := some row.authenticationAt
        expiresAt := row.expiresAt }

end UserSessionRow

/-- The sessions and their users. -/
structure SessionDatabase where
  users : List SessionUser := []
  sessions : List UserSessionRow := []
deriving DecidableEq

namespace SessionDatabase

/-- The row of a token, by its unique hash. -/
def session? (db : SessionDatabase) (tokenHash : String) : Option UserSessionRow :=
  KeyedList.find UserSessionRow.tokenHash tokenHash db.sessions

/-- The query of `resolveDatabaseSession`: a row with its user. -/
def findUnique (db : SessionDatabase) (tokenHash : String) : Option (UserSessionRow × SessionUser) :=
  (db.session? tokenHash).bind fun row =>
    (db.users.find? fun user => user.id == row.userId).map fun user => (row, user)

/-- The activity write: by the id of the row that was read, while it is live. -/
def writeActivity (db : SessionDatabase) (read : UserSessionRow) (now : Int) : SessionDatabase :=
  { db with
    sessions := KeyedList.updateMany (fun row => row.id == read.id && row.isLive now)
      (read.touched now) db.sessions }

/-- The rows that a revocation changes. -/
def unrevoked (db : SessionDatabase) (p : UserSessionRow → Bool) : List UserSessionRow :=
  db.sessions.filter fun row => p row && row.revokedAt.isNone

/-- `updateMany` with `revokedAt: null` and `data: { revokedAt: new Date() }`. -/
def revoke (db : SessionDatabase) (p : UserSessionRow → Bool) (now : Int) : SessionDatabase :=
  { db with
    sessions := KeyedList.updateMany (fun row => p row && row.revokedAt.isNone)
      (fun row => { row with revokedAt := some now }) db.sessions }

end SessionDatabase

/-! ## The memory store -/

structure StoredMemorySession where
  id : String
  tokenHash : String
  identity : SignedInIdentity
  createdAt : Int
  lastActivityAt : Int
  expiresAt : Int
  idleExpiresAt : Int
  revokedAt : Option Int
  deviceLabel : String
deriving DecidableEq

/-- The session that `createUserSession` stores. -/
def createdMemorySession (identity : SignedInIdentity) (id tokenHash : String) (now : Int)
    (deviceLabel : String) : StoredMemorySession where
  id := id
  tokenHash := tokenHash
  identity := identity
  createdAt := now
  lastActivityAt := now
  expiresAt := now + absoluteTtlMs
  idleExpiresAt := now + idleTtlMs
  revokedAt := none
  deviceLabel := deviceLabel

namespace StoredMemorySession

/-- `row.revokedAt` as a condition: an instant of 0 is false. -/
def isRevoked (row : StoredMemorySession) : Bool := row.revokedAt.any fun time => time != 0

/-- The check of `resolveMemorySession`. -/
def isLive (row : StoredMemorySession) (now : Int) : Bool :=
  !row.isRevoked && decide (now < row.expiresAt) && decide (now < row.idleExpiresAt)

/-- The two assignments that record the activity. -/
def touched (row : StoredMemorySession) (now : Int) : StoredMemorySession :=
  { row with lastActivityAt := now, idleExpiresAt := min row.expiresAt (now + idleTtlMs) }

/-- `{ ...row.identity, sessionId: row.id, expiresAt: row.expiresAt }`. -/
def toAppSession (row : StoredMemorySession) : SignedInSession :=
  { row.identity with sessionId := row.id, expiresAt := row.expiresAt }

end StoredMemorySession

/-- `developmentSessions`, by token hash. -/
abbrev MemorySessions := List StoredMemorySession

namespace MemorySessions

/-- `resolveMemorySession`. -/
def resolve (sessions : MemorySessions) (tokenHash : String) (now : Int) :
    MemorySessions × Option SignedInSession :=
  match KeyedList.find StoredMemorySession.tokenHash tokenHash sessions with
  | none => (KeyedList.erase StoredMemorySession.tokenHash tokenHash sessions, none)
  | some row =>
    if row.isLive now then
      (KeyedList.put StoredMemorySession.tokenHash (row.touched now) sessions,
        some (row.touched now).toAppSession)
    else (KeyedList.erase StoredMemorySession.tokenHash tokenHash sessions, none)

/-- Set `revokedAt` of the sessions that `p` selects. -/
def revoke (sessions : MemorySessions) (p : StoredMemorySession → Bool) (now : Int) :
    MemorySessions :=
  KeyedList.updateMany p (fun row => { row with revokedAt := some now }) sessions

end MemorySessions

end AvantimePlatform.Identity
