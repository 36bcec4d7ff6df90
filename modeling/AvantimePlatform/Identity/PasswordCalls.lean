import AvantimePlatform.Identity.MfaTables
import AvantimePlatform.Identity.Passwords
import AvantimePlatform.Lib.Interleaving

/-!
# Logins and changes of a password

Each operation as the statements it awaits:

* a login is `authenticatePrimaryCredential` and then `createUserSession`: it reads the
  credential, verifies the password, stores a new hash of it where the old one is out of
  date, reads the policy, and creates a login challenge or goes on to the session;
* a login with a second factor is `authenticateMfaChallenge` and then `createUserSession`;
* `changePassword` reads and verifies the current password and writes the new one;
* `resetPassword` reads its token, and uses it and writes the password in one transaction.

The tables have a clock: `new Date()` reads it.  A login challenge says with which password
it was earned, which no query reads.
-/

namespace AvantimePlatform.Identity

open AvantimePlatform AvantimePlatform.Checked AvantimePlatform.Interleaving

/-! ## The tables -/

/-- A user, with the password column of old. -/
structure PasswordUser extends AuthUser where
  passwordHash : Option String := none
deriving DecidableEq

/-- A row of `UserCredential`. -/
structure PasswordCredential where
  userId : String
  identifierNormalized : String
  passwordHash : StoredHash
deriving DecidableEq

/-- A login challenge, and the password that was verified for it.  A challenge of an external
login has none. -/
structure PasswordChallenge extends LoginChallenge where
  verifiedPassword : Option String := none
deriving DecidableEq

/-- A row of `PasswordResetToken`. -/
structure PasswordResetToken where
  id : Nat
  tokenHash : String
  userId : String
  expiresAt : Int
  usedAt : Option Int := none
deriving DecidableEq

/-- A row of `UserSession`. -/
structure PasswordSession where
  id : Nat
  userId : String
  revokedAt : Option Int := none
deriving DecidableEq

structure PasswordTables where
  serial : Nat := 0
  clock : Int := 0
  users : List PasswordUser := []
  liveProviders : List String := []
  credentials : List PasswordCredential := []
  challenges : List PasswordChallenge := []
  resetTokens : List PasswordResetToken := []
  sessions : List PasswordSession := []
deriving DecidableEq

namespace PasswordTables

def user? (db : PasswordTables) (id : String) : Option PasswordUser :=
  db.users.find? fun row => row.id == id

def credentialOf? (db : PasswordTables) (userId : String) : Option PasswordCredential :=
  db.credentials.find? fun row => row.userId == userId

def credentialAt? (db : PasswordTables) (identifier : String) : Option PasswordCredential :=
  db.credentials.find? fun row => row.identifierNormalized == identifier

def challengeOf? (db : PasswordTables) (tokenHash : String) : Option PasswordChallenge :=
  db.challenges.find? fun row => row.tokenHash == tokenHash

/-- The hash of the user is replaced. -/
def setHash (db : PasswordTables) (userId : String) (stored : StoredHash) : PasswordTables :=
  { db with
    credentials := KeyedList.updateMany (fun row => row.userId = userId)
      (fun row => { row with passwordHash := stored }) db.credentials }

/-- The upsert of a credential.  Its identifier is unique. -/
def upsertCredential (db : PasswordTables) (userId identifier : String) (stored : StoredHash) :
    Except String PasswordTables :=
  match db.credentialOf? userId with
  | some _ => .ok (db.setHash userId stored)
  | none =>
    match db.credentialAt? identifier with
    | some _ => .error "P2002"
    | none =>
      .ok
        { db with
          credentials := db.credentials ++
            [{ userId := userId, identifierNormalized := identifier, passwordHash := stored }] }

/-- The password column of old is emptied. -/
def clearLegacyHash (db : PasswordTables) (userId : String) : PasswordTables :=
  { db with
    users := KeyedList.updateMany (fun row => row.id = userId)
      (fun row => { row with passwordHash := none }) db.users }

/-- Every reset token of the user is used. -/
def useResetTokens (db : PasswordTables) (userId : String) : PasswordTables :=
  { db with
    resetTokens := KeyedList.updateMany (fun row => row.userId = userId && row.usedAt.isNone)
      (fun row => { row with usedAt := some db.clock }) db.resetTokens }

/-- Every session of the user is revoked. -/
def revokeSessions (db : PasswordTables) (userId : String) : PasswordTables :=
  { db with
    sessions := KeyedList.updateMany (fun row => row.userId = userId && row.revokedAt.isNone)
      (fun row => { row with revokedAt := some db.clock }) db.sessions }

end PasswordTables

/-! ## A login -/

/-- What a login is given, and the salt and the token that it draws. -/
structure LoginInput where
  emailNormalized : String
  password : String
  salt : String
  challengeTokenHash : String
deriving DecidableEq

/-- What a login does next.  `now` is the time it began at. -/
inductive LoginStage where
  | findCredential
  | verify (credential : PasswordCredential) (user : PasswordUser) (now : Int)
  | rehash (user : PasswordUser) (now : Int)
  | loadPolicy (user : PasswordUser) (now : Int)
  | createChallenge (user : PasswordUser) (now : Int)
  | findUser (identity : SessionIdentity)
  | createSession (identity : SessionIdentity)
deriving DecidableEq

/-- What a login with a second factor does next, once it holds its challenge. -/
inductive MfaLoginStage where
  | load
  | countAttempt (challenge : PasswordChallenge)
  | consume (challenge : PasswordChallenge) (user : PasswordUser) (now : Int)
  | findUser (challenge : PasswordChallenge) (identity : SessionIdentity)
  | createSession (challenge : PasswordChallenge) (identity : SessionIdentity)
deriving DecidableEq

/-! ## A new password -/

structure ChangePasswordInput where
  userId : String
  email : String
  currentPassword : String
  newPassword : String
  salt : String
deriving DecidableEq

inductive ChangePasswordStage where
  | findCredential
  | commit
deriving DecidableEq

structure ResetPasswordInput where
  tokenHash : String
  password : String
  salt : String
deriving DecidableEq

inductive ResetPasswordStage where
  | findToken
  | commit (item : PasswordResetToken) (email : String) (now : Int)
deriving DecidableEq

/-! ## The calls -/

inductive PasswordCall where
  | login (input : LoginInput) (stage : LoginStage)
  | mfa (challengeToken : String) (stage : MfaLoginStage)
  | change (input : ChangePasswordInput) (stage : ChangePasswordStage)
  | reset (input : ResetPasswordInput) (stage : ResetPasswordStage)
deriving DecidableEq

/-- What a statement is answered: it is made, or the policies decide whether a local login is
allowed and a second factor asked for, or the code of the second factor is wrong, or it
fails. -/
inductive PasswordAnswer where
  | made
  | policy (localAllowed challenged : Bool)
  | wrongCode
  | failed
deriving DecidableEq

/-- What changes the tables besides. -/
inductive PasswordEnv where
  | tick (time : Int)
  | users (rows : List PasswordUser)
  | providers (live : List String)
  | externalLogin (tokenHash userId identityProviderId : String)
  | resetToken (tokenHash userId : String) (expiresAt : Int)
deriving DecidableEq

/-- The condition of `createUserSession` on the user it reads. -/
def canCreateSession (user : PasswordUser) (identity : SessionIdentity) : Bool :=
  user.isEnabled && Text.toLowerCase user.email = Text.toLowerCase identity.email &&
    user.role = identity.role &&
    identity.companyId.all (fun companyId =>
      user.memberships.any fun row =>
        row.active && row.companyId = companyId && row.status = .active &&
          identity.organizationRole.all (row.organizationRole = ·) &&
          identity.membershipVersion.all (fun version => version = 0 || row.version = version)) &&
    !(identity.role = .client && identity.companyId.isNone)

/-- The reads of `createUserSession`. -/
def PasswordTables.admits (db : PasswordTables) (identity : SessionIdentity) : Bool :=
  (db.user? identity.userId).any (fun user => canCreateSession user identity) &&
    identity.identityProviderId.all fun provider => provider ∈ db.liveProviders

/-- The insert of `createUserSession`. -/
def PasswordTables.createSession (db : PasswordTables) (userId : String) : PasswordTables :=
  { db with serial := db.serial + 1, sessions := db.sessions ++ [{ id := db.serial, userId := userId }] }

def loginChallengeTtlMs : Int := 5 * 60000

/-- `createLoginChallenge`. -/
def PasswordTables.createChallenge (db : PasswordTables) (input : LoginInput) (userId : String)
    (now : Int) : PasswordTables :=
  { db with
    serial := db.serial + 1
    challenges := db.challenges ++
      [{ id := db.serial, tokenHash := input.challengeTokenHash, userId := userId
         expiresAt := now + loginChallengeTtlMs, verifiedPassword := some input.password }] }

def PasswordChallenge.withAttempt (row : PasswordChallenge) : PasswordChallenge :=
  { row with attempts := row.attempts + 1 }

def PasswordChallenge.close (now : Int) (row : PasswordChallenge) : PasswordChallenge :=
  { row with consumedAt := some now }

/-- The update that counts an attempt. -/
def PasswordTables.countAttempt (db : PasswordTables) (challengeId : Nat) : PasswordTables :=
  { db with
    challenges := KeyedList.updateMany (fun row => row.id = challengeId && row.isCountable)
      PasswordChallenge.withAttempt db.challenges }

/-- The update that consumes a challenge, which has to find it. -/
def PasswordTables.consume (db : PasswordTables) (challengeId : Nat) (now : Int) :
    Except String PasswordTables := do
  let isOpen := fun row : PasswordChallenge => row.id = challengeId && row.isConsumable now
  require (db.challenges.countP isOpen = 1) "MfaReplayError"
  return { db with
    challenges := KeyedList.updateMany isOpen (PasswordChallenge.close now) db.challenges }

variable (crypto : PasswordCrypto)

/-- The transaction that stores a new hash of the password that was verified. -/
def LoginInput.rehash (db : PasswordTables) (input : LoginInput) (user : PasswordUser) :
    Except String PasswordTables := do
  let stored ← hashPassword crypto input.salt input.password
  let written ← db.upsertCredential user.id input.emailNormalized stored
  return written.clearLegacyHash user.id

/-- The transaction of `changePassword`. -/
def ChangePasswordInput.commit (db : PasswordTables) (input : ChangePasswordInput) :
    Except String PasswordTables := do
  let stored ← hashPassword crypto input.salt input.newPassword
  require ((db.credentialOf? input.userId).isSome = true) "P2025"
  return ((db.setHash input.userId stored).useResetTokens input.userId).revokeSessions input.userId

/-- The transaction of `resetPassword`. -/
def ResetPasswordInput.commit (db : PasswordTables) (input : ResetPasswordInput)
    (item : PasswordResetToken) (email : String) (now : Int) : Except String PasswordTables := do
  let stored ← hashPassword crypto input.salt input.password
  require (∃ row ∈ db.resetTokens, row.id = item.id ∧ row.usedAt = none ∧ now < row.expiresAt)
    "INVALID"
  let written ← db.upsertCredential item.userId (normalizeEmail crypto email) stored
  return ((written.clearLegacyHash item.userId).useResetTokens item.userId).revokeSessions item.userId

/-- The tables and the next place of a call; an error ends it. -/
def settlePassword (db : PasswordTables) (next : Option PasswordCall)
    (result : Except String PasswordTables) : PasswordTables × Option PasswordCall :=
  match result with
  | .error _ => (db, none)
  | .ok db' => (db', next)

/-- Where a login goes once its password is verified. -/
def LoginInput.verified (input : LoginInput) (credential : PasswordCredential)
    (user : PasswordUser) (now : Int) : Option LoginStage :=
  let verification := verifyPasswordVersioned crypto input.password credential.passwordHash
  if verification.valid = true ∧ (toIdentity user.toAuthUser false).isSome = true then
    if verification.needsRehash = true ∨ user.passwordHash.any (· ≠ "") = true then
      some (.rehash user now)
    else some (.loadPolicy user now)
  else none

def LoginStage.run (db : PasswordTables) (input : LoginInput) (answer : PasswordAnswer) :
    LoginStage → PasswordTables × Option PasswordCall
  | .findCredential =>
    (db, (db.credentialAt? input.emailNormalized).bind fun credential =>
      (db.user? credential.userId).map fun user =>
        .login input (.verify credential user db.clock))
  | .verify credential user now =>
    (db, (input.verified crypto credential user now).map fun stage => .login input stage)
  | .rehash user now =>
    settlePassword db (some (.login input (.loadPolicy user now))) (input.rehash crypto db user)
  | .loadPolicy user now =>
    match answer with
    | .policy true true => (db, some (.login input (.createChallenge user now)))
    | .policy true false =>
      (db, (toIdentity user.toAuthUser true).map fun identity => .login input (.findUser identity))
    | _ => (db, none)
  | .createChallenge user now => (db.createChallenge input user.id now, none)
  | .findUser identity =>
    (db, if db.admits identity then some (.login input (.createSession identity)) else none)
  | .createSession identity => (db.createSession identity.userId, none)

/-- The identity that a second factor gives. -/
def PasswordChallenge.identity? (challenge : PasswordChallenge) (user : PasswordUser) :
    Option SessionIdentity :=
  (toIdentity user.toAuthUser true).map fun identity =>
    { identity with identityProviderId := challenge.identityProviderId }

def MfaLoginStage.run (db : PasswordTables) (challengeToken : String) (answer : PasswordAnswer) :
    MfaLoginStage → PasswordTables × Option PasswordCall
  | .load =>
    (db, (db.challengeOf? challengeToken).bind fun challenge =>
      (db.user? challenge.userId).bind fun user =>
        if challenge.isConsumable db.clock = true ∧ user.isEnabled = true ∧
            challenge.identityProviderId.all (fun provider => provider ∈ db.liveProviders) = true then
          if answer = .wrongCode then some (.mfa challengeToken (.countAttempt challenge))
          else some (.mfa challengeToken (.consume challenge user db.clock))
        else none)
  | .countAttempt challenge => (db.countAttempt challenge.id, none)
  | .consume challenge user now =>
    settlePassword db ((challenge.identity? user).map fun identity =>
      .mfa challengeToken (.findUser challenge identity)) (db.consume challenge.id now)
  | .findUser challenge identity =>
    (db,
      if db.admits identity then some (.mfa challengeToken (.createSession challenge identity))
      else none)
  | .createSession _ identity => (db.createSession identity.userId, none)

/-- The checks of `changePassword`. -/
def ChangePasswordInput.check (db : PasswordTables) (input : ChangePasswordInput) :
    Except String Unit :=
  match db.credentialOf? input.userId with
  | none => .error "INVALID_PASSWORD"
  | some credential => do
    require ((verifyPasswordVersioned crypto input.currentPassword
      credential.passwordHash).valid = true) "INVALID_PASSWORD"
    validatePasswordPolicy crypto input.newPassword input.email

def ChangePasswordStage.run (db : PasswordTables) (input : ChangePasswordInput) :
    ChangePasswordStage → PasswordTables × Option PasswordCall
  | .findCredential =>
    match input.check crypto db with
    | .error _ => (db, none)
    | .ok () => (db, some (.change input .commit))
  | .commit => settlePassword db none (input.commit crypto db)

/-- The token that `resetPassword` goes on with, and the email of its user. -/
def ResetPasswordInput.find (db : PasswordTables) (input : ResetPasswordInput) :
    Option (PasswordResetToken × String) :=
  match db.resetTokens.find? fun row => row.tokenHash == input.tokenHash with
  | none => none
  | some item =>
    match db.user? item.userId with
    | none => none
    | some user =>
      if item.usedAt = none ∧ db.clock < item.expiresAt ∧ user.isEnabled = true ∧
          validatePasswordPolicy crypto input.password user.email = .ok () then
        some (item, user.email)
      else none

def ResetPasswordStage.run (db : PasswordTables) (input : ResetPasswordInput) :
    ResetPasswordStage → PasswordTables × Option PasswordCall
  | .findToken =>
    (db, (input.find crypto db).map fun (item, email) => .reset input (.commit item email db.clock))
  | .commit item email now => settlePassword db none (input.commit crypto db item email now)

/-- One step of a call. -/
def PasswordCall.advance (db : PasswordTables) (answer : PasswordAnswer) (call : PasswordCall) :
    PasswordTables × Option PasswordCall :=
  if answer = .failed then (db, none)
  else
    match call with
    | .login input stage => stage.run crypto db input answer
    | .mfa challengeToken stage => stage.run db challengeToken answer
    | .change input stage => stage.run crypto db input
    | .reset input stage => stage.run crypto db input

/-- A call begins with its first statement. -/
def PasswordCall.isInitial : PasswordCall → Bool
  | .login _ .findCredential => true
  | .mfa _ .load => true
  | .change _ .findCredential => true
  | .reset _ .findToken => true
  | _ => false

/-- The tables after something else has changed them.  Time does not go back. -/
def PasswordTables.change (db : PasswordTables) : PasswordEnv → PasswordTables
  | .tick time => { db with clock := max db.clock time }
  | .users rows => { db with users := rows }
  | .providers live => { db with liveProviders := live }
  | .externalLogin tokenHash userId identityProviderId =>
    { db with
      serial := db.serial + 1
      challenges := db.challenges ++
        [{ id := db.serial, tokenHash := tokenHash, userId := userId
           identityProviderId := some identityProviderId
           expiresAt := db.clock + loginChallengeTtlMs }] }
  | .resetToken tokenHash userId expiresAt =>
    { db.useResetTokens userId with
      serial := db.serial + 1
      resetTokens := (db.useResetTokens userId).resetTokens ++
        [{ id := db.serial, tokenHash := tokenHash, userId := userId, expiresAt := expiresAt }] }

/-- Any number of calls over the tables. -/
def passwords : Program PasswordTables PasswordCall PasswordEnv PasswordAnswer where
  env := PasswordTables.change
  initial := PasswordCall.isInitial
  advance db answer call := some (call.advance crypto db answer)

abbrev PasswordWorld := World PasswordTables PasswordCall

abbrev PasswordEvent := Event PasswordEnv PasswordCall PasswordAnswer

end AvantimePlatform.Identity
