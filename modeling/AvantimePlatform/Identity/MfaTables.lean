import AvantimePlatform.Identity.Totp
import AvantimePlatform.Identity.Users
import AvantimePlatform.Lib.KeyedList

/-!
# The tables of the second factor

Authenticators, recovery codes and login challenges, with the guarded statements and
transactions of `identity-auth.ts` and `identity-management.ts`.  A guarded statement that
finds its row changed is `none`.

Ids are numbers that are given out in order, `serial` being the next: `cuid()` gives none
twice.
-/

namespace AvantimePlatform.Identity

open AvantimePlatform

inductive MfaMethodKind where
  | totp | webauthn | idpClaim
deriving DecidableEq

inductive MfaMethodStatus where
  | pending | active | disabled
deriving DecidableEq

/-- A row of `MfaMethod`. -/
structure MfaMethod where
  id : Nat
  userId : String
  kind : MfaMethodKind := .totp
  status : MfaMethodStatus := .pending
  secretEncrypted : Option String
  lastUsedCounter : Option Int := none
  createdAt : Int
deriving DecidableEq

/-- A row of `RecoveryCode`. -/
structure RecoveryCode where
  id : Nat
  userId : String
  codeHash : String
  usedAt : Option Int := none
deriving DecidableEq

/-- A row of `LoginChallenge`. -/
structure LoginChallenge where
  id : Nat
  tokenHash : String
  userId : String
  identityProviderId : Option String := none
  expiresAt : Int
  consumedAt : Option Int := none
  attempts : Nat := 0
deriving DecidableEq

/-- The tables.  `liveProviders` are the identity providers that are enabled and
`TENANT_VALIDATED`. -/
structure MfaTables where
  serial : Nat := 0
  users : List AuthUser := []
  liveProviders : List String := []
  methods : List MfaMethod := []
  codes : List RecoveryCode := []
  challenges : List LoginChallenge := []
deriving DecidableEq

def loginChallengeMaxAttempts : Nat := 5

/-! ## Rows that are changed -/

def LoginChallenge.counted (row : LoginChallenge) : LoginChallenge :=
  { row with attempts := row.attempts + 1 }

def LoginChallenge.consumed (row : LoginChallenge) (now : Int) : LoginChallenge :=
  { row with consumedAt := some now }

def RecoveryCode.used (row : RecoveryCode) (now : Int) : RecoveryCode :=
  { row with usedAt := some now }

def MfaMethod.used (row : MfaMethod) (counter : Int) : MfaMethod :=
  { row with lastUsedCounter := some counter }

def MfaMethod.activated (row : MfaMethod) (counter : Int) : MfaMethod :=
  { row with status := .active, lastUsedCounter := some counter }

def MfaMethod.retired (row : MfaMethod) : MfaMethod :=
  { row with status := .disabled, secretEncrypted := none }

/-- An active authenticator of the user. -/
def MfaMethod.isActiveOf (row : MfaMethod) (userId : String) : Bool :=
  row.userId = userId && row.kind = .totp && row.status = .active

/-- A pending authenticator of the user. -/
def MfaMethod.isPendingOf (row : MfaMethod) (userId : String) : Bool :=
  row.userId = userId && row.kind = .totp && row.status = .pending

/-- The authenticator that an enrolment creates. -/
def enrolled (id : Nat) (userId secretEncrypted : String) (now : Int) : MfaMethod where
  id := id
  userId := userId
  secretEncrypted := some secretEncrypted
  createdAt := now

namespace MfaTables

def user? (db : MfaTables) (id : String) : Option AuthUser := KeyedList.find AuthUser.id id db.users

def method? (db : MfaTables) (id : Nat) : Option MfaMethod :=
  KeyedList.find MfaMethod.id id db.methods

def code? (db : MfaTables) (id : Nat) : Option RecoveryCode :=
  KeyedList.find RecoveryCode.id id db.codes

def challenge? (db : MfaTables) (id : Nat) : Option LoginChallenge :=
  KeyedList.find LoginChallenge.id id db.challenges

def challengeOf? (db : MfaTables) (tokenHash : String) : Option LoginChallenge :=
  db.challenges.find? fun row => row.tokenHash == tokenHash

def codeOf? (db : MfaTables) (codeHash : String) : Option RecoveryCode :=
  db.codes.find? fun row => row.codeHash == codeHash

/-- The first active authenticator of a user. -/
def activeMethod? (db : MfaTables) (userId : String) : Option MfaMethod :=
  db.methods.find? fun row => row.isActiveOf userId

/-- The pending authenticator of a user at an id. -/
def pendingMethod? (db : MfaTables) (userId : String) (id : Nat) : Option MfaMethod :=
  db.methods.find? fun row => row.id = id && row.isPendingOf userId

def setMethod (db : MfaTables) (row : MfaMethod) : MfaTables :=
  { db with methods := KeyedList.put MfaMethod.id row db.methods }

def setCode (db : MfaTables) (row : RecoveryCode) : MfaTables :=
  { db with codes := KeyedList.put RecoveryCode.id row db.codes }

def setChallenge (db : MfaTables) (row : LoginChallenge) : MfaTables :=
  { db with challenges := KeyedList.put LoginChallenge.id row db.challenges }

end MfaTables

/-! ## Challenges -/

/-- The condition of the update that counts an attempt. -/
def LoginChallenge.isCountable (row : LoginChallenge) : Bool :=
  row.consumedAt.isNone && decide (row.attempts < loginChallengeMaxAttempts)

/-- The condition of the update that consumes a challenge. -/
def LoginChallenge.isConsumable (row : LoginChallenge) (now : Int) : Bool :=
  row.isCountable && decide (now < row.expiresAt)

namespace MfaTables

/-- `createLoginChallenge`. -/
def createLoginChallenge (db : MfaTables) (tokenHash userId : String)
    (identityProviderId : Option String) (expiresAt : Int) : Option MfaTables :=
  match db.challengeOf? tokenHash with
  | some _ => none
  | none =>
    some
      { db with
        serial := db.serial + 1
        challenges := db.challenges ++
          [{ id := db.serial, tokenHash := tokenHash, userId := userId
             identityProviderId := identityProviderId, expiresAt := expiresAt }] }

/-- The update that counts an attempt. -/
def countAttempt (db : MfaTables) (challengeId : Nat) : MfaTables :=
  { db with
    challenges := KeyedList.updateMany (fun row => row.id = challengeId && row.isCountable)
      LoginChallenge.counted db.challenges }

/-- The update that consumes a challenge. -/
def closeChallenge (db : MfaTables) (challengeId : Nat) (now : Int) : Option MfaTables :=
  match db.challenge? challengeId with
  | none => none
  | some row =>
    if row.isConsumable now then some (db.setChallenge (row.consumed now)) else none

end MfaTables

/-! ## Factors -/

/-- `status: 'ACTIVE', OR: [{ lastUsedCounter: null }, { lastUsedCounter: { lt: counter } }]`. -/
def MfaMethod.accepts (row : MfaMethod) (counter : Int) : Bool :=
  row.status = .active && row.lastUsedCounter.all (· < counter)

/-- What a submitted code was found to be. -/
inductive Verification where
  | totp (counter : Int) (methodId : Nat)
  | recovery (recoveryCodeId : Nat)
deriving DecidableEq

namespace MfaTables

/-- The update that uses a counter of an authenticator. -/
def useCounter (db : MfaTables) (methodId : Nat) (counter : Int) : Option MfaTables :=
  match db.method? methodId with
  | none => none
  | some row =>
    if row.accepts counter then some (db.setMethod (row.used counter)) else none

/-- The update that uses a recovery code. -/
def useRecoveryCode (db : MfaTables) (recoveryCodeId : Nat) (userId : String) (now : Int) :
    Option MfaTables :=
  match db.code? recoveryCodeId with
  | none => none
  | some row =>
    if row.userId = userId ∧ row.usedAt = none then some (db.setCode (row.used now)) else none

/-- The transaction of `authenticateMfaChallenge`. -/
def consume (db : MfaTables) (challengeId : Nat) (userId : String) (now : Int) :
    Verification → Option MfaTables
  | .totp counter methodId =>
    (db.closeChallenge challengeId now).bind fun closed => closed.useCounter methodId counter
  | .recovery recoveryCodeId =>
    (db.closeChallenge challengeId now).bind fun closed =>
      closed.useRecoveryCode recoveryCodeId userId now

/-- `recoveryRows`, with their ids. -/
def recoveryRows (db : MfaTables) (userId : String) (hashes : List String) : List RecoveryCode :=
  (hashes.zipIdx db.serial).map fun (codeHash, id) =>
    { id := id, userId := userId, codeHash := codeHash }

/-- The recovery codes of a user are deleted, and those with the given hashes created. -/
def replaceRecoveryCodes (db : MfaTables) (userId : String) (hashes : List String) :
    Option MfaTables :=
  let kept := db.codes.filter fun row => row.userId ≠ userId
  if hashes.Nodup ∧ ∀ row ∈ kept, row.codeHash ∉ hashes then
    some
      { db with
        serial := db.serial + hashes.length
        codes := kept ++ db.recoveryRows userId hashes }
  else none

/-! ## Authenticators -/

/-- The transaction of `beginTotpEnrollment`. -/
def enroll (db : MfaTables) (userId secretEncrypted : String) (now : Int) : MfaTables :=
  { db with
    serial := db.serial + 1
    methods :=
      KeyedList.updateMany (·.isPendingOf userId) MfaMethod.retired db.methods ++
        [enrolled db.serial userId secretEncrypted now] }

/-- The transaction of `confirmTotpEnrollment`. -/
def activate (db : MfaTables) (userId : String) (methodId : Nat) (counter : Int)
    (hashes : List String) : Option MfaTables :=
  match db.method? methodId with
  | none => none
  | some row =>
    if row.userId = userId ∧ row.status = .pending then
      (db.setMethod (row.activated counter)).replaceRecoveryCodes userId hashes
    else none

/-- The transaction of `disableTotp`. -/
def disable (db : MfaTables) (userId : String) (methodId : Nat) : Option MfaTables :=
  match db.method? methodId with
  | none => none
  | some row => (db.setMethod row.retired).replaceRecoveryCodes userId []

end MfaTables

end AvantimePlatform.Identity
