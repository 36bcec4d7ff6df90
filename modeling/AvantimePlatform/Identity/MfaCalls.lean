import AvantimePlatform.Identity.MfaTables
import AvantimePlatform.Lib.Interleaving

/-!
# The calls of the second factor

Each operation as the statements it awaits:

* `authenticateMfaChallenge` loads the challenge with its user and authenticator, looks a
  recovery code up unless the code is a one-time code of the authenticator, and then
  either counts an attempt or consumes the challenge and the factor in one transaction;
* `regenerateRecoveryCodes` and `disableTotp` read the active authenticator, use a counter
  of it, and commit; `disableTotp` reads the policy before;
* `beginTotpEnrollment` looks for an active authenticator and creates a pending one;
* `confirmTotpEnrollment` reads the pending authenticator and activates it.

Users, providers and logins change the tables at any time.  A statement may fail, which
ends the call.
-/

namespace AvantimePlatform.Identity

open AvantimePlatform AvantimePlatform.Interleaving

/-! ## A login -/

structure AuthenticateInput where
  /-- The hash of the token. -/
  challengeToken : String
  code : String
  now : Int
deriving DecidableEq

/-- What `authenticateMfaChallenge` does next. -/
inductive AuthenticatePlace where
  | load
  | findRecovery (challenge : LoginChallenge) (user : AuthUser)
  | countAttempt (challenge : LoginChallenge)
  | consume (challenge : LoginChallenge) (user : AuthUser) (verification : Verification)
deriving DecidableEq

/-- A challenge that the login goes on with. -/
def MfaTables.canAuthenticate (db : MfaTables) (challenge : LoginChallenge) (user : AuthUser)
    (now : Int) : Bool :=
  challenge.isConsumable now &&
    challenge.identityProviderId.all (fun provider => provider = "" || provider ∈ db.liveProviders) &&
    user.isEnabled

/-- The secret that a submitted one-time code is compared with. -/
def comparedSecret (method : Option MfaMethod) (code : String) : Option (MfaMethod × String) :=
  match method with
  | none => none
  | some row =>
    match row.secretEncrypted with
    | none => none
    | some encrypted => if encrypted ≠ "" ∧ isTotpCode code = true then some (row, encrypted) else none

/-- `verifyTotp` on a stored secret.  It throws when the secret cannot be decrypted. -/
def verifyStored (crypto : MfaCrypto) (encrypted code : String) (now : Int)
    (lastUsedCounter : Option Int) : Except String (Option Int) := do
  let secret ← crypto.decryptTotpSecret encrypted
  verifyTotp crypto secret code now lastUsedCounter

/-! ## A use of a factor -/

/-- What `verifyActiveMfaCode` is called for, with the recovery codes to create. -/
inductive FactorUse where
  | regenerate (codes : List String)
  | disable
deriving DecidableEq

structure FactorInput where
  userId : String
  code : String
  now : Int
  use : FactorUse
deriving DecidableEq

/-- What `regenerateRecoveryCodes` or `disableTotp` does next. -/
inductive FactorPlace where
  | overview
  | read
  | useCounter (methodId : Nat) (counter : Int)
  | commit (methodId : Nat)
deriving DecidableEq

/-- The transaction after the code was verified. -/
def FactorInput.commit (crypto : MfaCrypto) (db : MfaTables) (input : FactorInput) (methodId : Nat) :
    Option MfaTables :=
  match input.use with
  | .regenerate codes => db.replaceRecoveryCodes input.userId (codes.map (hashRecoveryCode crypto))
  | .disable => db.disable input.userId methodId

/-! ## An enrolment -/

structure BeginInput where
  userId : String
  secretEncrypted : String
  now : Int
deriving DecidableEq

inductive BeginPlace where
  | findActive
  | enroll
deriving DecidableEq

structure ConfirmInput where
  userId : String
  methodId : Nat
  code : String
  codes : List String
  now : Int
deriving DecidableEq

inductive ConfirmPlace where
  | read
  | activate (methodId : Nat) (counter : Int)
deriving DecidableEq

/-- `MFA_ENROLLMENT_TTL_MS`. -/
def mfaEnrollmentTtlMs : Int := 10 * 60000

/-- The secret of an enrolment that can be confirmed. -/
def MfaMethod.confirmable (row : MfaMethod) (now : Int) : Option String :=
  row.secretEncrypted.filter fun encrypted =>
    encrypted ≠ "" && decide (now < row.createdAt + mfaEnrollmentTtlMs)

/-! ## The calls -/

/-- A call in progress. -/
inductive MfaCall where
  | authenticate (input : AuthenticateInput) (place : AuthenticatePlace)
  | factor (input : FactorInput) (place : FactorPlace)
  | begin (input : BeginInput) (place : BeginPlace)
  | confirm (input : ConfirmInput) (place : ConfirmPlace)
deriving DecidableEq

/-- What a statement is answered. -/
inductive MfaAnswer where
  | made
  /-- The overview says that the policy requires a second factor. -/
  | required
  | failed
deriving DecidableEq

/-- What changes the tables besides. -/
inductive MfaEnv where
  | users (rows : List AuthUser)
  | providers (live : List String)
  | login (tokenHash userId : String) (identityProviderId : Option String) (expiresAt : Int)
deriving DecidableEq

/-- The tables that a guarded statement or a transaction leaves. -/
def settleMfa (db : MfaTables) (written : Option MfaTables) : MfaTables := written.getD db

variable (crypto : MfaCrypto)

def AuthenticatePlace.run (db : MfaTables) (input : AuthenticateInput) :
    AuthenticatePlace → MfaTables × Option MfaCall
  | .load =>
    match db.challengeOf? input.challengeToken with
    | none => (db, none)
    | some challenge =>
      match db.user? challenge.userId with
      | none => (db, none)
      | some user =>
        if db.canAuthenticate challenge user input.now then
          match comparedSecret (db.activeMethod? user.id) input.code with
          | none => (db, some (.authenticate input (.findRecovery challenge user)))
          | some (method, encrypted) =>
            match verifyStored crypto encrypted input.code input.now method.lastUsedCounter with
            | .error _ => (db, none)
            | .ok none => (db, some (.authenticate input (.countAttempt challenge)))
            | .ok (some counter) =>
              (db, some (.authenticate input
                (.consume challenge user (.totp counter method.id))))
        else (db, none)
  | .findRecovery challenge user =>
    match db.codeOf? (hashRecoveryCode crypto input.code) with
    | some row =>
      if row.userId = user.id ∧ row.usedAt = none then
        (db, some (.authenticate input (.consume challenge user (.recovery row.id))))
      else (db, some (.authenticate input (.countAttempt challenge)))
    | none => (db, some (.authenticate input (.countAttempt challenge)))
  | .countAttempt challenge => (db.countAttempt challenge.id, none)
  | .consume challenge user verification =>
    (settleMfa db (db.consume challenge.id user.id input.now verification), none)

def FactorPlace.run (db : MfaTables) (input : FactorInput) :
    FactorPlace → MfaTables × Option MfaCall
  | .overview => (db, some (.factor input .read))
  | .read =>
    match db.activeMethod? input.userId with
    | none => (db, none)
    | some method =>
      match method.secretEncrypted with
      | none => (db, none)
      | some encrypted =>
        if encrypted = "" then (db, none)
        else
          match verifyStored crypto encrypted input.code input.now method.lastUsedCounter with
          | .ok (some counter) => (db, some (.factor input (.useCounter method.id counter)))
          | _ => (db, none)
  | .useCounter methodId counter =>
    match db.useCounter methodId counter with
    | none => (db, none)
    | some db' => (db', some (.factor input (.commit methodId)))
  | .commit methodId => (settleMfa db (input.commit crypto db methodId), none)

def BeginPlace.run (db : MfaTables) (input : BeginInput) : BeginPlace → MfaTables × Option MfaCall
  | .findActive =>
    match db.activeMethod? input.userId with
    | some _ => (db, none)
    | none => (db, some (.begin input .enroll))
  | .enroll => (db.enroll input.userId input.secretEncrypted input.now, none)

def ConfirmPlace.run (db : MfaTables) (input : ConfirmInput) :
    ConfirmPlace → MfaTables × Option MfaCall
  | .read =>
    match db.pendingMethod? input.userId input.methodId with
    | none => (db, none)
    | some method =>
      match method.confirmable input.now with
      | none => (db, none)
      | some encrypted =>
        match verifyStored crypto encrypted input.code input.now none with
        | .ok (some counter) => (db, some (.confirm input (.activate method.id counter)))
        | _ => (db, none)
  | .activate methodId counter =>
    (settleMfa db
      (db.activate input.userId methodId counter (input.codes.map (hashRecoveryCode crypto))), none)

/-- One step of a call. -/
def MfaCall.advance (db : MfaTables) : MfaAnswer → MfaCall → MfaTables × Option MfaCall
  | .failed, _ => (db, none)
  | .required, _ => (db, none)
  | .made, .authenticate input place => place.run crypto db input
  | .made, .factor input place => place.run crypto db input
  | .made, .begin input place => place.run db input
  | .made, .confirm input place => place.run crypto db input

/-- A call begins with its first statement. -/
def MfaCall.isInitial : MfaCall → Bool
  | .authenticate _ .load => true
  | .factor { use := .regenerate _, .. } .read => true
  | .factor { use := .disable, .. } .overview => true
  | .begin _ .findActive => true
  | .confirm _ .read => true
  | _ => false

/-- The tables after something else has changed them. -/
def MfaTables.change (db : MfaTables) : MfaEnv → MfaTables
  | .users rows => { db with users := rows }
  | .providers live => { db with liveProviders := live }
  | .login tokenHash userId identityProviderId expiresAt =>
    settleMfa db (db.createLoginChallenge tokenHash userId identityProviderId expiresAt)

/-- Any number of calls over the tables. -/
def mfa : Program MfaTables MfaCall MfaEnv MfaAnswer where
  env := MfaTables.change
  initial := MfaCall.isInitial
  advance db answer call := some (call.advance crypto db answer)

abbrev MfaWorld := World MfaTables MfaCall

abbrev MfaEvent := Event MfaEnv MfaCall MfaAnswer

end AvantimePlatform.Identity
