import AvantimePlatform.Identity.ExternalLogin
import AvantimePlatform.Identity.PasswordCalls
import AvantimePlatform.Identity.RequiredSso

/-!
# The sessions of a provider

An external login is `authenticateExternalIdentity` and then `createUserSession`: it reads
the identity with its provider, the user and the policy, reads the user and the provider
again, and creates the session.  `setOidcProviderEnabled` revokes the sessions of a provider
with `REVOKE_ON_DISABLE` in the transaction that switches it off; `updateOidcProvider`
switches a provider off as well, and revokes nothing.

* `SessionsEnded`: a provider that was switched off while it had `REVOKE_ON_DISABLE` has no
  session that is not revoked, until it is switched on again.
* `CallEndsSessions`: the steps that leave it so.
* `sessions_ended_iff`: it holds along a run exactly when all steps of the run are such.
-/

namespace AvantimePlatform.Identity

open AvantimePlatform AvantimePlatform.Checked AvantimePlatform.Interleaving
  AvantimePlatform.Transition

/-! ## The tables -/

/-- A row of `UserSession`. -/
structure UserSession where
  id : Nat
  userId : String
  companyId : Option String
  identityProviderId : Option Nat
  revokedAt : Option Int := none
deriving DecidableEq

/-- `switchedOff` is no column: it has the providers that were switched off while they had
`REVOKE_ON_DISABLE`, and have not been switched on again. -/
structure SessionTables where
  serial : Nat := 0
  oidc : OidcTables := {}
  users : List PasswordUser := []
  externalIdentities : List ExternalIdentity := []
  sessions : List UserSession := []
  switchedOff : List Nat := []
deriving DecidableEq

/-- An enabled provider whose sessions end with it. -/
def IdentityProvider.endsSessions (row : IdentityProvider) : Bool :=
  row.enabled && row.sessionPolicy = .revokeOnDisable

/-- The providers that are switched off after a step of the operations on providers. -/
def switchedOffAfter (before after : OidcTables) (off : List Nat) : List Nat :=
  ((before.providers.filter (·.endsSessions)).map (·.id) ++ off).filter fun id =>
    (after.provider? id).any fun row => !row.enabled

namespace SessionTables

def user? (db : SessionTables) (id : String) : Option PasswordUser :=
  db.users.find? fun row => row.id == id

/-- The sessions of a provider that are not revoked. -/
def isOpenAt (id : Nat) (session : UserSession) : Bool :=
  session.identityProviderId = some id && session.revokedAt.isNone

/-- The update of the sessions in `setOidcProviderEnabled`. -/
def revokeSessions (db : SessionTables) (id : Nat) (now : Int) : SessionTables :=
  { db with
    sessions := KeyedList.updateMany (isOpenAt id)
      (fun session => { session with revokedAt := some now }) db.sessions }

/-- The tables after the operations on providers have changed theirs. -/
def setOidc (db : SessionTables) (oidc : OidcTables) : SessionTables :=
  { db with oidc := oidc, switchedOff := switchedOffAfter db.oidc oidc db.switchedOff }

end SessionTables

/-! ## External logins -/

structure ExternalLoginInput where
  providerId : Nat
  subject : String
  now : Int
deriving DecidableEq

/-- What an external login does next. -/
inductive ExternalLoginPlace where
  | findExternal
  | loadUser (provider : IdentityProvider) (userId : String)
  | loadPolicy (provider : IdentityProvider) (identity : SessionIdentity)
  | findUser (providerId : Nat) (identity : SessionIdentity)
  | findProvider (providerId : Nat) (identity : SessionIdentity)
  | create (providerId : Nat) (identity : SessionIdentity)
deriving DecidableEq

/-- The first query of `authenticateExternalIdentity`, with its checks. -/
def ExternalLoginInput.findExternal (db : SessionTables) (input : ExternalLoginInput) :
    Except String ExternalLoginPlace :=
  match db.externalIdentities.find? fun row =>
      row.providerId = input.providerId && row.subject = input.subject with
  | none => .error "INVALID"
  | some external =>
    match db.oidc.provider? external.providerId with
    | none => .error "INVALID"
    | some provider =>
      if provider.enabled = true ∧ provider.validationStatus = .tenantValidated ∧
          isText provider.companyId = true then
        .ok (.loadUser provider external.userId)
      else .error "INVALID"

/-- The query of the user, with the checks on the identity that it gives. -/
def loadExternalUser (db : SessionTables) (provider : IdentityProvider) (userId : String) :
    Except String ExternalLoginPlace :=
  match (db.user? userId).bind fun user => toIdentity user.toAuthUser false with
  | none => .error "INVALID"
  | some identity =>
    if identity.companyId = provider.companyId then .ok (.loadPolicy provider identity)
    else .error "INVALID"

/-- The query of the policy.  `challenged` is what `evaluateMfaPolicy` decides; the login goes
on at `createUserSession` then, when the challenge is met. -/
def ExternalLoginInput.loadPolicy (db : SessionTables) (input : ExternalLoginInput)
    (provider : IdentityProvider) (identity : SessionIdentity) (challenged : Bool) :
    Except String ExternalLoginPlace := do
  require (isOrganizationLoginMethodAllowed (identity.companyId.bind db.oidc.policy?) .oidc
    (some provider.id) input.now = true) "INVALID"
  require (challenged = false) "MFA_REQUIRED"
  return .findUser provider.id { identity with mfaSatisfied := true }

/-- The query of the user in `createUserSession`. -/
def findSessionUser (db : SessionTables) (providerId : Nat) (identity : SessionIdentity) :
    Except String ExternalLoginPlace := do
  require ((db.user? identity.userId).any (fun user => canCreateSession user identity) = true)
    "Session identity is no longer active."
  return .findProvider providerId identity

/-- Its query of the provider. -/
def findSessionProvider (db : SessionTables) (providerId : Nat) (identity : SessionIdentity) :
    Except String ExternalLoginPlace := do
  require ((db.oidc.provider? providerId).any (fun row =>
      row.companyId = identity.companyId && row.kind = .oidc && row.enabled &&
        row.validationStatus = .tenantValidated) = true)
    "External identity provider is no longer active."
  return .create providerId identity

/-- The session that it creates. -/
def SessionTables.createSession (db : SessionTables) (providerId : Nat) (identity : SessionIdentity) :
    SessionTables :=
  { db with
    serial := db.serial + 1
    sessions := db.sessions ++
      [{ id := db.serial, userId := identity.userId, companyId := identity.companyId
         identityProviderId := some providerId }] }

/-! ## The system -/

inductive SignOnCall where
  | oidc (call : OidcCall)
  | login (input : ExternalLoginInput) (place : ExternalLoginPlace)
deriving DecidableEq

/-- What a step is answered.  `challenged` is an answer to the query of the policy. -/
inductive SignOnAnswer where
  | oidc (answer : OidcAnswer)
  | made
  | challenged
  | failed
deriving DecidableEq

/-- What changes the tables besides: users and linked identities, local logins, and the other
operations that revoke sessions. -/
inductive SignOnEnv where
  | oidc (e : OidcEnv)
  | users (rows : List PasswordUser)
  | externalIdentities (rows : List ExternalIdentity)
  | localLogin (userId : String) (companyId : Option String)
  | revoke (ids : List Nat) (now : Int)
deriving DecidableEq

def SessionTables.change (db : SessionTables) : SignOnEnv → SessionTables
  | .oidc e => db.setOidc (db.oidc.change e)
  | .users rows => { db with users := rows }
  | .externalIdentities rows => { db with externalIdentities := rows }
  | .localLogin userId companyId =>
    { db with
      serial := db.serial + 1
      sessions := db.sessions ++
        [{ id := db.serial, userId := userId, companyId := companyId, identityProviderId := none }] }
  | .revoke ids now =>
    { db with
      sessions := KeyedList.updateMany (fun session => decide (session.id ∈ ids))
        (fun session => { session with revokedAt := some now }) db.sessions }

/-- One step of an operation on providers.  The transaction of `setOidcProviderEnabled` also
revokes the sessions. -/
def OidcCall.advanceSessions (urls : UrlRules) (db : SessionTables) (answer : OidcAnswer)
    (call : OidcCall) : SessionTables × Option OidcCall :=
  let (oidc, next) := call.advance urls db.oidc answer
  match call with
  | .setEnabled input (.write provider) =>
    if answer ≠ .failed ∧ (input.write db.oidc provider).isOk = true ∧ input.enabled = false ∧
        provider.sessionPolicy = .revokeOnDisable then
      ((db.setOidc oidc).revokeSessions provider.id input.now, next)
    else (db.setOidc oidc, next)
  | _ => (db.setOidc oidc, next)

/-- Where a query leaves an external login; an error ends it. -/
def ExternalLoginInput.goesOn (input : ExternalLoginInput) (db : SessionTables)
    (result : Except String ExternalLoginPlace) : SessionTables × Option SignOnCall :=
  (db, result.toOption.map (.login input))

def ExternalLoginPlace.run (db : SessionTables) (input : ExternalLoginInput)
    (challenged : Bool) : ExternalLoginPlace → SessionTables × Option SignOnCall
  | .findExternal => input.goesOn db (input.findExternal db)
  | .loadUser provider userId => input.goesOn db (loadExternalUser db provider userId)
  | .loadPolicy provider identity => input.goesOn db (input.loadPolicy db provider identity challenged)
  | .findUser providerId identity => input.goesOn db (findSessionUser db providerId identity)
  | .findProvider providerId identity => input.goesOn db (findSessionProvider db providerId identity)
  | .create providerId identity => (db.createSession providerId identity, none)

/-- One step of a call. -/
def SignOnCall.advance (urls : UrlRules) (db : SessionTables) (answer : SignOnAnswer) :
    SignOnCall → Option (SessionTables × Option SignOnCall)
  | .oidc call =>
    match answer with
    | .oidc answer =>
      let (db', next) := call.advanceSessions urls db answer
      some (db', next.map .oidc)
    | _ => none
  | .login input place =>
    match answer with
    | .made => some (place.run db input false)
    | .challenged => some (place.run db input true)
    | .failed => some (db, none)
    | .oidc _ => none

/-- A login begins with its first query, or at `createUserSession` when a challenge has been
met. -/
def SignOnCall.isInitial : SignOnCall → Bool
  | .oidc call => call.isInitial
  | .login _ .findExternal => true
  | .login _ (.findUser _ _) => true
  | .login _ _ => false

/-- Any number of operations on providers and of external logins. -/
def signOn (urls : UrlRules) : Program SessionTables SignOnCall SignOnEnv SignOnAnswer where
  env := SessionTables.change
  initial := SignOnCall.isInitial
  advance db answer call := call.advance urls db answer

abbrev SignOnWorld := World SessionTables SignOnCall

abbrev SignOnEvent := Event SignOnEnv SignOnCall SignOnAnswer

/-! ## The property and its condition -/

/-- All sessions of the provider are revoked. -/
def SessionTables.AllRevoked (db : SessionTables) (id : Nat) : Prop :=
  ∀ session ∈ db.sessions, session.identityProviderId = some id → session.revokedAt.isSome = true

/-- A provider that was switched off while it had `REVOKE_ON_DISABLE`, and has not been
switched on again, has no session that is not revoked. -/
def SessionsEnded (db : SessionTables) : Prop := ∀ id ∈ db.switchedOff, db.AllRevoked id

/-- The step of the call does not edit a provider that ends its sessions and still has some,
and does not create a session of a provider that has been switched off. -/
def CallEndsSessions (db : SessionTables) : SignOnCall → Prop
  | .oidc (.update input (.write current)) =>
    db.oidc.FindsVersion input.session current.id input.expectedVersion →
      (∀ row ∈ db.oidc.providers, row.key = input.configuration.key → row.id = current.id) →
      ∀ row, db.oidc.provider? current.id = some row → row.endsSessions = true →
        db.AllRevoked current.id
  | .login _ (.create providerId _) => providerId ∉ db.switchedOff
  | _ => True

/-- The condition on a step of the system. -/
def EndsSessions (w : SignOnWorld) (ev : SignOnEvent) : Prop :=
  ∀ i answer call, ev = .advance i answer → answer ≠ .failed → answer ≠ .oidc .failed →
    w.locals[i]? = some call → CallEndsSessions w.shared call

/-! ## Switching off -/

variable {urls : UrlRules} {db db' : SessionTables} {before after : OidcTables}

/-- The providers in `switchedOff` are disabled. -/
def OffDisabled (db : SessionTables) : Prop :=
  ∀ id ∈ db.switchedOff, ∃ row, db.oidc.provider? id = some row ∧ row.enabled = false

theorem mem_switchedOffAfter (hkeyed : OidcKeyed before) {off : List Nat} {id : Nat} :
    id ∈ switchedOffAfter before after off ↔
      ((∃ row, before.provider? id = some row ∧ row.endsSessions = true) ∨ id ∈ off) ∧
        ∃ row, after.provider? id = some row ∧ row.enabled = false := by
  have hends : id ∈ (before.providers.filter (·.endsSessions)).map (·.id) ↔
      ∃ row, before.provider? id = some row ∧ row.endsSessions = true := by
    rw [List.mem_map]
    constructor
    · rintro ⟨row, hrow, rfl⟩
      obtain ⟨hmem, hends⟩ := List.mem_filter.mp hrow
      exact ⟨row, KeyedList.find_of_mem hkeyed.providers hmem, hends⟩
    · rintro ⟨row, hrow, hends⟩
      obtain ⟨hmem, hid⟩ := KeyedList.find_eq_some hrow
      exact ⟨row, List.mem_filter.mpr ⟨hmem, hends⟩, hid⟩
  have hoff : (after.provider? id).any (fun row => !row.enabled) = true ↔
      ∃ row, after.provider? id = some row ∧ row.enabled = false := by
    rw [Option.any_eq_true]
    refine exists_congr fun row => and_congr_right fun _ => ?_
    rw [Bool.not_eq_true']
  unfold switchedOffAfter
  rw [List.mem_filter, List.mem_append, hends, hoff]

/-- No provider is switched off by a step that keeps those with sessions to end enabled. -/
theorem sessionsEnded_setOidc (hkeyed : OidcKeyed db.oidc) (hended : SessionsEnded db)
    {oidc : OidcTables}
    (hkeeps : ∀ id row, db.oidc.provider? id = some row → row.endsSessions = true →
      (∃ row', oidc.provider? id = some row' ∧ row'.enabled = false) → db.AllRevoked id) :
    SessionsEnded (db.setOidc oidc) := by
  intro id hid
  obtain ⟨hfrom, hoff⟩ := (mem_switchedOffAfter hkeyed).mp hid
  rcases hfrom with ⟨row, hrow, hends⟩ | hold
  · exact hkeeps id row hrow hends hoff
  · exact hended id hold

/-- A row that keeps its key and stays enabled switches nothing off. -/
theorem sessionsEnded_setProvider (hkeyed : OidcKeyed db.oidc) (hended : SessionsEnded db)
    {row old : IdentityProvider} (hold : db.oidc.provider? row.id = some old)
    (hkeeps : old.endsSessions = true → row.enabled = false → db.AllRevoked row.id) :
    SessionsEnded (db.setOidc (db.oidc.setProvider row)) := by
  refine sessionsEnded_setOidc hkeyed hended fun id found hfound hends => ?_
  rintro ⟨row', hrow', hdisabled⟩
  rw [provider_setProvider hold] at hrow'
  split at hrow'
  · next hid =>
    obtain rfl := Option.some.inj hrow'
    rw [hid, hold] at hfound
    obtain rfl := Option.some.inj hfound
    rw [hid]
    exact hkeeps hends hdisabled
  · rw [hfound] at hrow'
    obtain rfl := Option.some.inj hrow'
    rw [IdentityProvider.endsSessions, hdisabled] at hends
    exact absurd hends Bool.false_ne_true

/-- Tables with the same providers have the same ones switched off. -/
theorem sessionsEnded_sameProviders (hkeyed : OidcKeyed db.oidc) (hended : SessionsEnded db)
    {oidc : OidcTables} (hsame : oidc.providers = db.oidc.providers) :
    SessionsEnded (db.setOidc oidc) := by
  refine sessionsEnded_setOidc hkeyed hended fun id row hrow hends => ?_
  rintro ⟨row', hrow', hdisabled⟩
  have hfound : oidc.provider? id = db.oidc.provider? id := by
    unfold OidcTables.provider?
    rw [hsame]
  rw [hfound, hrow] at hrow'
  obtain rfl := Option.some.inj hrow'
  rw [IdentityProvider.endsSessions, hdisabled] at hends
  exact absurd hends Bool.false_ne_true

theorem enabled_of_endsSessions {row : IdentityProvider} (h : row.endsSessions = true) :
    row.enabled = true := by
  rw [IdentityProvider.endsSessions, Bool.and_eq_true] at h
  exact h.1

/-- The operations that neither edit nor switch a provider switch nothing off. -/
theorem sessionsEnded_wrote {call : OidcCall} {oidc : OidcTables} (hkeyed : OidcKeyed db.oidc)
    (hended : SessionsEnded db) (hupdate : ∀ input current, call ≠ .update input (.write current))
    (hswitch : ∀ input provider, call ≠ .setEnabled input (.write provider))
    (h : OidcWrote db.oidc call oidc) : SessionsEnded (db.setOidc oidc) := by
  cases h with
  | nothing => exact sessionsEnded_sameProviders hkeyed hended rfl
  | created input companyId =>
      refine sessionsEnded_setOidc hkeyed hended fun id row hrow hends => ?_
      rintro ⟨row', hrow', hdisabled⟩
      have hne : ¬id = db.oidc.serial := by
        rintro rfl
        rw [hkeyed.fresh] at hrow
        cases hrow
      have hnew : KeyedList.find IdentityProvider.id
          (input.configuration.created db.oidc.serial companyId).id db.oidc.providers = none :=
        hkeyed.fresh
      have hsame := (KeyedList.find_append_new (k := id) hnew).trans (if_neg hne)
      have hfound : some row = some row' := (hrow.symm.trans hsame.symm).trans hrow'
      obtain rfl := Option.some.inj hfound
      rw [enabled_of_endsSessions hends] at hdisabled
      cases hdisabled
  | updated input current row hrow hversion => exact absurd rfl (hupdate input current)
  | switched input provider row hrow hversion => exact absurd rfl (hswitch input provider)
  | refreshed input provider row metadata hrow hversion =>
      have hself : db.oidc.provider? row.id = some row := by rwa [provider_id hrow]
      refine sessionsEnded_setProvider hkeyed hended
        (show db.oidc.provider? (metadata.refreshed provider input.now row).id = some row from hself)
        fun hends (hdisabled : row.enabled = false) => ?_
      rw [enabled_of_endsSessions hends] at hdisabled
      cases hdisabled
  | recorded input request provider loaded row session hrow hversion hstatus evidence hrecord =>
      have hself : db.oidc.provider? row.id = some row := by rwa [provider_id hrow]
      refine sessionsEnded_setProvider hkeyed hended
        (show db.oidc.provider? (row.validated evidence).id = some row from hself)
        fun hends (hdisabled : row.enabled = false) => ?_
      rw [enabled_of_endsSessions hends] at hdisabled
      cases hdisabled
  | requests input place rows => exact sessionsEnded_sameProviders hkeyed hended rfl
  | policyUpdated => exact sessionsEnded_sameProviders hkeyed hended rfl
  | policyCreated => exact sessionsEnded_sameProviders hkeyed hended rfl

/-! ## The operations on providers -/

/-- Editing a provider leaves sessions ended exactly when the provider does not end its
sessions, or has none. -/
theorem sessionsEnded_update_iff {input : UpdateProviderInput} {current : IdentityProvider}
    (hkeyed : OidcKeyed db.oidc) (hended : SessionsEnded db) :
    SessionsEnded (db.setOidc (writes db.oidc none (input.write db.oidc current)).1) ↔
      CallEndsSessions db (.oidc (.update input (.write current))) := by
  cases hwrite : input.write db.oidc current with
  | error e =>
      refine iff_of_true (sessionsEnded_sameProviders hkeyed hended rfl) ?_
      rintro ⟨tenant, row, htenant, hrow, hversion, hcompany⟩ hkey
      have hok : input.write db.oidc current =
          .ok (db.oidc.setProvider (input.configuration.updated current row)) := by
        unfold UpdateProviderInput.write
        rw [bind_eq_ok]
        refine ⟨tenant, htenant, ?_⟩
        rw [seq_eq_ok, require_eq_ok]
        exact ⟨hkey, updateProvider_of_finds _ hrow hversion hcompany rfl⟩
      rw [hok] at hwrite
      cases hwrite
  | ok oidc =>
      obtain ⟨tenant, htenant, hrest⟩ := bind_eq_ok.mp hwrite
      rw [seq_eq_ok, require_eq_ok] at hrest
      obtain ⟨row, hrow, hversion, hcompany, -, rfl⟩ := updateProvider_eq_ok hrest.2
      have hid : row.id = current.id := provider_id hrow
      have hself : db.oidc.provider? (input.configuration.updated current row).id = some row := by
        show db.oidc.provider? row.id = some row
        rwa [hid]
      show SessionsEnded (db.setOidc (db.oidc.setProvider (input.configuration.updated current row))) ↔ _
      constructor
      · rintro hafter - - found hfound hends
        have hoff : current.id ∈ switchedOffAfter db.oidc
            (db.oidc.setProvider (input.configuration.updated current row)) db.switchedOff := by
          refine (mem_switchedOffAfter hkeyed).mpr ⟨Or.inl ⟨found, hfound, hends⟩,
            input.configuration.updated current row, ?_, rfl⟩
          rw [provider_setProvider hself]
          exact if_pos hid.symm
        exact hafter current.id hoff
      · intro hcall
        refine sessionsEnded_setProvider hkeyed hended hself fun hends _ => ?_
        have hrevoked := hcall ⟨tenant, row, htenant, hrow, hversion, hcompany⟩ hrest.1 row hrow hends
        show db.AllRevoked row.id
        rwa [hid]

theorem allRevoked_revokeSessions (id : Nat) (now : Int) : (db.revokeSessions id now).AllRevoked id := by
  intro session hsession hprovider
  rcases KeyedList.mem_updateMany hsession with ⟨-, hnot⟩ | ⟨old, -, -, rfl⟩
  · simp only [SessionTables.isOpenAt, hprovider, decide_true, Bool.true_and] at hnot
    simpa using hnot
  · rfl

theorem AllRevoked.revokeSessions {id : Nat} (h : db.AllRevoked id) (other : Nat) (now : Int) :
    (db.revokeSessions other now).AllRevoked id := by
  intro session hsession hprovider
  rcases KeyedList.mem_updateMany hsession with ⟨hold, -⟩ | ⟨old, -, -, rfl⟩
  · exact h session hold hprovider
  · rfl

/-- Switching a provider leaves sessions ended: where they end with the provider they are
revoked in the same transaction. -/
theorem sessionsEnded_setEnabled {input : SetEnabledInput} {provider : IdentityProvider}
    {answer : OidcAnswer} (hkeyed : OidcKeyed db.oidc) (hended : SessionsEnded db)
    (hheld : OidcHeld db.oidc (.setEnabled input (.write provider))) (hanswer : answer ≠ .failed) :
    SessionsEnded ((OidcCall.setEnabled input (.write provider)).advanceSessions urls db answer).1 := by
  have hadvance : (OidcCall.setEnabled input (.write provider)).advance urls db.oidc answer =
      writes db.oidc none (input.write db.oidc provider) := if_neg hanswer
  unfold OidcCall.advanceSessions
  dsimp only
  rw [hadvance]
  cases hwrite : input.write db.oidc provider with
  | error e =>
      rw [if_neg (fun h => Bool.false_ne_true h.2.1)]
      exact sessionsEnded_sameProviders hkeyed hended rfl
  | ok oidc =>
      obtain ⟨tenant, -, hrest⟩ := bind_eq_ok.mp hwrite
      obtain ⟨row, hrow, hversion, -, -, rfl⟩ := updateProvider_eq_ok hrest
      obtain ⟨hread, hexpected, -⟩ := hheld
      obtain rfl : row = provider := eq_read_of_version hread hrow (hversion.trans hexpected.symm)
      have hself : db.oidc.provider? (row.switched input.enabled).id = some row := hrow
      split
      · next hrevokes =>
        intro id hid
        by_cases hsame : id = row.id
        · rw [hsame]
          exact allRevoked_revokeSessions row.id input.now
        · refine AllRevoked.revokeSessions ?_ row.id input.now
          obtain ⟨hfrom, found, hfound, hdisabled⟩ := (mem_switchedOffAfter hkeyed).mp hid
          rcases hfrom with ⟨old, hold, hends⟩ | hold
          · have hkept : db.oidc.provider? id = some found := by
              have hput := (provider_setProvider hself id).symm.trans hfound
              exact (if_neg hsame).symm.trans hput
            rw [hold] at hkept
            obtain rfl := Option.some.inj hkept
            rw [enabled_of_endsSessions hends] at hdisabled
            cases hdisabled
          · exact hended id hold
      · next hkeeps =>
        refine sessionsEnded_setProvider hkeyed hended hself
          fun hends (hdisabled : input.enabled = false) => ?_
        refine absurd ⟨hanswer, rfl, hdisabled, ?_⟩ hkeeps
        rw [IdentityProvider.endsSessions, Bool.and_eq_true, decide_eq_true_eq] at hends
        exact hends.2

/-- The tables of the providers after a step are those of the operation. -/
theorem advanceSessions_oidc (answer : OidcAnswer) (call : OidcCall) :
    (call.advanceSessions urls db answer).1.oidc = (call.advance urls db.oidc answer).1 := by
  unfold OidcCall.advanceSessions
  dsimp only
  split
  · split
    · rfl
    · rfl
  · rfl

theorem advanceSessions_next (answer : OidcAnswer) (call : OidcCall) :
    (call.advanceSessions urls db answer).2 = (call.advance urls db.oidc answer).2 := by
  unfold OidcCall.advanceSessions
  dsimp only
  split
  · split
    · rfl
    · rfl
  · rfl

/-- A step of an operation on providers that switches none of them leaves the sessions. -/
theorem advanceSessions_of_not_switch {answer : OidcAnswer} {call : OidcCall}
    (hswitch : ∀ input provider, call ≠ .setEnabled input (.write provider)) :
    (call.advanceSessions urls db answer).1 = db.setOidc (call.advance urls db.oidc answer).1 := by
  unfold OidcCall.advanceSessions
  dsimp only
  split
  · next input provider => exact absurd rfl (hswitch input provider)
  · rfl

/-- A step of an operation on providers leaves sessions ended exactly when it meets the
condition. -/
theorem sessionsEnded_oidc_iff {answer : OidcAnswer} {call : OidcCall} (hkeyed : OidcKeyed db.oidc)
    (hended : SessionsEnded db) (hheld : OidcHeld db.oidc call) (hanswer : answer ≠ .failed) :
    SessionsEnded (call.advanceSessions urls db answer).1 ↔ CallEndsSessions db (.oidc call) := by
  have hothers : (∀ input current, call ≠ .update input (.write current)) →
      (∀ input provider, call ≠ .setEnabled input (.write provider)) →
      SessionsEnded (call.advanceSessions urls db answer).1 := by
    intro hupdate hswitch
    rw [advanceSessions_of_not_switch hswitch]
    exact sessionsEnded_wrote hkeyed hended hupdate hswitch
      (oidcWrote_advance urls db.oidc answer call)
  cases call with
  | update input place =>
      cases place with
      | load =>
          refine iff_of_true (hothers ?_ ?_) trivial
          all_goals
            intro _ _ h
            cases h
      | write current =>
          have hadvance : (OidcCall.update input (.write current)).advance urls db.oidc answer =
              writes db.oidc none (input.write db.oidc current) := if_neg hanswer
          have hsame : ((OidcCall.update input (.write current)).advanceSessions urls db answer).1 =
              db.setOidc ((OidcCall.update input (.write current)).advance urls db.oidc answer).1 :=
            advanceSessions_of_not_switch (by intro _ _ h; cases h)
          rw [hsame, hadvance]
          exact sessionsEnded_update_iff hkeyed hended
  | setEnabled input place =>
      cases place with
      | load =>
          refine iff_of_true (hothers ?_ ?_) trivial
          all_goals
            intro _ _ h
            cases h
      | resolveSecret provider =>
          refine iff_of_true (hothers ?_ ?_) trivial
          all_goals
            intro _ _ h
            cases h
      | write provider => exact iff_of_true (sessionsEnded_setEnabled hkeyed hended hheld hanswer) trivial
  | create =>
      refine iff_of_true (hothers ?_ ?_) trivial
      all_goals
        intro _ _ h
        cases h
  | refresh =>
      refine iff_of_true (hothers ?_ ?_) trivial
      all_goals
        intro _ _ h
        cases h
  | callback =>
      refine iff_of_true (hothers ?_ ?_) trivial
      all_goals
        intro _ _ h
        cases h
  | policy =>
      refine iff_of_true (hothers ?_ ?_) trivial
      all_goals
        intro _ _ h
        cases h

/-! ## Logins, and what happens besides -/

/-- Creating a session leaves sessions ended exactly when its provider is not switched off. -/
theorem sessionsEnded_createSession_iff (hended : SessionsEnded db) (providerId : Nat)
    (identity : SessionIdentity) :
    SessionsEnded (db.createSession providerId identity) ↔ providerId ∉ db.switchedOff := by
  constructor
  · intro hafter hoff
    have hopen := hafter providerId hoff _ (List.mem_append_right _ List.mem_cons_self) rfl
    cases hopen
  · intro hnot id hid session hsession hprovider
    rcases List.mem_append.mp hsession with hold | hnew
    · exact hended id hid session hold hprovider
    · obtain rfl := List.mem_singleton.mp hnew
      obtain rfl : providerId = id := Option.some.inj hprovider
      exact absurd hid hnot

/-- A step of an external login leaves sessions ended exactly when it meets the condition. -/
theorem sessionsEnded_login_iff (hended : SessionsEnded db) (input : ExternalLoginInput)
    (challenged : Bool) (place : ExternalLoginPlace) :
    SessionsEnded (place.run db input challenged).1 ↔ CallEndsSessions db (.login input place) := by
  cases place with
  | create providerId identity => exact sessionsEnded_createSession_iff hended providerId identity
  | findExternal => exact iff_of_true hended trivial
  | loadUser => exact iff_of_true hended trivial
  | loadPolicy => exact iff_of_true hended trivial
  | findUser => exact iff_of_true hended trivial
  | findProvider => exact iff_of_true hended trivial

theorem sessionsEnded_change (hkeyed : OidcKeyed db.oidc) (hended : SessionsEnded db)
    (e : SignOnEnv) : SessionsEnded (db.change e) := by
  cases e with
  | oidc e => exact sessionsEnded_sameProviders hkeyed hended (providers_change db.oidc e)
  | users rows => exact hended
  | externalIdentities rows => exact hended
  | localLogin userId companyId =>
      intro id hid session hsession hprovider
      rcases List.mem_append.mp hsession with hold | hnew
      · exact hended id hid session hold hprovider
      · obtain rfl := List.mem_singleton.mp hnew
        cases hprovider
  | revoke ids now =>
      intro id hid session hsession hprovider
      rcases KeyedList.mem_updateMany hsession with ⟨hold, -⟩ | ⟨old, -, -, rfl⟩
      · exact hended id hid session hold hprovider
      · rfl

/-! ## Runs -/

/-- The tables of the providers are keyed, and every operation on them knows what it has
read. -/
def SignOnConsistent (w : SignOnWorld) : Prop :=
  OidcKeyed w.shared.oidc ∧ ∀ call, .oidc call ∈ w.locals → OidcHeld w.shared.oidc call

/-- Where an external login goes on is an external login. -/
theorem login_next {input : ExternalLoginInput} {challenged : Bool} {place : ExternalLoginPlace}
    {next : SignOnCall} (h : (place.run db input challenged).2 = some next) (call : OidcCall) :
    next ≠ .oidc call := by
  rintro rfl
  cases place with
  | create providerId identity => cases h
  | findExternal =>
      obtain ⟨place', -, heq⟩ := Option.map_eq_some_iff.mp h
      cases heq
  | loadUser provider userId =>
      obtain ⟨place', -, heq⟩ := Option.map_eq_some_iff.mp h
      cases heq
  | loadPolicy provider identity =>
      obtain ⟨place', -, heq⟩ := Option.map_eq_some_iff.mp h
      cases heq
  | findUser providerId identity =>
      obtain ⟨place', -, heq⟩ := Option.map_eq_some_iff.mp h
      cases heq
  | findProvider providerId identity =>
      obtain ⟨place', -, heq⟩ := Option.map_eq_some_iff.mp h
      cases heq

theorem login_oidc (input : ExternalLoginInput) (challenged : Bool) (place : ExternalLoginPlace) :
    (place.run db input challenged).1.oidc = db.oidc := by
  cases place with
  | create providerId identity => rfl
  | findExternal => rfl
  | loadUser => rfl
  | loadPolicy => rfl
  | findUser => rfl
  | findProvider => rfl

theorem oidc_change (db : SessionTables) (e : SignOnEnv) :
    (db.change e).oidc = db.oidc ∨ ∃ e', (db.change e).oidc = db.oidc.change e' := by
  cases e with
  | oidc e => exact Or.inr ⟨e, rfl⟩
  | users rows => exact Or.inl rfl
  | externalIdentities rows => exact Or.inl rfl
  | localLogin userId companyId => exact Or.inl rfl
  | revoke ids now => exact Or.inl rfl

/-- Everything a step of a call can do. -/
theorem signOn_advance_cases {answer : SignOnAnswer} {call : SignOnCall}
    {next : Option SignOnCall} (h : call.advance urls db answer = some (db', next)) :
    (∃ answer' call', answer = .oidc answer' ∧ call = .oidc call' ∧
      db' = (call'.advanceSessions urls db answer').1 ∧
      next = (call'.advanceSessions urls db answer').2.map .oidc) ∨
    (∃ input place challenged, call = .login input place ∧ answer ≠ .failed ∧
      answer ≠ .oidc .failed ∧ db' = (place.run db input challenged).1 ∧
      next = (place.run db input challenged).2) ∨
    (answer = .failed ∧ db' = db ∧ next = none) := by
  cases call with
  | oidc call =>
      cases answer with
      | oidc answer =>
          obtain ⟨rfl, rfl⟩ := Prod.mk.inj (Option.some.inj h)
          exact Or.inl ⟨answer, call, rfl, rfl, rfl, rfl⟩
      | made => cases h
      | challenged => cases h
      | failed => cases h
  | login input place =>
      cases answer with
      | oidc answer => cases h
      | made =>
          obtain ⟨rfl, rfl⟩ := Prod.mk.inj (Option.some.inj h)
          exact Or.inr (Or.inl ⟨input, place, false, rfl, by decide, by decide, rfl, rfl⟩)
      | challenged =>
          obtain ⟨rfl, rfl⟩ := Prod.mk.inj (Option.some.inj h)
          exact Or.inr (Or.inl ⟨input, place, true, rfl, by decide, by decide, rfl, rfl⟩)
      | failed =>
          obtain ⟨rfl, rfl⟩ := Prod.mk.inj (Option.some.inj h)
          exact Or.inr (Or.inr ⟨rfl, rfl, rfl⟩)

theorem signOnConsistent_step {w w' : SignOnWorld} {ev : SignOnEvent} (h : SignOnConsistent w)
    (hstep : (signOn urls).step w ev w') : SignOnConsistent w' := by
  rcases Program.step_cases hstep with ⟨e, rfl, rfl⟩ | ⟨call, rfl, hinitial, rfl⟩ |
    ⟨i, answer, call, db, next, rfl, hcall, hadvance, rfl⟩
  · unfold SignOnConsistent
    show OidcKeyed (w.shared.change e).oidc ∧ ∀ call, _ → OidcHeld (w.shared.change e).oidc call
    rcases oidc_change w.shared e with hsame | ⟨e', hchange⟩
    · rw [hsame]
      exact h
    · rw [hchange]
      exact ⟨h.1.change e', fun call hcall => (h.2 call hcall).mono fun _ => hasRead_change e'⟩
  · refine ⟨h.1, fun other hother => ?_⟩
    rcases List.mem_append.mp hother with hold | hnew
    · exact h.2 other hold
    · rw [← List.mem_singleton.mp hnew] at hinitial
      exact oidcHeld_of_isInitial hinitial
  · rcases signOn_advance_cases hadvance with ⟨answer', call', rfl, rfl, rfl, rfl⟩ |
      ⟨input, place, challenged, rfl, -, -, rfl, rfl⟩ | ⟨rfl, rfl, rfl⟩
    · have hheld := h.2 call' (List.mem_of_getElem? hcall)
      have hwrote := oidcWrote_advance urls w.shared.oidc answer' call'
      unfold SignOnConsistent
      dsimp only
      rw [advanceSessions_oidc, advanceSessions_next]
      refine ⟨hwrote.keyed h.1, fun other hother => ?_⟩
      rcases mem_replaceLocal hother with hnext | hold
      · obtain ⟨found, hfound, heq⟩ := Option.map_eq_some_iff.mp hnext
        obtain rfl := SignOnCall.oidc.inj heq
        exact (oidcHeld_next hheld hfound).mono fun read hread => hwrote.hasRead h.1 hread
      · exact (h.2 other hold).mono fun read hread => hwrote.hasRead h.1 hread
    · unfold SignOnConsistent
      dsimp only
      rw [login_oidc]
      refine ⟨h.1, fun other hother => ?_⟩
      rcases mem_replaceLocal hother with hnext | hold
      · exact absurd rfl (login_next hnext other)
      · exact h.2 other hold
    · exact ⟨h.1, fun other hother => h.2 other (List.mem_of_mem_eraseIdx hother)⟩

/-- A step leaves sessions ended exactly when it meets the condition. -/
theorem sessionsEnded_step_iff {w w' : SignOnWorld} {ev : SignOnEvent} (h : SignOnConsistent w)
    (hended : SessionsEnded w.shared) (hstep : (signOn urls).step w ev w') :
    SessionsEnded w'.shared ↔ EndsSessions w ev := by
  rcases Program.step_cases hstep with ⟨e, rfl, rfl⟩ | ⟨call, rfl, -, rfl⟩ |
    ⟨i, answer, call, db, next, rfl, hcall, hadvance, rfl⟩
  · refine iff_of_true (sessionsEnded_change h.1 hended e) ?_
    intro i answer call hev
    cases hev
  · refine iff_of_true hended ?_
    intro i answer call hev
    cases hev
  · have hguard : EndsSessions w (.advance i answer) ↔
        (answer ≠ .failed → answer ≠ .oidc .failed → CallEndsSessions w.shared call) := by
      constructor
      · intro hends hfailed hfailed'
        exact hends i answer call rfl hfailed hfailed' hcall
      · intro hends i' answer' call' hev hfailed hfailed' hcall'
        cases hev
        rw [hcall] at hcall'
        obtain rfl := Option.some.inj hcall'
        exact hends hfailed hfailed'
    rw [hguard]
    show SessionsEnded db ↔ _
    rcases signOn_advance_cases hadvance with ⟨answer', call', rfl, rfl, rfl, -⟩ |
      ⟨input, place, challenged, rfl, hfailed, hfailed', rfl, -⟩ | ⟨rfl, rfl, -⟩
    · by_cases hanswer : answer' = .failed
      · subst hanswer
        refine iff_of_true ?_ fun _ hnot => absurd rfl hnot
        have hsame : (call'.advanceSessions urls w.shared .failed).1 = w.shared.setOidc w.shared.oidc := by
          unfold OidcCall.advanceSessions
          dsimp only
          split
          · rw [if_neg (fun hcond => hcond.1 rfl)]
            rfl
          · rfl
        rw [hsame]
        exact sessionsEnded_sameProviders h.1 hended rfl
      · rw [sessionsEnded_oidc_iff h.1 hended (h.2 call' (List.mem_of_getElem? hcall)) hanswer]
        exact ⟨fun hends _ _ => hends,
          fun hends => hends (by intro heq; cases heq) fun heq => hanswer (SignOnAnswer.oidc.inj heq)⟩
    · rw [sessionsEnded_login_iff hended]
      exact ⟨fun hends _ _ => hends, fun hends => hends hfailed hfailed'⟩
    · exact iff_of_true hended fun hnot => absurd rfl hnot

/-- The operations know what they have read, and sessions are ended. -/
def StartsEnded (w : SignOnWorld) : Prop := SignOnConsistent w ∧ SessionsEnded w.shared

/-- The sessions of the providers that are switched off stay ended along a run exactly when
no step edits a provider that ends its sessions and has some, or creates a session of a
provider that has been switched off. -/
theorem sessions_ended_iff {w : SignOnWorld} {run : List (SignOnEvent × SignOnWorld)}
    (hstart : StartsEnded w) (hrun : Run (signOn urls).step w run) :
    AlwaysHolds (fun w => SessionsEnded w.shared) w run ↔ StepsMeet EndsSessions w run := by
  have hgood : ∀ w, Reachable StartsEnded (Guarded EndsSessions (signOn urls).step) w →
      StartsEnded w := by
    intro w hr
    refine hr.invariant StartsEnded (fun _ h => h) ?_
    rintro w ev w' ⟨hconsistent, hended⟩ ⟨hok, hstep⟩
    exact ⟨signOnConsistent_step hconsistent hstep,
      (sessionsEnded_step_iff hconsistent hended hstep).mpr hok⟩
  refine alwaysHolds_iff_stepsMeet (fun w hr => (hgood w hr).2) ?_ hrun (Reachable.start hstart)
  intro w ev w' hr hstep hnot hended
  obtain ⟨hconsistent, hbefore⟩ := hgood w hr
  exact hnot ((sessionsEnded_step_iff hconsistent hbefore hstep).mp hended)

/-! ## A provider that is edited -/

/-- The company's provider is enabled, and a user is logged in with it. -/
def loggedIn : SignOnWorld where
  shared :=
    { serial := 1
      oidc := { requiredProvider.shared with policies := [] }
      sessions := [{ id := 0, userId := "user", companyId := some "company"
                     identityProviderId := some 0 }] }
  locals := []

/-- An administrator edits the provider. -/
def editProvider : List SignOnEvent :=
  [.spawn (.oidc (.update { session := sampleSession, providerId := 0, expectedVersion := 4
                            configuration := sampleConfiguration
                            controlledIssuerRevalidation := false } .load)),
   .advance 0 (.oidc .made), .advance 0 (.oidc .made)]

theorem startsEnded_loggedIn : StartsEnded loggedIn := by
  refine ⟨⟨⟨?_, by decide, ?_⟩, ?_⟩, ?_⟩
  · simp [KeyedList.Distinct, loggedIn, requiredProvider]
  · simp [KeyedList.Distinct, loggedIn]
  · simp [loggedIn]
  · intro id hid
    cases hid

theorem sessions_ended_iff_editProvider :
    AlwaysHolds (fun w => SessionsEnded w.shared) loggedIn
        (trace (signOn sampleUrls).next loggedIn editProvider) ↔
      StepsMeet EndsSessions loggedIn (trace (signOn sampleUrls).next loggedIn editProvider) :=
  sessions_ended_iff startsEnded_loggedIn (run_trace _ _)

/-- The provider is disabled, it had `REVOKE_ON_DISABLE`, and the session is not revoked. -/
theorem session_outlives_provider :
    ∃ w, Reachable StartsEnded (signOn sampleUrls).step w ∧ ¬SessionsEnded w.shared := by
  obtain ⟨w, hreachable, id, hid, session, hsession, hprovider, hopen⟩ := exists_reachable_of_exec
    (fun w : SignOnWorld => ∃ id ∈ w.shared.switchedOff, ∃ session ∈ w.shared.sessions,
      session.identityProviderId = some id ∧ session.revokedAt = none)
    (signOn sampleUrls).next editProvider startsEnded_loggedIn (by decide)
  refine ⟨w, hreachable, fun hended => ?_⟩
  have hrevoked := hended id hid session hsession hprovider
  rw [hopen] at hrevoked
  cases hrevoked

end AvantimePlatform.Identity
