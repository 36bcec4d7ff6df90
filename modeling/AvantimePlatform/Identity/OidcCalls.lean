import AvantimePlatform.Identity.OidcTables
import AvantimePlatform.Lib.Interleaving

/-!
# The operations on OIDC providers

`createOidcProvider`, `updateOidcProvider`, `setOidcProviderEnabled`,
`refreshOidcProviderMetadata`, `completeOidcCallback` and `updateOrganizationSsoPolicy`, each
with one step for every query, update and request that it awaits.  What the outside world
answers (a discovery document, a validated token, a failure) is in the answer of the step.

The environment opens authorization requests, and creates policies that have no sign-on
part: `beginOidcAuthorization` and `updateOrganizationMfaPolicy`.
-/

namespace AvantimePlatform.Identity

open AvantimePlatform AvantimePlatform.Checked AvantimePlatform.Interleaving
  AvantimePlatform.Transition

inductive UpdateProviderPlace where
  | load
  | write (current : IdentityProvider)
deriving DecidableEq

inductive SetEnabledPlace where
  | load
  | resolveSecret (provider : IdentityProvider)
  | write (provider : IdentityProvider)
deriving DecidableEq

inductive RefreshPlace where
  | load
  | discover (provider : IdentityProvider)
  | write (provider : IdentityProvider) (metadata : OidcMetadata)
deriving DecidableEq

/-- What `completeOidcCallback` does next.  `provider` is the one that it has read with the
request, and validates the token with. -/
inductive CallbackPlace where
  | findRequest
  | consume (request : OidcAuthorizationRequest) (provider : IdentityProvider)
  | exchange (request : OidcAuthorizationRequest) (provider : IdentityProvider)
  | mark (request : OidcAuthorizationRequest) (provider : IdentityProvider) (session : OidcSession)
  | loadProvider (request : OidcAuthorizationRequest) (provider : IdentityProvider)
      (session : OidcSession)
  | findAuthorization (request : OidcAuthorizationRequest) (provider loaded : IdentityProvider)
      (session : OidcSession)
  | record (request : OidcAuthorizationRequest) (provider loaded : IdentityProvider)
      (session : OidcSession)
deriving DecidableEq

inductive SsoPolicyPlace where
  | load
  | findPolicy
  | write (existing : Bool)
deriving DecidableEq

inductive OidcCall where
  | create (input : CreateProviderInput)
  | update (input : UpdateProviderInput) (place : UpdateProviderPlace)
  | setEnabled (input : SetEnabledInput) (place : SetEnabledPlace)
  | refresh (input : RefreshInput) (place : RefreshPlace)
  | callback (input : CallbackInput) (place : CallbackPlace)
  | policy (input : SsoPolicyInput) (place : SsoPolicyPlace)
deriving DecidableEq

/-- What a step is answered: it is made, or with a discovery document, or with the identity
that the exchange of the code and the checks of its token give, or it fails. -/
inductive OidcAnswer where
  | made
  | metadata (metadata : OidcMetadata)
  | identity (identity : ValidatedOidcIdentity)
  | failed
deriving DecidableEq

inductive OidcEnv where
  | authorizationRequests (rows : List OidcAuthorizationRequest)
  | mfaPolicy (companyId : String)
deriving DecidableEq

/-- The tables and the next place of a call; an error ends it. -/
def settleOidc (db : OidcTables) (result : Except String (OidcTables × Option OidcCall)) :
    OidcTables × Option OidcCall :=
  match result with
  | .error _ => (db, none)
  | .ok settled => settled

/-- A query that the call goes on from. -/
def reads (db : OidcTables) (result : Except String OidcCall) : OidcTables × Option OidcCall :=
  settleOidc db (result.map fun next => (db, some next))

/-- An update, and where the call goes on from it. -/
def writes (db : OidcTables) (next : Option OidcCall) (result : Except String OidcTables) :
    OidcTables × Option OidcCall :=
  settleOidc db (result.map fun db' => (db', next))

def UpdateProviderPlace.run (db : OidcTables) (input : UpdateProviderInput) :
    UpdateProviderPlace → OidcTables × Option OidcCall
  | .load => reads db ((input.load db).map fun current => .update input (.write current))
  | .write current => writes db none (input.write db current)

/-- The secret is resolved only to switch a provider on. -/
def SetEnabledPlace.run (db : OidcTables) (input : SetEnabledInput) :
    SetEnabledPlace → OidcTables × Option OidcCall
  | .load =>
    reads db ((input.load db).map fun provider =>
      .setEnabled input (if input.enabled then .resolveSecret provider else .write provider))
  | .resolveSecret provider => (db, some (.setEnabled input (.write provider)))
  | .write provider => writes db none (input.write db provider)

def RefreshPlace.run (urls : UrlRules) (db : OidcTables) (input : RefreshInput)
    (answer : OidcAnswer) : RefreshPlace → OidcTables × Option OidcCall
  | .load => reads db ((input.load db).map fun provider => .refresh input (.discover provider))
  | .discover provider =>
    match answer with
    | .metadata metadata =>
      reads db ((discoverOidcProvider urls provider metadata).map fun contract =>
        .refresh input (.write provider contract))
    | _ => (db, none)
  | .write provider metadata => writes db none (input.write db provider metadata)

/-- Where the callback goes once the token is validated.  A login or a link goes on outside
these tables. -/
def CallbackInput.afterExchange (input : CallbackInput) (request : OidcAuthorizationRequest)
    (provider : IdentityProvider) (identity : ValidatedOidcIdentity) :
    Except String (Option OidcCall) := do
  require (provider.isAvailable = true) "PROVIDER_UNAVAILABLE"
  validateOidcTenantMapping provider identity
  if request.purpose = .providerValidation then
    let session ← input.validationSession request provider
    return some (.callback input (.mark request provider session))
  else return none

def CallbackPlace.run (db : OidcTables) (input : CallbackInput) (answer : OidcAnswer) :
    CallbackPlace → OidcTables × Option OidcCall
  | .findRequest =>
    reads db ((input.findRequest db).map fun (request, provider) =>
      .callback input (.consume request provider))
  | .consume request provider =>
    writes db (some (.callback input (.exchange request provider))) (input.consume db request)
  | .exchange request provider =>
    match answer with
    | .identity identity =>
      settleOidc db ((input.afterExchange request provider identity).map fun next => (db, next))
    | _ => (db, none)
  | .mark request provider session =>
    writes db (some (.callback input (.loadProvider request provider session)))
      (input.mark db request session)
  | .loadProvider request provider session =>
    reads db (do
      let companyId ← session.requirePermissionTenant session.mayManageProviders
      let loaded ← db.loadProvider companyId provider.id
      return .callback input (.findAuthorization request provider loaded session))
  | .findAuthorization request provider loaded session =>
    reads db ((input.findAuthorization db request provider loaded session).map fun _ =>
      .callback input (.record request provider loaded session))
  | .record request provider loaded session =>
    writes db none (session.record db request provider loaded)

def SsoPolicyPlace.run (db : OidcTables) (input : SsoPolicyInput) :
    SsoPolicyPlace → OidcTables × Option OidcCall
  | .load => reads db ((input.load db).map fun _ => .policy input .findPolicy)
  | .findPolicy => reads db ((input.findPolicy db).map fun existing => .policy input (.write existing))
  | .write existing => writes db none (input.write db existing)

/-- One step of a call. -/
def OidcCall.advance (urls : UrlRules) (db : OidcTables) (answer : OidcAnswer) (call : OidcCall) :
    OidcTables × Option OidcCall :=
  if answer = .failed then (db, none)
  else
    match call with
    | .create input => writes db none (input.create db)
    | .update input place => place.run db input
    | .setEnabled input place => place.run db input
    | .refresh input place => place.run urls db input answer
    | .callback input place => place.run db input answer
    | .policy input place => place.run db input

/-- A call begins with its first query. -/
def OidcCall.isInitial : OidcCall → Bool
  | .create _ => true
  | .update _ .load => true
  | .setEnabled _ .load => true
  | .refresh _ .load => true
  | .callback _ .findRequest => true
  | .policy _ .load => true
  | _ => false

/-- The tables after something else has changed them. -/
def OidcTables.change (db : OidcTables) : OidcEnv → OidcTables
  | .authorizationRequests rows => { db with authorizationRequests := rows }
  | .mfaPolicy companyId =>
    match db.policy? companyId with
    | some _ => db
    | none => { db with policies := db.policies ++ [{ companyId := companyId }] }

/-- Any number of calls over the tables. -/
def oidc (urls : UrlRules) : Program OidcTables OidcCall OidcEnv OidcAnswer where
  env := OidcTables.change
  initial := OidcCall.isInitial
  advance db answer call := some (call.advance urls db answer)

abbrev OidcWorld := World OidcTables OidcCall

abbrev OidcEvent := Event OidcEnv OidcCall OidcAnswer

end AvantimePlatform.Identity
