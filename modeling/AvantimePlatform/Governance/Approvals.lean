import AvantimePlatform.Governance.Policy
import AvantimePlatform.Lib.Interleaving
import AvantimePlatform.Lib.KeyedList

/-!
# Governance approvals

`governance-approvals.ts`: the request of an approval, the decision of a second
person, cancellation, expiry and execution, each as a call that makes one statement
after the other.  A transaction takes effect when it commits: its guarded updates and
its commit are one step, since the rows they find stay locked in between.

The executor is a parameter: what a caller reads before it asks for the execution
(`capture`), the resource version it passes, and what it does to the resources, if it
does not throw.  `effects` is the record of what the executors have committed.
-/

namespace AvantimePlatform.Governance

open AvantimePlatform AvantimePlatform.Checked AvantimePlatform.Interleaving

inductive GovernanceApprovalStatus where
  | requested | approved | rejected | cancelled | expired | executed
deriving DecidableEq

/-- The statuses that are final. -/
def GovernanceApprovalStatus.IsFinal (status : GovernanceApprovalStatus) : Prop :=
  status ≠ .requested ∧ status ≠ .approved

instance (status : GovernanceApprovalStatus) : Decidable status.IsFinal :=
  inferInstanceAs (Decidable (_ ∧ _))

/-- A row of `GovernanceApprovalRequest`. -/
structure GovernanceApprovalRequest where
  id : String
  actionType : GovernanceApprovalAction
  scope : GovernanceScope
  companyId : Option String
  resourceId : Option String
  expectedVersion : Option Int
  safeParameters : SafeParameters
  payloadFingerprint : String
  requesterId : String
  status : GovernanceApprovalStatus := .requested
  expiresAt : Int
  executedAt : Option Int := none
  cancelledAt : Option Int := none
  executionKey : Option String := none
deriving DecidableEq

/-- A row of `GovernanceApprovalDecision`. -/
structure GovernanceApprovalDecision where
  requestId : String
  approverId : String
  approved : Bool
deriving DecidableEq

/-- The part of a request that the fingerprint covers. -/
def GovernanceApprovalRequest.payload (request : GovernanceApprovalRequest) : FingerprintInput where
  actionType := request.actionType
  scope := request.scope
  companyId := request.companyId
  resourceId := request.resourceId
  expectedVersion := request.expectedVersion
  safeParameters := request.safeParameters
  requesterId := request.requesterId
  expiresAt := request.expiresAt

/-- What an executor is handed. -/
structure ApprovedRequest where
  id : String
  companyId : Option String
  resourceId : Option String
  safeParameters : SafeParameters
deriving DecidableEq

def GovernanceApprovalRequest.approvedRequest (request : GovernanceApprovalRequest) :
    ApprovedRequest where
  id := request.id
  companyId := request.companyId
  resourceId := request.resourceId
  safeParameters := request.safeParameters

/-! ## The inputs of the calls -/

/-- The input of `requestGovernanceApproval`. -/
structure RequestInput where
  session : AppSession
  actionType : GovernanceApprovalAction
  scope : GovernanceScope
  companyId : Option String
  resourceId : Option String
  expectedVersion : Option Int
  safeParameters : SafeParameters
  confirmation : String
  now : Int

/-- The input of `decideGovernanceApproval`. -/
structure DecideInput where
  session : AppSession
  requestId : String
  approved : Bool
  approverAuthorized : Bool
  now : Int

/-- The input of `cancelGovernanceApproval`. -/
structure CancelInput where
  session : AppSession
  requestId : String
  now : Int

/-- The input of `executeGovernanceApproval`, but for the version that the caller
passes.  `caller` is what the executor closes over. -/
structure ExecuteInput (Caller : Type) where
  session : AppSession
  requestId : String
  executionKey : String
  executionAuthorized : Bool
  expectedActionType : GovernanceApprovalAction
  now : Int
  caller : Caller

/-- The code of an executor. -/
structure Executor (Resources Caller Captured Answer : Type) where
  /-- What the caller reads before it calls `executeGovernanceApproval`; it may give up. -/
  capture : ExecuteInput Caller → Resources → Option Captured
  /-- `currentResourceVersion`. -/
  currentResourceVersion : Captured → Option Int
  /-- The resources that it leaves when it returns; `none` when it throws. -/
  execute : ExecuteInput Caller → Captured → Answer → ApprovedRequest → Resources →
    Option Resources

/-- An executor's committed effect: its caller, what it was handed, and the row that
was executed, as it was before. -/
structure Effect (Caller Captured : Type) where
  input : ExecuteInput Caller
  captured : Captured
  request : ApprovedRequest
  row : GovernanceApprovalRequest

/-- The tables, and what the executors have committed. -/
structure Tables (Resources Caller Captured : Type) where
  requests : List GovernanceApprovalRequest := []
  decisions : List GovernanceApprovalDecision := []
  resources : Resources
  effects : List (Effect Caller Captured) := []

namespace Tables

variable {Resources Caller Captured : Type}

/-- `governanceApprovalRequest.findUnique({ where: { id } })`. -/
def request? (db : Tables Resources Caller Captured) (id : String) :
    Option GovernanceApprovalRequest :=
  KeyedList.find GovernanceApprovalRequest.id id db.requests

/-- The decisions of a request. -/
def decisionsOf (db : Tables Resources Caller Captured) (requestId : String) :
    List GovernanceApprovalDecision :=
  db.decisions.filter (·.requestId == requestId)

/-- `governanceApprovalRequest.updateMany`. -/
def updateRequests (db : Tables Resources Caller Captured)
    (p : GovernanceApprovalRequest → Bool)
    (f : GovernanceApprovalRequest → GovernanceApprovalRequest) :
    Tables Resources Caller Captured :=
  { db with requests := KeyedList.updateMany p f db.requests }

end Tables

/-! ## What the calls check and write -/

section Writes

variable {Resources Caller Captured : Type}

/-- `Number.MAX_SAFE_INTEGER`. -/
def maxSafeInteger : Int := 9007199254740991

/-- The row that `requestGovernanceApproval` creates. -/
def requestedApproval (id : String) (input : RequestInput) (payloadFingerprint : String)
    (expiresAt : Int) : GovernanceApprovalRequest where
  id := id
  actionType := input.actionType
  scope := input.scope
  companyId := input.companyId
  resourceId := input.resourceId
  expectedVersion := input.expectedVersion
  safeParameters := input.safeParameters
  payloadFingerprint := payloadFingerprint
  requesterId := input.session.userId
  expiresAt := expiresAt

/-- The unique keys admit a new request. -/
def Tables.admitsRequest (db : Tables Resources Caller Captured)
    (request : GovernanceApprovalRequest) : Bool :=
  (db.request? request.id).isNone &&
    db.requests.all (·.payloadFingerprint != request.payloadFingerprint)

/-- The error of a write that a constraint of the database refuses. -/
def prismaError : String := "PrismaClientError"

/-- The check of `requestGovernanceApproval` on one parameter. -/
def SafeValue.isAccepted : SafeValue → Bool
  | .string value => decide (Text.utf16Length value ≤ 250)
  | .number value => value ≠ .nonFinite
  | .boolean _ => true
  | .null => true

/-- The checks of `requestGovernanceApproval` on its input. -/
def requestChecks (approvalPolicy : GovernanceApprovalPolicy) (input : RequestInput) :
    Except String Unit := do
  require (approvalPolicy.scope = input.scope) "UNKNOWN_APPROVAL_ACTION"
  require (approvalStepUpSatisfied input.session input.now) "APPROVAL_STEP_UP_REQUIRED"
  require (input.confirmation = approvalPolicy.confirmationPhrase) "APPROVAL_CONFIRMATION_REQUIRED"
  require (input.scope = .organization → input.companyId = input.session.companyId)
    "APPROVAL_SCOPE_MISMATCH"
  require ((∀ resourceId ∈ input.resourceId, Text.utf16Length resourceId ≤ 200) ∧
      ∀ version ∈ input.expectedVersion, 0 ≤ version ∧ version ≤ maxSafeInteger)
    "APPROVAL_PAYLOAD_INVALID"
  require (input.safeParameters.keys.length ≤ approvalPolicy.safeParameterKeys.length ∧
      ∀ entry ∈ input.safeParameters.entries, entry.2.isAccepted = true)
    "APPROVAL_PAYLOAD_INVALID"

/-- `requestGovernanceApproval`.  `id` is the id of the row. -/
def requestGovernanceApproval (digest : CanonicalApproval → String)
    (db : Tables Resources Caller Captured) (input : RequestInput)
    (id : String) : Except String (Tables Resources Caller Captured × GovernanceApprovalRequest) :=
  match getGovernanceApprovalPolicy input.actionType with
  | none => .error "UNKNOWN_APPROVAL_ACTION"
  | some approvalPolicy => do
    requestChecks approvalPolicy input
    let payloadFingerprint ← governanceApprovalFingerprint digest
      (requestedApproval id input "" (input.now + approvalPolicy.ttlSeconds * 1000)).payload
    require (db.admitsRequest (requestedApproval id input payloadFingerprint
      (input.now + approvalPolicy.ttlSeconds * 1000))) prismaError
    return ({ db with requests := db.requests ++ [requestedApproval id input payloadFingerprint
        (input.now + approvalPolicy.ttlSeconds * 1000)] },
      requestedApproval id input payloadFingerprint
        (input.now + approvalPolicy.ttlSeconds * 1000))

/-- The guarded update that lets a request expire, outside a transaction. -/
def Tables.expire (db : Tables Resources Caller Captured) (id : String)
    (status : GovernanceApprovalStatus) : Tables Resources Caller Captured :=
  db.updateRequests (fun row => row.id = id && row.status = status) fun row =>
    { row with status := .expired }

/-- The checks of `decideGovernanceApproval` on the request it has read. -/
def decideChecks (input : DecideInput) (request : GovernanceApprovalRequest) :
    Except String Unit := do
  require (request.scope = .organization → request.companyId = input.session.companyId)
    "APPROVAL_SCOPE_MISMATCH"
  require (request.requesterId ≠ input.session.userId) "SELF_APPROVAL_DENIED"
  require (request.status = .requested) "APPROVAL_NOT_REQUESTED"
  require (input.now < request.expiresAt) "APPROVAL_EXPIRED"

/-- The status that a decision gives the request. -/
def decidedStatus (input : DecideInput) (approvalPolicy : GovernanceApprovalPolicy)
    (decisions : List GovernanceApprovalDecision) : GovernanceApprovalStatus :=
  if input.approved then
    if approvalPolicy.minimumApprovals ≤ (decisions.filter (·.approved)).length + 1 then .approved
    else .requested
  else .rejected

/-- The decision that is stored. -/
def decisionOf (input : DecideInput) (request : GovernanceApprovalRequest) :
    GovernanceApprovalDecision where
  requestId := request.id
  approverId := input.session.userId
  approved := input.approved

/-- The unique key `(requestId, approverId)` admits a new decision. -/
def Tables.admitsDecision (db : Tables Resources Caller Captured)
    (decision : GovernanceApprovalDecision) : Bool :=
  db.decisions.all fun row =>
    row.requestId != decision.requestId || row.approverId != decision.approverId

/-- The condition of the update of `decideGovernanceApproval`. -/
def GovernanceApprovalRequest.isUndecided (row : GovernanceApprovalRequest) (id : String) : Bool :=
  row.id = id && row.status = .requested

/-- The writes of `decideGovernanceApproval`, on the request and the decisions it has
read. -/
def decideGovernanceApproval (db : Tables Resources Caller Captured) (input : DecideInput)
    (request : GovernanceApprovalRequest) (decisions : List GovernanceApprovalDecision) :
    Except String (Tables Resources Caller Captured) := do
  decideChecks input request
  match getGovernanceApprovalPolicy request.actionType with
  | none => .error "UNKNOWN_APPROVAL_ACTION"
  | some approvalPolicy =>
    require (db.admitsDecision (decisionOf input request)) prismaError
    require (db.requests.countP (·.isUndecided request.id) = 1) "APPROVAL_NOT_REQUESTED"
    return { db.updateRequests (·.isUndecided request.id) fun row =>
        { row with status := decidedStatus input approvalPolicy decisions } with
      decisions := db.decisions ++ [decisionOf input request] }

/-- The condition of the read of `cancelGovernanceApproval` and of its update. -/
def GovernanceApprovalRequest.isCancellable (row : GovernanceApprovalRequest)
    (input : CancelInput) : Bool :=
  row.id = input.requestId && row.requesterId = input.session.userId && row.status = .requested

/-- The writes of `cancelGovernanceApproval`. -/
def cancelGovernanceApproval (db : Tables Resources Caller Captured) (input : CancelInput) :
    Except String (Tables Resources Caller Captured) := do
  require (db.requests.countP (·.isCancellable input) = 1) "APPROVAL_CANCELLATION_DENIED"
  return db.updateRequests (·.isCancellable input) fun row =>
    { row with status := .cancelled, cancelledAt := some input.now }

/-- The condition of the read of `expireStaleGovernanceApprovals` and of its updates. -/
def GovernanceApprovalRequest.isStale (row : GovernanceApprovalRequest) (now : Int) : Bool :=
  (row.status = .requested || row.status = .approved) && decide (row.expiresAt ≤ now)

/-- The writes of `expireStaleGovernanceApprovals`, on the rows it has read. -/
def expireStaleGovernanceApprovals (db : Tables Resources Caller Captured) (stale : List String) (now : Int) :
    Tables Resources Caller Captured :=
  db.updateRequests (fun row => row.id ∈ stale && row.isStale now) fun row =>
    { row with status := .expired }

/-- The users that the decisions count for. -/
def validApprovers (decisions : List GovernanceApprovalDecision) (requesterId : String) :
    Finset String :=
  ((decisions.filter fun decision => decision.approved && decision.approverId != requesterId).map
    (·.approverId)).toFinset

/-- The checks of `executeGovernanceApproval` on the request and the decisions it has
read. -/
def executeChecks (digest : CanonicalApproval → String) (input : ExecuteInput Caller) (currentResourceVersion : Option Int)
    (request : GovernanceApprovalRequest) (decisions : List GovernanceApprovalDecision) :
    Except String Unit := do
  require (request.actionType = input.expectedActionType) "APPROVAL_NOT_FOUND"
  require (request.scope = .organization → request.companyId = input.session.companyId)
    "APPROVAL_SCOPE_MISMATCH"
  require (request.requesterId = input.session.userId) "EXECUTION_REQUESTER_MISMATCH"
  require (request.status = .approved) "APPROVAL_NOT_APPROVED"
  require (input.now < request.expiresAt) "APPROVAL_EXPIRED"
  require (∃ approvalPolicy ∈ getGovernanceApprovalPolicy request.actionType,
      approvalPolicy.minimumApprovals ≤ (validApprovers decisions request.requesterId).card)
    "APPROVAL_DECISIONS_INVALID"
  require (request.expectedVersion ≠ none → request.expectedVersion = currentResourceVersion)
    "RESOURCE_VERSION_CHANGED"
  let fingerprint ← governanceApprovalFingerprint digest request.payload
  require (fingerprint = request.payloadFingerprint) "APPROVAL_PAYLOAD_CHANGED"

/-- The condition of the claim of `executeGovernanceApproval`. -/
def GovernanceApprovalRequest.isClaimable (row : GovernanceApprovalRequest) (id : String) : Bool :=
  row.id = id && row.status = .approved && row.executionKey.isNone

/-- The data of the claim of `executeGovernanceApproval`. -/
def GovernanceApprovalRequest.claim (row : GovernanceApprovalRequest) (now : Int)
    (executionKey : String) : GovernanceApprovalRequest :=
  { row with status := .executed, executedAt := some now, executionKey := some executionKey }

/-- The claim of `executeGovernanceApproval`; `executionKey` is unique. -/
def claimApproval (db : Tables Resources Caller Captured) (input : ExecuteInput Caller) (id : String) :
    Except String (Tables Resources Caller Captured) := do
  require (db.requests.countP (·.isClaimable id) = 1) "APPROVAL_REPLAY_DENIED"
  require (∀ row ∈ db.requests, row.executionKey ≠ some input.executionKey) prismaError
  return db.updateRequests (·.isClaimable id) (·.claim input.now input.executionKey)

end Writes

/-! ## The calls -/

/-- The statement that `decideGovernanceApproval` makes next. -/
inductive DecidePlace where
  /-- The read before the transaction. -/
  | candidate
  /-- The update that lets the request expire. -/
  | expire
  /-- The read of the request. -/
  | read
  /-- The read of its decisions. -/
  | decisions (request : GovernanceApprovalRequest)
  /-- The writes. -/
  | commit (request : GovernanceApprovalRequest) (decisions : List GovernanceApprovalDecision)

/-- The statement that `executeGovernanceApproval` or its caller makes next. -/
inductive ExecutePlace (Captured : Type) where
  /-- What the caller reads first. -/
  | capture
  /-- The read before the transaction. -/
  | candidate (captured : Captured)
  /-- The update that lets the request expire. -/
  | expire
  /-- The read of the request. -/
  | read (captured : Captured)
  /-- The read of its decisions. -/
  | decisions (captured : Captured) (request : GovernanceApprovalRequest)
  /-- The claim, the executor and the commit. -/
  | commit (captured : Captured) (request : GovernanceApprovalRequest)
      (decisions : List GovernanceApprovalDecision)

/-- A call in progress. -/
inductive ApprovalCall (Caller Captured : Type) where
  | request (input : RequestInput)
  | decide (input : DecideInput) (place : DecidePlace)
  /-- `cancelGovernanceApproval`, and whether it has read the request. -/
  | cancel (input : CancelInput) (read : Bool)
  /-- `expireStaleGovernanceApprovals`, and what it has read. -/
  | expireStale (now : Int) (stale : Option (List String))
  | execute (input : ExecuteInput Caller) (place : ExecutePlace Captured)

/-- What the world outside answers to a statement. -/
inductive ApprovalInput (Answer : Type) where
  /-- It is made.  `id` is the id of a row it creates, `answer` what the executor
  gets to know from elsewhere. -/
  | proceed (id : String) (answer : Answer)
  /-- It fails, or the process stops; a transaction is rolled back. -/
  | failure

section Calls

variable {Resources Caller Captured Answer Env : Type}

/-- The next step of `decideGovernanceApproval`. -/
def DecidePlace.run (db : Tables Resources Caller Captured) (input : DecideInput) :
    DecidePlace → Tables Resources Caller Captured × Option (ApprovalCall Caller Captured)
  | .candidate =>
    if approvalStepUpSatisfied input.session input.now && input.approverAuthorized then
      match db.request? input.requestId with
      | some row =>
        if row.status = .requested ∧ row.expiresAt ≤ input.now then
          (db, some (.decide input .expire))
        else (db, some (.decide input .read))
      | none => (db, some (.decide input .read))
    else (db, none)
  | .expire => (db.expire input.requestId .requested, none)
  | .read => (db, (db.request? input.requestId).map fun row => .decide input (.decisions row))
  | .decisions row => (db, some (.decide input (.commit row (db.decisionsOf row.id))))
  | .commit row made =>
    match decideGovernanceApproval db input row made with
    | .ok db' => (db', none)
    | .error _ => (db, none)

/-- The writes of `executeGovernanceApproval`: the claim, the executor, the commit.  An
executor that throws takes the claim back. -/
def executeCommit (digest : CanonicalApproval → String)
    (executor : Executor Resources Caller Captured Answer)
    (db : Tables Resources Caller Captured) (input : ExecuteInput Caller)
    (captured : Captured) (request : GovernanceApprovalRequest)
    (decisions : List GovernanceApprovalDecision) (answer : Answer) :
    Except String (Tables Resources Caller Captured) := do
  executeChecks digest input (executor.currentResourceVersion captured) request decisions
  let claimed ← claimApproval db input request.id
  match executor.execute input captured answer request.approvedRequest db.resources with
  | none => .error "EXECUTOR_THREW"
  | some resources =>
    return { claimed with
      resources := resources
      effects := { input := input, captured := captured, request := request.approvedRequest,
                   row := request } :: db.effects }

/-- The next step of `executeGovernanceApproval`. -/
def ExecutePlace.run (digest : CanonicalApproval → String)
    (executor : Executor Resources Caller Captured Answer)
    (db : Tables Resources Caller Captured) (input : ExecuteInput Caller)
    (answer : Answer) : ExecutePlace Captured →
      Tables Resources Caller Captured × Option (ApprovalCall Caller Captured)
  | .capture =>
    (db, (executor.capture input db.resources).map fun captured =>
      .execute input (.candidate captured))
  | .candidate captured =>
    if approvalStepUpSatisfied input.session input.now && input.executionAuthorized then
      match db.request? input.requestId with
      | some row =>
        if row.status = .approved ∧ row.expiresAt ≤ input.now then
          (db, some (.execute input .expire))
        else (db, some (.execute input (.read captured)))
      | none => (db, some (.execute input (.read captured)))
    else (db, none)
  | .expire => (db.expire input.requestId .approved, none)
  | .read captured =>
    (db, (db.request? input.requestId).map fun row =>
      .execute input (.decisions captured row))
  | .decisions captured row =>
    (db, some (.execute input (.commit captured row (db.decisionsOf row.id))))
  | .commit captured row made =>
    match executeCommit digest executor db input captured row made answer with
    | .ok db' => (db', none)
    | .error _ => (db, none)

/-- One step of a call. -/
def ApprovalCall.advance (digest : CanonicalApproval → String)
    (executor : Executor Resources Caller Captured Answer)
    (db : Tables Resources Caller Captured) :
    ApprovalInput Answer → ApprovalCall Caller Captured →
      Tables Resources Caller Captured × Option (ApprovalCall Caller Captured)
  | .failure, _ => (db, none)
  | .proceed id _, .request input =>
    match requestGovernanceApproval digest db input id with
    | .ok (db', _) => (db', none)
    | .error _ => (db, none)
  | .proceed _ _, .decide input place => place.run db input
  | .proceed _ _, .cancel input false =>
    if db.requests.any (·.isCancellable input) then (db, some (.cancel input true)) else (db, none)
  | .proceed _ _, .cancel input true =>
    match cancelGovernanceApproval db input with
    | .ok db' => (db', none)
    | .error _ => (db, none)
  | .proceed _ _, .expireStale now none =>
    (db, some (.expireStale now (some ((db.requests.filter (·.isStale now)).map (·.id)))))
  | .proceed _ _, .expireStale now (some stale) => (expireStaleGovernanceApprovals db stale now, none)
  | .proceed _ answer, .execute input place => place.run digest executor db input answer

/-- A call begins with its first statement. -/
def ApprovalCall.isInitial : ApprovalCall Caller Captured → Bool
  | .request _ => true
  | .decide _ .candidate => true
  | .cancel _ false => true
  | .expireStale _ none => true
  | .execute _ .capture => true
  | _ => false

/-- Any number of calls over the tables.  The environment changes the resources. -/
def approvals (digest : CanonicalApproval → String)
    (executor : Executor Resources Caller Captured Answer)
    (environment : Resources → Env → Resources) :
    Program (Tables Resources Caller Captured) (ApprovalCall Caller Captured) Env
      (ApprovalInput Answer) where
  env db e := { db with resources := environment db.resources e }
  initial := ApprovalCall.isInitial
  advance db input call := some (call.advance digest executor db input)

end Calls

end AvantimePlatform.Governance
