import AvantimePlatform.Jira.Inbound
import AvantimePlatform.Jira.Provider

/-!
# The outbound operations

The transactions of `jira-outbox.ts` and the two of `requests-store.ts` that enqueue an
operation: `createRequest`, `addRequestMessage`, `claimJiraOperations`,
`completeJiraOperation`, `completeJiraCommentOperation`, `failJiraOperation`, and the two
actions of an operator, `retryJiraOperation` and `moveFailedJiraOperationToDeadLetter`.

An operator's action reads the operation and then writes it by its id alone, so its writes
are a function of the row that was read.
-/

namespace AvantimePlatform.Jira

open AvantimePlatform AvantimePlatform.Checked

/-! ## What the rows mirror -/

/-- `jiraIntegrationStatus` of a request whose `CREATE_ISSUE` operation has this status. -/
def JiraOperationStatus.integrationStatus : JiraOperationStatus → JiraIntegrationStatus
  | pending => .pending
  | processing => .processing
  | completed => .created
  | failed => .failed
  | deadLetter => .deadLetter

/-- `deliveryStatus` of a message whose `ADD_COMMENT` operation has this status. -/
def JiraOperationStatus.deliveryStatus : JiraOperationStatus → DeliveryStatus
  | pending => .pending
  | processing => .processing
  | completed => .sent
  | failed => .failed
  | deadLetter => .deadLetter

/-- The update of the request whose issue an operation creates. -/
def SupportRequest.setIntegrationStatus (row : SupportRequest) (status : JiraIntegrationStatus) :
    SupportRequest :=
  { row with jiraIntegrationStatus := status }

/-- The update of the message that an operation sends. -/
def RequestMessage.setDeliveryStatus (message : RequestMessage) (status : DeliveryStatus) :
    RequestMessage :=
  { message with deliveryStatus := status }

/-! ## The claim of a batch -/

namespace JiraOperationRecord

/-- The condition of the first statement of the claim. -/
def isExhausted (operation : JiraOperationRecord) (now : Int) : Bool :=
  operation.status = .processing && operation.leaseUntil.any (· ≤ now) &&
    decide (operation.maxAttempts ≤ operation.attempts)

/-- The condition of the candidates of the claim. -/
def isCandidate (operation : JiraOperationRecord) (now : Int)
    (correlationId companyId : Option String) : Bool :=
  decide (operation.attempts < operation.maxAttempts) &&
    correlationId.all (· = operation.correlationId) && companyId.all (· = operation.companyId) &&
    ((operation.status = .pending || operation.status = .failed) &&
        decide (operation.nextAttemptAt ≤ now) ||
      operation.status = .processing && operation.leaseUntil.any (· ≤ now))

/-- `ORDER BY "nextAttemptAt" ASC, "createdAt" ASC`. -/
def claimedBefore (operation other : JiraOperationRecord) : Bool :=
  decide (operation.nextAttemptAt < other.nextAttemptAt) ||
    operation.nextAttemptAt = other.nextAttemptAt && decide (operation.createdAt ≤ other.createdAt)

/-- `SET "status" = 'DEAD_LETTER', ..` of the first statement of the claim. -/
def exhaust (operation : JiraOperationRecord) : JiraOperationRecord :=
  { operation with
    status := .deadLetter, lastFailureCode := some "JIRA_LEASE_EXHAUSTED", leaseToken := none
    leaseUntil := none }

/-- `SET "status" = 'PROCESSING', ..` of the claim. -/
def claim (leaseToken : String) (leaseUntil : Int) (operation : JiraOperationRecord) :
    JiraOperationRecord :=
  { operation with
    status := .processing, attempts := operation.attempts + 1, leaseToken := some leaseToken
    leaseUntil := some leaseUntil, lastFailureCode := none }

/-- `where: { id: record.id, status: 'PROCESSING', leaseToken: record.leaseToken }`. -/
def isHeldAs (operation record : JiraOperationRecord) : Bool :=
  operation.id = record.id && operation.status = .processing &&
    operation.leaseToken = record.leaseToken

/-- The operation creates the issue of the request. -/
def createsIssueOf (operation : JiraOperationRecord) (request : SupportRequest) : Bool :=
  operation.requestId = request.id && operation.operationType = .createIssue

/-- The operation sends the message. -/
def sends (operation : JiraOperationRecord) (message : RequestMessage) : Bool :=
  operation.localCommentId = some message.id && operation.operationType = .addComment

end JiraOperationRecord

namespace Database

/-- The first statement of the claim. -/
def exhaustOperations (db : Database) (now : Int) : Database :=
  (db.updateRequests
    (fun request => db.operations.any fun operation =>
      operation.isExhausted now && operation.createsIssueOf request)
    (·.setIntegrationStatus .deadLetter)).updateOperations (·.isExhausted now) (·.exhaust)

/-- The second statement of the claim. -/
def exhaustMessages (db : Database) : Database :=
  db.updateMessages
    (fun message => db.operations.any fun operation =>
      operation.sends message && operation.status = .deadLetter &&
        operation.lastFailureCode = some "JIRA_LEASE_EXHAUSTED")
    (·.setDeliveryStatus .deadLetter)

/-- The ids of the candidates, in the order of the claim. -/
def candidateIds (db : Database) (now : Int) (correlationId companyId : Option String)
    (locked : List String) (batchSize : Nat) : List String :=
  ((((db.operations.filter (·.isCandidate now correlationId companyId)).filter
    (·.id ∉ locked)).insertionSort
      (fun operation other => operation.claimedBefore other = true)).take batchSize).map (·.id)

/-- The third statement of the claim. -/
def claimOperations (db : Database) (ids : List String) (leaseToken : String) (leaseUntil : Int) :
    Database :=
  db.updateOperations (·.id ∈ ids) (·.claim leaseToken leaseUntil)

/-- The last two statements of the claim. -/
def markProcessing (db : Database) (leaseToken : String) : Database :=
  (db.updateRequests
    (fun request => db.operations.any fun operation =>
      operation.leaseToken = some leaseToken && operation.createsIssueOf request)
    (·.setIntegrationStatus .processing)).updateMessages
    (fun message => db.operations.any fun operation =>
      operation.leaseToken = some leaseToken && operation.sends message)
    (·.setDeliveryStatus .processing)

end Database

/-- `claimJiraOperations`.  `locked` are the rows that other transactions hold, which
`SKIP LOCKED` leaves out. -/
def claimJiraOperations (db : Database) (input : ClaimInput) (now : Int) (leaseToken : String)
    (locked : List String) : Except String (Database × List JiraOperationRecord) := do
  require (1 ≤ input.batchSize ∧ input.batchSize ≤ 100) "JIRA_BATCH_SIZE_INVALID"
  require (1000 ≤ input.leaseMs ∧ input.leaseMs ≤ 600000) "JIRA_LEASE_INVALID"
  let correlationId ← optionalReference input.correlationId "JIRA_CORRELATION_INVALID"
  let companyId ← optionalReference input.companyId "JIRA_COMPANY_INVALID"
  let exhausted := (db.exhaustOperations now).exhaustMessages
  let ids := exhausted.candidateIds now correlationId companyId locked input.batchSize
  let claimed := exhausted.claimOperations ids leaseToken (now + input.leaseMs)
  return (claimed.markProcessing leaseToken, claimed.operations.filter (·.id ∈ ids))

/-! ## The ends of an attempt -/

/-- The lease that the worker got with the record is still its own. -/
def OperationHeld (db : Database) (record : JiraOperationRecord) : Prop :=
  db.operations.countP (·.isHeldAs record) = 1

instance (db : Database) (record : JiraOperationRecord) : Decidable (OperationHeld db record) :=
  inferInstanceAs (Decidable (_ = _))

namespace Database

/-- The update of the operation of `completeJiraOperation`. -/
def finishIssue (db : Database) (record : JiraOperationRecord) (result : JiraCreateIssueResult)
    (now : Int) : Database :=
  db.updateOperations (·.isHeldAs record) fun operation =>
    { operation with
      status := .completed, providerIssueId := some result.issueId
      providerIssueKey := some result.issueKey, completedAt := some now, leaseToken := none
      leaseUntil := none, lastFailureCode := none }

/-- The update of the operation of `completeJiraCommentOperation`. -/
def finishComment (db : Database) (record : JiraOperationRecord) (result : JiraAddCommentResult)
    (now : Int) : Database :=
  db.updateOperations (·.isHeldAs record) fun operation =>
    { operation with
      status := .completed, providerCommentId := some result.commentId, completedAt := some now
      leaseToken := none, leaseUntil := none, lastFailureCode := none }

/-- The update of the operation of `failJiraOperation`. -/
def finishFailed (db : Database) (record : JiraOperationRecord) (deadLettered : Bool)
    (nextAttemptAt : Int) (failureCode : String) : Database :=
  db.updateOperations (·.isHeldAs record) fun operation =>
    { operation with
      status := if deadLettered then .deadLetter else .failed
      nextAttemptAt := nextAttemptAt, leaseToken := none, leaseUntil := none
      lastFailureCode := some failureCode }

/-- No other operation has the issue. -/
def admitsIssue (db : Database) (record : JiraOperationRecord) (result : JiraCreateIssueResult) :
    Bool :=
  (db.operations.all fun operation => operation.id = record.id ||
    operation.providerIssueId ≠ some result.issueId &&
      operation.providerIssueKey ≠ some result.issueKey) &&
  db.requests.all fun request => request.id = record.requestId ||
    request.jiraIssueId ≠ some result.issueId && request.jiraKey ≠ some result.issueKey

/-- No other operation and no other message has the comment. -/
def admitsComment (db : Database) (record : JiraOperationRecord) (localCommentId : String)
    (result : JiraAddCommentResult) : Bool :=
  (db.operations.all fun operation => operation.id = record.id ||
    operation.providerCommentId ≠ some result.commentId) &&
  db.messages.all fun message => message.id = localCommentId ||
    message.jiraCommentId ≠ some result.commentId

end Database

/-- The update of the request of `completeJiraOperation`. -/
def SupportRequest.issueCreated (row : SupportRequest) (result : JiraCreateIssueResult) (now : Int) :
    SupportRequest :=
  { row with
    jiraIntegrationStatus := .created, jiraIssueId := some result.issueId
    jiraKey := some result.issueKey, jiraIssueUrl := some result.issueUrl, jiraSyncAt := some now
    version := row.version + 1 }

/-- `completeJiraOperation`. -/
def completeJiraOperation (db : Database) (record : JiraOperationRecord)
    (result : JiraCreateIssueResult) (now : Int) : Except String Database := do
  require (OperationHeld db record) "JIRA_LEASE_LOST"
  require (db.admitsIssue record result = true) prismaError
  require ((db.request? record.requestId).isSome = true) prismaError
  return (db.finishIssue record result now).updateRequests (·.id = record.requestId)
    (·.issueCreated result now)

/-- The update of the message of `completeJiraCommentOperation`. -/
def RequestMessage.sent (message : RequestMessage) (result : JiraAddCommentResult) (now : Int) :
    RequestMessage :=
  { message with
    deliveryStatus := .sent, jiraCommentId := some result.commentId
    jiraCommentUpdatedAt := some now }

/-- `completeJiraCommentOperation`. -/
def completeJiraCommentOperation (db : Database) (record : JiraOperationRecord)
    (result : JiraAddCommentResult) (now : Int) : Except String Database :=
  match record.localCommentId.filter (· ≠ "") with
  | none => .error "JIRA_COMMENT_LOCAL_ID_MISSING"
  | some localCommentId => do
    require (OperationHeld db record) "JIRA_LEASE_LOST"
    require (db.admitsComment record localCommentId result = true) prismaError
    require ((db.message? localCommentId).isSome = true) prismaError
    return (db.finishComment record result now).updateMessages (·.id = localCommentId)
      (·.sent result now)

/-- The row that mirrors the status of an operation gets a new one: the request of a
`CREATE_ISSUE`, or the message of an `ADD_COMMENT` by the update `message`. -/
def Database.mirror (db : Database) (operation : JiraOperationRecord) (status : JiraOperationStatus)
    (message : RequestMessage → RequestMessage) : Database :=
  match operation.operationType with
  | .createIssue =>
    db.updateRequests (·.id = operation.requestId) fun row =>
      { row.setIntegrationStatus status.integrationStatus with version := row.version + 1 }
  | .addComment =>
    match operation.localCommentId.filter (· ≠ "") with
    | some localCommentId => db.updateMessages (·.id = localCommentId) message
    | none => db

/-- The rows that an update by id needs are there. -/
def Database.hasMirror (db : Database) (operation : JiraOperationRecord) : Bool :=
  (db.request? operation.requestId).isSome &&
    match operation.operationType with
    | .createIssue => true
    | .addComment =>
      (operation.localCommentId.filter (· ≠ "")).all fun localCommentId =>
        (db.message? localCommentId).isSome

/-- `deadLettered` of `failJiraOperation`. -/
def isOperationDead (record : JiraOperationRecord) (failure : JiraFailure) : Bool :=
  !failure.retryable || decide (record.maxAttempts ≤ record.attempts)

/-- The date of the next attempt of a failed operation. -/
def nextOperationAttempt (record : JiraOperationRecord) (failure : JiraFailure) (now : Int) :
    Except String Int :=
  if isOperationDead record failure then .ok now
  else (fun backoff : Nat => now + backoff) <$> jiraBackoffMs record.attempts

/-- The status that `failJiraOperation` gives. -/
def failedStatus (record : JiraOperationRecord) (failure : JiraFailure) : JiraOperationStatus :=
  if isOperationDead record failure then .deadLetter else .failed

/-- `value.toUpperCase()`, of a failure code. -/
def upperCode (code : String) : String := String.ofList (code.toList.map Char.toUpper)

/-- `failJiraOperation`.  It returns `deadLettered`. -/
def failJiraOperation (db : Database) (record : JiraOperationRecord) (failure : JiraFailure)
    (now : Int) : Except String (Database × Bool) := do
  require (isSafeFailureCode (upperCode failure.code)) "JIRA_FAILURE_CODE_INVALID"
  let nextAttemptAt ← nextOperationAttempt record failure now
  require (OperationHeld db record) "JIRA_LEASE_LOST"
  require (db.hasMirror record = true) prismaError
  let failed := db.finishFailed record (isOperationDead record failure) nextAttemptAt
    (upperCode failure.code)
  return (failed.mirror record (failedStatus record failure)
    (·.setDeliveryStatus (failedStatus record failure).deliveryStatus),
    isOperationDead record failure)

/-! ## The actions of an operator -/

/-- The read of `retryJiraOperation`. -/
def readDeadLetter (db : Database) (id : String) : Except String JiraOperationRecord :=
  match db.operation? id with
  | none => .error "JIRA_DEAD_LETTER_NOT_FOUND"
  | some operation =>
    if operation.status = .deadLetter then .ok operation else .error "JIRA_DEAD_LETTER_NOT_FOUND"

/-- The update of the operation of `retryJiraOperation`. -/
def JiraOperationRecord.reset (operation : JiraOperationRecord) (now : Int) : JiraOperationRecord :=
  { operation with
    status := .pending, attempts := 0, nextAttemptAt := now, leaseToken := none, leaseUntil := none
    lastFailureCode := none, providerIssueId := none, providerIssueKey := none
    providerCommentId := none, completedAt := none }

/-- The update of the message of `retryJiraOperation`. -/
def RequestMessage.reset (message : RequestMessage) : RequestMessage :=
  { message with deliveryStatus := .pending, jiraCommentId := none, jiraCommentUpdatedAt := none }

/-- The writes of `retryJiraOperation`, on the row that it has read. -/
def retryJiraOperation (db : Database) (operation : JiraOperationRecord) (now : Int) :
    Except String Database := do
  require ((db.operation? operation.id).isSome = true) prismaError
  require (db.hasMirror operation = true) prismaError
  return (db.updateOperations (·.id = operation.id) (·.reset now)).mirror operation .pending (·.reset)

/-- The read of `moveFailedJiraOperationToDeadLetter`. -/
def readFailed (db : Database) (id : String) : Except String JiraOperationRecord :=
  match db.operation? id with
  | none => .error "JIRA_FAILED_OPERATION_NOT_FOUND"
  | some operation =>
    if operation.status = .failed then .ok operation else .error "JIRA_FAILED_OPERATION_NOT_FOUND"

/-- The update of the operation of `moveFailedJiraOperationToDeadLetter`, with the failure code
of the row that it has read. -/
def JiraOperationRecord.moveToDeadLetter (operation : JiraOperationRecord)
    (lastFailureCode : Option String) (now : Int) : JiraOperationRecord :=
  { operation with
    status := .deadLetter, leaseToken := none, leaseUntil := none, nextAttemptAt := now
    lastFailureCode := some (lastFailureCode.getD "JIRA_MANUAL_DEAD_LETTER") }

/-- The writes of `moveFailedJiraOperationToDeadLetter`, on the row that it has read. -/
def moveFailedJiraOperationToDeadLetter (db : Database) (operation : JiraOperationRecord)
    (now : Int) : Except String Database := do
  require ((db.operation? operation.id).isSome = true) prismaError
  require (db.hasMirror operation = true) prismaError
  return (db.updateOperations (·.id = operation.id)
    (·.moveToDeadLetter operation.lastFailureCode now)).mirror operation .deadLetter
      (·.setDeliveryStatus .deadLetter)

/-! ## Enqueueing -/

/-- What the configuration says: `loadJiraConfiguration`, as far as it is read here. -/
structure JiraSettings where
  enabled : Bool
  maximumAttempts : Nat

/-- The unique keys admit a new operation. -/
def Database.admitsOperation (db : Database) (operation : JiraOperationRecord) : Bool :=
  db.operations.all fun row => row.id ≠ operation.id &&
    row.idempotencyKey ≠ operation.idempotencyKey &&
    (operation.localCommentId.isNone || row.localCommentId ≠ operation.localCommentId)

/-- The input of `createRequest`, with what the database gives the new rows. -/
structure NewRequest where
  id : String
  publicId : String
  companyId : String
  requesterId : String
  idempotencyKey : String
  correlationId : String
  operationId : String
  createdAt : Int
  /-- The requester is an active member of the company. -/
  isMember : Bool
  settings : JiraSettings

/-- The row of `createRequest`. -/
def NewRequest.row (new : NewRequest) (status : JiraIntegrationStatus) : SupportRequest where
  id := new.id
  publicId := new.publicId
  companyId := new.companyId
  requesterId := new.requesterId
  jiraIntegrationStatus := status
  idempotencyKey := some new.idempotencyKey

/-- The operation of `createRequest`. -/
def NewRequest.operation (new : NewRequest) (mapping : JiraOrganizationMapping) :
    JiraOperationRecord where
  id := new.operationId
  requestId := new.id
  companyId := new.companyId
  mappingId := mapping.id
  maxAttempts := new.settings.maximumAttempts
  nextAttemptAt := new.createdAt
  createdAt := new.createdAt
  idempotencyKey := "jira:create:" ++ new.idempotencyKey
  correlationId := new.correlationId

/-- The unique keys admit the row of `createRequest`. -/
def Database.admitsRequest (db : Database) (new : NewRequest) : Bool :=
  db.requests.all fun row => row.id ≠ new.id && row.publicId ≠ new.publicId &&
    row.idempotencyKey ≠ some new.idempotencyKey

/-- `mapping` of `createRequest` and `addRequestMessage`, if it is enabled. -/
def Database.enabledMapping (db : Database) (settings : JiraSettings) (companyId : String) :
    Option JiraOrganizationMapping :=
  if settings.enabled then (db.mappingOf? companyId).filter (·.enabled) else none

/-- The transaction of `createRequest`.  A request that is there already, or that the unique
keys refuse, changes nothing. -/
def createRequest (db : Database) (new : NewRequest) : Database :=
  if db.admitsRequest new && new.isMember then
    match db.enabledMapping new.settings new.companyId with
    | none => { db with requests := db.requests ++ [new.row .notConfigured] }
    | some mapping =>
      if db.admitsOperation (new.operation mapping) then
        { db with
          requests := db.requests ++ [new.row .pending]
          operations := db.operations ++ [new.operation mapping] }
      else db
  else db

/-- The input of `addRequestMessage`, with what the database gives the new rows. -/
structure NewMessage where
  id : String
  publicId : String
  companyId : String
  body : String
  authorId : String
  authorName : String
  idempotencyKey : String
  correlationId : String
  operationId : String
  createdAt : Int
  /-- The author is an active member of the company. -/
  isMember : Bool
  settings : JiraSettings

/-- The row of `addRequestMessage`. -/
def NewMessage.row (new : NewMessage) (requestId : String) (status : DeliveryStatus) :
    RequestMessage where
  id := new.id
  body := new.body
  authorId := some new.authorId
  authorType := .customer
  authorDisplayName := some new.authorName
  deliveryStatus := status
  requestId := requestId
  idempotencyKey := some new.idempotencyKey

/-- The operation of `addRequestMessage`. -/
def NewMessage.operation (new : NewMessage) (request : SupportRequest)
    (mapping : JiraOrganizationMapping) : JiraOperationRecord where
  id := new.operationId
  requestId := request.id
  companyId := request.companyId
  mappingId := mapping.id
  operationType := .addComment
  maxAttempts := new.settings.maximumAttempts
  nextAttemptAt := new.createdAt
  createdAt := new.createdAt
  idempotencyKey := "jira:add-comment:" ++ new.idempotencyKey
  correlationId := new.correlationId
  localCommentId := some new.id

/-- The request has an issue in Jira that comments can go to. -/
def SupportRequest.takesComments (request : SupportRequest) : Bool :=
  request.jiraIntegrationStatus = .created && request.jiraIssueId.any (· ≠ "") &&
    request.jiraKey.any (· ≠ "")

/-- The unique keys admit the row of `addRequestMessage`. -/
def Database.admitsNewMessage (db : Database) (new : NewMessage) : Bool :=
  db.messages.all fun row => row.id ≠ new.id && row.idempotencyKey ≠ some new.idempotencyKey

/-- `item` of `addRequestMessage`. -/
def Database.requestOf? (db : Database) (publicId companyId : String) : Option SupportRequest :=
  db.requests.find? fun request => request.publicId = publicId && request.companyId = companyId

/-- The transaction of `addRequestMessage`.  A message that is there already, or that the
unique keys refuse, changes nothing. -/
def addRequestMessage (db : Database) (new : NewMessage) : Database :=
  match db.requestOf? new.publicId new.companyId with
  | none => db
  | some request =>
    if db.admitsNewMessage new && new.isMember then
      match (db.enabledMapping new.settings request.companyId).filter fun _ => request.takesComments with
      | none => { db with messages := db.messages ++ [new.row request.id .notRequired] }
      | some mapping =>
        if db.admitsOperation (new.operation request mapping) then
          { db with
            messages := db.messages ++ [new.row request.id .pending]
            operations := db.operations ++ [new.operation request mapping] }
        else db
    else db

end AvantimePlatform.Jira
