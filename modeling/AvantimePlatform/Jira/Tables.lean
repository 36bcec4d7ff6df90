import AvantimePlatform.Jira.SyncPolicy
import AvantimePlatform.Lib.KeyedList

/-!
# The tables of the Jira integration

The rows that the modules `jira-inbound.ts`, `jira-outbox.ts` and
`requests-store.ts` share, with the columns that they read or decide on, and the
lookups and updates that the transactions are written in.

A transaction runs on a `Database` and either returns the one it commits or the
message of the error that rolls it back.  Its isolation is READ COMMITTED: a
statement sees what is committed when it starts, and an update waits for the row
and checks its condition again.  So the reads of a transaction are steps of their
own, and its writes take effect together when it commits.

The audit trail, the notifications and their outbox are only written to by these
transactions, and are left out.
-/

namespace AvantimePlatform.Jira

open AvantimePlatform

/-- `JiraIntegrationStatus`. -/
inductive JiraIntegrationStatus where
  | notConfigured
  | pending
  | processing
  | created
  | failed
  | deadLetter
deriving DecidableEq

/-- `RequestMessageDeliveryStatus`. -/
inductive DeliveryStatus where
  | notRequired
  | pending
  | processing
  | sent
  | failed
  | deadLetter
deriving DecidableEq

/-- `RequestMessageAuthorType`. -/
inductive AuthorType where
  | customer
  | avantime
  | jira
  | system
deriving DecidableEq

/-- `JiraOperationStatus`. -/
inductive JiraOperationStatus where
  | pending
  | processing
  | completed
  | failed
  | deadLetter
deriving DecidableEq

/-- `JiraOperationType`. -/
inductive JiraOperationType where
  | createIssue
  | addComment
deriving DecidableEq

/-- `JiraInboundEventStatus`. -/
inductive JiraInboundEventStatus where
  | pending
  | processing
  | completed
  | ignored
  | failed
  | deadLetter
deriving DecidableEq

/-- A row of `SupportRequest`. -/
structure SupportRequest where
  id : String
  publicId : String
  companyId : String
  requesterId : String
  status : PortalRequestStatus := .new
  jiraIntegrationStatus : JiraIntegrationStatus := .notConfigured
  version : Nat := 1
  jiraIssueId : Option String := none
  jiraKey : Option String := none
  jiraIssueUrl : Option String := none
  jiraSyncAt : Option Int := none
  jiraStatusId : Option String := none
  jiraStatusName : Option String := none
  jiraUpdatedAt : Option Int := none
  jiraSyncVersion : Nat := 0
  idempotencyKey : Option String := none
deriving DecidableEq

/-- A row of `RequestMessage`. -/
structure RequestMessage where
  id : String
  body : String
  authorId : Option String
  authorType : AuthorType
  authorDisplayName : Option String
  deliveryStatus : DeliveryStatus
  requestId : String
  jiraCommentId : Option String := none
  jiraCommentUpdatedAt : Option Int := none
  idempotencyKey : Option String := none
deriving DecidableEq

/-- A row of `JiraInboundEvent`.  `normalizedPayload` is `none` where the stored
JSON has none of the shapes that `normalizedPayload` of the worker accepts. -/
structure JiraInboundEventRecord where
  id : String
  eventFingerprint : String
  jiraIssueId : String
  jiraIssueKey : String
  requestId : String
  companyId : String
  normalizedPayload : Option NormalizedJiraInboundPayload
  occurredAt : Int
  createdAt : Int
  status : JiraInboundEventStatus := .pending
  attempts : Nat := 0
  maxAttempts : Nat := 5
  nextAttemptAt : Int
  leaseToken : Option String := none
  leaseUntil : Option Int := none
  lastFailureCode : Option String := none
  correlationId : String
  completedAt : Option Int := none
deriving DecidableEq

/-- A row of `JiraOperation`. -/
structure JiraOperationRecord where
  id : String
  requestId : String
  companyId : String
  mappingId : String
  operationType : JiraOperationType := .createIssue
  status : JiraOperationStatus := .pending
  attempts : Nat := 0
  maxAttempts : Nat := 5
  nextAttemptAt : Int
  createdAt : Int
  leaseToken : Option String := none
  leaseUntil : Option Int := none
  idempotencyKey : String
  correlationId : String
  localCommentId : Option String := none
  providerIssueId : Option String := none
  providerIssueKey : Option String := none
  providerCommentId : Option String := none
  lastFailureCode : Option String := none
  completedAt : Option Int := none
deriving DecidableEq

/-- A row of `JiraOrganizationMapping`. -/
structure JiraOrganizationMapping where
  id : String
  companyId : String
  statusMapping : Option StatusMapping
  enabled : Bool
deriving DecidableEq

/-- The tables. -/
structure Database where
  requests : List SupportRequest := []
  messages : List RequestMessage := []
  inboundEvents : List JiraInboundEventRecord := []
  operations : List JiraOperationRecord := []
  mappings : List JiraOrganizationMapping := []

namespace Database

/-! ## Lookups -/

/-- `supportRequest.findUnique({ where: { id } })`. -/
def request? (db : Database) (id : String) : Option SupportRequest :=
  KeyedList.find SupportRequest.id id db.requests

/-- `requestMessage.findUnique({ where: { id } })`. -/
def message? (db : Database) (id : String) : Option RequestMessage :=
  KeyedList.find RequestMessage.id id db.messages

/-- `requestMessage.findUnique({ where: { jiraCommentId } })`. -/
def comment? (db : Database) (jiraCommentId : String) : Option RequestMessage :=
  KeyedList.find RequestMessage.jiraCommentId (some jiraCommentId) db.messages

/-- `jiraInboundEvent.findUnique({ where: { id } })`. -/
def inboundEvent? (db : Database) (id : String) : Option JiraInboundEventRecord :=
  KeyedList.find JiraInboundEventRecord.id id db.inboundEvents

/-- `jiraOperation.findUnique({ where: { id } })`. -/
def operation? (db : Database) (id : String) : Option JiraOperationRecord :=
  KeyedList.find JiraOperationRecord.id id db.operations

/-- `jiraOrganizationMapping.findUnique({ where: { companyId } })`. -/
def mappingOf? (db : Database) (companyId : String) : Option JiraOrganizationMapping :=
  KeyedList.find JiraOrganizationMapping.companyId companyId db.mappings

/-- `jiraOrganizationMapping.findUnique({ where: { id } })`. -/
def mapping? (db : Database) (id : String) : Option JiraOrganizationMapping :=
  KeyedList.find JiraOrganizationMapping.id id db.mappings

/-! ## Updates of the rows that a condition selects -/

def updateRequests (db : Database) (p : SupportRequest → Bool)
    (f : SupportRequest → SupportRequest) : Database :=
  { db with requests := KeyedList.updateMany p f db.requests }

def updateMessages (db : Database) (p : RequestMessage → Bool)
    (f : RequestMessage → RequestMessage) : Database :=
  { db with messages := KeyedList.updateMany p f db.messages }

def updateInboundEvents (db : Database) (p : JiraInboundEventRecord → Bool)
    (f : JiraInboundEventRecord → JiraInboundEventRecord) : Database :=
  { db with inboundEvents := KeyedList.updateMany p f db.inboundEvents }

def updateOperations (db : Database) (p : JiraOperationRecord → Bool)
    (f : JiraOperationRecord → JiraOperationRecord) : Database :=
  { db with operations := KeyedList.updateMany p f db.operations }

section Lookup

variable (db : Database)

theorem request?_updateRequests {p : SupportRequest → Bool} {f : SupportRequest → SupportRequest}
    (hid : ∀ request, (f request).id = request.id) (id : String) :
    (db.updateRequests p f).request? id =
      (db.request? id).map fun request => if p request then f request else request :=
  KeyedList.find_updateMany hid db.requests

theorem comment?_updateMessages {p : RequestMessage → Bool} {f : RequestMessage → RequestMessage}
    (hid : ∀ message, (f message).jiraCommentId = message.jiraCommentId) (id : String) :
    (db.updateMessages p f).comment? id =
      (db.comment? id).map fun message => if p message then f message else message :=
  KeyedList.find_updateMany hid db.messages

end Lookup

end Database

/-- `SAFE_FAILURE_CODE`, as `/^[A-Z0-9][A-Z0-9_-]{2,99}$/u`. -/
def isSafeFailureCode (code : String) : Bool :=
  match code.toList with
  | [] => false
  | first :: rest =>
    (first.isUpper || first.isDigit) && decide (2 ≤ rest.length) && decide (rest.length ≤ 99) &&
      rest.all fun c => c.isUpper || c.isDigit || c == '_' || c == '-'

/-- `SAFE_REFERENCE` and `SAFE_ID`, as `/^[a-zA-Z0-9][a-zA-Z0-9._:-]{0,199}$/u`. -/
def isSafeReference (value : String) : Bool :=
  match value.toList with
  | [] => false
  | first :: rest =>
    first.isAlphanum && decide (rest.length ≤ 199) &&
      rest.all fun c => c.isAlphanum || c == '.' || c == '_' || c == ':' || c == '-'

/-- `value ? safeReference(value, code) : null`. -/
def optionalReference (value : Option String) (code : String) : Except String (Option String) :=
  match value with
  | none => .ok none
  | some value =>
    if value = "" then .ok none
    else if isSafeReference value then .ok (some value)
    else .error code

/-- `jiraBackoffMs`, with its defaults. -/
def jiraBackoffMs (attempt : Nat) : Except String Nat :=
  if 1 ≤ attempt ∧ attempt ≤ 20 then .ok (min 300000 (1000 * 2 ^ (attempt - 1)))
  else .error "JIRA_ATTEMPT_INVALID"

end AvantimePlatform.Jira
