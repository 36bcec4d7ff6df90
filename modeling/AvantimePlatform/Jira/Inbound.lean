import AvantimePlatform.Jira.Tables
import AvantimePlatform.Lib.Checked
import AvantimePlatform.Lib.Interleaving

/-!
# Processing inbound events

`jira-inbound.ts`: the claim of a batch of events, the transactions that work off
a `STATUS`, a `COMMENT` and an `ISSUE_DELETED` event, `failEvent`, and the loop of
`processJiraInboundBatch` as a call that makes one statement after the other.

A call is an `InboundCall`.  `InboundCall.advance` makes its next read, or the
writes of its transaction together with the commit, and any other call may step in
between.  `inbound` is the system of all calls and of what administrators,
webhooks and operators do meanwhile.
-/

namespace AvantimePlatform.Jira

open AvantimePlatform AvantimePlatform.Checked AvantimePlatform.Interleaving

/-! ## The claim of a batch -/

/-- The input of `claimJiraInboundEvents`, but for `now`. -/
structure ClaimInput where
  batchSize : Nat
  leaseMs : Nat
  correlationId : Option String := none
  companyId : Option String := none

namespace JiraInboundEventRecord

/-- The condition of the first statement of the claim. -/
def isExhausted (event : JiraInboundEventRecord) (now : Int) : Bool :=
  event.status = .processing && event.leaseUntil.any (· ≤ now) &&
    decide (event.maxAttempts ≤ event.attempts)

/-- The condition of the candidates of the claim. -/
def isCandidate (event : JiraInboundEventRecord) (now : Int)
    (correlationId companyId : Option String) : Bool :=
  decide (event.attempts < event.maxAttempts) &&
    correlationId.all (· = event.correlationId) && companyId.all (· = event.companyId) &&
    ((event.status = .pending || event.status = .failed) && decide (event.nextAttemptAt ≤ now) ||
      event.status = .processing && event.leaseUntil.any (· ≤ now))

/-- `ORDER BY "occurredAt" ASC, "createdAt" ASC`. -/
def claimedBefore (event other : JiraInboundEventRecord) : Bool :=
  decide (event.occurredAt < other.occurredAt) ||
    event.occurredAt = other.occurredAt && decide (event.createdAt ≤ other.createdAt)

/-- `SET "status" = 'DEAD_LETTER', ..` of the first statement of the claim. -/
def exhaust (event : JiraInboundEventRecord) : JiraInboundEventRecord :=
  { event with
    status := .deadLetter, lastFailureCode := some "LEASE_EXHAUSTED", leaseToken := none
    leaseUntil := none }

/-- `SET "status" = 'PROCESSING', ..` of the claim. -/
def claim (leaseToken : String) (leaseUntil : Int) (event : JiraInboundEventRecord) :
    JiraInboundEventRecord :=
  { event with
    status := .processing, attempts := event.attempts + 1, leaseToken := some leaseToken
    leaseUntil := some leaseUntil, lastFailureCode := none }

/-- `where: { id: record.id, status: 'PROCESSING', leaseToken: record.leaseToken }`. -/
def isHeldAs (event record : JiraInboundEventRecord) : Bool :=
  event.id = record.id && event.status = .processing && event.leaseToken = record.leaseToken

end JiraInboundEventRecord

/-- `claimJiraInboundEvents`.  `locked` are the rows that other transactions hold,
which `SKIP LOCKED` leaves out. -/
def claimJiraInboundEvents (db : Database) (input : ClaimInput) (now : Int) (leaseToken : String)
    (locked : List String) : Except String (Database × List JiraInboundEventRecord) := do
  require (1 ≤ input.batchSize ∧ input.batchSize ≤ 100) "JIRA_INBOUND_BATCH_SIZE_INVALID"
  require (1000 ≤ input.leaseMs ∧ input.leaseMs ≤ 600000) "JIRA_INBOUND_LEASE_INVALID"
  let correlationId ← optionalReference input.correlationId "JIRA_INBOUND_CORRELATION_INVALID"
  let companyId ← optionalReference input.companyId "JIRA_INBOUND_COMPANY_INVALID"
  let exhausted := db.updateInboundEvents (·.isExhausted now) (·.exhaust)
  let candidates := ((exhausted.inboundEvents.filter
    (·.isCandidate now correlationId companyId)).filter (·.id ∉ locked)).insertionSort
      (fun event other => event.claimedBefore other = true)
  let ids := (candidates.take input.batchSize).map (·.id)
  let claimed := exhausted.updateInboundEvents (·.id ∈ ids) (·.claim leaseToken (now + input.leaseMs))
  return (claimed, claimed.inboundEvents.filter (·.id ∈ ids))

/-! ## The transactions -/

/-- What a transaction that works off an event returns. -/
inductive InboundOutcome where
  | completed
  | ignored
deriving DecidableEq

/-- The status that `finishEvent` gives the event. -/
def InboundOutcome.status : InboundOutcome → JiraInboundEventStatus
  | .completed => .completed
  | .ignored => .ignored

/-- The lease that the worker got with the record is still its own. -/
def LeaseHeld (db : Database) (record : JiraInboundEventRecord) : Prop :=
  db.inboundEvents.countP (·.isHeldAs record) = 1

instance (db : Database) (record : JiraInboundEventRecord) : Decidable (LeaseHeld db record) :=
  inferInstanceAs (Decidable (_ = _))

/-- The update of `finishEvent`. -/
def Database.finish (db : Database) (record : JiraInboundEventRecord) (outcome : InboundOutcome)
    (now : Int) : Database :=
  db.updateInboundEvents (·.isHeldAs record) fun event =>
    { event with
      status := outcome.status, completedAt := some now, leaseToken := none, leaseUntil := none
      lastFailureCode := none }

/-- `finishEvent`. -/
def finishEvent (db : Database) (record : JiraInboundEventRecord) (outcome : InboundOutcome)
    (now : Int) : Except String (Database × InboundOutcome) :=
  if LeaseHeld db record then .ok (db.finish record outcome now, outcome)
  else .error "JIRA_INBOUND_LEASE_LOST"

/-- The request is the one that the event was ingested for. -/
def SupportRequest.isTargetOf (request : SupportRequest) (record : JiraInboundEventRecord) : Bool :=
  request.companyId = record.companyId && request.jiraIssueId = some record.jiraIssueId &&
    request.jiraKey = some record.jiraIssueKey

/-- The error of an update of a row that is not there, or of a column with a value
that it cannot hold. -/
def prismaError : String := "PrismaClientError"

/-- The condition of the guarded update of `processStatus`. -/
def SupportRequest.isFencedBy (row : SupportRequest) (request : SupportRequest)
    (record : JiraInboundEventRecord) (incomingAt : Int) : Bool :=
  row.id = request.id && row.companyId = record.companyId &&
    row.jiraUpdatedAt.all (· < incomingAt)

/-- The data of the guarded update of `processStatus`. -/
def SupportRequest.applyStatus (row : SupportRequest) (status : Option PortalRequestStatus)
    (statusId statusName : String) (incomingAt now : Int) : SupportRequest :=
  { row with
    status := status.getD row.status, jiraStatusId := some statusId
    jiraStatusName := some statusName, jiraUpdatedAt := some incomingAt, jiraSyncAt := some now
    jiraSyncVersion := row.jiraSyncVersion + 1, version := row.version + 1 }

/-- The guarded update of `processStatus` finds the row. -/
def FencePasses (db : Database) (record : JiraInboundEventRecord) (request : SupportRequest)
    (incomingAt : Int) : Prop :=
  db.requests.countP (·.isFencedBy request record incomingAt) = 1

instance (db : Database) (record : JiraInboundEventRecord) (request : SupportRequest)
    (incomingAt : Int) : Decidable (FencePasses db record request incomingAt) :=
  inferInstanceAs (Decidable (_ = _))

/-- The guarded update of `processStatus` and `finishEvent` after it. -/
def updateStatus (db : Database) (record : JiraInboundEventRecord) (request : SupportRequest)
    (status : Option PortalRequestStatus) (statusId statusName : String) (incomingAt now : Int) :
    Except String (Database × InboundOutcome) :=
  if FencePasses db record request incomingAt then
    finishEvent (db.updateRequests (·.isFencedBy request record incomingAt)
      (·.applyStatus status statusId statusName incomingAt now)) record .completed now
  else finishEvent db record .ignored now

/-- The writes of `processStatus`, on the request and the mapping it has read. -/
def processStatus (db : Database) (record : JiraInboundEventRecord) (statusId statusName : String)
    (jiraUpdatedAt : Option Int) (request : Option SupportRequest)
    (mapping : Option JiraOrganizationMapping) (now : Int) :
    Except String (Database × InboundOutcome) :=
  match request with
  | none => .error "JIRA_INBOUND_TENANT_MAPPING_INVALID"
  | some request =>
    if request.isTargetOf record = false then .error "JIRA_INBOUND_TENANT_MAPPING_INVALID"
    else
      match resolveJiraStatus statusName (mapping.bind (·.statusMapping)) with
      | .unknown => finishEvent db record .ignored now
      | .inherited =>
        match jiraUpdatedAt with
        | none => .error "JIRA_INBOUND_STATUS_DATE_INVALID"
        | some incomingAt =>
          if (∃ current ∈ request.jiraUpdatedAt, incomingAt ≤ current) ∨ request.status.IsTerminal
          then finishEvent db record .ignored now
          else .error prismaError
      | .portal mappedStatus =>
        match jiraUpdatedAt with
        | none => .error "JIRA_INBOUND_STATUS_DATE_INVALID"
        | some incomingAt =>
          match statusTransitionDecision request.status request.jiraUpdatedAt mappedStatus
            incomingAt with
          | .stale => finishEvent db record .ignored now
          | .terminalConflict => finishEvent db record .ignored now
          | .unchanged => updateStatus db record request none statusId statusName incomingAt now
          | .apply =>
            updateStatus db record request (some mappedStatus) statusId statusName incomingAt now

/-- The data of the update of `processComment`. -/
def RequestMessage.applyComment (message : RequestMessage) (body authorName : String)
    (updatedAt : Int) : RequestMessage :=
  { message with
    body := body, authorDisplayName := some authorName, jiraCommentUpdatedAt := some updatedAt }

/-- The message that `processComment` creates. -/
def importedComment (id requestId commentId body authorName : String) (updatedAt : Int) :
    RequestMessage where
  id := id
  body := body
  authorId := none
  authorType := .jira
  authorDisplayName := some authorName
  deliveryStatus := .notRequired
  requestId := requestId
  jiraCommentId := some commentId
  jiraCommentUpdatedAt := some updatedAt

/-- The unique keys admit a new message: its id is new, and so is its comment id. -/
def Database.admitsMessage (db : Database) (message : RequestMessage) : Bool :=
  (db.message? message.id).isNone &&
    message.jiraCommentId.all fun commentId => (db.comment? commentId).isNone

/-- The insert of `processComment` and `finishEvent` after it. -/
def createMessage (db : Database) (record : JiraInboundEventRecord) (message : RequestMessage)
    (now : Int) : Except String (Database × InboundOutcome) :=
  if db.admitsMessage message then
    finishEvent { db with messages := db.messages ++ [message] } record .completed now
  else .error prismaError

/-- The writes of `processComment`, on the request and the message it has read.
`id` is the id of a message it creates. -/
def processComment (db : Database) (record : JiraInboundEventRecord)
    (commentId body authorName : String) (updatedAt : Int) (request : SupportRequest)
    (existing : Option RequestMessage) (id : String) (now : Int) :
    Except String (Database × InboundOutcome) :=
  match existing with
  | some existing =>
    if existing.requestId ≠ request.id then .error "JIRA_INBOUND_COMMENT_TENANT_COLLISION"
    else if existing.authorType ≠ .jira then finishEvent db record .ignored now
    else if ∃ stored ∈ existing.jiraCommentUpdatedAt, updatedAt ≤ stored then
      finishEvent db record .ignored now
    else if (db.message? existing.id).isNone then .error prismaError
    else
      finishEvent (db.updateMessages (·.id = existing.id) (·.applyComment body authorName updatedAt))
        record .completed now
  | none =>
    createMessage db record (importedComment id request.id commentId body authorName updatedAt) now

/-- The data of the update of `processDeleted`. -/
def SupportRequest.issueDeleted (row : SupportRequest) (now : Int) : SupportRequest :=
  { row with
    jiraIntegrationStatus := .failed, jiraStatusName := some "Unavailable in Jira"
    jiraSyncAt := some now, version := row.version + 1 }

/-- The writes of `processDeleted`, on the request it has read. -/
def processDeleted (db : Database) (record : JiraInboundEventRecord)
    (request : Option SupportRequest) (now : Int) : Except String (Database × InboundOutcome) :=
  match request with
  | none => .error "JIRA_INBOUND_TENANT_MAPPING_INVALID"
  | some request =>
    if request.companyId ≠ record.companyId ∨ request.jiraIssueId ≠ some record.jiraIssueId then
      .error "JIRA_INBOUND_TENANT_MAPPING_INVALID"
    else if (db.request? request.id).isNone then .error prismaError
    else
      finishEvent (db.updateRequests (·.id = request.id) (·.issueDeleted now)) record .completed now

/-- `value.includes(part)`. -/
def includes (value part : String) : Prop := part.toList <:+: value.toList

instance (value part : String) : Decidable (includes value part) :=
  inferInstanceAs (Decidable (_ <:+: _))

/-- The code that `failEvent` stores for an error. -/
def inboundFailureCode (message : String) : String :=
  if isSafeFailureCode message then message else "JIRA_INBOUND_PROCESSING_FAILED"

/-- `deadLettered` of `failEvent`. -/
def isDeadLettered (record : JiraInboundEventRecord) (code : String) : Prop :=
  record.maxAttempts ≤ record.attempts ∨ includes code "TENANT_" ∨ includes code "PAYLOAD_"

instance (record : JiraInboundEventRecord) (code : String) :
    Decidable (isDeadLettered record code) :=
  inferInstanceAs (Decidable (_ ∨ _))

/-- The date of the next attempt of a failed event. -/
def nextAttemptAfter (record : JiraInboundEventRecord) (code : String) (now : Int) :
    Except String Int :=
  if isDeadLettered record code then .ok now
  else (fun backoff : Nat => now + backoff) <$> jiraBackoffMs record.attempts

/-- The update of `failEvent`. -/
def Database.failInbound (db : Database) (record : JiraInboundEventRecord) (code : String)
    (nextAttemptAt : Int) : Database :=
  db.updateInboundEvents (·.isHeldAs record) fun event =>
    { event with
      status := if isDeadLettered record code then .deadLetter else .failed
      nextAttemptAt := nextAttemptAt, leaseToken := none, leaseUntil := none
      lastFailureCode := some code }

/-- `failEvent`, on the message of the error.  It returns `deadLettered`. -/
def failEvent (db : Database) (record : JiraInboundEventRecord) (message : String) (now : Int) :
    Except String (Database × Bool) := do
  let nextAttemptAt ← nextAttemptAfter record (inboundFailureCode message) now
  require (LeaseHeld db record) "JIRA_INBOUND_LEASE_LOST"
  return (db.failInbound record (inboundFailureCode message) nextAttemptAt,
    decide (isDeadLettered record (inboundFailureCode message)))

/-! ## The calls -/

/-- What `processJiraInboundBatch` counts. -/
structure InboundTally where
  completed : Nat := 0
  ignored : Nat := 0
  failed : Nat := 0
  deadLettered : Nat := 0

/-- The loop of `processJiraInboundBatch` at one record. -/
structure InboundBatch where
  now : Int
  record : JiraInboundEventRecord
  rest : List JiraInboundEventRecord
  tally : InboundTally

/-- The statement that the transaction of a record makes next. -/
inductive InboundPlace where
  /-- The read of the request. -/
  | readRequest
  /-- The read of the mapping, in `processStatus`. -/
  | readMapping (request : Option SupportRequest)
  /-- The writes of `processStatus`. -/
  | writeStatus (request : Option SupportRequest) (mapping : Option JiraOrganizationMapping)
  /-- The read of the message, in `processComment`. -/
  | readMessage (request : Option SupportRequest)
  /-- The writes of `processComment`. -/
  | writeComment (request : SupportRequest) (existing : Option RequestMessage)
  /-- The writes of `processDeleted`. -/
  | writeDeleted (request : Option SupportRequest)
  /-- The transaction of `failEvent`. -/
  | fail (message : String)

/-- A call of `processJiraInboundBatch`. -/
inductive InboundCall where
  | claim (input : ClaimInput) (now : Int)
  | record (batch : InboundBatch) (place : InboundPlace)

/-- What the world outside answers to a statement. -/
inductive InboundInput where
  /-- It is made.  `uuid` is the random id that the statement uses, `locked` the rows
  that others hold. -/
  | proceed (uuid : String) (locked : List String)
  /-- It fails, and the transaction is rolled back. -/
  | failure
  /-- The process stops. -/
  | crash

/-- The loop at the first of the remaining records.  A payload of no known shape is
an error before the transaction begins. -/
def nextRecord (now : Int) (tally : InboundTally) :
    List JiraInboundEventRecord → Option InboundCall
  | [] => none
  | record :: rest =>
    some (.record { now := now, record := record, rest := rest, tally := tally }
      (if record.normalizedPayload.isNone then .fail "JIRA_INBOUND_PAYLOAD_INVALID"
        else .readRequest))

namespace InboundBatch

/-- The loop after the transaction of its record. -/
def next (batch : InboundBatch) (tally : InboundTally) : Option InboundCall :=
  nextRecord batch.now tally batch.rest

/-- Where the transaction of a record leaves the loop. -/
def finished (batch : InboundBatch) (db : Database) :
    Except String (Database × InboundOutcome) → Database × Option InboundCall
  | .ok (db', .completed) =>
    (db', batch.next { batch.tally with completed := batch.tally.completed + 1 })
  | .ok (db', .ignored) =>
    (db', batch.next { batch.tally with ignored := batch.tally.ignored + 1 })
  | .error message => (db, some (.record batch (.fail message)))

/-- Where `failEvent` leaves the loop.  Its own error ends the call. -/
def failed (batch : InboundBatch) (db : Database) :
    Except String (Database × Bool) → Database × Option InboundCall
  | .ok (db', true) =>
    (db', batch.next { batch.tally with deadLettered := batch.tally.deadLettered + 1 })
  | .ok (db', false) => (db', batch.next { batch.tally with failed := batch.tally.failed + 1 })
  | .error _ => (db, none)

/-- The next statement of the transaction of a record. -/
def run (batch : InboundBatch) (db : Database) (uuid : String) :
    InboundPlace → Database × Option InboundCall
  | .readRequest =>
    let request := db.request? batch.record.requestId
    match batch.record.normalizedPayload with
    | some (.status ..) => (db, some (.record batch (.readMapping request)))
    | some (.comment ..) => (db, some (.record batch (.readMessage request)))
    | some (.issueDeleted _) => (db, some (.record batch (.writeDeleted request)))
    | none => (db, none)
  | .readMapping request =>
    (db, some (.record batch (.writeStatus request (db.mappingOf? batch.record.companyId))))
  | .writeStatus request mapping =>
    match batch.record.normalizedPayload with
    | some (.status statusId statusName jiraUpdatedAt) =>
      batch.finished db (processStatus db batch.record statusId statusName jiraUpdatedAt request
        mapping batch.now)
    | _ => (db, none)
  | .readMessage request =>
    match batch.record.normalizedPayload, request with
    | some (.comment commentId _ _ isPublic automation jiraUpdatedAt), some request =>
      if request.isTargetOf batch.record = false then
        (db, some (.record batch (.fail "JIRA_INBOUND_TENANT_MAPPING_INVALID")))
      else if isPublic = false ∨ automation = true then
        batch.finished db (finishEvent db batch.record .ignored batch.now)
      else if jiraUpdatedAt.isNone then
        (db, some (.record batch (.fail "JIRA_INBOUND_COMMENT_DATE_INVALID")))
      else (db, some (.record batch (.writeComment request (db.comment? commentId))))
    | some (.comment ..), none =>
      (db, some (.record batch (.fail "JIRA_INBOUND_TENANT_MAPPING_INVALID")))
    | _, _ => (db, none)
  | .writeComment request existing =>
    match batch.record.normalizedPayload with
    | some (.comment commentId body authorName _ _ (some updatedAt)) =>
      batch.finished db (processComment db batch.record commentId body authorName updatedAt
        request existing uuid batch.now)
    | _ => (db, none)
  | .writeDeleted request =>
    match batch.record.normalizedPayload with
    | some (.issueDeleted _) =>
      batch.finished db (processDeleted db batch.record request batch.now)
    | _ => (db, none)
  | .fail message => batch.failed db (failEvent db batch.record message batch.now)

/-- An error of the database: the transaction is given up, and `failEvent` gives up
the batch. -/
def broken (batch : InboundBatch) : InboundPlace → Option InboundCall
  | .fail _ => none
  | _ => some (.record batch (.fail prismaError))

end InboundBatch

/-- One step of a call. -/
def InboundCall.advance (db : Database) (input : InboundInput) :
    InboundCall → Database × Option InboundCall
  | .claim claimInput now =>
    match input with
    | .proceed uuid locked =>
      match claimJiraInboundEvents db claimInput now uuid locked with
      | .ok (db', records) => (db', nextRecord now {} records)
      | .error _ => (db, none)
    | .failure => (db, none)
    | .crash => (db, none)
  | .record batch place =>
    match input with
    | .proceed uuid _ => batch.run db uuid place
    | .failure => (db, batch.broken place)
    | .crash => (db, none)

/-- A call begins with its claim. -/
def InboundCall.isInitial : InboundCall → Bool
  | .claim .. => true
  | .record .. => false

/-! ## What happens meanwhile -/

/-- The other transactions on the same tables. -/
inductive InboundEnv where
  /-- `updateRequestStatus`. -/
  | updateRequestStatus (publicId : String) (status : PortalRequestStatus)
  /-- An administrator changes a mapping. -/
  | setMapping (mapping : JiraOrganizationMapping)
  /-- `ingestJiraWebhook` stores an event. -/
  | ingest (event : JiraInboundEventRecord)
  /-- `retryJiraInboundEvent`. -/
  | retryJiraInboundEvent (id : String) (now : Int)
  /-- `moveJiraInboundEventToDeadLetter`. -/
  | moveJiraInboundEventToDeadLetter (id : String)

/-- What they do.  An operation that its guard refuses changes nothing. -/
def InboundEnv.apply (db : Database) : InboundEnv → Database
  | .updateRequestStatus publicId status =>
    db.updateRequests (·.publicId = publicId) fun row =>
      { row with status := status, version := row.version + 1 }
  | .setMapping mapping =>
    { db with
      mappings := mapping :: db.mappings.filter fun row =>
        row.id ≠ mapping.id && row.companyId ≠ mapping.companyId }
  | .ingest event =>
    if (db.inboundEvent? event.id).isNone ∧ event.status = .pending then
      { db with inboundEvents := db.inboundEvents ++ [event] }
    else db
  | .retryJiraInboundEvent id now =>
    if isSafeReference id then
      db.updateInboundEvents
        (fun event => event.id = id && (event.status = .failed || event.status = .deadLetter))
        fun event =>
          { event with
            status := .pending, attempts := 0, nextAttemptAt := now, leaseToken := none
            leaseUntil := none, lastFailureCode := none, completedAt := none }
    else db
  | .moveJiraInboundEventToDeadLetter id =>
    if isSafeReference id then
      db.updateInboundEvents (fun event => event.id = id && event.status = .failed) fun event =>
        { event with
          status := .deadLetter, leaseToken := none, leaseUntil := none
          lastFailureCode := some "JIRA_MANUAL_DEAD_LETTER" }
    else db

/-- Any number of inbound workers over the tables. -/
def inbound : Program Database InboundCall InboundEnv InboundInput where
  env := InboundEnv.apply
  initial := InboundCall.isInitial
  advance db input call := some (call.advance db input)

end AvantimePlatform.Jira
