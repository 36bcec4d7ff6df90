import AvantimePlatform.Jira.Outbox
import AvantimePlatform.Lib.Interleaving

/-!
# The workers and the operators

`processJiraOperationBatch` and the two actions of an operator, as calls that make one
statement or one request to the provider after the other, over the tables, the tenant
of Jira and the clock.  `jira` is the system of all of them, of the inbound workers, and of
what the portal, the webhooks and others at the tenant do meanwhile.

`outboxStep` says what a step of a call can do.
-/

namespace AvantimePlatform.Jira

open AvantimePlatform AvantimePlatform.Checked AvantimePlatform.Interleaving

/-- What the calls share. -/
structure JiraState (P : JiraProviderAdapter) where
  db : Database
  tenant : P.Tenant
  now : Int

/-- What no step changes: the runtime, and what `projectJiraCreateIssue` is given for an
operation. -/
structure OutboxContext where
  runtime : ProviderRuntime
  draft : String → IssueDraft

/-- What `processJiraOperationBatch` counts. -/
structure OutboxTally where
  claimed : Nat := 0
  completed : Nat := 0
  failed : Nat := 0
  deadLettered : Nat := 0

/-- The loop of `processJiraOperationBatch` at one record. -/
structure OperationBatch where
  now : Int
  record : JiraOperationRecord
  rest : List JiraOperationRecord
  tally : OutboxTally

variable (P : JiraProviderAdapter)

/-- What is done next for a record. -/
inductive OperationPlace where
  /-- The read of the request. -/
  | readRequest
  /-- The read of the mapping. -/
  | readMapping (request : Option SupportRequest)
  /-- A request of `createIssue`. -/
  | createIssue (place : P.IssuePlace)
  /-- The read of the comment. -/
  | readMessage (request : SupportRequest)
  /-- A request of `addComment`. -/
  | addComment (place : P.CommentPlace)
  /-- The transaction of `completeJiraOperation`. -/
  | completeIssue (result : JiraCreateIssueResult)
  /-- The transaction of `completeJiraCommentOperation`. -/
  | completeComment (result : JiraAddCommentResult)
  /-- The transaction of `failJiraOperation`. -/
  | fail (failure : JiraFailure)

/-- A call of `processJiraOperationBatch`, or of an operator's action. -/
inductive OutboxCall where
  | claim (input : ClaimInput)
  | record (batch : OperationBatch) (place : OperationPlace P)
  | readRetry (id : String) (now : Int)
  | retry (operation : JiraOperationRecord) (now : Int)
  | readMove (id : String) (now : Int)
  | move (operation : JiraOperationRecord) (now : Int)

/-- What the world outside answers to a statement or a request. -/
inductive OutboxInput where
  /-- A statement is made.  `uuid` is the random id that it uses, `locked` the rows that
  others hold. -/
  | proceed (uuid : String) (locked : List String)
  /-- A request to the provider is answered. -/
  | answer (answer : ProviderAnswer)
  /-- A statement fails, and its transaction is rolled back. -/
  | failure
  /-- The process stops. -/
  | crash

variable {P}

/-- The loop at the first of the remaining records. -/
def nextOperation (now : Int) (tally : OutboxTally) :
    List JiraOperationRecord → Option (OutboxCall P)
  | [] => none
  | record :: rest =>
    some (.record { now := now, record := record, rest := rest, tally := tally }
      (if (record.leaseToken.filter (· ≠ "")).isNone then .fail ⟨"JIRA_LEASE_MISSING", false⟩
        else .readRequest))

namespace OperationBatch

/-- Where an error before the completion leaves the loop. -/
def throws (batch : OperationBatch) (error : JiraError) : Option (OutboxCall P) :=
  some (.record batch (.fail (providerFailure error)))

/-- The loop after a completion. -/
def finished (batch : OperationBatch) (now : Int) : Option (OutboxCall P) :=
  nextOperation now { batch.tally with completed := batch.tally.completed + 1 } batch.rest

/-- The loop after `failJiraOperation`. -/
def failed (batch : OperationBatch) (now : Int) (deadLettered : Bool) : Option (OutboxCall P) :=
  nextOperation now
    (if deadLettered then { batch.tally with deadLettered := batch.tally.deadLettered + 1 }
      else { batch.tally with failed := batch.tally.failed + 1 }) batch.rest

variable (context : OutboxContext)

/-- The checks after the two reads, and the call of `createIssue` or the read of the
comment. -/
def dispatch (batch : OperationBatch) (request : Option SupportRequest)
    (mapping : Option JiraOrganizationMapping) : OperationPlace P :=
  match request with
  | none => .fail (providerFailure (.provider "JIRA_REQUEST_UNAVAILABLE" false))
  | some request =>
    if request.companyId ≠ batch.record.companyId then
      .fail (providerFailure (.provider "JIRA_REQUEST_UNAVAILABLE" false))
    else if (mapping.filter fun row => row.companyId = batch.record.companyId && row.enabled).isNone then
      .fail (providerFailure (.provider "JIRA_MAPPING_DISABLED" false))
    else
      match batch.record.operationType with
      | .createIssue =>
        match projectJiraCreateIssue context.runtime (context.draft batch.record.id) request.publicId
          batch.record.idempotencyKey with
        | .ok payload => .createIssue (P.createIssue payload batch.record.attempts)
        | .error error => .fail (providerFailure error)
      | .addComment =>
        if (batch.record.localCommentId.filter (· ≠ "")).isNone ∨
            (request.jiraIssueId.filter (· ≠ "")).isNone ∨ (request.jiraKey.filter (· ≠ "")).isNone then
          .fail (providerFailure (.provider "JIRA_COMMENT_TARGET_UNAVAILABLE" false))
        else .readMessage request

/-- The read of the comment, and the call of `addComment`. -/
def readMessage (batch : OperationBatch) (db : Database) (request : SupportRequest) :
    OperationPlace P :=
  let comment := (batch.record.localCommentId.bind db.message?).filter fun message =>
    message.requestId = request.id
  match comment.filter fun message => message.authorType = .customer with
  | none => .fail (providerFailure (.provider "JIRA_COMMENT_UNAVAILABLE" false))
  | some message =>
    match projectJiraComment context.runtime (request.jiraIssueId.getD "") (request.jiraKey.getD "")
      request.publicId message.body batch.record.idempotencyKey with
    | .ok payload => .addComment (P.addComment payload batch.record.attempts)
    | .error error => .fail (providerFailure error)

/-- Where the end of a request of `createIssue` leaves the record. -/
def afterIssue : P.IssuePlace ⊕ Except JiraError JiraCreateIssueResult → OperationPlace P
  | .inl place => .createIssue place
  | .inr (.ok result) => .completeIssue result
  | .inr (.error error) => .fail (providerFailure error)

/-- Where the end of a request of `addComment` leaves the record. -/
def afterComment : P.CommentPlace ⊕ Except JiraError JiraAddCommentResult → OperationPlace P
  | .inl place => .addComment place
  | .inr (.ok result) => .completeComment result
  | .inr (.error error) => .fail (providerFailure error)

/-- The next statement for a record. -/
def run (batch : OperationBatch) (st : JiraState P) :
    OperationPlace P → JiraState P × Option (OutboxCall P)
  | .readRequest => (st, some (.record batch (.readMapping (st.db.request? batch.record.requestId))))
  | .readMapping request =>
    (st, some (.record batch (batch.dispatch context request (st.db.mapping? batch.record.mappingId))))
  | .readMessage request => (st, some (.record batch (batch.readMessage context st.db request)))
  | .completeIssue result =>
    match completeJiraOperation st.db batch.record result batch.now with
    | .ok db => ({ st with db := db }, batch.finished st.now)
    | .error message => (st, batch.throws (.other message))
  | .completeComment result =>
    match completeJiraCommentOperation st.db batch.record result batch.now with
    | .ok db => ({ st with db := db }, batch.finished st.now)
    | .error message => (st, batch.throws (.other message))
  | .fail failure =>
    match failJiraOperation st.db batch.record failure batch.now with
    | .ok (db, deadLettered) => ({ st with db := db }, batch.failed st.now deadLettered)
    | .error _ => (st, none)
  -- The provider answers these two.
  | .createIssue place => (st, some (.record batch (.createIssue place)))
  | .addComment place => (st, some (.record batch (.addComment place)))

/-- The answer to a request of the provider. -/
def answered (batch : OperationBatch) (st : JiraState P) (answer : ProviderAnswer) :
    OperationPlace P → JiraState P × Option (OutboxCall P)
  | .createIssue place =>
    let (tenant, next) := P.advanceIssue st.tenant answer place
    ({ st with tenant := tenant }, some (.record batch (afterIssue next)))
  | .addComment place =>
    let (tenant, next) := P.advanceComment st.tenant answer place
    ({ st with tenant := tenant }, some (.record batch (afterComment next)))
  | place => (st, some (.record batch place))

/-- An error of the database.  `failJiraOperation` gives up the batch. -/
def broken (batch : OperationBatch) : OperationPlace P → Option (OutboxCall P)
  | .fail _ => none
  | _ => batch.throws (.other prismaError)

end OperationBatch

/-- One step of a call. -/
def OutboxCall.advance (context : OutboxContext) (st : JiraState P) (input : OutboxInput) :
    OutboxCall P → JiraState P × Option (OutboxCall P)
  | .claim claimInput =>
    match input with
    | .proceed uuid locked =>
      match claimJiraOperations st.db claimInput st.now uuid locked with
      | .ok (db, records) => ({ st with db := db }, nextOperation st.now { claimed := records.length } records)
      | .error _ => (st, none)
    | _ => (st, none)
  | .record batch place =>
    match input with
    | .proceed _ _ => batch.run context st place
    | .answer answer => batch.answered st answer place
    | .failure => (st, batch.broken place)
    | .crash => (st, none)
  | .readRetry id now =>
    match input with
    | .proceed _ _ =>
      match readDeadLetter st.db id with
      | .ok operation => (st, some (.retry operation now))
      | .error _ => (st, none)
    | _ => (st, none)
  | .retry operation now =>
    match input with
    | .proceed _ _ =>
      match retryJiraOperation st.db operation now with
      | .ok db => ({ st with db := db }, none)
      | .error _ => (st, none)
    | _ => (st, none)
  | .readMove id now =>
    match input with
    | .proceed _ _ =>
      match readFailed st.db id with
      | .ok operation => (st, some (.move operation now))
      | .error _ => (st, none)
    | _ => (st, none)
  | .move operation now =>
    match input with
    | .proceed _ _ =>
      match moveFailedJiraOperationToDeadLetter st.db operation now with
      | .ok db => ({ st with db := db }, none)
      | .error _ => (st, none)
    | _ => (st, none)

/-- Where a call may begin. -/
def OutboxCall.isInitial : OutboxCall P → Bool
  | .claim _ => true
  | .readRetry id _ => isSafeReference id
  | .readMove id _ => isSafeReference id
  | _ => false

/-! ## The system -/

/-- A call of an outbound worker or an operator, or of an inbound worker. -/
inductive JiraCall (P : JiraProviderAdapter) where
  | outbound (call : OutboxCall P)
  | inbound (call : InboundCall)

/-- What the world outside answers. -/
inductive JiraInput where
  | outbound (input : OutboxInput)
  | inbound (input : InboundInput)

/-- What happens besides the calls. -/
inductive JiraEnv (P : JiraProviderAdapter) where
  | tick (elapsed : Nat)
  | createRequest (new : NewRequest)
  | addRequestMessage (new : NewMessage)
  | inbound (event : InboundEnv)
  | tenant (others : P.Others)

def JiraEnv.apply (st : JiraState P) : JiraEnv P → JiraState P
  | .tick elapsed => { st with now := st.now + elapsed }
  | .createRequest new => { st with db := Jira.createRequest st.db new }
  | .addRequestMessage new => { st with db := Jira.addRequestMessage st.db new }
  | .inbound event => { st with db := event.apply st.db }
  | .tenant others => { st with tenant := P.others st.tenant others }

def JiraCall.isInitial : JiraCall P → Bool
  | .outbound call => call.isInitial
  | .inbound call => call.isInitial

/-- One step of a call. -/
def JiraCall.advance (context : OutboxContext) (st : JiraState P) :
    JiraInput → JiraCall P → Option (JiraState P × Option (JiraCall P))
  | .outbound input, .outbound call =>
    let (st', next) := call.advance context st input
    some (st', next.map .outbound)
  | .inbound input, .inbound call =>
    let (db, next) := call.advance st.db input
    some ({ st with db := db }, next.map .inbound)
  | _, _ => none

variable (P) in
/-- Any number of workers and operators. -/
def jira (context : OutboxContext) : Program (JiraState P) (JiraCall P) (JiraEnv P) JiraInput where
  env := JiraEnv.apply
  initial := JiraCall.isInitial
  advance st input call := call.advance context st input

/-! ## What a step of a call can do -/

/-- What a step of an outbound worker or an operator can do: end the call, move a record
along, make a request to the provider, read the row for an operator, or commit one of
the transactions. -/
inductive OutboxStep (context : OutboxContext) (st : JiraState P) (input : OutboxInput) :
    OutboxCall P → JiraState P → Option (OutboxCall P) → Prop where
  | ended (call : OutboxCall P) : OutboxStep context st input call st none
  | along (batch : OperationBatch) (place place' : OperationPlace P)
      (hplace : ∀ p, place' = .createIssue p → place = .createIssue p ∨
        ∃ payload, p = P.createIssue payload batch.record.attempts ∧
          ∃ publicId, projectJiraCreateIssue context.runtime (context.draft batch.record.id) publicId
            batch.record.idempotencyKey = .ok payload)
      (hissue : ∀ result, place' = .completeIssue result → place = .completeIssue result)
      (hcomment : ∀ result, place' = .completeComment result → place = .completeComment result) :
      OutboxStep context st input (.record batch place) st (some (.record batch place'))
  | requested (batch : OperationBatch) (place : P.IssuePlace) (answer : ProviderAnswer)
      (hinput : input = .answer answer) :
      OutboxStep context st input (.record batch (.createIssue place))
        { st with tenant := (P.advanceIssue st.tenant answer place).1 }
        (some (.record batch (OperationBatch.afterIssue (P.advanceIssue st.tenant answer place).2)))
  | commented (batch : OperationBatch) (place : P.CommentPlace) (answer : ProviderAnswer)
      (hinput : input = .answer answer) :
      OutboxStep context st input (.record batch (.addComment place))
        { st with tenant := (P.advanceComment st.tenant answer place).1 }
        (some (.record batch (OperationBatch.afterComment (P.advanceComment st.tenant answer place).2)))
  | claimed (claimInput : ClaimInput) (uuid : String) (locked : List String) (db : Database)
      (records : List JiraOperationRecord) (hinput : input = .proceed uuid locked)
      (hclaim : claimJiraOperations st.db claimInput st.now uuid locked = .ok (db, records)) :
      OutboxStep context st input (.claim claimInput) { st with db := db }
        (nextOperation st.now { claimed := records.length } records)
  | completedIssue (batch : OperationBatch) (result : JiraCreateIssueResult) (db : Database)
      (hcomplete : completeJiraOperation st.db batch.record result batch.now = .ok db) :
      OutboxStep context st input (.record batch (.completeIssue result)) { st with db := db }
        (batch.finished st.now)
  | completedComment (batch : OperationBatch) (result : JiraAddCommentResult) (db : Database)
      (hcomplete : completeJiraCommentOperation st.db batch.record result batch.now = .ok db) :
      OutboxStep context st input (.record batch (.completeComment result)) { st with db := db }
        (batch.finished st.now)
  | failed (batch : OperationBatch) (failure : JiraFailure) (db : Database) (deadLettered : Bool)
      (hfail : failJiraOperation st.db batch.record failure batch.now = .ok (db, deadLettered)) :
      OutboxStep context st input (.record batch (.fail failure)) { st with db := db }
        (batch.failed st.now deadLettered)
  | readRetry (id : String) (now : Int) (operation : JiraOperationRecord)
      (hread : readDeadLetter st.db id = .ok operation) :
      OutboxStep context st input (.readRetry id now) st (some (.retry operation now))
  | retried (operation : JiraOperationRecord) (now : Int) (db : Database)
      (hinput : ∃ uuid locked, input = .proceed uuid locked)
      (hretry : retryJiraOperation st.db operation now = .ok db) :
      OutboxStep context st input (.retry operation now) { st with db := db } none
  | readMove (id : String) (now : Int) (operation : JiraOperationRecord)
      (hread : readFailed st.db id = .ok operation) :
      OutboxStep context st input (.readMove id now) st (some (.move operation now))
  | moved (operation : JiraOperationRecord) (now : Int) (db : Database)
      (hinput : ∃ uuid locked, input = .proceed uuid locked)
      (hmove : moveFailedJiraOperationToDeadLetter st.db operation now = .ok db) :
      OutboxStep context st input (.move operation now) { st with db := db } none

section Steps

variable {context : OutboxContext} {st : JiraState P} {input : OutboxInput}

/-- A record moves along to a place that is no request and no completion. -/
theorem OutboxStep.quiet (batch : OperationBatch) {place place' : OperationPlace P}
    (hissue : ∀ p, place' ≠ .createIssue p) (hcomplete : ∀ result, place' ≠ .completeIssue result)
    (hcomment : ∀ result, place' ≠ .completeComment result) :
    OutboxStep context st input (.record batch place) st (some (.record batch place')) :=
  .along batch place place' (fun p h => absurd h (hissue p)) (fun result h => absurd h (hcomplete result))
    (fun result h => absurd h (hcomment result))

/-- A record stays where it is. -/
theorem OutboxStep.stay (batch : OperationBatch) (place : OperationPlace P) :
    OutboxStep context st input (.record batch place) st (some (.record batch place)) :=
  .along batch place place (fun _ h => Or.inl h) (fun _ h => h) (fun _ h => h)

theorem OutboxStep.throws (batch : OperationBatch) (place : OperationPlace P) (error : JiraError) :
    OutboxStep context st input (.record batch place) st (batch.throws error) :=
  .quiet batch nofun nofun nofun

/-- Where the checks leave a record. -/
theorem dispatch_cases (batch : OperationBatch) (request : Option SupportRequest)
    (mapping : Option JiraOrganizationMapping) :
    (∃ failure, batch.dispatch (P := P) context request mapping = .fail failure) ∨
    (∃ row, batch.dispatch (P := P) context request mapping = .readMessage row) ∨
    ∃ payload publicId, batch.dispatch (P := P) context request mapping =
        .createIssue (P.createIssue payload batch.record.attempts) ∧
      projectJiraCreateIssue context.runtime (context.draft batch.record.id) publicId
        batch.record.idempotencyKey = .ok payload := by
  unfold OperationBatch.dispatch
  split
  · exact Or.inl ⟨_, rfl⟩
  · split
    · exact Or.inl ⟨_, rfl⟩
    split
    · exact Or.inl ⟨_, rfl⟩
    split
    · split
      · next payload hpayload => exact Or.inr (Or.inr ⟨payload, _, rfl, hpayload⟩)
      · exact Or.inl ⟨_, rfl⟩
    · split
      · exact Or.inl ⟨_, rfl⟩
      · exact Or.inr (Or.inl ⟨_, rfl⟩)

/-- Where the read of the comment leaves a record. -/
theorem readMessage_cases (batch : OperationBatch) (db : Database) (request : SupportRequest) :
    (∃ failure, batch.readMessage (P := P) context db request = .fail failure) ∨
    ∃ place, batch.readMessage (P := P) context db request = .addComment place := by
  unfold OperationBatch.readMessage
  dsimp only
  split
  · exact Or.inl ⟨_, rfl⟩
  · split
    · exact Or.inr ⟨_, rfl⟩
    · exact Or.inl ⟨_, rfl⟩

theorem outboxStep_run (batch : OperationBatch) (place : OperationPlace P) :
    OutboxStep context st input (.record batch place) (batch.run context st place).1
      (batch.run context st place).2 := by
  cases place with
  | readRequest => exact .quiet batch nofun nofun nofun
  | readMapping request =>
      simp only [OperationBatch.run]
      rcases dispatch_cases batch request
          (st.db.mapping? batch.record.mappingId) with
        ⟨failure, hplace⟩ | ⟨row, hplace⟩ | ⟨payload, publicId, hplace, hpayload⟩
      · rw [hplace]
        exact .quiet batch nofun nofun nofun
      · rw [hplace]
        exact .quiet batch nofun nofun nofun
      · rw [hplace]
        refine .along batch _ _ (fun p hp => ?_) nofun nofun
        cases hp
        exact Or.inr ⟨payload, rfl, publicId, hpayload⟩
  | createIssue place => exact .stay batch _
  | readMessage request =>
      simp only [OperationBatch.run]
      rcases readMessage_cases batch st.db request with
        ⟨failure, hplace⟩ | ⟨place, hplace⟩
      · rw [hplace]
        exact .quiet batch nofun nofun nofun
      · rw [hplace]
        exact .quiet batch nofun nofun nofun
  | addComment place => exact .stay batch _
  | completeIssue result =>
      simp only [OperationBatch.run]
      split
      · next db hdb => exact .completedIssue batch result db hdb
      · exact .throws batch _ _
  | completeComment result =>
      simp only [OperationBatch.run]
      split
      · next db hdb => exact .completedComment batch result db hdb
      · exact .throws batch _ _
  | fail failure =>
      simp only [OperationBatch.run]
      split
      · next db deadLettered hdb => exact .failed batch failure db deadLettered hdb
      · exact .ended _

theorem outboxStep_answered (batch : OperationBatch) (place : OperationPlace P)
    (answer : ProviderAnswer) :
    OutboxStep context st (.answer answer) (.record batch place) (batch.answered st answer place).1
      (batch.answered st answer place).2 := by
  cases place with
  | createIssue place => exact .requested batch place answer rfl
  | addComment place => exact .commented batch place answer rfl
  | readRequest => exact .stay batch _
  | readMapping request => exact .stay batch _
  | readMessage request => exact .stay batch _
  | completeIssue result => exact .stay batch _
  | completeComment result => exact .stay batch _
  | fail failure => exact .stay batch _

theorem outboxStep_broken (batch : OperationBatch) (place : OperationPlace P) :
    OutboxStep context st input (.record batch place) st (batch.broken place) := by
  cases place with
  | fail failure => exact .ended _
  | readRequest => exact .throws batch _ _
  | readMapping request => exact .throws batch _ _
  | createIssue place => exact .throws batch _ _
  | readMessage request => exact .throws batch _ _
  | addComment place => exact .throws batch _ _
  | completeIssue result => exact .throws batch _ _
  | completeComment result => exact .throws batch _ _

/-- Everything a step of an outbound worker or an operator can do. -/
theorem outboxStep (context : OutboxContext) (st : JiraState P) (input : OutboxInput)
    (call : OutboxCall P) :
    OutboxStep context st input call (call.advance context st input).1
      (call.advance context st input).2 := by
  cases call with
  | claim claimInput =>
      cases input with
      | proceed uuid locked =>
          simp only [OutboxCall.advance]
          split
          · next db records hclaim => exact .claimed claimInput uuid locked db records rfl hclaim
          · exact .ended _
      | answer answer => exact .ended _
      | failure => exact .ended _
      | crash => exact .ended _
  | record batch place =>
      cases input with
      | proceed uuid locked => exact outboxStep_run batch place
      | answer answer => exact outboxStep_answered batch place answer
      | failure => exact outboxStep_broken batch place
      | crash => exact .ended _
  | readRetry id now =>
      cases input with
      | proceed uuid locked =>
          simp only [OutboxCall.advance]
          split
          · next operation hread => exact .readRetry id now operation hread
          · exact .ended _
      | answer answer => exact .ended _
      | failure => exact .ended _
      | crash => exact .ended _
  | retry operation now =>
      cases input with
      | proceed uuid locked =>
          simp only [OutboxCall.advance]
          split
          · next db hretry => exact .retried operation now db ⟨uuid, locked, rfl⟩ hretry
          · exact .ended _
      | answer answer => exact .ended _
      | failure => exact .ended _
      | crash => exact .ended _
  | readMove id now =>
      cases input with
      | proceed uuid locked =>
          simp only [OutboxCall.advance]
          split
          · next operation hread => exact .readMove id now operation hread
          · exact .ended _
      | answer answer => exact .ended _
      | failure => exact .ended _
      | crash => exact .ended _
  | move operation now =>
      cases input with
      | proceed uuid locked =>
          simp only [OutboxCall.advance]
          split
          · next db hmove => exact .moved operation now db ⟨uuid, locked, rfl⟩ hmove
          · exact .ended _
      | answer answer => exact .ended _
      | failure => exact .ended _
      | crash => exact .ended _

/-- Everything a step of the system can do. -/
theorem jira_step_cases {w w' : World (JiraState P) (JiraCall P)}
    {ev : Event (JiraEnv P) (JiraCall P) JiraInput} (h : (jira P context).step w ev w') :
    (∃ e, ev = .env e ∧ w' = { w with shared := JiraEnv.apply w.shared e }) ∨
    (∃ call, ev = .spawn call ∧ call.isInitial = true ∧ w' = { w with locals := w.locals ++ [call] }) ∨
    (∃ i input call st next, ev = .advance i (.outbound input) ∧
      w.locals[i]? = some (.outbound call) ∧ OutboxStep context w.shared input call st next ∧
      w' = { shared := st, locals := replaceLocal w.locals i (next.map .outbound) }) ∨
    (∃ i input call, ev = .advance i (.inbound input) ∧ w.locals[i]? = some (.inbound call) ∧
      w' = { shared := { w.shared with db := (call.advance w.shared.db input).1 },
             locals := replaceLocal w.locals i ((call.advance w.shared.db input).2.map .inbound) }) := by
  rcases Program.step_cases h with ⟨e, rfl, rfl⟩ | ⟨call, rfl, hinit, rfl⟩ |
    ⟨i, input, call, st, next, rfl, hcall, hadvance, rfl⟩
  · exact Or.inl ⟨e, rfl, rfl⟩
  · exact Or.inr (Or.inl ⟨call, rfl, hinit, rfl⟩)
  · right; right
    cases call with
    | outbound call =>
        cases input with
        | outbound input =>
            left
            have heq := Option.some.inj hadvance
            obtain ⟨rfl, rfl⟩ := Prod.mk.inj heq
            exact ⟨i, input, call, _, _, rfl, hcall, outboxStep context w.shared input call, rfl⟩
        | inbound input => cases hadvance
    | inbound call =>
        cases input with
        | outbound input => cases hadvance
        | inbound input =>
            right
            have heq := Option.some.inj hadvance
            obtain ⟨rfl, rfl⟩ := Prod.mk.inj heq
            exact ⟨i, input, call, rfl, hcall, rfl⟩

end Steps

end AvantimePlatform.Jira
