import AvantimePlatform.Jira.CommentEvents
import AvantimePlatform.Jira.Worker

/-!
# What the transactions write

For each transaction on the outbound operations, when it commits and what it leaves
(`claimJiraOperations_eq_ok` and so on), and for a step of an inbound worker, what it
does to the requests, the messages and the operations (`inboundWrite`).
-/

namespace AvantimePlatform.Jira

open AvantimePlatform AvantimePlatform.Checked

/-! ## The transactions of the outbox -/

section Outbox

variable {db db' : Database} {record operation : JiraOperationRecord} {now : Int}

/-- The tables after the first two statements of the claim. -/
def Database.exhausted (db : Database) (now : Int) : Database :=
  (db.exhaustOperations now).exhaustMessages

theorem claimJiraOperations_eq_ok {input : ClaimInput} {leaseToken : String} {locked : List String}
    {records : List JiraOperationRecord}
    (h : claimJiraOperations db input now leaseToken locked = .ok (db', records)) :
    ∃ correlationId companyId ids leaseUntil,
      ids = (db.exhausted now).candidateIds now correlationId companyId locked input.batchSize ∧
      leaseUntil = now + input.leaseMs ∧
      db' = ((db.exhausted now).claimOperations ids leaseToken leaseUntil).markProcessing leaseToken ∧
      records = ((db.exhausted now).claimOperations ids leaseToken leaseUntil).operations.filter
        (·.id ∈ ids) := by
  unfold claimJiraOperations at h
  obtain ⟨_, -, h⟩ := bind_eq_ok.mp h
  obtain ⟨_, -, h⟩ := bind_eq_ok.mp h
  obtain ⟨correlationId, -, h⟩ := bind_eq_ok.mp h
  obtain ⟨companyId, -, h⟩ := bind_eq_ok.mp h
  obtain ⟨rfl, rfl⟩ := Prod.mk.inj (Except.ok.inj h)
  exact ⟨correlationId, companyId, _, _, rfl, rfl, rfl, rfl⟩

theorem completeJiraOperation_eq_ok {result : JiraCreateIssueResult}
    (h : completeJiraOperation db record result now = .ok db') :
    OperationHeld db record ∧ db.admitsIssue record result = true ∧
      (db.request? record.requestId).isSome = true ∧
      db' = (db.finishIssue record result now).updateRequests (·.id = record.requestId)
        (·.issueCreated result now) := by
  unfold completeJiraOperation at h
  obtain ⟨hheld, h⟩ := seq_eq_ok.mp h
  obtain ⟨hadmits, h⟩ := seq_eq_ok.mp h
  obtain ⟨hrequest, h⟩ := seq_eq_ok.mp h
  exact ⟨require_eq_ok.mp hheld, require_eq_ok.mp hadmits, require_eq_ok.mp hrequest,
    (Except.ok.inj h).symm⟩

theorem completeJiraCommentOperation_eq_ok {result : JiraAddCommentResult}
    (h : completeJiraCommentOperation db record result now = .ok db') :
    ∃ localCommentId, record.localCommentId = some localCommentId ∧ OperationHeld db record ∧
      db.admitsComment record localCommentId result = true ∧
      (db.message? localCommentId).isSome = true ∧
      db' = (db.finishComment record result now).updateMessages (·.id = localCommentId)
        (·.sent result now) := by
  unfold completeJiraCommentOperation at h
  split at h
  · cases h
  · next localCommentId hlocal =>
    obtain ⟨hheld, h⟩ := seq_eq_ok.mp h
    obtain ⟨hadmits, h⟩ := seq_eq_ok.mp h
    obtain ⟨hmessage, h⟩ := seq_eq_ok.mp h
    exact ⟨localCommentId, (Option.filter_eq_some_iff.mp hlocal).1, require_eq_ok.mp hheld,
      require_eq_ok.mp hadmits, require_eq_ok.mp hmessage, (Except.ok.inj h).symm⟩

theorem failJiraOperation_eq_ok {failure : JiraFailure} {deadLettered : Bool}
    (h : failJiraOperation db record failure now = .ok (db', deadLettered)) :
    OperationHeld db record ∧ db.hasMirror record = true ∧ ∃ nextAttemptAt,
      nextOperationAttempt record failure now = .ok nextAttemptAt ∧
      db' = (db.finishFailed record (isOperationDead record failure) nextAttemptAt
        (upperCode failure.code)).mirror record (failedStatus record failure)
          (·.setDeliveryStatus (failedStatus record failure).deliveryStatus) := by
  unfold failJiraOperation at h
  obtain ⟨-, h⟩ := seq_eq_ok.mp h
  obtain ⟨nextAttemptAt, hnext, h⟩ := bind_eq_ok.mp h
  obtain ⟨hheld, h⟩ := seq_eq_ok.mp h
  obtain ⟨hmirror, h⟩ := seq_eq_ok.mp h
  obtain ⟨rfl, -⟩ := Prod.mk.inj (Except.ok.inj h)
  exact ⟨require_eq_ok.mp hheld, require_eq_ok.mp hmirror, nextAttemptAt, hnext, rfl⟩

theorem retryJiraOperation_eq_ok (h : retryJiraOperation db operation now = .ok db') :
    db.hasMirror operation = true ∧
      db' = (db.updateOperations (·.id = operation.id) (·.reset now)).mirror operation .pending
        (·.reset) := by
  unfold retryJiraOperation at h
  obtain ⟨-, h⟩ := seq_eq_ok.mp h
  obtain ⟨hmirror, h⟩ := seq_eq_ok.mp h
  exact ⟨require_eq_ok.mp hmirror, (Except.ok.inj h).symm⟩

theorem moveFailedJiraOperationToDeadLetter_eq_ok
    (h : moveFailedJiraOperationToDeadLetter db operation now = .ok db') :
    db.hasMirror operation = true ∧
      db' = (db.updateOperations (·.id = operation.id)
        (·.moveToDeadLetter operation.lastFailureCode now)).mirror operation .deadLetter
          (·.setDeliveryStatus .deadLetter) := by
  unfold moveFailedJiraOperationToDeadLetter at h
  obtain ⟨-, h⟩ := seq_eq_ok.mp h
  obtain ⟨hmirror, h⟩ := seq_eq_ok.mp h
  exact ⟨require_eq_ok.mp hmirror, (Except.ok.inj h).symm⟩

theorem readDeadLetter_eq_ok {id : String} (h : readDeadLetter db id = .ok operation) :
    db.operation? id = some operation ∧ operation.status = .deadLetter := by
  unfold readDeadLetter at h
  split at h
  · cases h
  · next row hrow =>
    split at h
    · next hstatus =>
      obtain rfl := Except.ok.inj h
      exact ⟨hrow, hstatus⟩
    · cases h

theorem readFailed_eq_ok {id : String} (h : readFailed db id = .ok operation) :
    db.operation? id = some operation ∧ operation.status = .failed := by
  unfold readFailed at h
  split at h
  · cases h
  · next row hrow =>
    split at h
    · next hstatus =>
      obtain rfl := Except.ok.inj h
      exact ⟨hrow, hstatus⟩
    · cases h

@[simp] theorem mirror_operations (status : JiraOperationStatus)
    (f : RequestMessage → RequestMessage) :
    (db.mirror operation status f).operations = db.operations := by
  unfold Database.mirror
  split
  · rfl
  · split <;> rfl

theorem isHeldAs_iff {row : JiraOperationRecord} :
    row.isHeldAs record = true ↔
      row.id = record.id ∧ row.status = .processing ∧ row.leaseToken = record.leaseToken := by
  simp [JiraOperationRecord.isHeldAs, and_assoc]

/-- The row that a worker still holds. -/
theorem OperationHeld.exists (h : OperationHeld db record) :
    ∃ row ∈ db.operations, row.isHeldAs record = true := by
  have hpos : 0 < db.operations.countP (·.isHeldAs record) := by
    rw [h]
    exact Nat.one_pos
  exact List.countP_pos_iff.mp hpos

/-- The ids of the claim are those of candidates. -/
theorem exists_of_mem_candidateIds {correlationId companyId : Option String} {locked : List String}
    {batchSize : Nat} {id : String}
    (h : id ∈ db.candidateIds now correlationId companyId locked batchSize) :
    ∃ row ∈ db.operations, row.isCandidate now correlationId companyId = true ∧ row.id = id := by
  obtain ⟨row, hrow, rfl⟩ := List.mem_map.mp h
  have hsorted := (List.perm_insertionSort _ _).mem_iff.mp (List.mem_of_mem_take hrow)
  have hcandidate := List.mem_filter.mp (List.mem_filter.mp hsorted).1
  exact ⟨row, hcandidate.1, hcandidate.2, rfl⟩

theorem status_of_isCandidate {correlationId companyId : Option String}
    (h : operation.isCandidate now correlationId companyId = true) :
    operation.status = .pending ∨ operation.status = .failed ∨ operation.status = .processing := by
  simp only [JiraOperationRecord.isCandidate, Bool.and_eq_true, Bool.or_eq_true,
    decide_eq_true_eq] at h
  rcases h.2 with ⟨hwaiting, -⟩ | ⟨hprocessing, -⟩
  · rcases hwaiting with hpending | hfailed
    · exact Or.inl hpending
    · exact Or.inr (Or.inl hfailed)
  · exact Or.inr (Or.inr hprocessing)

/-- The two updates of the operations in a claim. -/
theorem operations_claim {claimInput : ClaimInput} {uuid : String}
    {locked : List String} {records : List JiraOperationRecord}
    (h : claimJiraOperations db claimInput now uuid locked = .ok (db', records)) :
    ∃ (ids : List String) (leaseUntil : Int), db'.operations = KeyedList.updateMany (fun row => decide (row.id ∈ ids))
        (·.claim uuid leaseUntil)
        (KeyedList.updateMany (·.isExhausted now) (·.exhaust) db.operations) ∧
      ∀ id ∈ ids, ∃ row ∈ KeyedList.updateMany (·.isExhausted now) (·.exhaust) db.operations,
        row.id = id ∧ (row.status = .pending ∨ row.status = .failed ∨ row.status = .processing) := by
  obtain ⟨correlationId, companyId, ids, leaseUntil, hids, -, rfl, -⟩ := claimJiraOperations_eq_ok h
  refine ⟨ids, leaseUntil, rfl, fun id hid => ?_⟩
  rw [hids] at hid
  obtain ⟨row, hrow, hcandidate, hrowid⟩ := exists_of_mem_candidateIds hid
  exact ⟨row, hrow, hrowid, status_of_isCandidate hcandidate⟩

end Outbox

section Keyed

variable {P : JiraProviderAdapter} {context : OutboxContext} {st st' : JiraState P}
  {input : OutboxInput} {call : OutboxCall P} {next : Option (OutboxCall P)}

/-- A step of an outbound worker or an operator leaves `id` a key. -/
theorem keyed_of_outboxStep (h : OutboxStep context st input call st' next)
    (hkeyed : KeyedList.Distinct JiraOperationRecord.id st.db.operations) :
    KeyedList.Distinct JiraOperationRecord.id st'.db.operations := by
  cases h with
  | ended => exact hkeyed
  | along => exact hkeyed
  | requested => exact hkeyed
  | commented => exact hkeyed
  | readRetry => exact hkeyed
  | readMove => exact hkeyed
  | claimed claimInput uuid locked db records hinput hclaim =>
      obtain ⟨ids, leaseUntil, hoperations, -⟩ := operations_claim hclaim
      show KeyedList.Distinct JiraOperationRecord.id db.operations
      rw [hoperations]
      refine KeyedList.distinct_updateMany (by intro row; rfl) ?_
      exact KeyedList.distinct_updateMany (by intro row; rfl) hkeyed
  | completedIssue batch result db hcomplete =>
      obtain ⟨-, -, -, rfl⟩ := completeJiraOperation_eq_ok hcomplete
      exact KeyedList.distinct_updateMany (by intro row; rfl) hkeyed
  | completedComment batch result db hcomplete =>
      obtain ⟨localCommentId, -, -, -, -, rfl⟩ := completeJiraCommentOperation_eq_ok hcomplete
      exact KeyedList.distinct_updateMany (by intro row; rfl) hkeyed
  | failed batch failure db deadLettered hfail =>
      obtain ⟨-, -, nextAttemptAt, -, rfl⟩ := failJiraOperation_eq_ok hfail
      show KeyedList.Distinct JiraOperationRecord.id (Database.mirror _ _ _ _).operations
      rw [mirror_operations]
      exact KeyedList.distinct_updateMany (by intro row; rfl) hkeyed
  | retried operation now db hinput hretry =>
      obtain ⟨-, rfl⟩ := retryJiraOperation_eq_ok hretry
      show KeyedList.Distinct JiraOperationRecord.id (Database.mirror _ _ _ _).operations
      rw [mirror_operations]
      exact KeyedList.distinct_updateMany (by intro row; rfl) hkeyed
  | moved operation now db hinput hmove =>
      obtain ⟨-, rfl⟩ := moveFailedJiraOperationToDeadLetter_eq_ok hmove
      show KeyedList.Distinct JiraOperationRecord.id (Database.mirror _ _ _ _).operations
      rw [mirror_operations]
      exact KeyedList.distinct_updateMany (by intro row; rfl) hkeyed

end Keyed

/-! ## A step of an inbound worker -/

/-- What a step of an inbound worker does to the requests, the messages and the operations. -/
inductive InboundWrite (db : Database) : InboundCall → Database → Prop where
  | untouched (call : InboundCall) (db' : Database) (hrequests : db'.requests = db.requests)
      (hmessages : db'.messages = db.messages) (hoperations : db'.operations = db.operations) :
      InboundWrite db call db'
  | status (batch : InboundBatch) (row : SupportRequest) (place : InboundPlace)
      (status : Option PortalRequestStatus) (statusId statusName : String) (incomingAt : Int)
      (db' : Database)
      (hrequests : db'.requests = KeyedList.updateMany (·.isFencedBy row batch.record incomingAt)
        (·.applyStatus status statusId statusName incomingAt batch.now) db.requests)
      (hmessages : db'.messages = db.messages) (hoperations : db'.operations = db.operations) :
      InboundWrite db (.record batch place) db'
  | updated (batch : InboundBatch) (request : SupportRequest) (existing : RequestMessage)
      (commentId body authorName : String) (isPublic automation : Bool) (updatedAt : Int)
      (db' : Database)
      (hpayload : batch.record.normalizedPayload =
        some (.comment commentId body authorName isPublic automation (some updatedAt)))
      (hauthor : existing.authorType = .jira)
      (hrequests : db'.requests = db.requests)
      (hmessages : db'.messages = KeyedList.updateMany (·.id = existing.id)
        (·.applyComment body authorName updatedAt) db.messages)
      (hoperations : db'.operations = db.operations) :
      InboundWrite db (.record batch (.writeComment request (some existing))) db'
  | created (batch : InboundBatch) (request : SupportRequest)
      (commentId body authorName : String) (isPublic automation : Bool) (updatedAt : Int)
      (id : String) (db' : Database)
      (hpayload : batch.record.normalizedPayload =
        some (.comment commentId body authorName isPublic automation (some updatedAt)))
      (hid : db.message? id = none) (hcomment : db.comment? commentId = none)
      (hrequests : db'.requests = db.requests)
      (hmessages : db'.messages = db.messages ++
        [importedComment id request.id commentId body authorName updatedAt])
      (hoperations : db'.operations = db.operations) :
      InboundWrite db (.record batch (.writeComment request none)) db'
  | deleted (batch : InboundBatch) (row : SupportRequest) (jiraUpdatedAt : Option Int)
      (db' : Database)
      (hpayload : batch.record.normalizedPayload = some (.issueDeleted jiraUpdatedAt))
      (hrequests : db'.requests = KeyedList.updateMany (·.id = row.id) (·.issueDeleted batch.now)
        db.requests)
      (hmessages : db'.messages = db.messages) (hoperations : db'.operations = db.operations) :
      InboundWrite db (.record batch (.writeDeleted (some row))) db'

section Inbound

variable {db : Database} {batch : InboundBatch} {call : InboundCall}

theorem inboundWrite_finished {result : Except String (Database × InboundOutcome)}
    (h : ∀ db' outcome, result = .ok (db', outcome) → InboundWrite db call db') :
    InboundWrite db call (batch.finished db result).1 := by
  cases result with
  | error message => exact .untouched _ _ rfl rfl rfl
  | ok committed =>
      obtain ⟨db', outcome⟩ := committed
      cases outcome with
      | completed => exact h db' _ rfl
      | ignored => exact h db' _ rfl

theorem inboundWrite_failEvent {record : JiraInboundEventRecord} {message : String} {now : Int} :
    InboundWrite db call (batch.failed db (failEvent db record message now)).1 := by
  cases hfail : failEvent db record message now with
  | error error => exact .untouched _ _ rfl rfl rfl
  | ok committed =>
      obtain ⟨db', dead⟩ := committed
      unfold failEvent at hfail
      obtain ⟨nextAttemptAt, -, hfail⟩ := bind_eq_ok.mp hfail
      obtain ⟨-, hfail⟩ := seq_eq_ok.mp hfail
      obtain ⟨rfl, -⟩ := Prod.mk.inj (Except.ok.inj hfail)
      cases dead with
      | true => exact .untouched _ _ rfl rfl rfl
      | false => exact .untouched _ _ rfl rfl rfl

theorem inboundWrite_run {uuid : String} (place : InboundPlace) :
    InboundWrite db (.record batch place) (batch.run db uuid place).1 := by
  cases place with
  | readRequest =>
      unfold InboundBatch.run
      dsimp only
      split <;> exact .untouched _ _ rfl rfl rfl
  | readMapping request => exact .untouched _ _ rfl rfl rfl
  | writeStatus request mapping =>
      unfold InboundBatch.run
      dsimp only
      split
      · refine inboundWrite_finished fun db' outcome hcommit => ?_
        cases statusCommit_of_processStatus hcommit with
        | ignored hlease => exact .untouched _ _ rfl rfl rfl
        | updated hlease row incomingAt status hrow hdate htarget hdecided hfence =>
            exact .status batch row _ status _ _ incomingAt _ rfl rfl rfl
      · exact .untouched _ _ rfl rfl rfl
  | readMessage request =>
      unfold InboundBatch.run
      dsimp only
      split
      · split
        · exact .untouched _ _ rfl rfl rfl
        split
        · refine inboundWrite_finished fun db' outcome hcommit => ?_
          obtain ⟨-, rfl, -⟩ := finishEvent_eq_ok.mp hcommit
          exact .untouched _ _ rfl rfl rfl
        split <;> exact .untouched _ _ rfl rfl rfl
      · exact .untouched _ _ rfl rfl rfl
      · exact .untouched _ _ rfl rfl rfl
  | writeComment request existing =>
      unfold InboundBatch.run
      dsimp only
      split
      · next commentId body authorName isPublic automation updatedAt hpayload =>
        refine inboundWrite_finished fun db' outcome hcommit => ?_
        cases commentCommit_of_processComment hcommit with
        | foreign existing hlease hauthor => exact .untouched _ _ rfl rfl rfl
        | outdated existing stored hlease hstored hle => exact .untouched _ _ rfl rfl rfl
        | updated existing hlease hrequest hauthor hfresh hrow =>
            exact .updated batch request existing commentId body authorName _ _ updatedAt _ hpayload
              hauthor rfl rfl rfl
        | created hlease hid hcomment =>
            exact .created batch request commentId body authorName _ _ updatedAt uuid _ hpayload hid
              hcomment rfl rfl rfl
      · exact .untouched _ _ rfl rfl rfl
  | writeDeleted request =>
      unfold InboundBatch.run
      dsimp only
      split
      · next jiraUpdatedAt hpayload =>
        refine inboundWrite_finished fun db' outcome hcommit => ?_
        obtain ⟨-, row, rfl, rfl⟩ := processDeleted_eq_ok hcommit
        exact .deleted batch row jiraUpdatedAt _ hpayload rfl rfl rfl
      · exact .untouched _ _ rfl rfl rfl
  | fail message => exact inboundWrite_failEvent

/-- Everything a step of an inbound worker can do to these tables. -/
theorem inboundWrite (db : Database) (input : InboundInput) (call : InboundCall) :
    InboundWrite db call (call.advance db input).1 := by
  cases call with
  | claim claimInput now =>
      cases input with
      | proceed uuid locked =>
          unfold InboundCall.advance
          dsimp only
          split
          · next db' records hclaim =>
            unfold claimJiraInboundEvents at hclaim
            obtain ⟨_, -, hclaim⟩ := bind_eq_ok.mp hclaim
            obtain ⟨_, -, hclaim⟩ := bind_eq_ok.mp hclaim
            obtain ⟨_, -, hclaim⟩ := bind_eq_ok.mp hclaim
            obtain ⟨_, -, hclaim⟩ := bind_eq_ok.mp hclaim
            obtain ⟨rfl, -⟩ := Prod.mk.inj (Except.ok.inj hclaim)
            exact .untouched _ _ rfl rfl rfl
          · exact .untouched _ _ rfl rfl rfl
      | failure => exact .untouched _ _ rfl rfl rfl
      | crash => exact .untouched _ _ rfl rfl rfl
  | record batch place =>
      cases input with
      | proceed uuid locked => exact inboundWrite_run place
      | failure => exact .untouched _ _ rfl rfl rfl
      | crash => exact .untouched _ _ rfl rfl rfl

/-- The operations are not touched. -/
theorem operations_inbound (db : Database) (input : InboundInput) (call : InboundCall) :
    (call.advance db input).1.operations = db.operations := by
  cases inboundWrite db input call with
  | untouched _ _ _ hoperations => assumption
  | status => assumption
  | updated => assumption
  | created => assumption
  | deleted => assumption

/-- What the surroundings of the inbound workers do leaves the operations as well. -/
theorem operations_inboundEnv (db : Database) (e : InboundEnv) :
    (e.apply db).operations = db.operations := by
  cases e with
  | updateRequestStatus publicId status => rfl
  | setMapping mapping => rfl
  | ingest event =>
      unfold InboundEnv.apply
      dsimp only
      split <;> rfl
  | retryJiraInboundEvent id now =>
      unfold InboundEnv.apply
      dsimp only
      split <;> rfl
  | moveJiraInboundEventToDeadLetter id =>
      unfold InboundEnv.apply
      dsimp only
      split <;> rfl

end Inbound

end AvantimePlatform.Jira
