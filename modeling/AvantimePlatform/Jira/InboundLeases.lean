import AvantimePlatform.Jira.Inbound
import AvantimePlatform.Lib.LeaseQueue

/-!
# The lease protocol of inbound events

The workers of `processJiraInboundBatch` as workers over a queue of leased records
(`inboundWorkers`), and `inbound_obeys`: they obey its protocol.

The outcome of an event is recorded by `finishEvent`, at the end of the transaction that
works the event off (`InboundBatch.transaction`), or by `failEvent`.  A transaction that ends
before its `finishEvent` tries to record nothing.
-/

namespace AvantimePlatform.Jira

open AvantimePlatform AvantimePlatform.Checked AvantimePlatform.Interleaving
  AvantimePlatform.LeaseQueue

/-! ## The table as a queue -/

/-- Where an event stands. -/
def JiraInboundEventRecord.phase (event : JiraInboundEventRecord) : Phase :=
  match event.status with
  | .pending => .waiting
  | .failed => .waiting
  | .processing => .processing
  | .completed => .finished
  | .ignored => .finished
  | .deadLetter => .dead

/-- The inbound events as a table of leased records. -/
def inboundView : View JiraInboundEventRecord String String where
  key := JiraInboundEventRecord.id
  phase := JiraInboundEventRecord.phase
  attempts := JiraInboundEventRecord.attempts
  maxAttempts := JiraInboundEventRecord.maxAttempts
  token := JiraInboundEventRecord.leaseToken
  limit := 20

theorem JiraInboundEventRecord.phase_of_processing {event : JiraInboundEventRecord}
    (h : event.status = .processing) : event.phase = .processing := by
  unfold phase
  rw [h]

/-- The two statements of `claimJiraInboundEvents`. -/
def inboundClaimRules (now : Int) (correlationId companyId : Option String) (leaseToken : String)
    (leaseUntil : Int) : ClaimRules inboundView leaseToken where
  isExhausted := (·.isExhausted now)
  isCandidate := (·.isCandidate now correlationId companyId)
  before := JiraInboundEventRecord.claimedBefore
  exhaust := JiraInboundEventRecord.exhaust
  claim := JiraInboundEventRecord.claim leaseToken leaseUntil
  exhausted_processing event h := by
    unfold JiraInboundEventRecord.isExhausted at h
    simp only [Bool.and_eq_true, decide_eq_true_eq] at h
    exact JiraInboundEventRecord.phase_of_processing h.1.1
  candidate_left event h := by
    unfold JiraInboundEventRecord.isCandidate at h
    simp only [Bool.and_eq_true, decide_eq_true_eq] at h
    exact h.1.1.1
  candidate_phase event h := by
    unfold JiraInboundEventRecord.isCandidate at h
    simp only [Bool.and_eq_true, Bool.or_eq_true, decide_eq_true_eq] at h
    rcases h.2 with ⟨hstatus | hstatus, -⟩ | ⟨hstatus, -⟩
    · refine Or.inl ?_
      show event.phase = .waiting
      unfold JiraInboundEventRecord.phase
      rw [hstatus]
    · refine Or.inl ?_
      show event.phase = .waiting
      unfold JiraInboundEventRecord.phase
      rw [hstatus]
    · exact Or.inr (JiraInboundEventRecord.phase_of_processing hstatus)
  exhaust_same _ := ⟨rfl, rfl⟩
  exhaust_attempts _ := rfl
  exhaust_phase _ := rfl
  exhaust_token _ := rfl
  claim_same _ := ⟨rfl, rfl⟩
  claim_attempts _ := rfl
  claim_phase _ := rfl
  claim_token _ := rfl

theorem claimJiraInboundEvents_eq_ok {db db' : Database} {input : ClaimInput} {now : Int}
    {uuid : String} {locked : List String} {records : List JiraInboundEventRecord}
    (h : claimJiraInboundEvents db input now uuid locked = .ok (db', records)) :
    ∃ correlationId companyId, (db'.inboundEvents, records) =
      (inboundClaimRules now correlationId companyId uuid (now + input.leaseMs)).run locked
        input.batchSize db.inboundEvents := by
  unfold claimJiraInboundEvents at h
  obtain ⟨-, h⟩ := seq_eq_ok.mp h
  obtain ⟨-, h⟩ := seq_eq_ok.mp h
  obtain ⟨correlationId, -, h⟩ := bind_eq_ok.mp h
  obtain ⟨companyId, -, h⟩ := bind_eq_ok.mp h
  have hresult := Except.ok.inj h
  rw [Prod.mk.injEq] at hresult
  obtain ⟨rfl, rfl⟩ := hresult
  exact ⟨correlationId, companyId, rfl⟩

/-! ## What a step does to the table -/

namespace InboundBatch

/-- The result of the transaction that works the record off, where its next statements are
its last. -/
def transaction (batch : InboundBatch) (db : Database) (uuid : String) :
    InboundPlace → Option (Except String (Database × InboundOutcome))
  | .writeStatus request mapping =>
    match batch.record.normalizedPayload with
    | some (.status statusId statusName jiraUpdatedAt) =>
      some (processStatus db batch.record statusId statusName jiraUpdatedAt request mapping
        batch.now)
    | _ => none
  | .readMessage request =>
    match batch.record.normalizedPayload, request with
    | some (.comment _ _ _ isPublic automation _), some request =>
      if request.isTargetOf batch.record = false then none
      else if isPublic = false ∨ automation = true then
        some (finishEvent db batch.record .ignored batch.now)
      else none
    | _, _ => none
  | .writeComment request existing =>
    match batch.record.normalizedPayload with
    | some (.comment commentId body authorName _ _ (some updatedAt)) =>
      some (processComment db batch.record commentId body authorName updatedAt request existing
        uuid batch.now)
    | _ => none
  | .writeDeleted request =>
    match batch.record.normalizedPayload with
    | some (.issueDeleted _) => some (processDeleted db batch.record request batch.now)
    | _ => none
  | _ => none

/-- The outcome that the loop tries to record with the token of its record.  A claim has
given it one. -/
def attempt (batch : InboundBatch) (answer : Except String Unit) : Attempt String String :=
  { key := batch.record.id, token := batch.record.leaseToken.getD "", answer }

/-- The outcome that a transaction has tried to record, by its result. -/
def answered (batch : InboundBatch) :
    Except String (Database × InboundOutcome) → Option (Attempt String String)
  | .ok _ => some (batch.attempt (.ok ()))
  | .error message =>
    if message = "JIRA_INBOUND_LEASE_LOST" then some (batch.attempt (.error message)) else none

/-- The outcome that the next statements of the loop try to record. -/
def tried (batch : InboundBatch) (db : Database) (uuid : String) (place : InboundPlace) :
    Option (Attempt String String) :=
  match place with
  | .fail message =>
    some (batch.attempt ((fun _ => ()) <$> failEvent db batch.record message batch.now))
  | place => (batch.transaction db uuid place).bind batch.answered

end InboundBatch

/-- The outcome that a step of a call tries to record. -/
def InboundCall.tried (db : Database) (input : InboundInput) :
    InboundCall → Option (Attempt String String)
  | .claim .. => none
  | .record batch place =>
    match input with
    | .proceed uuid _ => batch.tried db uuid place
    | _ => none

/-- The claim that a step of a call makes. -/
def InboundCall.claimed (db : Database) (input : InboundInput) :
    InboundCall → Option (String × List String)
  | .claim claimInput now =>
    match input with
    | .proceed uuid locked =>
      match claimJiraInboundEvents db claimInput now uuid locked with
      | .ok (_, records) => some (uuid, records.map (·.id))
      | .error _ => none
    | _ => none
  | .record .. => none

/-- What the environment does to the table. -/
def InboundEnv.act : InboundEnv → Act String String
  | .retryJiraInboundEvent id _ => .retry id
  | .moveJiraInboundEventToDeadLetter id => .giveUp id
  | _ => .other

/-- The workers over the inbound events. -/
def inboundWorkers :
    Workers Database InboundCall InboundEnv InboundInput JiraInboundEventRecord String String where
  toView := inboundView
  program := inbound
  rows := Database.inboundEvents
  envAct := InboundEnv.act
  envAct_outcome e := by cases e <;> rfl
  claimed := InboundCall.claimed
  tried := InboundCall.tried
  lost := "JIRA_INBOUND_LEASE_LOST"

/-! ## The transactions -/

/-- A transaction ends with `finishEvent`, or fails before it. -/
inductive EndsWithFinish (db : Database) (record : JiraInboundEventRecord) (now : Int) :
    Except String (Database × InboundOutcome) → Prop where
  | finish (db' : Database) (outcome : InboundOutcome)
      (hevents : db'.inboundEvents = db.inboundEvents) :
      EndsWithFinish db record now (finishEvent db' record outcome now)
  | error (message : String) (hother : message ≠ "JIRA_INBOUND_LEASE_LOST") :
      EndsWithFinish db record now (.error message)

variable {db db' : Database} {record : JiraInboundEventRecord} {now : Int}

theorem endsWithFinish_updateStatus (request : SupportRequest) (status : Option PortalRequestStatus)
    (statusId statusName : String) (incomingAt : Int) :
    EndsWithFinish db record now
      (updateStatus db record request status statusId statusName incomingAt now) := by
  unfold updateStatus
  split
  · exact .finish _ _ rfl
  · exact .finish _ _ rfl

theorem endsWithFinish_processStatus (statusId statusName : String) (jiraUpdatedAt : Option Int)
    (request : Option SupportRequest) (mapping : Option JiraOrganizationMapping) :
    EndsWithFinish db record now
      (processStatus db record statusId statusName jiraUpdatedAt request mapping now) := by
  have hmapping : "JIRA_INBOUND_TENANT_MAPPING_INVALID" ≠ "JIRA_INBOUND_LEASE_LOST" := by
    simp
  have hdate : "JIRA_INBOUND_STATUS_DATE_INVALID" ≠ "JIRA_INBOUND_LEASE_LOST" := by
    simp
  have hprisma : prismaError ≠ "JIRA_INBOUND_LEASE_LOST" := by simp [prismaError]
  unfold processStatus
  split
  · exact .error _ hmapping
  · split
    · exact .error _ hmapping
    · split
      · exact .finish _ _ rfl
      · split
        · exact .error _ hdate
        · split
          · exact .finish _ _ rfl
          · exact .error _ hprisma
      · split
        · exact .error _ hdate
        · split
          · exact .finish _ _ rfl
          · exact .finish _ _ rfl
          · exact endsWithFinish_updateStatus ..
          · exact endsWithFinish_updateStatus ..

theorem endsWithFinish_processComment (commentId body authorName : String) (updatedAt : Int)
    (request : SupportRequest) (existing : Option RequestMessage) (id : String) :
    EndsWithFinish db record now
      (processComment db record commentId body authorName updatedAt request existing id now) := by
  have hcollision : "JIRA_INBOUND_COMMENT_TENANT_COLLISION" ≠ "JIRA_INBOUND_LEASE_LOST" := by
    simp
  have hprisma : prismaError ≠ "JIRA_INBOUND_LEASE_LOST" := by simp [prismaError]
  unfold processComment
  split
  · split
    · exact .error _ hcollision
    · split
      · exact .finish _ _ rfl
      · split
        · exact .finish _ _ rfl
        · split
          · exact .error _ hprisma
          · exact .finish _ _ rfl
  · unfold createMessage
    split
    · exact .finish _ _ rfl
    · exact .error _ hprisma

theorem endsWithFinish_processDeleted (request : Option SupportRequest) :
    EndsWithFinish db record now (processDeleted db record request now) := by
  have hmapping : "JIRA_INBOUND_TENANT_MAPPING_INVALID" ≠ "JIRA_INBOUND_LEASE_LOST" := by
    simp
  have hprisma : prismaError ≠ "JIRA_INBOUND_LEASE_LOST" := by simp [prismaError]
  unfold processDeleted
  split
  · exact .error _ hmapping
  · split
    · exact .error _ hmapping
    · split
      · exact .error _ hprisma
      · exact .finish _ _ rfl

theorem endsWithFinish_transaction {batch : InboundBatch} {uuid : String} {place : InboundPlace}
    {result : Except String (Database × InboundOutcome)}
    (h : batch.transaction db uuid place = some result) :
    EndsWithFinish db batch.record batch.now result := by
  unfold InboundBatch.transaction at h
  split at h
  · split at h
    · cases h
      exact endsWithFinish_processStatus ..
    · cases h
  · split at h
    · split at h
      · cases h
      · split at h
        · cases h
          exact .finish _ _ rfl
        · cases h
    · cases h
  · split at h
    · cases h
      exact endsWithFinish_processComment ..
    · cases h
  · split at h
    · cases h
      exact endsWithFinish_processDeleted ..
    · cases h
  · cases h

/-- The loop runs the transaction where it is at its last statements, and changes nothing
elsewhere. -/
theorem InboundBatch.run_eq (batch : InboundBatch) (db : Database) (uuid : String) {place : InboundPlace}
    (hplace : ∀ message, place ≠ .fail message) :
    match batch.transaction db uuid place with
    | some result => batch.run db uuid place = batch.finished db result
    | none => (batch.run db uuid place).1 = db ∧
        ∀ next, (batch.run db uuid place).2 = some next → ∃ place', next = .record batch place' := by
  cases hpayload : batch.record.normalizedPayload with
  | none => cases place <;> simp_all [transaction, run]
  | some payload =>
      cases place with
      | readRequest => cases payload <;> simp [transaction, run, hpayload]
      | readMapping request => simp [transaction, run]
      | writeStatus request mapping => cases payload <;> simp [transaction, run, hpayload]
      | readMessage request =>
          cases payload with
          | comment commentId body authorName isPublic automation jiraUpdatedAt =>
              cases request with
              | none => simp [transaction, run, hpayload]
              | some request =>
                  by_cases htarget : request.isTargetOf batch.record = false
                  · simp [transaction, run, hpayload, htarget]
                  · by_cases hskip : isPublic = false ∨ automation = true
                    · simp [transaction, run, hpayload, htarget, hskip]
                    · cases jiraUpdatedAt <;> simp [transaction, run, hpayload, htarget, hskip]
          | status statusId statusName jiraUpdatedAt => simp [transaction, run, hpayload]
          | issueDeleted jiraUpdatedAt => simp [transaction, run, hpayload]
      | writeComment request existing =>
          cases payload with
          | comment commentId body authorName isPublic automation jiraUpdatedAt =>
              cases jiraUpdatedAt <;> simp [transaction, run, hpayload]
          | status statusId statusName jiraUpdatedAt => simp [transaction, run, hpayload]
          | issueDeleted jiraUpdatedAt => simp [transaction, run, hpayload]
      | writeDeleted request => cases payload <;> simp [transaction, run, hpayload]
      | fail message => exact absurd rfl (hplace message)

/-! ## The records that calls hold -/

/-- A record as a claim returns it. -/
structure ClaimedEvent (record : JiraInboundEventRecord) : Prop where
  token : record.leaseToken.isSome = true
  attempts_pos : 1 ≤ record.attempts
  attempts_le : record.attempts ≤ record.maxAttempts
  maxAttempts_le : record.maxAttempts ≤ 20

/-- What a call in progress holds. -/
def InboundCall.WellFormed : InboundCall → Prop
  | .claim .. => True
  | .record batch _ => ∀ record ∈ batch.record :: batch.rest, ClaimedEvent record

theorem wellFormed_nextInbound {tally : InboundTally} {records : List JiraInboundEventRecord}
    (h : ∀ record ∈ records, ClaimedEvent record) {call : InboundCall}
    (hcall : nextRecord now tally records = some call) : call.WellFormed := by
  cases records with
  | nil => cases hcall
  | cons record rest =>
      cases hcall
      exact h

/-- The claim returns claimed records. -/
theorem claimedEvent_of_claim (hdb : inboundWorkers.WellFormed db) {input : ClaimInput}
    {uuid : String} {locked : List String} {records : List JiraInboundEventRecord}
    (h : claimJiraInboundEvents db input now uuid locked = .ok (db', records)) :
    ∀ record ∈ records, ClaimedEvent record := by
  obtain ⟨correlationId, companyId, hrun⟩ := claimJiraInboundEvents_eq_ok h
  intro record hrecord
  have hreturned : record ∈ ((inboundClaimRules now correlationId companyId uuid
      (now + input.leaseMs)).run locked input.batchSize db.inboundEvents).2 := by
    rw [← hrun]
    exact hrecord
  obtain ⟨-, row, hrow, hcandidate, rfl⟩ := ClaimRules.mem_run_snd hdb.distinct hreturned
  have hleft : row.attempts < row.maxAttempts := (inboundClaimRules now correlationId companyId
    uuid (now + input.leaseMs)).candidate_left row hcandidate
  have hlimit : row.maxAttempts ≤ 20 := (hdb.bounds row hrow).le_limit
  exact ⟨rfl, Nat.succ_le_succ (Nat.zero_le _), hleft, hlimit⟩

/-! ## The steps -/

theorem isHeldAs_iff_heldAs {token : String} (htoken : record.leaseToken = some token)
    (event : JiraInboundEventRecord) :
    event.isHeldAs record = true ↔ inboundView.HeldAs record.id token event := by
  have hphase : event.status = .processing ↔ event.phase = .processing := by
    unfold JiraInboundEventRecord.phase
    cases event.status <;> simp
  unfold JiraInboundEventRecord.isHeldAs
  rw [Bool.and_eq_true, Bool.and_eq_true, decide_eq_true_eq, decide_eq_true_eq,
    decide_eq_true_eq, hphase, htoken, and_assoc]
  exact Iff.rfl

theorem leaseHeld_iff_holds (hdb : inboundWorkers.WellFormed db) {token : String}
    (htoken : record.leaseToken = some token) :
    LeaseHeld db record ↔ inboundWorkers.Holds db record.id token :=
  View.countP_eq_one_iff hdb.distinct fun event => isHeldAs_iff_heldAs htoken event

/-- `finishEvent`, at the end of a transaction, is made under the lease and fails without
it. -/
theorem finishEvent_callStep (hdb : inboundWorkers.WellFormed db) {token : String}
    (htoken : record.leaseToken = some token) {written : Database}
    (hevents : written.inboundEvents = db.inboundEvents) (outcome : InboundOutcome) (now : Int) :
    (∃ db', finishEvent written record outcome now = .ok (db', outcome) ∧
      inboundWorkers.CallStep db db' (some { key := record.id, token, answer := .ok () })
        none) ∨
    (finishEvent written record outcome now = .error "JIRA_INBOUND_LEASE_LOST" ∧
      inboundWorkers.CallStep db db
        (some { key := record.id, token, answer := .error "JIRA_INBOUND_LEASE_LOST" })
        none) := by
  have hheldIff : LeaseHeld written record ↔ LeaseHeld db record := by
    unfold LeaseHeld
    rw [hevents]
  unfold finishEvent
  by_cases hheld : LeaseHeld db record
  · rw [if_pos (hheldIff.mpr hheld)]
    refine Or.inl ⟨_, rfl, .recorded ((leaseHeld_iff_holds hdb htoken).mp hheld) ?_⟩
    show inboundView.Moves db.inboundEvents _ (KeyedList.updateMany _ _ written.inboundEvents)
    rw [hevents]
    exact View.moves_settle (fun event => isHeldAs_iff_heldAs htoken event) (fun _ => ⟨rfl, rfl⟩)
      (fun _ => rfl) (fun _ => rfl)
  · rw [if_neg (mt hheldIff.mp hheld)]
    exact Or.inr ⟨rfl, .stale (mt (leaseHeld_iff_holds hdb htoken).mpr hheld) rfl⟩

/-- No failure of a claimed event throws for its attempts. -/
theorem exists_nextAttemptAfter (h : ClaimedEvent record) (code : String) (now : Int) :
    ∃ nextAttemptAt, nextAttemptAfter record code now = .ok nextAttemptAt := by
  unfold nextAttemptAfter
  by_cases hdead : isDeadLettered record code
  · rw [if_pos hdead]
    exact ⟨now, rfl⟩
  · rw [if_neg hdead]
    have hleft : ¬record.maxAttempts ≤ record.attempts := fun hle => hdead (Or.inl hle)
    have hle := h.maxAttempts_le
    have hrange : 1 ≤ record.attempts ∧ record.attempts ≤ 20 := ⟨h.attempts_pos, by omega⟩
    unfold jiraBackoffMs
    rw [if_pos hrange]
    exact ⟨_, rfl⟩

/-- `failEvent` is made under the lease and fails without it. -/
theorem failEvent_callStep (hdb : inboundWorkers.WellFormed db) (hrecord : ClaimedEvent record)
    {token : String} (htoken : record.leaseToken = some token) (message : String) (now : Int) :
    (∃ db' deadLettered, failEvent db record message now = .ok (db', deadLettered) ∧
      inboundWorkers.CallStep db db' (some { key := record.id, token, answer := .ok () })
        none) ∨
    (failEvent db record message now = .error "JIRA_INBOUND_LEASE_LOST" ∧
      inboundWorkers.CallStep db db
        (some { key := record.id, token, answer := .error "JIRA_INBOUND_LEASE_LOST" })
        none) := by
  obtain ⟨nextAttemptAt, hnext⟩ := exists_nextAttemptAfter hrecord (inboundFailureCode message) now
  unfold failEvent
  rw [hnext]
  by_cases hheld : LeaseHeld db record
  · have hcheck : (require (LeaseHeld db record) "JIRA_INBOUND_LEASE_LOST" : Except String Unit) =
        .ok () := require_eq_ok.mpr hheld
    refine Or.inl ⟨db.failInbound record (inboundFailureCode message) nextAttemptAt,
      decide (isDeadLettered record (inboundFailureCode message)), ?_,
      .recorded ((leaseHeld_iff_holds hdb htoken).mp hheld) ?_⟩
    · rw [hcheck]
      rfl
    · exact View.moves_settle (fun event => isHeldAs_iff_heldAs htoken event)
        (fun _ => ⟨rfl, rfl⟩) (fun _ => rfl) (fun _ => rfl)
  · have hcheck : (require (LeaseHeld db record) "JIRA_INBOUND_LEASE_LOST" : Except String Unit) =
        .error "JIRA_INBOUND_LEASE_LOST" := if_neg hheld
    refine Or.inr ⟨?_, .stale (mt (leaseHeld_iff_holds hdb htoken).mpr hheld) rfl⟩
    rw [hcheck]
    rfl

/-- The last statements of the transaction of a record. -/
theorem callStep_of_transaction (hdb : inboundWorkers.WellFormed db) {batch : InboundBatch}
    (hrecords : ∀ record ∈ batch.record :: batch.rest, ClaimedEvent record)
    {result : Except String (Database × InboundOutcome)}
    (hresult : EndsWithFinish db batch.record batch.now result) {call' : Option InboundCall}
    (h : batch.finished db result = (db', call')) :
    inboundWorkers.CallStep db db' (batch.answered result) none ∧
      ∀ next, call' = some next → next.WellFormed := by
  have hrecord : ClaimedEvent batch.record := hrecords batch.record List.mem_cons_self
  have hnextRecord : ∀ tally next, batch.next tally = some next → next.WellFormed :=
    fun tally next hnext =>
      wellFormed_nextInbound (fun r hr => hrecords r (List.mem_cons_of_mem _ hr)) hnext
  obtain ⟨token, htoken⟩ := Option.isSome_iff_exists.mp hrecord.token
  have hattempt : ∀ answer, batch.attempt answer = { key := batch.record.id, token, answer } := by
    intro answer
    unfold InboundBatch.attempt
    rw [htoken]
    rfl
  cases hresult with
  | finish written outcome hevents =>
      rcases finishEvent_callStep hdb htoken hevents outcome batch.now with
        ⟨db', heq, hstep⟩ | ⟨heq, hstep⟩
      · rw [heq] at h ⊢
        show inboundWorkers.CallStep _ _ (some (batch.attempt (.ok ()))) none ∧ _
        rw [hattempt]
        cases outcome with
        | completed =>
            obtain ⟨rfl, rfl⟩ := Prod.mk.inj h
            exact ⟨hstep, hnextRecord _⟩
        | ignored =>
            obtain ⟨rfl, rfl⟩ := Prod.mk.inj h
            exact ⟨hstep, hnextRecord _⟩
      · rw [heq] at h ⊢
        unfold InboundBatch.answered
        dsimp only
        rw [if_pos rfl, hattempt]
        obtain ⟨rfl, rfl⟩ := Prod.mk.inj h
        refine ⟨hstep, fun next hnext => ?_⟩
        cases hnext
        exact hrecords
  | error message hother =>
      obtain ⟨rfl, rfl⟩ := Prod.mk.inj h
      unfold InboundBatch.answered
      dsimp only
      rw [if_neg hother]
      refine ⟨.unchanged rfl, fun next hnext => ?_⟩
      cases hnext
      exact hrecords

/-- Every step of a call is a step of a worker. -/
theorem callStep_of_advance {input : InboundInput} {call : InboundCall}
    {call' : Option InboundCall} (hdb : inboundWorkers.WellFormed db) (hcall : call.WellFormed)
    (h : call.advance db input = (db', call')) :
    inboundWorkers.CallStep db db' (call.tried db input) (call.claimed db input) ∧
      ∀ next, call' = some next → next.WellFormed := by
  cases call with
  | claim claimInput now =>
      cases input with
      | proceed uuid locked =>
          unfold InboundCall.advance at h
          unfold InboundCall.tried InboundCall.claimed
          dsimp only at h ⊢
          cases hclaim : claimJiraInboundEvents db claimInput now uuid locked with
          | ok result =>
              obtain ⟨claimedDb, records⟩ := result
              rw [hclaim] at h
              obtain ⟨rfl, rfl⟩ := Prod.mk.inj h
              obtain ⟨correlationId, companyId, hrun⟩ := claimJiraInboundEvents_eq_ok hclaim
              have hmoves := ClaimRules.moves (inboundClaimRules now correlationId companyId uuid
                (now + claimInput.leaseMs)) locked claimInput.batchSize hdb.distinct
              change inboundView.Moves db.inboundEvents (.claim uuid ((ClaimRules.run _ locked
                claimInput.batchSize db.inboundEvents).2.map (·.id))) _ at hmoves
              rw [show inboundWorkers.rows db = db.inboundEvents from rfl, ← hrun] at hmoves
              exact ⟨.claimed hmoves, fun next hnext =>
                wellFormed_nextInbound (claimedEvent_of_claim hdb hclaim) hnext⟩
          | error message =>
              rw [hclaim] at h
              obtain ⟨rfl, rfl⟩ := Prod.mk.inj h
              exact ⟨.unchanged rfl, fun next hnext => by cases hnext⟩
      | failure =>
          obtain ⟨rfl, rfl⟩ := Prod.mk.inj h
          exact ⟨.unchanged rfl, fun next hnext => by cases hnext⟩
      | crash =>
          obtain ⟨rfl, rfl⟩ := Prod.mk.inj h
          exact ⟨.unchanged rfl, fun next hnext => by cases hnext⟩
  | record batch place =>
      have hrecords : ∀ record ∈ batch.record :: batch.rest, ClaimedEvent record := hcall
      have hrecord : ClaimedEvent batch.record := hrecords batch.record List.mem_cons_self
      cases input with
      | proceed uuid locked =>
          change batch.run db uuid place = (db', call') at h
          show inboundWorkers.CallStep db db' (batch.tried db uuid place) none ∧ _
          by_cases hfail : ∃ message, place = .fail message
          · obtain ⟨message, rfl⟩ := hfail
            obtain ⟨token, htoken⟩ := Option.isSome_iff_exists.mp hrecord.token
            unfold InboundBatch.run at h
            unfold InboundBatch.tried InboundBatch.attempt
            dsimp only at h ⊢
            rw [htoken]
            rcases failEvent_callStep hdb hrecord htoken message batch.now with
              ⟨failedDb, deadLettered, heq, hstep⟩ | ⟨heq, hstep⟩
            · rw [heq] at h ⊢
              cases deadLettered with
              | true =>
                  obtain ⟨rfl, rfl⟩ := Prod.mk.inj h
                  exact ⟨hstep, fun next hnext => wellFormed_nextInbound
                    (fun r hr => hrecords r (List.mem_cons_of_mem _ hr)) hnext⟩
              | false =>
                  obtain ⟨rfl, rfl⟩ := Prod.mk.inj h
                  exact ⟨hstep, fun next hnext => wellFormed_nextInbound
                    (fun r hr => hrecords r (List.mem_cons_of_mem _ hr)) hnext⟩
            · rw [heq] at h ⊢
              obtain ⟨rfl, rfl⟩ := Prod.mk.inj h
              exact ⟨hstep, fun next hnext => by cases hnext⟩
          · have hplace : ∀ message, place ≠ .fail message :=
              fun message heq => hfail ⟨message, heq⟩
            have hrun := batch.run_eq db uuid hplace
            have htried : batch.tried db uuid place =
                (batch.transaction db uuid place).bind batch.answered := by
              cases place with
              | fail message => exact absurd rfl (hplace message)
              | _ => rfl
            rw [htried]
            cases htransaction : batch.transaction db uuid place with
            | some result =>
                rw [htransaction] at hrun
                dsimp only at hrun
                rw [hrun] at h
                exact callStep_of_transaction hdb hrecords
                  (endsWithFinish_transaction htransaction) h
            | none =>
                rw [htransaction] at hrun
                dsimp only at hrun
                rw [h] at hrun
                obtain ⟨rfl, hnext⟩ := hrun
                refine ⟨.unchanged rfl, fun next hcall' => ?_⟩
                obtain ⟨place', rfl⟩ := hnext next hcall'
                exact hrecords
      | failure =>
          obtain ⟨rfl, rfl⟩ := Prod.mk.inj h
          refine ⟨.unchanged rfl, fun next hnext => ?_⟩
          unfold InboundBatch.broken at hnext
          split at hnext
          · cases hnext
          · cases hnext
            exact hrecords
      | crash =>
          obtain ⟨rfl, rfl⟩ := Prod.mk.inj h
          exact ⟨.unchanged rfl, fun next hnext => by cases hnext⟩

/-- `ingestJiraWebhook` leaves the columns of the lease at their defaults, and the table
takes a maximum of attempts from 1 to 20 only. -/
def InboundEnv.Admissible : InboundEnv → Prop
  | .ingest event =>
    event.attempts = 0 ∧ event.leaseToken = none ∧ 1 ≤ event.maxAttempts ∧ event.maxAttempts ≤ 20
  | _ => True

/-- What happens besides is an operation on the queue, too. -/
theorem env_moves (db : Database) {e : InboundEnv} (hok : e.Admissible) :
    inboundView.Moves db.inboundEvents e.act (e.apply db).inboundEvents := by
  have hrefl : inboundView.Moves db.inboundEvents .other db.inboundEvents :=
    View.Moves.refl fun _ _ => trivial
  cases e with
  | updateRequestStatus publicId status => exact hrefl
  | setMapping mapping => exact hrefl
  | ingest event =>
      obtain ⟨hattempts, htoken, hone, hlimit⟩ := hok
      show inboundView.Moves _ .other _
      unfold InboundEnv.apply
      dsimp only
      split
      · next h =>
          have hnone : db.inboundEvent? event.id = none := Option.isNone_iff_eq_none.mp h.1
          refine .insert event (KeyedList.find_eq_none.mp hnone) htoken ⟨?_, hone, hlimit⟩
          show event.attempts ≤ event.maxAttempts
          omega
      · exact hrefl
  | retryJiraInboundEvent id now =>
      show inboundView.Moves _ (.retry id) _
      unfold InboundEnv.apply
      dsimp only
      split
      · refine View.moves_retry (fun event hevent => ?_) (fun event hevent => ?_)
          (fun _ => ⟨rfl, rfl⟩) (fun _ => rfl) (fun _ => rfl)
        · rw [Bool.and_eq_true, decide_eq_true_eq] at hevent
          exact hevent.1
        · rw [Bool.and_eq_true, Bool.or_eq_true, decide_eq_true_eq, decide_eq_true_eq] at hevent
          show event.phase = .waiting ∨ event.phase = .dead
          unfold JiraInboundEventRecord.phase
          rcases hevent.2 with hstatus | hstatus
          · rw [hstatus]
            exact Or.inl rfl
          · rw [of_decide_eq_true hstatus]
            exact Or.inr rfl
      · exact View.Moves.refl fun _ _ => trivial
  | moveJiraInboundEventToDeadLetter id =>
      show inboundView.Moves _ (.giveUp id) _
      unfold InboundEnv.apply
      dsimp only
      split
      · refine View.moves_giveUp (fun event hevent => ?_) (fun event hevent => ?_)
          (fun _ => ⟨rfl, rfl⟩) (fun _ => rfl) (fun _ => rfl)
        · rw [Bool.and_eq_true, decide_eq_true_eq] at hevent
          exact hevent.1
        · rw [Bool.and_eq_true, decide_eq_true_eq, decide_eq_true_eq] at hevent
          show event.phase = .waiting
          unfold JiraInboundEventRecord.phase
          rw [hevent.2]
      · exact View.Moves.refl fun _ _ => trivial

/-- No call is in progress, and no event is claimed. -/
def inboundStart (w : World Database InboundCall) : Prop :=
  w.Quiescent ∧ inboundWorkers.Unclaimed w.shared

/-- The workers over the inbound events obey the lease protocol. -/
theorem inbound_obeys :
    inboundWorkers.queue.Obeys inboundStart (fun _ ev => ∀ e, ev = .env e → e.Admissible)
      inbound.step :=
  Workers.obeys (fun _ e => e.Admissible) (fun _ => True) InboundCall.WellFormed (fun _ hw => ⟨hw.1, hw.2, trivial⟩)
    (fun call hcall => by
      cases call with
      | claim input now => exact trivial
      | record batch place => cases hcall)
    (fun db e _ _ hok => ⟨env_moves db hok, trivial⟩)
    (fun _ _ _ _ _ hdb _ hcall hadv =>
      have hstep := callStep_of_advance hdb hcall (Option.some.inj hadv)
      ⟨hstep.1, trivial, hstep.2⟩)

end AvantimePlatform.Jira
