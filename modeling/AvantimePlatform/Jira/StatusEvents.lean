import AvantimePlatform.Jira.Inbound

/-!
# Status events

What the transactions of inbound events do to the requests.  A status event writes
its status under a guard on `jiraUpdatedAt` alone, so the date of a request never
goes back, while the decision that the status may be applied is taken on the row as
the transaction has read it: when the request becomes terminal in between, the
event reopens it.  `reopens_iff` says when exactly, step by step and along every
run.
-/

namespace AvantimePlatform.Jira

open AvantimePlatform AvantimePlatform.Checked AvantimePlatform.Interleaving
  AvantimePlatform.Transition

/-! ## What a transaction commits -/

section Committed

variable {db db' : Database} {record : JiraInboundEventRecord} {outcome outcome' : InboundOutcome}
  {now : Int}

theorem finishEvent_eq_ok :
    finishEvent db record outcome now = .ok (db', outcome') ↔
      LeaseHeld db record ∧ db' = db.finish record outcome now ∧ outcome' = outcome := by
  unfold finishEvent
  by_cases h : LeaseHeld db record
  · rw [if_pos h, Except.ok.injEq, Prod.mk.injEq]
    exact ⟨fun ⟨hdb, ho⟩ => ⟨h, hdb.symm, ho.symm⟩, fun ⟨_, hdb, ho⟩ => ⟨hdb.symm, ho.symm⟩⟩
  · rw [if_neg h]
    exact iff_of_false (by simp) (fun ⟨hheld, _⟩ => h hheld)

/-- The status that an event gives the request, as the decision is taken on the row
it has read: `none` leaves the status. -/
inductive Decided (request : SupportRequest) (mapping : Option JiraOrganizationMapping)
    (statusName : String) (incomingAt : Int) : Option PortalRequestStatus → Prop where
  | unchanged (mapped : PortalRequestStatus)
      (hmapped : resolveJiraStatus statusName (mapping.bind (·.statusMapping)) = .portal mapped)
      (hdecision : statusTransitionDecision request.status request.jiraUpdatedAt mapped
        incomingAt = .unchanged) : Decided request mapping statusName incomingAt none
  | apply (mapped : PortalRequestStatus)
      (hmapped : resolveJiraStatus statusName (mapping.bind (·.statusMapping)) = .portal mapped)
      (hdecision : statusTransitionDecision request.status request.jiraUpdatedAt mapped
        incomingAt = .apply) : Decided request mapping statusName incomingAt (some mapped)

/-- What `processStatus` commits: the event is ignored, or the row is still older than
the event and gets its status. -/
inductive StatusCommit (db : Database) (record : JiraInboundEventRecord)
    (statusId statusName : String) (jiraUpdatedAt : Option Int) (request : Option SupportRequest)
    (mapping : Option JiraOrganizationMapping) (now : Int) : Database → InboundOutcome → Prop where
  | ignored (hlease : LeaseHeld db record) :
      StatusCommit db record statusId statusName jiraUpdatedAt request mapping now
        (db.finish record .ignored now) .ignored
  | updated (hlease : LeaseHeld db record) (row : SupportRequest) (incomingAt : Int)
      (status : Option PortalRequestStatus) (hrow : request = some row)
      (hdate : jiraUpdatedAt = some incomingAt) (htarget : row.isTargetOf record = true)
      (hdecided : Decided row mapping statusName incomingAt status)
      (hfence : FencePasses db record row incomingAt) :
      StatusCommit db record statusId statusName jiraUpdatedAt request mapping now
        ((db.updateRequests (·.isFencedBy row record incomingAt)
          (·.applyStatus status statusId statusName incomingAt now)).finish record .completed now)
        .completed

theorem statusCommit_ignored {statusId statusName : String} {jiraUpdatedAt : Option Int}
    {request : Option SupportRequest} {mapping : Option JiraOrganizationMapping}
    (h : finishEvent db record .ignored now = .ok (db', outcome)) :
    StatusCommit db record statusId statusName jiraUpdatedAt request mapping now db' outcome := by
  obtain ⟨hlease, rfl, rfl⟩ := finishEvent_eq_ok.mp h
  exact .ignored hlease

theorem statusCommit_updated {statusId statusName : String} {incomingAt : Int}
    {row : SupportRequest} {mapping : Option JiraOrganizationMapping}
    {status : Option PortalRequestStatus} (htarget : row.isTargetOf record = true)
    (hdecided : Decided row mapping statusName incomingAt status)
    (h : updateStatus db record row status statusId statusName incomingAt now = .ok (db', outcome)) :
    StatusCommit db record statusId statusName (some incomingAt) (some row) mapping now db'
      outcome := by
  unfold updateStatus at h
  split at h
  · next hfence =>
    obtain ⟨hlease, rfl, rfl⟩ := finishEvent_eq_ok.mp h
    have hlease' : LeaseHeld db record := hlease
    exact .updated hlease' row incomingAt status rfl rfl htarget hdecided hfence
  · exact statusCommit_ignored h

theorem statusCommit_of_processStatus {statusId statusName : String} {jiraUpdatedAt : Option Int}
    {request : Option SupportRequest} {mapping : Option JiraOrganizationMapping}
    (h : processStatus db record statusId statusName jiraUpdatedAt request mapping now =
      .ok (db', outcome)) :
    StatusCommit db record statusId statusName jiraUpdatedAt request mapping now db' outcome := by
  unfold processStatus at h
  split at h
  · cases h
  split at h
  · cases h
  next htarget =>
  have htarget' := Bool.not_eq_false _ ▸ htarget
  split at h
  · exact statusCommit_ignored h
  · split at h
    · cases h
    split at h
    · exact statusCommit_ignored h
    · cases h
  · next mapped hmapped =>
    split at h
    · cases h
    split at h
    · exact statusCommit_ignored h
    · exact statusCommit_ignored h
    · next hdecision => exact statusCommit_updated htarget' (.unchanged mapped hmapped hdecision) h
    · next hdecision => exact statusCommit_updated htarget' (.apply mapped hmapped hdecision) h

theorem processDeleted_eq_ok {request : Option SupportRequest}
    (h : processDeleted db record request now = .ok (db', outcome)) :
    LeaseHeld db record ∧ ∃ row, request = some row ∧
      db' = (db.updateRequests (·.id = row.id) (·.issueDeleted now)).finish record .completed now := by
  unfold processDeleted at h
  split at h
  · cases h
  split at h
  · cases h
  split at h
  · cases h
  · obtain ⟨hlease, rfl, -⟩ := finishEvent_eq_ok.mp h
    have hlease' : LeaseHeld db record := hlease
    exact ⟨hlease', _, rfl, rfl⟩

theorem requests_of_processComment {commentId body authorName : String} {updatedAt : Int}
    {request : SupportRequest} {existing : Option RequestMessage} {id : String}
    (h : processComment db record commentId body authorName updatedAt request existing id now =
      .ok (db', outcome)) : db'.requests = db.requests := by
  unfold processComment at h
  split at h
  · split at h
    · cases h
    split at h
    · rw [(finishEvent_eq_ok.mp h).2.1]; rfl
    split at h
    · rw [(finishEvent_eq_ok.mp h).2.1]; rfl
    split at h
    · cases h
    · rw [(finishEvent_eq_ok.mp h).2.1]; rfl
  · unfold createMessage at h
    split at h
    · rw [(finishEvent_eq_ok.mp h).2.1]; rfl
    · cases h

theorem requests_of_failEvent {message : String} {dead : Bool}
    (h : failEvent db record message now = .ok (db', dead)) : db'.requests = db.requests := by
  unfold failEvent at h
  obtain ⟨_, -, h⟩ := bind_eq_ok.mp h
  obtain ⟨_, -, h⟩ := bind_eq_ok.mp h
  obtain ⟨rfl, -⟩ := Prod.mk.inj (Except.ok.inj h)
  rfl

theorem requests_of_claim {input : ClaimInput} {leaseToken : String} {locked : List String}
    {records : List JiraInboundEventRecord}
    (h : claimJiraInboundEvents db input now leaseToken locked = .ok (db', records)) :
    db'.requests = db.requests := by
  unfold claimJiraInboundEvents at h
  obtain ⟨_, -, h⟩ := bind_eq_ok.mp h
  obtain ⟨_, -, h⟩ := bind_eq_ok.mp h
  obtain ⟨_, -, h⟩ := bind_eq_ok.mp h
  obtain ⟨_, -, h⟩ := bind_eq_ok.mp h
  obtain ⟨rfl, -⟩ := Prod.mk.inj (Except.ok.inj h)
  rfl

end Committed

/-! ## What a step does to the requests -/

/-- One step of a call leaves the requests, commits the update of a status event, or
commits that of a deletion. -/
inductive RequestsStep (db : Database) : InboundInput → InboundCall → Database → Prop where
  | unchanged (input : InboundInput) (call : InboundCall) (db' : Database)
      (h : db'.requests = db.requests) : RequestsStep db input call db'
  | status (uuid : String) (locked : List String) (batch : InboundBatch) (row : SupportRequest)
      (mapping : Option JiraOrganizationMapping) (statusId statusName : String) (incomingAt : Int)
      (status : Option PortalRequestStatus) (db' : Database)
      (hpayload : batch.record.normalizedPayload =
        some (.status statusId statusName (some incomingAt)))
      (hlease : LeaseHeld db batch.record) (htarget : row.isTargetOf batch.record = true)
      (hdecided : Decided row mapping statusName incomingAt status)
      (hfence : FencePasses db batch.record row incomingAt)
      (h : db' = (db.updateRequests (·.isFencedBy row batch.record incomingAt)
        (·.applyStatus status statusId statusName incomingAt batch.now)).finish batch.record
          .completed batch.now) :
      RequestsStep db (.proceed uuid locked) (.record batch (.writeStatus (some row) mapping)) db'
  | deleted (input : InboundInput) (batch : InboundBatch) (row : SupportRequest) (db' : Database)
      (h : db'.requests = KeyedList.updateMany (·.id = row.id) (·.issueDeleted batch.now)
        db.requests) :
      RequestsStep db input (.record batch (.writeDeleted (some row))) db'

theorem requests_finished {db : Database} {batch : InboundBatch} {input : InboundInput}
    {call : InboundCall} {result : Except String (Database × InboundOutcome)}
    (h : ∀ db' outcome, result = .ok (db', outcome) → RequestsStep db input call db') :
    RequestsStep db input call (batch.finished db result).1 := by
  cases result with
  | error message => exact .unchanged _ _ _ rfl
  | ok committed =>
      obtain ⟨db', outcome⟩ := committed
      cases outcome with
      | completed => exact h db' _ rfl
      | ignored => exact h db' _ rfl

theorem requestsStep_of_run {db : Database} {batch : InboundBatch} {uuid : String}
    {locked : List String} (place : InboundPlace) :
    RequestsStep db (.proceed uuid locked) (.record batch place) (batch.run db uuid place).1 := by
  cases place with
  | readRequest =>
      refine .unchanged _ _ _ ?_
      unfold InboundBatch.run
      dsimp only
      split <;> rfl
  | readMapping request => exact .unchanged _ _ _ rfl
  | writeStatus request mapping =>
      unfold InboundBatch.run
      dsimp only
      split
      · next statusId statusName jiraUpdatedAt hpayload =>
        refine requests_finished fun db' outcome hcommit => ?_
        cases statusCommit_of_processStatus hcommit with
        | ignored hlease => exact .unchanged _ _ _ rfl
        | updated hlease row incomingAt status hrow hdate htarget hdecided hfence =>
            subst hrow hdate
            exact .status uuid locked batch row mapping statusId statusName incomingAt status _
              hpayload hlease htarget hdecided hfence rfl
      · exact .unchanged _ _ _ rfl
  | readMessage request =>
      unfold InboundBatch.run
      dsimp only
      split
      · split
        · exact .unchanged _ _ _ rfl
        split
        · refine requests_finished fun db' outcome hcommit => .unchanged _ _ _ ?_
          rw [(finishEvent_eq_ok.mp hcommit).2.1]
          rfl
        split <;> exact .unchanged _ _ _ rfl
      · exact .unchanged _ _ _ rfl
      · exact .unchanged _ _ _ rfl
  | writeComment request existing =>
      unfold InboundBatch.run
      dsimp only
      split
      · exact requests_finished fun db' outcome hcommit =>
          .unchanged _ _ _ (requests_of_processComment hcommit)
      · exact .unchanged _ _ _ rfl
  | writeDeleted request =>
      unfold InboundBatch.run
      dsimp only
      split
      · refine requests_finished fun db' outcome hcommit => ?_
        obtain ⟨-, row, rfl, rfl⟩ := processDeleted_eq_ok hcommit
        exact .deleted _ batch row _ rfl
      · exact .unchanged _ _ _ rfl
  | fail message =>
      refine .unchanged _ _ _ ?_
      show (batch.failed db (failEvent db batch.record message batch.now)).1.requests = db.requests
      cases hfail : failEvent db batch.record message batch.now with
      | error error => rfl
      | ok committed =>
          obtain ⟨db', dead⟩ := committed
          have hrequests := requests_of_failEvent hfail
          cases dead with
          | true => exact hrequests
          | false => exact hrequests

/-- The inversion of one step of a call. -/
theorem requestsStep (db : Database) (input : InboundInput) (call : InboundCall) :
    RequestsStep db input call (call.advance db input).1 := by
  cases call with
  | claim claimInput now =>
      refine .unchanged _ _ _ ?_
      cases input with
      | proceed uuid locked =>
          unfold InboundCall.advance
          dsimp only
          split
          · next hclaim => exact requests_of_claim hclaim
          · rfl
      | failure => rfl
      | crash => rfl
  | record batch place =>
      cases input with
      | proceed uuid locked => exact requestsStep_of_run place
      | failure => exact .unchanged _ _ _ rfl
      | crash => exact .unchanged _ _ _ rfl

/-! ## The rows of the requests -/

/-- `id` is the primary key. -/
def RequestsKeyed (w : World Database InboundCall) : Prop :=
  KeyedList.Distinct SupportRequest.id w.shared.requests

/-- A call leaves the requests it finds, changed in place. -/
theorem requestsKeyed_advance {db : Database} (hkey : KeyedList.Distinct SupportRequest.id db.requests)
    (input : InboundInput) (call : InboundCall) :
    KeyedList.Distinct SupportRequest.id (call.advance db input).1.requests := by
  have hkeep : ∀ db', RequestsStep db input call db' →
      KeyedList.Distinct SupportRequest.id db'.requests := by
    intro db' hstep
    cases hstep with
    | unchanged _ _ _ h => rw [h]; exact hkey
    | status uuid locked batch row mapping statusId statusName incomingAt status _ _ _ _ _ _ h =>
        rw [h]
        exact KeyedList.distinct_updateMany (by intro row; rfl) hkey
    | deleted _ batch row _ h =>
        rw [h]
        exact KeyedList.distinct_updateMany (by intro row; rfl) hkey
  exact hkeep _ (requestsStep db input call)

theorem requests_of_env (db : Database) (e : InboundEnv) :
    (e.apply db).requests = db.requests ∨ ∃ publicId status,
      e = .updateRequestStatus publicId status ∧ (e.apply db).requests = KeyedList.updateMany
        (·.publicId = publicId) (fun row => { row with status := status, version := row.version + 1 })
        db.requests := by
  cases e with
  | updateRequestStatus publicId status => exact Or.inr ⟨publicId, status, rfl, rfl⟩
  | setMapping mapping => exact Or.inl rfl
  | ingest event =>
      refine Or.inl ?_
      unfold InboundEnv.apply
      dsimp only
      split <;> rfl
  | retryJiraInboundEvent id now =>
      refine Or.inl ?_
      unfold InboundEnv.apply
      dsimp only
      split <;> rfl
  | moveJiraInboundEventToDeadLetter id =>
      refine Or.inl ?_
      unfold InboundEnv.apply
      dsimp only
      split <;> rfl

theorem requestsKeyed_step {w w' : World Database InboundCall}
    {ev : Event InboundEnv InboundCall InboundInput} (hkey : RequestsKeyed w)
    (h : inbound.step w ev w') : RequestsKeyed w' := by
  rcases Program.step_cases h with ⟨e, -, rfl⟩ | ⟨l, -, -, rfl⟩ |
    ⟨i, input, call, sh, next, -, -, hadvance, rfl⟩
  · show KeyedList.Distinct SupportRequest.id (e.apply w.shared).requests
    rcases requests_of_env w.shared e with hsame | ⟨publicId, status, -, hupdate⟩
    · rw [hsame]
      exact hkey
    · rw [hupdate]
      exact KeyedList.distinct_updateMany (by intro row; rfl) hkey
  · exact hkey
  · have hsh : (call.advance w.shared input).1 = sh := by
      rw [Option.some.inj hadvance]
    show KeyedList.Distinct SupportRequest.id sh.requests
    rw [← hsh]
    exact requestsKeyed_advance hkey input call

/-- The row that a guarded update finds is the one row with the id of the request. -/
theorem fenced_row {db : Database} (hkey : KeyedList.Distinct SupportRequest.id db.requests)
    {record : JiraInboundEventRecord} {request : SupportRequest} {incomingAt : Int}
    (hfence : FencePasses db record request incomingAt) :
    ∃ row, db.request? request.id = some row ∧ row.isFencedBy request record incomingAt = true := by
  have hpos : 0 < db.requests.countP (·.isFencedBy request record incomingAt) := by
    rw [show _ = 1 from hfence]
    omega
  obtain ⟨row, hmem, hfenced⟩ := List.countP_pos_iff.mp hpos
  have hid : row.id = request.id := by
    simp only [SupportRequest.isFencedBy, Bool.and_eq_true, decide_eq_true_eq] at hfenced
    exact hfenced.1.1
  refine ⟨row, ?_, hfenced⟩
  rw [← hid]
  exact KeyedList.find_of_mem hkey hmem

theorem fresh_of_isFencedBy {row request : SupportRequest} {record : JiraInboundEventRecord}
    {incomingAt : Int} (h : row.isFencedBy request record incomingAt = true) :
    ∀ t ∈ row.jiraUpdatedAt, t < incomingAt := by
  intro t ht
  simp only [SupportRequest.isFencedBy, Bool.and_eq_true] at h
  have hall := h.2
  rw [Option.mem_def.mp ht] at hall
  simpa using hall

/-! ## The date of the last update never goes back -/

/-- No request loses its `jiraUpdatedAt` or gets an earlier one. -/
def JiraUpdatedAtGrows (w : World Database InboundCall) (_ : Event InboundEnv InboundCall InboundInput)
    (w' : World Database InboundCall) : Prop :=
  ∀ id row, w.shared.request? id = some row → ∀ t ∈ row.jiraUpdatedAt,
    ∃ row', w'.shared.request? id = some row' ∧ ∃ t' ∈ row'.jiraUpdatedAt, t ≤ t'

/-- An update in place that moves no date back. -/
theorem jiraUpdatedAtGrows_of_update {w w' : World Database InboundCall}
    {ev : Event InboundEnv InboundCall InboundInput} {p : SupportRequest → Bool}
    {f : SupportRequest → SupportRequest} (hid : ∀ row, (f row).id = row.id)
    (hdate : ∀ row, p row = true → ∀ t ∈ row.jiraUpdatedAt, ∃ t' ∈ (f row).jiraUpdatedAt, t ≤ t')
    (h : w'.shared.requests = KeyedList.updateMany p f w.shared.requests) :
    JiraUpdatedAtGrows w ev w' := by
  intro id row hrow t ht
  have hfind : w'.shared.request? id =
      (w.shared.request? id).map fun row => if p row then f row else row := by
    unfold Database.request?
    rw [h]
    exact KeyedList.find_updateMany hid _
  rw [hrow] at hfind
  by_cases hp : p row = true
  · refine ⟨f row, ?_, hdate row hp t ht⟩
    rw [hfind]
    exact congrArg some (if_pos hp)
  · refine ⟨row, ?_, t, ht, le_refl t⟩
    rw [hfind]
    exact congrArg some (if_neg hp)

theorem jiraUpdatedAtGrows_of_eq {w w' : World Database InboundCall}
    {ev : Event InboundEnv InboundCall InboundInput}
    (h : w'.shared.requests = w.shared.requests) : JiraUpdatedAtGrows w ev w' := by
  intro id row hrow t ht
  refine ⟨row, ?_, t, ht, le_refl t⟩
  unfold Database.request?
  rw [h]
  exact hrow

theorem jiraUpdatedAtGrows_step {w w' : World Database InboundCall}
    {ev : Event InboundEnv InboundCall InboundInput} (h : inbound.step w ev w') :
    JiraUpdatedAtGrows w ev w' := by
  rcases Program.step_cases h with ⟨e, rfl, rfl⟩ | ⟨l, rfl, -, rfl⟩ |
    ⟨i, input, call, sh, next, rfl, -, hadvance, rfl⟩
  · rcases requests_of_env w.shared e with hsame | ⟨publicId, status, -, hupdate⟩
    · exact jiraUpdatedAtGrows_of_eq hsame
    · exact jiraUpdatedAtGrows_of_update (by intro row; rfl)
        (by intro row _ t ht; exact ⟨t, ht, le_refl t⟩) hupdate
  · exact jiraUpdatedAtGrows_of_eq rfl
  · have hstep := requestsStep w.shared input call
    have hsh : (call.advance w.shared input).1 = sh := by
      rw [Option.some.inj hadvance]
    rw [hsh] at hstep
    cases hstep with
    | unchanged _ _ _ h => exact jiraUpdatedAtGrows_of_eq h
    | status uuid locked batch row mapping statusId statusName incomingAt status _ hpayload hlease
        htarget hdecided hfence h =>
        -- The fence admits only rows that are older than the event.
        refine jiraUpdatedAtGrows_of_update (by intro row; rfl) ?_ (congrArg Database.requests h)
        intro row hfenced t ht
        have hlt : t < incomingAt := fresh_of_isFencedBy hfenced t ht
        exact ⟨incomingAt, rfl, by omega⟩
    | deleted _ batch row _ h =>
        exact jiraUpdatedAtGrows_of_update (by intro row; rfl)
          (by intro row _ t ht; exact ⟨t, ht, le_refl t⟩) h

/-! ## Requests that a status event reopens -/

/-- No step of an inbound worker takes a request out of `RESOLVED` or `CLOSED`. -/
def NotReopenedByJira (w : World Database InboundCall) :
    Event InboundEnv InboundCall InboundInput → World Database InboundCall → Prop
  | .advance _ _, w' => ∀ id row row', w.shared.request? id = some row →
      w'.shared.request? id = some row' → row.status.IsTerminal → row'.status.IsTerminal
  | _, _ => True

/-- The next statement of the call writes the status that it has decided to apply, and
the write will be committed: the row is still older than the event, and the lease is
still the worker's. -/
def AppliesStatus (db : Database) (call : InboundCall) (request : SupportRequest)
    (mapped : PortalRequestStatus) (incomingAt : Int) : Prop :=
  ∃ batch mapping statusId statusName,
    call = .record batch (.writeStatus (some request) mapping) ∧
    batch.record.normalizedPayload = some (.status statusId statusName (some incomingAt)) ∧
    request.isTargetOf batch.record = true ∧
    resolveJiraStatus statusName (mapping.bind (·.statusMapping)) = .portal mapped ∧
    statusTransitionDecision request.status request.jiraUpdatedAt mapped incomingAt = .apply ∧
    FencePasses db batch.record request incomingAt ∧ LeaseHeld db batch.record

/-- Taken again on the row as it is when the status is written, the decision is still
no terminal conflict. -/
def DecisionStillHolds (w : World Database InboundCall) :
    Event InboundEnv InboundCall InboundInput → Prop
  | .advance i (.proceed _ _) => ∀ call ∈ w.locals[i]?, ∀ request mapped incomingAt,
      AppliesStatus w.shared call request mapped incomingAt →
      ∀ row, w.shared.request? request.id = some row →
        statusTransitionDecision row.status row.jiraUpdatedAt mapped incomingAt ≠ .terminalConflict
  | _ => True

section Step

variable {db : Database} {call : InboundCall} {request row : SupportRequest}
  {mapped : PortalRequestStatus} {incomingAt : Int}

/-- A write of a status that is committed gives the row that status. -/
theorem request?_of_appliesStatus (hkey : KeyedList.Distinct SupportRequest.id db.requests)
    (happlies : AppliesStatus db call request mapped incomingAt) (uuid : String)
    (locked : List String) :
    ∃ row row', db.request? request.id = some row ∧
      (call.advance db (.proceed uuid locked)).1.request? request.id = some row' ∧
      (∀ t ∈ row.jiraUpdatedAt, t < incomingAt) ∧ row'.status = mapped := by
  obtain ⟨batch, mapping, statusId, statusName, rfl, hpayload, htarget, hmapped, hdecision, hfence,
    hlease⟩ := happlies
  obtain ⟨row, hrow, hfenced⟩ := fenced_row hkey hfence
  have hcommit : processStatus db batch.record statusId statusName (some incomingAt) (some request)
      mapping batch.now = .ok ((db.updateRequests (·.isFencedBy request batch.record incomingAt)
        (·.applyStatus (some mapped) statusId statusName incomingAt batch.now)).finish batch.record
          .completed batch.now, .completed) := by
    unfold processStatus
    simp only [htarget, hmapped, hdecision, Bool.true_eq_false, if_false]
    unfold updateStatus
    rw [if_pos hfence]
    exact finishEvent_eq_ok.mpr ⟨hlease, rfl, rfl⟩
  have hadvance : (InboundCall.advance db (.proceed uuid locked)
      (.record batch (.writeStatus (some request) mapping))).1 =
      (db.updateRequests (·.isFencedBy request batch.record incomingAt)
        (·.applyStatus (some mapped) statusId statusName incomingAt batch.now)).finish batch.record
          .completed batch.now := by
    show (batch.run db uuid (.writeStatus (some request) mapping)).1 = _
    unfold InboundBatch.run
    simp only [hpayload, hcommit, InboundBatch.finished]
  refine ⟨row, row.applyStatus (some mapped) statusId statusName incomingAt batch.now, hrow, ?_,
    fresh_of_isFencedBy hfenced, rfl⟩
  rw [hadvance]
  have hfind := Database.request?_updateRequests db
    (p := (·.isFencedBy request batch.record incomingAt))
    (f := (·.applyStatus (some mapped) statusId statusName incomingAt batch.now))
    (by intro row; rfl) request.id
  rw [hrow] at hfind
  show (db.updateRequests _ _).request? request.id = _
  rw [hfind]
  exact congrArg some (if_pos hfenced)

end Step

/-- A step of a worker reopens no request exactly when the decision behind it still
holds. -/
theorem notReopened_iff {w w' : World Database InboundCall}
    {ev : Event InboundEnv InboundCall InboundInput} (hkey : RequestsKeyed w)
    (h : inbound.step w ev w') : NotReopenedByJira w ev w' ↔ DecisionStillHolds w ev := by
  rcases Program.step_cases h with ⟨e, rfl, rfl⟩ | ⟨l, rfl, -, rfl⟩ |
    ⟨i, input, call, sh, next, rfl, hcall, hadvance, rfl⟩
  · exact Iff.rfl
  · exact Iff.rfl
  have hsh : (call.advance w.shared input).1 = sh := by
    rw [Option.some.inj hadvance]
  constructor
  · intro hnot
    cases input with
    | failure => trivial
    | crash => trivial
    | proceed uuid locked =>
        intro call' hcall' request mapped incomingAt happlies row hrow
        obtain rfl : call = call' := Option.some.inj (hcall.symm.trans hcall')
        obtain ⟨row₁, row', hrow₁, hrow', hfresh, hstatus⟩ :=
          request?_of_appliesStatus hkey happlies uuid locked
        obtain rfl : row = row₁ := Option.some.inj (hrow.symm.trans hrow₁)
        rw [hsh] at hrow'
        have hkeep := hnot request.id row row' hrow hrow'
        rw [Ne, statusTransitionDecision_eq_terminalConflict hfresh, ← hstatus]
        intro ⟨hterminal, hopen⟩
        exact hopen (hkeep hterminal)
  · intro hholds id row row' hrow hrow' hterminal
    have hstep := requestsStep w.shared input call
    rw [hsh] at hstep
    have hrow'' : sh.request? id = some row' := hrow'
    unfold Database.request? at hrow hrow''
    cases hstep with
    | unchanged _ _ _ hsame =>
        rw [hsame, hrow] at hrow''
        exact Option.some.inj hrow'' ▸ hterminal
    | deleted _ batch request _ hupdate =>
        rw [hupdate, KeyedList.find_updateMany (by intro row; rfl), hrow] at hrow''
        obtain rfl := Option.some.inj hrow''
        dsimp only
        split <;> exact hterminal
    | status uuid locked batch request mapping statusId statusName incomingAt status _ hpayload
        hlease htarget hdecided hfence hupdate =>
        have hrequests := congrArg Database.requests hupdate
        have hfind : KeyedList.find SupportRequest.id id sh.requests =
            (KeyedList.find SupportRequest.id id w.shared.requests).map fun row =>
              if row.isFencedBy request batch.record incomingAt then
                row.applyStatus status statusId statusName incomingAt batch.now else row := by
          rw [hrequests]
          exact KeyedList.find_updateMany (by intro row; rfl) _
        rw [hfind, hrow] at hrow''
        obtain rfl := Option.some.inj hrow''
        dsimp only
        split
        · next hfenced =>
          cases hdecided with
          | unchanged mapped hmapped hdecision => exact hterminal
          | apply mapped hmapped hdecision =>
              -- The fenced row is the one that the decision is taken on again.
              have hid : row.id = request.id := by
                simp only [SupportRequest.isFencedBy, Bool.and_eq_true, decide_eq_true_eq] at hfenced
                exact hfenced.1.1
              have hkeyed : w.shared.request? request.id = some row := by
                rw [← hid, (KeyedList.find_eq_some hrow).2]
                exact hrow
              have hnoconflict := hholds _ hcall request mapped incomingAt
                ⟨batch, mapping, statusId, statusName, rfl, hpayload, htarget, hmapped, hdecision,
                  hfence, hlease⟩ row hkeyed
              rw [Ne, statusTransitionDecision_eq_terminalConflict (fresh_of_isFencedBy hfenced)]
                at hnoconflict
              by_contra hopen
              exact hnoconflict ⟨hterminal, hopen⟩
        · exact hterminal

/-- Along every run the dates of the requests grow, and Jira reopens no request exactly
when the decision behind each status that is written still holds. -/
theorem status_events_reopen_nothing_iff {w : World Database InboundCall} (hkey : RequestsKeyed w)
    {run : List (Event InboundEnv InboundCall InboundInput × World Database InboundCall)}
    (hrun : Run inbound.step w run) :
    AllSteps JiraUpdatedAtGrows w run ∧
      (AllSteps NotReopenedByJira w run ↔ StepsMeet DecisionStillHolds w run) :=
  ⟨allSteps_of_step (fun _ _ _ hkey hstep => requestsKeyed_step hkey hstep)
      (fun _ _ _ _ hstep => jiraUpdatedAtGrows_step hstep) hrun hkey,
    allSteps_iff_stepsMeet (fun _ _ _ hkey hstep => requestsKeyed_step hkey hstep)
      (by intro s ev s' hkey hstep; exact notReopened_iff hkey hstep) hrun hkey⟩

/-! ## A request that is reopened -/

/-- A request that is known to Jira. -/
def openRequest : SupportRequest where
  id := "request"
  publicId := "AV-1"
  companyId := "company"
  requesterId := "user"
  status := .opened
  jiraIntegrationStatus := .created
  jiraIssueId := some "10001"
  jiraKey := some "SUP-1"

/-- An event for it. -/
def eventOf (id : String) (payload : NormalizedJiraInboundPayload) (receivedAt : Int) :
    JiraInboundEventRecord where
  id := id
  eventFingerprint := id
  jiraIssueId := "10001"
  jiraIssueKey := "SUP-1"
  requestId := "request"
  companyId := "company"
  normalizedPayload := some payload
  occurredAt := receivedAt
  createdAt := receivedAt
  nextAttemptAt := receivedAt
  correlationId := "correlation"

/-- An event that puts the request in progress is waiting. -/
def oneStatusEvent : World Database InboundCall where
  shared :=
    { requests := [openRequest],
      inboundEvents := [eventOf "event" (.status "3" "In Progress" (some 1000)) 1000] }
  locals := []

/-- A worker reads the request as `OPEN`; it is then resolved in the portal. -/
def resolvedMeanwhile : List (Event InboundEnv InboundCall InboundInput) :=
  [.spawn (.claim { batchSize := 10, leaseMs := 60000 } 2000), .advance 0 (.proceed "token" []),
   .advance 0 (.proceed "" []), .advance 0 (.proceed "" []),
   .env (.updateRequestStatus "AV-1" .resolved)]

theorem status_events_reopen_nothing_iff_oneStatusEvent :
    AllSteps JiraUpdatedAtGrows oneStatusEvent
        (trace inbound.next oneStatusEvent resolvedMeanwhile) ∧
      (AllSteps NotReopenedByJira oneStatusEvent
          (trace inbound.next oneStatusEvent resolvedMeanwhile) ↔
        StepsMeet DecisionStillHolds oneStatusEvent
          (trace inbound.next oneStatusEvent resolvedMeanwhile)) :=
  status_events_reopen_nothing_iff (by simp [RequestsKeyed, KeyedList.Distinct, oneStatusEvent])
    (run_trace _ _)

/-- The worker goes on and writes `IN_PROGRESS` over `RESOLVED`. -/
theorem resolved_request_reopened :
    ∃ s s', Steps inbound.step oneStatusEvent s ∧
      inbound.step s (.advance 0 (.proceed "" [])) s' ∧
      ¬NotReopenedByJira s (.advance 0 (.proceed "" [])) s' := by
  obtain ⟨s, s', hsteps, hstep, hbefore, hafter⟩ := exists_step_of_exec
    (fun s s' : World Database InboundCall =>
      (s.shared.request? "request").map (·.status) = some .resolved ∧
        (s'.shared.request? "request").map (·.status) = some .inProgress)
    inbound.next (s := oneStatusEvent) resolvedMeanwhile (.advance 0 (.proceed "" []))
    (fun _ _ _ => trivial) (by decide)
  refine ⟨s, s', hsteps.of_guarded, hstep, fun hnot => ?_⟩
  obtain ⟨row, hrow, hresolved⟩ := Option.map_eq_some_iff.mp hbefore
  obtain ⟨row', hrow', hinProgress⟩ := Option.map_eq_some_iff.mp hafter
  have hterminal := hnot "request" row row' hrow hrow' (Or.inl hresolved)
  rw [hinProgress] at hterminal
  exact absurd hterminal (by decide)

end AvantimePlatform.Jira
