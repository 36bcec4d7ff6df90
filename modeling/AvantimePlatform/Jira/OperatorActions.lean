import AvantimePlatform.Jira.OutboxWrites

/-!
# The actions of an operator

`retryJiraOperation` and `moveFailedJiraOperationToDeadLetter` check the status of an
operation on a read and then write the row by its id alone.  Between the two a worker may
claim the operation and complete it, or another operator may have acted.

`StatusAsRead` is the condition that the status of the operation is still the one that was
read.  `operators_keep_finished_iff` says that these are exactly the runs in which finished
work stays and each action is on an operation that it is meant for.
-/

namespace AvantimePlatform.Jira

open AvantimePlatform AvantimePlatform.Checked AvantimePlatform.Interleaving
  AvantimePlatform.Transition

variable {P : JiraProviderAdapter} {context : OutboxContext}

/-- The step commits the writes of `retryJiraOperation`, on the row `operation` that it has
read. -/
def CommitsRetry (w : World (JiraState P) (JiraCall P))
    (ev : Event (JiraEnv P) (JiraCall P) JiraInput) (operation : JiraOperationRecord) : Prop :=
  ∃ i uuid locked now db, ev = .advance i (.outbound (.proceed uuid locked)) ∧
    w.locals[i]? = some (.outbound (.retry operation now)) ∧
    retryJiraOperation w.shared.db operation now = .ok db

/-- The step commits the writes of `moveFailedJiraOperationToDeadLetter`, on the row
`operation` that it has read. -/
def CommitsMove (w : World (JiraState P) (JiraCall P))
    (ev : Event (JiraEnv P) (JiraCall P) JiraInput) (operation : JiraOperationRecord) : Prop :=
  ∃ i uuid locked now db, ev = .advance i (.outbound (.proceed uuid locked)) ∧
    w.locals[i]? = some (.outbound (.move operation now)) ∧
    moveFailedJiraOperationToDeadLetter w.shared.db operation now = .ok db

/-- Finished work stays as it is, a retry resets a dead letter, and only a failed operation is
moved to the dead letters. -/
def KeepsFinished (w : World (JiraState P) (JiraCall P))
    (ev : Event (JiraEnv P) (JiraCall P) JiraInput) (w' : World (JiraState P) (JiraCall P)) : Prop :=
  (∀ row ∈ w.shared.db.operations, row.status = .completed → row ∈ w'.shared.db.operations) ∧
  (∀ operation, CommitsRetry w ev operation → ∀ row ∈ w.shared.db.operations,
    row.id = operation.id → row.status = .deadLetter) ∧
  (∀ operation, CommitsMove w ev operation → ∀ row ∈ w.shared.db.operations,
    row.id = operation.id → row.status = .failed)

/-- An operator's write finds the status that its read has found. -/
def StatusAsRead (w : World (JiraState P) (JiraCall P))
    (ev : Event (JiraEnv P) (JiraCall P) JiraInput) : Prop :=
  ∀ operation, CommitsRetry w ev operation ∨ CommitsMove w ev operation →
    ∀ row ∈ w.shared.db.operations, row.id = operation.id → row.status = operation.status

/-! ## What the steps keep -/

/-- An operator's read has found the status that it looks for. -/
def OutboxCall.FoundStatus : OutboxCall P → Prop
  | .retry operation _ => operation.status = .deadLetter
  | .move operation _ => operation.status = .failed
  | _ => True

/-- `id` is the primary key, and each operator's call has found the status that it looks for. -/
structure OperatorsFit (w : World (JiraState P) (JiraCall P)) : Prop where
  keyed : KeyedList.Distinct JiraOperationRecord.id w.shared.db.operations
  found : ∀ call, .outbound call ∈ w.locals → call.FoundStatus

section Rows

variable {st st' : JiraState P} {input : OutboxInput} {call : OutboxCall P}
  {next : Option (OutboxCall P)} {db db' : Database}

/-- A claim does not touch a completed operation. -/
theorem completed_of_claim (hkeyed : KeyedList.Distinct JiraOperationRecord.id db.operations)
    {claimInput : ClaimInput} {now : Int} {uuid : String} {locked : List String}
    {records : List JiraOperationRecord}
    (h : claimJiraOperations db claimInput now uuid locked = .ok (db', records))
    {row : JiraOperationRecord} (hrow : row ∈ db.operations) (hcompleted : row.status = .completed) :
    row ∈ db'.operations := by
  obtain ⟨ids, leaseUntil, hoperations, hcandidates⟩ := operations_claim h
  rw [hoperations]
  have hnot : ¬row.isExhausted now = true := by simp [JiraOperationRecord.isExhausted, hcompleted]
  have hmiddle : row ∈ KeyedList.updateMany (·.isExhausted now) (·.exhaust) db.operations :=
    KeyedList.mem_updateMany_of_not hrow hnot
  refine KeyedList.mem_updateMany_of_not hmiddle fun hmem => ?_
  obtain ⟨candidate, hcandidate, hid, hstatus⟩ := hcandidates row.id (of_decide_eq_true hmem)
  have hkeyed' : KeyedList.Distinct JiraOperationRecord.id
      (KeyedList.updateMany (·.isExhausted now) (·.exhaust) db.operations) :=
    KeyedList.distinct_updateMany (by intro row; rfl) hkeyed
  have hsame : candidate = row := KeyedList.eq_of_key hkeyed' hcandidate hmiddle hid
  rw [hsame, hcompleted] at hstatus
  rcases hstatus with h | h | h <;> cases h

/-- A completed operation is not held by any worker. -/
theorem not_isHeldAs_of_completed {row record : JiraOperationRecord}
    (hcompleted : row.status = .completed) : ¬row.isHeldAs record = true := by
  intro hheld
  have hprocessing := (isHeldAs_iff.mp hheld).2.1
  rw [hcompleted] at hprocessing
  cases hprocessing

/-- A step of an outbound worker or an operator keeps a completed operation, if an operator's
write is not on it. -/
theorem completed_of_outboxStep (hkeyed : KeyedList.Distinct JiraOperationRecord.id st.db.operations)
    (h : OutboxStep context st input call st' next) {row : JiraOperationRecord}
    (hrow : row ∈ st.db.operations) (hcompleted : row.status = .completed)
    (hretry : ∀ operation now db uuid locked, call = .retry operation now →
      input = .proceed uuid locked → retryJiraOperation st.db operation now = .ok db →
      row.id ≠ operation.id)
    (hmove : ∀ operation now db uuid locked, call = .move operation now →
      input = .proceed uuid locked → moveFailedJiraOperationToDeadLetter st.db operation now = .ok db →
      row.id ≠ operation.id) :
    row ∈ st'.db.operations := by
  have hheld : ∀ record : JiraOperationRecord, ¬row.isHeldAs record = true :=
    fun _ => not_isHeldAs_of_completed hcompleted
  cases h with
  | ended => exact hrow
  | along => exact hrow
  | requested => exact hrow
  | commented => exact hrow
  | readRetry => exact hrow
  | readMove => exact hrow
  | claimed claimInput uuid locked db records hinput hclaim =>
      exact completed_of_claim hkeyed hclaim hrow hcompleted
  | completedIssue batch result db hcomplete =>
      obtain ⟨-, -, -, rfl⟩ := completeJiraOperation_eq_ok hcomplete
      exact KeyedList.mem_updateMany_of_not hrow (hheld _)
  | completedComment batch result db hcomplete =>
      obtain ⟨localCommentId, -, -, -, -, rfl⟩ := completeJiraCommentOperation_eq_ok hcomplete
      exact KeyedList.mem_updateMany_of_not hrow (hheld _)
  | failed batch failure db deadLettered hfail =>
      obtain ⟨-, -, nextAttemptAt, -, rfl⟩ := failJiraOperation_eq_ok hfail
      show row ∈ (Database.mirror _ _ _ _).operations
      rw [mirror_operations]
      exact KeyedList.mem_updateMany_of_not hrow (hheld _)
  | retried operation now db hinput hcommit =>
      obtain ⟨uuid, locked, hinput⟩ := hinput
      have hother := hretry operation now db uuid locked rfl hinput hcommit
      obtain ⟨-, rfl⟩ := retryJiraOperation_eq_ok hcommit
      show row ∈ (Database.mirror _ _ _ _).operations
      rw [mirror_operations]
      exact KeyedList.mem_updateMany_of_not hrow (by simp [hother])
  | moved operation now db hinput hcommit =>
      obtain ⟨uuid, locked, hinput⟩ := hinput
      have hother := hmove operation now db uuid locked rfl hinput hcommit
      obtain ⟨-, rfl⟩ := moveFailedJiraOperationToDeadLetter_eq_ok hcommit
      show row ∈ (Database.mirror _ _ _ _).operations
      rw [mirror_operations]
      exact KeyedList.mem_updateMany_of_not hrow (by simp [hother])

/-- What happens besides the calls only adds operations. -/
theorem operations_env (st : JiraState P) (e : JiraEnv P) :
    (e.apply st).db.operations = st.db.operations ∨ ∃ operation : JiraOperationRecord,
      (e.apply st).db.operations = st.db.operations ++ [operation] ∧
        ∀ row ∈ st.db.operations, row.id ≠ operation.id := by
  have hnew : ∀ operation : JiraOperationRecord, st.db.admitsOperation operation = true →
      ∀ row ∈ st.db.operations, row.id ≠ operation.id := by
    intro operation hadmits row hrow
    have hkeys := List.all_eq_true.mp hadmits row hrow
    simp only [Bool.and_eq_true, decide_eq_true_eq] at hkeys
    exact hkeys.1.1
  cases e with
  | tick elapsed => exact Or.inl rfl
  | tenant others => exact Or.inl rfl
  | inbound event => exact Or.inl (operations_inboundEnv st.db event)
  | createRequest new =>
      show (createRequest st.db new).operations = _ ∨ ∃ operation : JiraOperationRecord,
        (createRequest st.db new).operations = _ ∧ _
      unfold createRequest
      split
      · split
        · exact Or.inl rfl
        split
        · next hadmits => exact Or.inr ⟨_, rfl, hnew _ hadmits⟩
        · exact Or.inl rfl
      · exact Or.inl rfl
  | addRequestMessage new =>
      show (addRequestMessage st.db new).operations = _ ∨ ∃ operation : JiraOperationRecord,
        (addRequestMessage st.db new).operations = _ ∧ _
      unfold addRequestMessage
      split
      · exact Or.inl rfl
      split
      · split
        · exact Or.inl rfl
        split
        · next hadmits => exact Or.inr ⟨_, rfl, hnew _ hadmits⟩
        · exact Or.inl rfl
      · exact Or.inl rfl

end Rows

/-! ## The runs -/

section Runs

variable {w w' : World (JiraState P) (JiraCall P)} {ev : Event (JiraEnv P) (JiraCall P) JiraInput}

/-- Where the calls are after a step: as before, or where the call that has stepped is. -/
theorem mem_locals_outbound {i : Nat} {next : Option (OutboxCall P)} {call : OutboxCall P}
    (h : .outbound call ∈ replaceLocal w.locals i (next.map .outbound)) :
    next = some call ∨ .outbound call ∈ w.locals := by
  rcases mem_replaceLocal h with hnext | hold
  · obtain ⟨other, hother, heq⟩ := Option.map_eq_some_iff.mp hnext
    cases heq
    exact Or.inl hother
  · exact Or.inr hold

theorem mem_locals_inbound {i : Nat} {next : Option InboundCall} {call : OutboxCall P}
    (h : .outbound call ∈ replaceLocal w.locals i (next.map .inbound)) : .outbound call ∈ w.locals := by
  rcases mem_replaceLocal h with hnext | hold
  · obtain ⟨other, -, heq⟩ := Option.map_eq_some_iff.mp hnext
    cases heq
  · exact hold

theorem foundStatus_nextOperation {now : Int} {tally : OutboxTally}
    {records : List JiraOperationRecord} {call : OutboxCall P}
    (h : nextOperation now tally records = some call) : call.FoundStatus := by
  cases records with
  | nil => cases h
  | cons record rest =>
      obtain rfl := Option.some.inj h
      exact trivial

/-- A call that goes on has found the status that it looks for. -/
theorem foundStatus_next {st st' : JiraState P} {input : OutboxInput} {call call' : OutboxCall P}
    {next : Option (OutboxCall P)} (h : OutboxStep context st input call st' next)
    (hnext : next = some call') : call'.FoundStatus := by
  cases h with
  | ended => cases hnext
  | along batch place place' =>
      obtain rfl := Option.some.inj hnext
      exact trivial
  | requested batch place =>
      obtain rfl := Option.some.inj hnext
      exact trivial
  | commented batch place =>
      obtain rfl := Option.some.inj hnext
      exact trivial
  | claimed => exact foundStatus_nextOperation hnext
  | completedIssue => exact foundStatus_nextOperation hnext
  | completedComment => exact foundStatus_nextOperation hnext
  | failed => exact foundStatus_nextOperation hnext
  | retried => cases hnext
  | moved => cases hnext
  | readRetry id now operation hread =>
      obtain rfl := Option.some.inj hnext
      exact (readDeadLetter_eq_ok hread).2
  | readMove id now operation hread =>
      obtain rfl := Option.some.inj hnext
      exact (readFailed_eq_ok hread).2

theorem operatorsFit_step (h : OperatorsFit w) (hstep : (jira P context).step w ev w') :
    OperatorsFit w' := by
  rcases jira_step_cases hstep with ⟨e, rfl, rfl⟩ | ⟨call, rfl, hinit, rfl⟩ |
    ⟨i, input, call, st, next, rfl, hcall, hout, rfl⟩ | ⟨i, input, call, rfl, hcall, rfl⟩
  · refine ⟨?_, h.found⟩
    show KeyedList.Distinct JiraOperationRecord.id (e.apply w.shared).db.operations
    rcases operations_env w.shared e with hsame | ⟨operation, hnew, hfresh⟩
    · rw [hsame]
      exact h.keyed
    · rw [hnew]
      exact KeyedList.distinct_append_new h.keyed (KeyedList.find_eq_none.mpr hfresh)
  · refine ⟨h.keyed, fun other hmem => ?_⟩
    rcases List.mem_append.mp hmem with hold | hnew
    · exact h.found other hold
    · obtain rfl := List.mem_singleton.mp hnew
      cases other with
      | retry operation now => exact absurd hinit Bool.false_ne_true
      | move operation now => exact absurd hinit Bool.false_ne_true
      | claim claimInput => exact trivial
      | record batch place => exact trivial
      | readRetry id now => exact trivial
      | readMove id now => exact trivial
  · refine ⟨keyed_of_outboxStep hout h.keyed, fun other hmem => ?_⟩
    rcases mem_locals_outbound hmem with hnext | hold
    · exact foundStatus_next hout hnext
    · exact h.found other hold
  · refine ⟨?_, fun other hmem => h.found other (mem_locals_inbound hmem)⟩
    show KeyedList.Distinct JiraOperationRecord.id (call.advance w.shared.db input).1.operations
    rw [operations_inbound]
    exact h.keyed

/-- A step is as it should be exactly when an operator's write finds the status that its read
has found. -/
theorem keepsFinished_iff (h : OperatorsFit w) (hstep : (jira P context).step w ev w') :
    KeepsFinished w ev w' ↔ StatusAsRead w ev := by
  constructor
  · rintro ⟨-, hretry, hmove⟩ operation (hcommit | hcommit) row hrow hid
    · obtain ⟨i, uuid, locked, now, db, -, hcall, -⟩ := id hcommit
      rw [hretry operation hcommit row hrow hid]
      exact (h.found _ (List.mem_of_getElem? hcall)).symm
    · obtain ⟨i, uuid, locked, now, db, -, hcall, -⟩ := id hcommit
      rw [hmove operation hcommit row hrow hid]
      exact (h.found _ (List.mem_of_getElem? hcall)).symm
  · intro hread
    have hretry : ∀ operation, CommitsRetry w ev operation → ∀ row ∈ w.shared.db.operations,
        row.id = operation.id → row.status = .deadLetter := by
      intro operation hcommit row hrow hid
      obtain ⟨i, uuid, locked, now, db, -, hcall, -⟩ := id hcommit
      rw [hread operation (Or.inl hcommit) row hrow hid]
      exact h.found _ (List.mem_of_getElem? hcall)
    have hmove : ∀ operation, CommitsMove w ev operation → ∀ row ∈ w.shared.db.operations,
        row.id = operation.id → row.status = .failed := by
      intro operation hcommit row hrow hid
      obtain ⟨i, uuid, locked, now, db, -, hcall, -⟩ := id hcommit
      rw [hread operation (Or.inr hcommit) row hrow hid]
      exact h.found _ (List.mem_of_getElem? hcall)
    refine ⟨fun row hrow hcompleted => ?_, hretry, hmove⟩
    rcases jira_step_cases hstep with ⟨e, rfl, rfl⟩ | ⟨call, rfl, hinit, rfl⟩ |
      ⟨i, input, call, st, next, rfl, hcall, hout, rfl⟩ | ⟨i, input, call, rfl, hcall, rfl⟩
    · show row ∈ (e.apply w.shared).db.operations
      rcases operations_env w.shared e with hsame | ⟨operation, hnew, -⟩
      · rw [hsame]
        exact hrow
      · rw [hnew]
        exact List.mem_append_left _ hrow
    · exact hrow
    · refine completed_of_outboxStep h.keyed hout hrow hcompleted ?_ ?_
      · rintro operation now db uuid locked rfl rfl hcommit hid
        have hdead := hretry operation ⟨i, uuid, locked, now, db, rfl, hcall, hcommit⟩ row hrow hid
        rw [hcompleted] at hdead
        cases hdead
      · rintro operation now db uuid locked rfl rfl hcommit hid
        have hfailed := hmove operation ⟨i, uuid, locked, now, db, rfl, hcall, hcommit⟩ row hrow hid
        rw [hcompleted] at hfailed
        cases hfailed
    · show row ∈ (call.advance w.shared.db input).1.operations
      rw [operations_inbound]
      exact hrow

/-- In a run from a start without calls, finished work stays, a retry resets a dead letter and
only a failed operation is moved to the dead letters, exactly when every operator's write finds
the status that its read has found. -/
theorem operators_keep_finished_iff {w : World (JiraState P) (JiraCall P)}
    {run : List (Event (JiraEnv P) (JiraCall P) JiraInput × World (JiraState P) (JiraCall P))}
    (hkeyed : KeyedList.Distinct JiraOperationRecord.id w.shared.db.operations)
    (hquiet : w.Quiescent) (hrun : Run (jira P context).step w run) :
    AllSteps KeepsFinished w run ↔ StepsMeet StatusAsRead w run := by
  have hfit : OperatorsFit w := by
    refine ⟨hkeyed, fun call hmem => ?_⟩
    rw [show w.locals = [] from hquiet] at hmem
    exact absurd hmem List.not_mem_nil
  have hinv : ∀ s ev s', OperatorsFit s → (jira P context).step s ev s' → OperatorsFit s' :=
    fun _ _ _ h hstep => operatorsFit_step h hstep
  have hkeeps : ∀ s ev s', OperatorsFit s → (jira P context).step s ev s' →
      (KeepsFinished s ev s' ↔ StatusAsRead s ev) :=
    fun _ _ _ h hstep => keepsFinished_iff h hstep
  exact allSteps_iff_stepsMeet hinv hkeeps hrun hfit

end Runs

/-! ## A move over a completed operation -/

section Overtaken

def portalRuntime : ProviderRuntime where
  normalize text := text
  sha256 text := text
  isLetterOrNumber := Char.isAlphanum
  issueUrl key := "https://avantime.atlassian.net/browse/" ++ key

/-- Every operation creates this issue. -/
def portalContext : OutboxContext where
  runtime := portalRuntime
  draft _ :=
    { subject := "Printer", description := "It does not print.", category := "AI"
      priority := .normal, projectKey := "AV", issueType := "Task", componentId := none
      requestType := none }

/-- A request whose issue could not be created at the first attempt. -/
def failedOnce : World (JiraState (jiraCloudProvider portalRuntime))
    (JiraCall (jiraCloudProvider portalRuntime)) where
  shared :=
    { db :=
        { requests := [{ id := "request", publicId := "AV-5F3C", companyId := "company"
                         requesterId := "user", jiraIntegrationStatus := .failed }]
          operations := [{ id := "operation", requestId := "request", companyId := "company"
                           mappingId := "mapping", status := .failed, attempts := 1
                           nextAttemptAt := 1000, createdAt := 0, idempotencyKey := "jira:create:1"
                           correlationId := "correlation" }]
          mappings := [{ id := "mapping", companyId := "company", statusMapping := none
                         enabled := true }] }
      tenant := {}
      now := 2000 }
  locals := []

/-- An operator reads the operation as `FAILED`; a worker then claims it and creates the
issue. -/
def completedMeanwhile : List (Event (JiraEnv (jiraCloudProvider portalRuntime))
    (JiraCall (jiraCloudProvider portalRuntime)) JiraInput) :=
  [.spawn (.outbound (.readMove "operation" 2000)), .advance 0 (.outbound (.proceed "" [])),
   .spawn (.outbound (.claim { batchSize := 10, leaseMs := 60000 })),
   .advance 1 (.outbound (.proceed "token" [])), .advance 1 (.outbound (.proceed "" [])),
   .advance 1 (.outbound (.proceed "" [])), .advance 1 (.outbound (.answer (.respond "" ""))),
   .advance 1 (.outbound (.answer (.respond "10001" "AV-1"))),
   .advance 1 (.outbound (.proceed "" []))]

theorem operators_keep_finished_iff_failedOnce :
    AllSteps KeepsFinished failedOnce
        (trace (jira _ portalContext).next failedOnce completedMeanwhile) ↔
      StepsMeet StatusAsRead failedOnce
        (trace (jira _ portalContext).next failedOnce completedMeanwhile) :=
  operators_keep_finished_iff (by simp [KeyedList.Distinct, failedOnce]) rfl (run_trace _ _)

/-- The operator goes on and moves the completed operation to the dead letters. -/
theorem completed_operation_moved :
    ∃ s s', Steps (jira _ portalContext).step failedOnce s ∧
      (jira _ portalContext).step s (.advance 0 (.outbound (.proceed "" []))) s' ∧
      ¬KeepsFinished s (.advance 0 (.outbound (.proceed "" []))) s' := by
  obtain ⟨s, s', hsteps, hstep, row, hrow, hcompleted, hgone⟩ := exists_step_of_exec
    (fun s s' : World (JiraState (jiraCloudProvider portalRuntime))
        (JiraCall (jiraCloudProvider portalRuntime)) =>
      ∃ row ∈ s.shared.db.operations, row.status = .completed ∧ row ∉ s'.shared.db.operations)
    (jira _ portalContext).next (s := failedOnce) completedMeanwhile
    (.advance 0 (.outbound (.proceed "" []))) (fun _ _ _ => trivial) (by decide)
  refine ⟨s, s', hsteps.of_guarded, hstep, fun hkeeps => ?_⟩
  exact hgone (hkeeps.1 row hrow hcompleted)

end Overtaken

end AvantimePlatform.Jira
