import AvantimePlatform.Notifications.Outbox

/-!
# The lease protocol of the notification outbox

The workers of `processNotificationBatch` as workers over a queue of leased records
(`notificationWorkers`), and `notifications_obey`: they obey its protocol.

What a call in progress holds is a record as the claim returned it: with a token, and with
attempts from 1 to its maximum (`Claimed`).
-/

namespace AvantimePlatform.Notifications

open AvantimePlatform AvantimePlatform.Checked AvantimePlatform.Interleaving
  AvantimePlatform.LeaseQueue

/-! ## What a step does to the table -/

/-- The outcome that the loop tries to record with the token of its record.  A claim has
given it one. -/
def Batch.attempt (batch : Batch) (answer : Except String Unit) : Attempt String String :=
  { key := batch.record.id, token := batch.record.leaseToken.getD "", answer }

/-- The outcome that the next statement of the loop tries to record.  An answer with an
unsafe id does not come to its update. -/
def Batch.tried (batch : Batch) (db : Database) (now : Int) :
    Place → Option (Attempt String String)
  | .deliver => none
  | .mark result =>
    if isSafeReference result.providerMessageId then
      some (batch.attempt ((fun _ => ()) <$> batch.mark db result now))
    else none
  | .fail failureCode =>
    some (batch.attempt ((fun _ => ()) <$>
      markNotificationFailed db batch.record batch.record.leaseToken failureCode now))

/-- The outcome that a step of a call tries to record. -/
def Call.tried (db : Database) (input : Input) : Call → Option (Attempt String String)
  | .claim _ => none
  | .record batch place =>
    match input with
    | .proceed now _ _ => batch.tried db now place
    | _ => none

/-- The claim that a step of a call makes. -/
def Call.claimed (db : Database) (input : Input) : Call → Option (String × List String)
  | .claim batchInput =>
    match input with
    | .proceed now uuid locked =>
      match claimNotificationBatch db batchInput now uuid locked with
      | .ok (_, records) => some (uuid, records.map (·.id))
      | .error _ => none
    | _ => none
  | .record .. => none

/-- What the environment does to the table. -/
def Env.act : Env → Act String String
  | .retryDeadLetterNotification id _ => .retry id
  | _ => .other

/-- The workers over the outbox. -/
def notificationWorkers :
    Workers Database Call Env Input NotificationOutboxRecord String String where
  toView := outboxView
  program := notifications
  rows := Database.outbox
  envAct := Env.act
  envAct_outcome e := by cases e <;> rfl
  claimed := Call.claimed
  tried := Call.tried
  lost := "NOTIFICATION_LEASE_LOST"

/-! ## The records that calls hold -/

/-- A record as a claim returns it. -/
structure Claimed (record : NotificationOutboxRecord) : Prop where
  token : record.leaseToken.isSome = true
  attempts_pos : 1 ≤ record.attempts
  attempts_le : record.attempts ≤ record.maxAttempts
  maxAttempts_le : record.maxAttempts ≤ 20

/-- The code that `markNotificationFailed` is called with is a safe one. -/
def Place.HasSafeCode : Place → Prop
  | .fail failureCode => isSafeFailureCode failureCode.toUpper = true
  | _ => True

/-- What a call in progress holds. -/
def Call.WellFormed : Call → Prop
  | .claim _ => True
  | .record batch place =>
    (∀ record ∈ batch.record :: batch.rest, Claimed record) ∧ place.HasSafeCode

theorem wellFormed_nextRecord {tally : Tally} {records : List NotificationOutboxRecord}
    (h : ∀ record ∈ records, Claimed record) {call : Call}
    (hcall : nextRecord tally records = some call) : call.WellFormed := by
  cases records with
  | nil => cases hcall
  | cons record rest =>
      cases hcall
      exact ⟨h, trivial⟩

/-- Upper-casing leaves a safe code as it is. -/
theorem toUpper_eq_of_isSafeFailureCode {code : String} (h : isSafeFailureCode code = true) :
    code.toUpper = code := by
  have hchar : ∀ c : Char, (c.isUpper || c.isDigit || c == '_' || c == '-') = true →
      c.toUpper = c := by
    intro c hc
    unfold Char.toUpper
    rw [dif_neg]
    simp only [Char.isUpper, Char.isDigit, Bool.or_eq_true, Bool.and_eq_true, decide_eq_true_eq,
      beq_iff_eq] at hc
    rintro ⟨hlow, hhigh⟩
    rcases hc with ((hc | hc) | rfl) | rfl
    · exact absurd (Nat.le_trans (UInt32.le_iff_toNat_le.mp hlow) (UInt32.le_iff_toNat_le.mp hc.2))
        (by decide)
    · exact absurd (Nat.le_trans (UInt32.le_iff_toNat_le.mp hlow) (UInt32.le_iff_toNat_le.mp hc.2))
        (by decide)
    · exact absurd hlow (by decide)
    · exact absurd hlow (by decide)
  have hall : ∀ c ∈ code.toList, c.toUpper = c := by
    unfold isSafeFailureCode at h
    cases hlist : code.toList with
    | nil => intro c hc; cases hc
    | cons first rest =>
        rw [hlist] at h
        simp only [Bool.and_eq_true, List.all_eq_true] at h
        intro c hc
        rcases List.mem_cons.mp hc with rfl | hrest
        · exact hchar c (by simp only [h.1.1.1, Bool.true_or])
        · exact hchar c (h.2 c hrest)
  apply String.toList_injective
  show (String.map Char.toUpper code).toList = code.toList
  rw [String.toList_map]
  exact (List.map_congr_left hall).trans (List.map_id _)

theorem isSafeFailureCode_notificationFailureCode (error : DeliveryError) :
    isSafeFailureCode (notificationFailureCode error).toUpper = true := by
  have hsafe : isSafeFailureCode (notificationFailureCode error) = true := by
    cases error with
    | provider code safe => exact safe
    | other => decide
  rw [toUpper_eq_of_isSafeFailureCode hsafe]
  exact hsafe

/-! ## The steps -/

theorem claimNotificationBatch_eq_ok {db db' : Database} {input : BatchInput} {now : Int}
    {uuid : String} {locked : List String} {records : List NotificationOutboxRecord}
    (h : claimNotificationBatch db input now uuid locked = .ok (db', records)) :
    ∃ correlationId, (db'.outbox, records) =
      (claimRules now correlationId uuid (now + input.leaseMs)).run locked input.batchSize
        db.outbox := by
  unfold claimNotificationBatch at h
  obtain ⟨-, h⟩ := seq_eq_ok.mp h
  obtain ⟨-, h⟩ := seq_eq_ok.mp h
  obtain ⟨correlationId, -, h⟩ := bind_eq_ok.mp h
  have hresult := Except.ok.inj h
  rw [Prod.mk.injEq] at hresult
  obtain ⟨rfl, rfl⟩ := hresult
  exact ⟨correlationId, rfl⟩

theorem isHeldAs_iff {id token : String} (row : NotificationOutboxRecord) :
    row.isHeldAs id (some token) = true ↔ outboxView.HeldAs id token row := by
  have hphase : row.status = .processing ↔ row.phase = .processing := by
    unfold NotificationOutboxRecord.phase
    cases row.status <;> simp
  unfold NotificationOutboxRecord.isHeldAs
  rw [Bool.and_eq_true, Bool.and_eq_true, decide_eq_true_eq, decide_eq_true_eq,
    decide_eq_true_eq, hphase, and_assoc]
  exact Iff.rfl

/-- The data of a guarded update: it frees the lease and counts nothing. -/
structure Settles (f : NotificationOutboxRecord → NotificationOutboxRecord) : Prop where
  id : ∀ row, (f row).id = row.id
  maxAttempts : ∀ row, (f row).maxAttempts = row.maxAttempts
  attempts : ∀ row, (f row).attempts = row.attempts
  token : ∀ row, (f row).leaseToken = none

/-- A guarded update is made under the lease and fails without it. -/
theorem updateLeased_callStep {db : Database} (hdb : notificationWorkers.WellFormed db)
    {id token : String} {f : NotificationOutboxRecord → NotificationOutboxRecord}
    (hf : Settles f) {claimed : Option (String × List String)} :
    (∃ db', db.updateLeased id (some token) f = .ok db' ∧
      notificationWorkers.CallStep db db' (some { key := id, token, answer := .ok () }) claimed) ∨
    (db.updateLeased id (some token) f = .error "NOTIFICATION_LEASE_LOST" ∧
      notificationWorkers.CallStep db db
        (some { key := id, token, answer := .error "NOTIFICATION_LEASE_LOST" }) claimed) := by
  have hcount : LeaseHeld db id (some token) ↔ notificationWorkers.Holds db id token :=
    View.countP_eq_one_iff hdb.distinct fun row => isHeldAs_iff row
  unfold Database.updateLeased
  by_cases hheld : LeaseHeld db id (some token)
  · rw [if_pos hheld]
    refine Or.inl ⟨_, rfl, .recorded (hcount.mp hheld) ?_⟩
    exact View.moves_settle (fun row => isHeldAs_iff row) (fun row => ⟨hf.id row, hf.maxAttempts row⟩)
      hf.attempts hf.token
  · rw [if_neg hheld]
    exact Or.inr ⟨rfl, .stale (mt hcount.mpr hheld) rfl⟩

/-- What the provider answered is recorded by one guarded update. -/
theorem Batch.mark_eq (batch : Batch) {result : NotificationDelivery}
    (hsafe : isSafeReference result.providerMessageId = true) (db : Database) (now : Int) :
    ∃ f, Settles f ∧ batch.mark db result now =
      db.updateLeased batch.record.id batch.record.leaseToken f := by
  have hcheck : assertSafeReference result.providerMessageId "PROVIDER_MESSAGE_ID" = .ok () :=
    require_eq_ok.mpr hsafe
  unfold Batch.mark
  cases result.terminal with
  | delivered =>
      refine ⟨(·.deliver result.providerMessageId now), ⟨?_, ?_, ?_, ?_⟩, ?_⟩
      all_goals try exact fun _ => rfl
      show markNotificationDelivered _ _ _ _ _ = _
      unfold markNotificationDelivered
      rw [hcheck]
      rfl
  | accepted =>
      refine ⟨(·.accept result.providerMessageId (now + 60000)), ⟨?_, ?_, ?_, ?_⟩, ?_⟩
      all_goals try exact fun _ => rfl
      show markNotificationAccepted _ _ _ _ _ = _
      unfold markNotificationAccepted
      rw [hcheck]
      rfl

/-- No failure of a claimed record throws for its attempts. -/
theorem exists_nextAttemptAfter {record : NotificationOutboxRecord} (h : Claimed record)
    (now : Int) : ∃ nextAttemptAt, nextAttemptAfter record now = .ok nextAttemptAt := by
  unfold nextAttemptAfter
  by_cases hexhausted : record.maxAttempts ≤ record.attempts
  · rw [if_pos hexhausted]
    exact ⟨now, rfl⟩
  · rw [if_neg hexhausted]
    have hle := h.maxAttempts_le
    have hrange : 1 ≤ record.attempts ∧ record.attempts ≤ 20 := ⟨h.attempts_pos, by omega⟩
    unfold notificationBackoffMs
    rw [if_pos hrange]
    exact ⟨_, rfl⟩

/-- A failure is recorded by one guarded update. -/
theorem markNotificationFailed_eq {record : NotificationOutboxRecord} (h : Claimed record)
    {failureCode : String} (hsafe : isSafeFailureCode failureCode.toUpper = true) (db : Database)
    (now : Int) : ∃ f, Settles f ∧ markNotificationFailed db record record.leaseToken failureCode
      now = db.updateLeased record.id record.leaseToken f := by
  obtain ⟨nextAttemptAt, hnext⟩ := exists_nextAttemptAfter h now
  refine ⟨(·.fail (decide (record.maxAttempts ≤ record.attempts)) nextAttemptAt
    failureCode.toUpper), ⟨?_, ?_, ?_, ?_⟩, ?_⟩
  all_goals try exact fun _ => rfl
  unfold markNotificationFailed
  have hcheck : (require (isSafeFailureCode failureCode.toUpper = true)
      "NOTIFICATION_FAILURE_CODE_INVALID" : Except String Unit) = .ok () := require_eq_ok.mpr hsafe
  rw [hcheck, hnext]
  rfl

/-- The claim returns claimed records. -/
theorem claimed_of_claim {db db' : Database} (hdb : notificationWorkers.WellFormed db)
    {input : BatchInput} {now : Int} {uuid : String} {locked : List String}
    {records : List NotificationOutboxRecord}
    (h : claimNotificationBatch db input now uuid locked = .ok (db', records)) :
    ∀ record ∈ records, Claimed record := by
  obtain ⟨correlationId, hrun⟩ := claimNotificationBatch_eq_ok h
  intro record hrecord
  have hreturned : record ∈ ((claimRules now correlationId uuid (now + input.leaseMs)).run locked
      input.batchSize db.outbox).2 := by
    rw [← hrun]
    exact hrecord
  obtain ⟨-, row, hrow, hcandidate, rfl⟩ := ClaimRules.mem_run_snd hdb.distinct hreturned
  have hleft : row.attempts < row.maxAttempts :=
    (NotificationOutboxRecord.of_isCandidate hcandidate).1
  have hlimit : row.maxAttempts ≤ 20 := (hdb.bounds row hrow).le_limit
  exact ⟨rfl, Nat.succ_le_succ (Nat.zero_le _), hleft, hlimit⟩

/-- Every step of a call is a step of a worker. -/
theorem callStep_of_advance {db db' : Database} {input : Input} {call : Call}
    {call' : Option Call} (hdb : notificationWorkers.WellFormed db) (hcall : call.WellFormed)
    (h : call.advance db input = some (db', call')) :
    notificationWorkers.CallStep db db' (call.tried db input) (call.claimed db input) ∧
      ∀ next, call' = some next → next.WellFormed := by
  cases call with
  | claim batchInput =>
      cases input with
      | proceed now uuid locked =>
          unfold Call.advance at h
          unfold Call.tried Call.claimed
          dsimp only at h ⊢
          cases hclaim : claimNotificationBatch db batchInput now uuid locked with
          | ok result =>
              obtain ⟨claimedDb, records⟩ := result
              rw [hclaim] at h
              obtain ⟨rfl, rfl⟩ := Prod.mk.inj (Option.some.inj h)
              obtain ⟨correlationId, hrun⟩ := claimNotificationBatch_eq_ok hclaim
              have hmoves := ClaimRules.moves (claimRules now correlationId uuid
                (now + batchInput.leaseMs)) locked batchInput.batchSize hdb.distinct
              change outboxView.Moves db.outbox (.claim uuid ((ClaimRules.run _ locked
                batchInput.batchSize db.outbox).2.map (·.id))) _ at hmoves
              rw [show notificationWorkers.rows db = db.outbox from rfl, ← hrun] at hmoves
              exact ⟨.claimed hmoves, fun next hnext =>
                wellFormed_nextRecord (claimed_of_claim hdb hclaim) hnext⟩
          | error message =>
              rw [hclaim] at h
              obtain ⟨rfl, rfl⟩ := Prod.mk.inj (Option.some.inj h)
              exact ⟨.unchanged rfl, fun next hnext => by cases hnext⟩
      | answered result => cases h
      | failure =>
          obtain ⟨rfl, rfl⟩ := Prod.mk.inj (Option.some.inj h)
          exact ⟨.unchanged rfl, fun next hnext => by cases hnext⟩
      | crash =>
          obtain ⟨rfl, rfl⟩ := Prod.mk.inj (Option.some.inj h)
          exact ⟨.unchanged rfl, fun next hnext => by cases hnext⟩
  | record batch place =>
      obtain ⟨hrecords, hcode⟩ := hcall
      have hrecord : Claimed batch.record := hrecords batch.record List.mem_cons_self
      have hnextRecord : ∀ tally next, batch.next tally = some next → next.WellFormed :=
        fun tally next hnext =>
          wellFormed_nextRecord (fun r hr => hrecords r (List.mem_cons_of_mem _ hr)) hnext
      obtain ⟨token, htoken⟩ := Option.isSome_iff_exists.mp hrecord.token
      cases input with
      | proceed now uuid locked =>
          cases place with
          | deliver => cases h
          | mark result =>
              unfold Call.advance Batch.run at h
              unfold Call.tried Call.claimed Batch.tried Batch.attempt
              dsimp only at h ⊢
              by_cases hsafe : isSafeReference result.providerMessageId = true
              · obtain ⟨f, hf, hmark⟩ := batch.mark_eq hsafe db now
                rw [if_pos hsafe]
                rw [hmark, htoken] at h ⊢
                rcases updateLeased_callStep hdb hf with ⟨updated, heq, hstep⟩ | ⟨heq, hstep⟩
                · rw [heq] at h ⊢
                  obtain ⟨rfl, rfl⟩ := Prod.mk.inj (Option.some.inj h)
                  exact ⟨hstep, hnextRecord _⟩
                · rw [heq] at h ⊢
                  obtain ⟨rfl, rfl⟩ := Prod.mk.inj (Option.some.inj h)
                  refine ⟨hstep, fun next hnext => ?_⟩
                  cases hnext
                  exact ⟨hrecords, isSafeFailureCode_notificationFailureCode .other⟩
              · have hmark : ∃ message, batch.mark db result now = .error message := by
                  have hcheck : ∃ message, assertSafeReference result.providerMessageId
                      "PROVIDER_MESSAGE_ID" = .error message := ⟨_, if_neg hsafe⟩
                  obtain ⟨message, hcheck⟩ := hcheck
                  refine ⟨message, ?_⟩
                  unfold Batch.mark
                  cases result.terminal with
                  | delivered =>
                      show markNotificationDelivered _ _ _ _ _ = _
                      unfold markNotificationDelivered
                      rw [hcheck]
                      rfl
                  | accepted =>
                      show markNotificationAccepted _ _ _ _ _ = _
                      unfold markNotificationAccepted
                      rw [hcheck]
                      rfl
                obtain ⟨message, hmark⟩ := hmark
                rw [hmark] at h
                obtain ⟨rfl, rfl⟩ := Prod.mk.inj (Option.some.inj h)
                rw [if_neg hsafe]
                refine ⟨.unchanged rfl, fun next hnext => ?_⟩
                cases hnext
                exact ⟨hrecords, isSafeFailureCode_notificationFailureCode .other⟩
          | fail failureCode =>
              unfold Call.advance Batch.run at h
              unfold Call.tried Call.claimed Batch.tried Batch.attempt
              dsimp only at h ⊢
              obtain ⟨f, hf, hmark⟩ := markNotificationFailed_eq hrecord hcode db now
              rw [hmark, htoken] at h ⊢
              rcases updateLeased_callStep hdb hf with ⟨updated, heq, hstep⟩ | ⟨heq, hstep⟩
              · rw [heq] at h ⊢
                obtain ⟨rfl, rfl⟩ := Prod.mk.inj (Option.some.inj h)
                exact ⟨hstep, hnextRecord _⟩
              · rw [heq] at h ⊢
                obtain ⟨rfl, rfl⟩ := Prod.mk.inj (Option.some.inj h)
                exact ⟨hstep, fun next hnext => by cases hnext⟩
      | answered result =>
          cases place with
          | deliver =>
              obtain ⟨rfl, rfl⟩ := Prod.mk.inj (Option.some.inj h)
              refine ⟨.unchanged rfl, fun next hnext => ?_⟩
              cases hnext
              cases result with
              | ok result => exact ⟨hrecords, trivial⟩
              | error error => exact ⟨hrecords, isSafeFailureCode_notificationFailureCode error⟩
          | mark _ => cases h
          | fail _ => cases h
      | failure =>
          obtain ⟨rfl, rfl⟩ := Prod.mk.inj (Option.some.inj h)
          refine ⟨.unchanged rfl, fun next hnext => ?_⟩
          cases place with
          | deliver =>
              cases hnext
              exact ⟨hrecords, isSafeFailureCode_notificationFailureCode .other⟩
          | mark _ =>
              cases hnext
              exact ⟨hrecords, isSafeFailureCode_notificationFailureCode .other⟩
          | fail _ => cases hnext
      | crash =>
          obtain ⟨rfl, rfl⟩ := Prod.mk.inj (Option.some.inj h)
          exact ⟨.unchanged rfl, fun next hnext => by cases hnext⟩

theorem insert_moves (db : Database) (input : NewNotification) (id : String) (now : Int) :
    outboxView.Moves db.outbox .other (db.insert input id now).outbox := by
  unfold Database.insert
  split
  · next h =>
      refine .insert _ (fun row hrow => (h.1 row hrow).2) rfl ⟨Nat.zero_le _, h.2.1, h.2.2⟩
  · exact View.Moves.refl fun _ _ => trivial

/-- What happens besides is an operation on the queue, too. -/
theorem env_moves (db : Database) (e : Env) :
    outboxView.Moves db.outbox e.act (e.apply db).outbox := by
  cases e with
  | enqueueNotification input id now =>
      show outboxView.Moves _ .other _
      unfold Env.apply
      dsimp only
      cases henqueue : enqueueNotification db input id now with
      | error message => exact View.Moves.refl fun _ _ => trivial
      | ok db' =>
          unfold enqueueNotification at henqueue
          obtain ⟨-, henqueue⟩ := seq_eq_ok.mp henqueue
          obtain ⟨-, henqueue⟩ := seq_eq_ok.mp henqueue
          obtain ⟨-, henqueue⟩ := seq_eq_ok.mp henqueue
          obtain ⟨-, henqueue⟩ := seq_eq_ok.mp henqueue
          obtain ⟨-, henqueue⟩ := seq_eq_ok.mp henqueue
          obtain ⟨-, henqueue⟩ := seq_eq_ok.mp henqueue
          obtain ⟨-, henqueue⟩ := seq_eq_ok.mp henqueue
          rw [← Except.ok.inj henqueue]
          exact insert_moves db input id now
  | insert input id now => exact insert_moves db input id now
  | retryDeadLetterNotification id now =>
      show outboxView.Moves _ (.retry id) _
      unfold Env.apply
      dsimp only
      cases hretry : retryDeadLetterNotification db id now with
      | error message => exact View.Moves.refl fun _ _ => trivial
      | ok db' =>
          unfold retryDeadLetterNotification at hretry
          obtain ⟨-, hretry⟩ := seq_eq_ok.mp hretry
          obtain ⟨-, hretry⟩ := seq_eq_ok.mp hretry
          rw [← Except.ok.inj hretry]
          refine View.moves_retry (fun row hrow => ?_) (fun row hrow => Or.inr ?_)
            (fun _ => ⟨rfl, rfl⟩) (fun _ => rfl) (fun _ => rfl)
          · rw [Bool.and_eq_true, decide_eq_true_eq] at hrow
            exact hrow.1
          · rw [Bool.and_eq_true, decide_eq_true_eq, decide_eq_true_eq] at hrow
            show row.phase = .dead
            unfold NotificationOutboxRecord.phase
            rw [hrow.2]

/-- No call is in progress, and no notification is claimed. -/
def notificationsStart (w : World Database Call) : Prop :=
  w.Quiescent ∧ notificationWorkers.Unclaimed w.shared

/-- The workers over the outbox obey the lease protocol. -/
theorem notifications_obey :
    notificationWorkers.queue.Obeys notificationsStart (fun _ ev => ∀ e, ev = .env e → True)
      notifications.step :=
  Workers.obeys (fun _ _ => True) (fun _ => True) Call.WellFormed (fun _ hw => ⟨hw.1, hw.2, trivial⟩)
    (fun call hcall => by
      cases call with
      | claim input => exact trivial
      | record batch place => cases hcall)
    (fun db e _ _ _ => ⟨env_moves db e, trivial⟩)
    (fun _ _ _ _ _ hdb _ hcall hadv =>
      have hstep := callStep_of_advance hdb hcall hadv
      ⟨hstep.1, trivial, hstep.2⟩)

end AvantimePlatform.Notifications
