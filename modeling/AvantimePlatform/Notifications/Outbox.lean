import AvantimePlatform.Lib.Checked
import AvantimePlatform.Lib.Interleaving
import AvantimePlatform.Lib.LeaseQueue

/-!
# The notification outbox

`notification-outbox.ts` and the provider of `notification-providers.ts`: the claim of a
batch of notifications, the guarded updates that mark one as delivered, accepted or failed,
the retry of a dead letter, and the loop of `processNotificationBatch` as a call that makes
one statement or one request after the other.

A notification that the provider has accepted stays `PROCESSING` without a token until the
date of the next receipt query, when a claim takes it again.

`notifications` is the system of all calls and of what is enqueued and retried meanwhile.
The provider's answers come from outside; `ResendNotificationProvider.deliver` is the
answer of the one that is used in production.
-/

namespace AvantimePlatform.Notifications

open AvantimePlatform AvantimePlatform.Checked AvantimePlatform.Interleaving
  AvantimePlatform.LeaseQueue

/-! ## The table -/

/-- `NotificationOutboxStatus`. -/
inductive NotificationOutboxStatus where
  | pending
  | processing
  | delivered
  | failed
  | deadLetter
deriving DecidableEq

/-- A row of `NotificationOutbox`. -/
structure NotificationOutboxRecord where
  id : String
  idempotencyKey : String
  notificationType : String
  recipientReference : String
  recipientUserId : Option String := none
  templateReference : String
  correlationId : String
  status : NotificationOutboxStatus := .pending
  attempts : Nat := 0
  maxAttempts : Nat := 5
  nextAttemptAt : Int
  createdAt : Int
  leaseToken : Option String := none
  leaseUntil : Option Int := none
  providerMessageId : Option String := none
  lastFailureCode : Option String := none
  deliveredAt : Option Int := none
deriving DecidableEq

/-- The tables. -/
structure Database where
  outbox : List NotificationOutboxRecord := []

/-- `SAFE_REFERENCE` and `SAFE_PROVIDER_ID`: a letter or digit, then 2 to 199 of these or of
`.`, `_`, `:`, `-` and the slash. -/
def isSafeReference (value : String) : Bool :=
  match value.toList with
  | [] => false
  | first :: rest =>
    first.isAlphanum && decide (2 ≤ rest.length) && decide (rest.length ≤ 199) &&
      rest.all fun c =>
        c.isAlphanum || c == '.' || c == '_' || c == ':' || c == '/' || c == '-'

/-- `SAFE_FAILURE_CODE`, as `/^[A-Z0-9][A-Z0-9_-]{2,99}$/u`. -/
def isSafeFailureCode (code : String) : Bool :=
  match code.toList with
  | [] => false
  | first :: rest =>
    (first.isUpper || first.isDigit) && decide (2 ≤ rest.length) && decide (rest.length ≤ 99) &&
      rest.all fun c => c.isUpper || c.isDigit || c == '_' || c == '-'

/-- `assertSafeReference`. -/
def assertSafeReference (value name : String) : Except String Unit :=
  require (isSafeReference value = true) ("NOTIFICATION_" ++ name ++ "_INVALID")

/-- `notificationBackoffMs`, with its defaults. -/
def notificationBackoffMs (attempt : Nat) : Except String Nat :=
  if 1 ≤ attempt ∧ attempt ≤ 20 then .ok (min 300000 (1000 * 2 ^ (attempt - 1)))
  else .error "NOTIFICATION_ATTEMPT_INVALID"

/-! ## Enqueueing -/

/-- A notification to store, with the columns that do not have their defaults. -/
structure NewNotification where
  idempotencyKey : String
  notificationType : String
  recipientReference : String
  recipientUserId : Option String := none
  templateReference : String
  correlationId : String
  maximumAttempts : Nat := 5

namespace NewNotification

/-- The row of a new notification. -/
def record (input : NewNotification) (id : String) (now : Int) : NotificationOutboxRecord where
  id := id
  idempotencyKey := input.idempotencyKey
  notificationType := input.notificationType
  recipientReference := input.recipientReference
  recipientUserId := input.recipientUserId
  templateReference := input.templateReference
  correlationId := input.correlationId
  maxAttempts := input.maximumAttempts
  nextAttemptAt := now
  createdAt := now

end NewNotification

/-- The insert of a notification whose key may be there already.  The table refuses a
maximum of attempts that is not between 1 and 20. -/
def Database.insert (db : Database) (input : NewNotification) (id : String) (now : Int) :
    Database :=
  if (∀ row ∈ db.outbox, row.idempotencyKey ≠ input.idempotencyKey ∧ row.id ≠ id) ∧
      1 ≤ input.maximumAttempts ∧ input.maximumAttempts ≤ 20 then
    { outbox := db.outbox ++ [input.record id now] }
  else db

/-- `enqueueNotification`. -/
def enqueueNotification (db : Database) (input : NewNotification) (id : String) (now : Int) :
    Except String Database := do
  assertSafeReference input.idempotencyKey "IDEMPOTENCY_KEY"
  assertSafeReference input.notificationType "TYPE"
  assertSafeReference input.recipientReference "RECIPIENT_REFERENCE"
  assertSafeReference input.templateReference "TEMPLATE_REFERENCE"
  assertSafeReference input.correlationId "CORRELATION_ID"
  require ('@' ∉ input.recipientReference.toList) "NOTIFICATION_RAW_RECIPIENT_DENIED"
  require (1 ≤ input.maximumAttempts ∧ input.maximumAttempts ≤ 20)
    "NOTIFICATION_MAX_ATTEMPTS_INVALID"
  return db.insert input id now

/-! ## The claim of a batch -/

/-- The input of `claimNotificationBatch`, but for `now`. -/
structure BatchInput where
  batchSize : Nat
  leaseMs : Nat
  correlationId : Option String := none

namespace NotificationOutboxRecord

/-- The condition of the first statement of the claim. -/
def isExhausted (record : NotificationOutboxRecord) (now : Int) : Bool :=
  record.status = .processing && record.leaseUntil.any (· ≤ now) &&
    decide (record.maxAttempts ≤ record.attempts)

/-- The condition of the candidates of the claim. -/
def isCandidate (record : NotificationOutboxRecord) (now : Int) (correlationId : Option String) :
    Bool :=
  decide (record.attempts < record.maxAttempts) && correlationId.all (· = record.correlationId) &&
    ((record.status = .pending || record.status = .failed) &&
        decide (record.nextAttemptAt ≤ now) ||
      record.status = .processing && record.leaseUntil.any (· ≤ now))

/-- `ORDER BY "nextAttemptAt" ASC, "createdAt" ASC`. -/
def claimedBefore (record other : NotificationOutboxRecord) : Bool :=
  decide (record.nextAttemptAt < other.nextAttemptAt) ||
    record.nextAttemptAt = other.nextAttemptAt && decide (record.createdAt ≤ other.createdAt)

/-- `SET "status" = 'DEAD_LETTER', ..` of the first statement of the claim. -/
def exhaust (record : NotificationOutboxRecord) : NotificationOutboxRecord :=
  { record with
    status := .deadLetter, lastFailureCode := some "LEASE_EXHAUSTED", leaseToken := none
    leaseUntil := none }

/-- `SET "status" = 'PROCESSING', ..` of the claim. -/
def claim (leaseToken : String) (leaseUntil : Int) (record : NotificationOutboxRecord) :
    NotificationOutboxRecord :=
  { record with
    status := .processing, attempts := record.attempts + 1, leaseToken := some leaseToken
    leaseUntil := some leaseUntil, lastFailureCode := none }

/-- `where: { id, status: 'PROCESSING', leaseToken }`. -/
def isHeldAs (record : NotificationOutboxRecord) (id : String) (leaseToken : Option String) :
    Bool :=
  record.id = id && record.status = .processing && record.leaseToken = leaseToken

/-- Where a notification stands. -/
def phase (record : NotificationOutboxRecord) : Phase :=
  match record.status with
  | .pending => .waiting
  | .failed => .waiting
  | .processing => .processing
  | .delivered => .finished
  | .deadLetter => .dead

end NotificationOutboxRecord

/-- The outbox as a table of leased records. -/
def outboxView : View NotificationOutboxRecord String String where
  key := NotificationOutboxRecord.id
  phase := NotificationOutboxRecord.phase
  attempts := NotificationOutboxRecord.attempts
  maxAttempts := NotificationOutboxRecord.maxAttempts
  token := NotificationOutboxRecord.leaseToken
  limit := 20

theorem NotificationOutboxRecord.processing_of_isExhausted {record : NotificationOutboxRecord}
    {now : Int} (h : record.isExhausted now = true) : record.status = .processing := by
  unfold isExhausted at h
  simp only [Bool.and_eq_true, decide_eq_true_eq] at h
  exact h.1.1

theorem NotificationOutboxRecord.of_isCandidate {record : NotificationOutboxRecord} {now : Int}
    {correlationId : Option String} (h : record.isCandidate now correlationId = true) :
    record.attempts < record.maxAttempts ∧
      (record.phase = .waiting ∨
        record.status = .processing ∧ ∃ deadline ∈ record.leaseUntil, deadline ≤ now) := by
  unfold isCandidate at h
  simp only [Bool.and_eq_true, Bool.or_eq_true, decide_eq_true_eq, Option.any_eq_true_iff_get]
    at h
  obtain ⟨⟨hleft, -⟩, hwhen⟩ := h
  refine ⟨hleft, ?_⟩
  rcases hwhen with ⟨hstatus, -⟩ | ⟨hstatus, hdeadline⟩
  · refine Or.inl ?_
    unfold phase
    rcases hstatus with hstatus | hstatus
    · rw [hstatus]
    · rw [hstatus]
  · obtain ⟨hsome, hle⟩ := hdeadline
    exact Or.inr ⟨hstatus, _, Option.get_mem hsome, hle⟩

/-- The two statements of the claim. -/
def claimRules (now : Int) (correlationId : Option String) (leaseToken : String)
    (leaseUntil : Int) : ClaimRules outboxView leaseToken where
  isExhausted := (·.isExhausted now)
  isCandidate := (·.isCandidate now correlationId)
  before := NotificationOutboxRecord.claimedBefore
  exhaust := NotificationOutboxRecord.exhaust
  claim := NotificationOutboxRecord.claim leaseToken leaseUntil
  exhausted_processing record h := by
    have hstatus := NotificationOutboxRecord.processing_of_isExhausted h
    show record.phase = .processing
    unfold NotificationOutboxRecord.phase
    rw [hstatus]
  candidate_left record h := (NotificationOutboxRecord.of_isCandidate h).1
  candidate_phase record h := by
    rcases (NotificationOutboxRecord.of_isCandidate h).2 with hwaiting | ⟨hstatus, -⟩
    · exact Or.inl hwaiting
    · refine Or.inr ?_
      show record.phase = .processing
      unfold NotificationOutboxRecord.phase
      rw [hstatus]
  exhaust_same _ := ⟨rfl, rfl⟩
  exhaust_attempts _ := rfl
  exhaust_phase _ := rfl
  exhaust_token _ := rfl
  claim_same _ := ⟨rfl, rfl⟩
  claim_attempts _ := rfl
  claim_phase _ := rfl
  claim_token _ := rfl

/-- `input.correlationId ? assertSafeReference(..) : null`. -/
def optionalCorrelation (value : Option String) : Except String (Option String) :=
  match value with
  | none => .ok none
  | some value =>
    if value = "" then .ok none
    else (fun _ => some value) <$> assertSafeReference value "CORRELATION_ID"

/-- `claimNotificationBatch`.  `locked` are the rows that other transactions hold, which
`SKIP LOCKED` leaves out. -/
def claimNotificationBatch (db : Database) (input : BatchInput) (now : Int) (leaseToken : String)
    (locked : List String) : Except String (Database × List NotificationOutboxRecord) := do
  require (1 ≤ input.batchSize ∧ input.batchSize ≤ 100) "NOTIFICATION_BATCH_SIZE_INVALID"
  require (1000 ≤ input.leaseMs ∧ input.leaseMs ≤ 600000) "NOTIFICATION_LEASE_INVALID"
  let correlationId ← optionalCorrelation input.correlationId
  let claimed := (claimRules now correlationId leaseToken (now + input.leaseMs)).run locked
    input.batchSize db.outbox
  return ({ outbox := claimed.1 }, claimed.2)

/-! ## The guarded updates -/

/-- The lease that the worker got with the record is still its own. -/
def LeaseHeld (db : Database) (id : String) (leaseToken : Option String) : Prop :=
  db.outbox.countP (·.isHeldAs id leaseToken) = 1

instance (db : Database) (id : String) (leaseToken : Option String) :
    Decidable (LeaseHeld db id leaseToken) :=
  inferInstanceAs (Decidable (_ = _))

/-- A guarded update that has to find its row. -/
def Database.updateLeased (db : Database) (id : String) (leaseToken : Option String)
    (f : NotificationOutboxRecord → NotificationOutboxRecord) : Except String Database :=
  if LeaseHeld db id leaseToken then
    .ok { outbox := KeyedList.updateMany (·.isHeldAs id leaseToken) f db.outbox }
  else .error "NOTIFICATION_LEASE_LOST"

namespace NotificationOutboxRecord

/-- The data of `markNotificationDelivered`. -/
def deliver (providerMessageId : String) (deliveredAt : Int) (record : NotificationOutboxRecord) :
    NotificationOutboxRecord :=
  { record with
    status := .delivered, providerMessageId := some providerMessageId
    deliveredAt := some deliveredAt, leaseToken := none, leaseUntil := none
    lastFailureCode := none }

/-- The data of `markNotificationAccepted`. -/
def accept (providerMessageId : String) (retryAt : Int) (record : NotificationOutboxRecord) :
    NotificationOutboxRecord :=
  { record with
    providerMessageId := some providerMessageId, nextAttemptAt := retryAt, leaseToken := none
    leaseUntil := some retryAt, lastFailureCode := none }

/-- The data of `markNotificationFailed`. -/
def fail (exhausted : Bool) (nextAttemptAt : Int) (failureCode : String)
    (record : NotificationOutboxRecord) : NotificationOutboxRecord :=
  { record with
    status := if exhausted then .deadLetter else .failed, nextAttemptAt := nextAttemptAt
    leaseToken := none, leaseUntil := none, lastFailureCode := some failureCode }

end NotificationOutboxRecord

/-- `markNotificationDelivered`. -/
def markNotificationDelivered (db : Database) (id : String) (leaseToken : Option String)
    (providerMessageId : String) (deliveredAt : Int) : Except String Database := do
  assertSafeReference providerMessageId "PROVIDER_MESSAGE_ID"
  db.updateLeased id leaseToken (·.deliver providerMessageId deliveredAt)

/-- `markNotificationAccepted`. -/
def markNotificationAccepted (db : Database) (id : String) (leaseToken : Option String)
    (providerMessageId : String) (retryAt : Int) : Except String Database := do
  assertSafeReference providerMessageId "PROVIDER_MESSAGE_ID"
  db.updateLeased id leaseToken (·.accept providerMessageId retryAt)

/-- The date of the next attempt of a failed notification. -/
def nextAttemptAfter (record : NotificationOutboxRecord) (now : Int) : Except String Int :=
  if record.maxAttempts ≤ record.attempts then .ok now
  else (fun backoff : Nat => now + backoff) <$> notificationBackoffMs record.attempts

/-- `markNotificationFailed`. -/
def markNotificationFailed (db : Database) (record : NotificationOutboxRecord)
    (leaseToken : Option String) (failureCode : String) (now : Int) : Except String Database := do
  require (isSafeFailureCode failureCode.toUpper = true) "NOTIFICATION_FAILURE_CODE_INVALID"
  let nextAttemptAt ← nextAttemptAfter record now
  db.updateLeased record.id leaseToken
    (·.fail (decide (record.maxAttempts ≤ record.attempts)) nextAttemptAt failureCode.toUpper)

/-- The data of `retryDeadLetterNotification`. -/
def NotificationOutboxRecord.restart (now : Int) (record : NotificationOutboxRecord) :
    NotificationOutboxRecord :=
  { record with
    status := .pending, attempts := 0, nextAttemptAt := now, leaseToken := none
    leaseUntil := none, lastFailureCode := none, providerMessageId := none, deliveredAt := none }

/-- `retryDeadLetterNotification`. -/
def retryDeadLetterNotification (db : Database) (id : String) (now : Int) :
    Except String Database := do
  assertSafeReference id "ID"
  require (db.outbox.countP (fun row => row.id = id && row.status = .deadLetter) = 1)
    "NOTIFICATION_DEAD_LETTER_NOT_FOUND"
  return {
    outbox := KeyedList.updateMany (fun row => row.id = id && row.status = .deadLetter)
      (NotificationOutboxRecord.restart now) db.outbox }

/-! ## The provider -/

/-- `NotificationDelivery['terminal']`. -/
inductive Terminal where
  | delivered
  | accepted
deriving DecidableEq

/-- `NotificationDelivery`. -/
structure NotificationDelivery where
  providerMessageId : String
  terminal : Terminal
deriving DecidableEq

/-- The error of a delivery.  A `NotificationProviderError` has a safe code. -/
inductive DeliveryError where
  | provider (code : String) (safe : isSafeFailureCode code = true)
  | other

/-- `new NotificationProviderError(code)`, whose constructor refuses an unsafe code. -/
def notificationProviderError (code : String) : DeliveryError :=
  if safe : isSafeFailureCode code = true then .provider code safe else .other

/-- `notificationFailureCode`. -/
def notificationFailureCode : DeliveryError → String
  | .provider code _ => code
  | .other => "PROVIDER_DELIVERY_FAILED"

/-- The columns of a user that the provider reads. -/
structure Recipient where
  email : String
  active : Bool
  disabledAt : Option Int

/-- What the provider's service answers: `ok`, and the two fields of the body where they
are strings. -/
structure ProviderResponse where
  ok : Bool
  id : Option String := none
  lastEvent : Option String := none

/-- `ResendNotificationProvider.deliver`, on the user that it reads and the response to its
request, which is `none` where there is none. -/
def ResendNotificationProvider.deliver (record : NotificationOutboxRecord)
    (user : Option Recipient) (response : Option ProviderResponse) :
    Except DeliveryError NotificationDelivery :=
  if record.recipientUserId.getD "" = "" then
    .error (notificationProviderError "RECIPIENT_REFERENCE_MISSING")
  else if user.all (fun user => !user.active || user.disabledAt.isSome || user.email = "") then
    .error (notificationProviderError "RECIPIENT_UNAVAILABLE")
  else
    match response with
    | none => .error .other
    | some response =>
      let previous := record.providerMessageId.getD ""
      if previous ≠ "" then
        if response.ok = false then
          .error (notificationProviderError "PROVIDER_RECEIPT_UNAVAILABLE")
        else
          .ok {
            providerMessageId := previous
            terminal := if response.lastEvent = some "delivered" then .delivered else .accepted }
      else if response.ok = false then .error (notificationProviderError "PROVIDER_REJECTED")
      else
        match response.id with
        | none => .error (notificationProviderError "PROVIDER_RECEIPT_INVALID")
        | some id =>
          if isSafeReference id then .ok { providerMessageId := id, terminal := .accepted }
          else .error (notificationProviderError "PROVIDER_RECEIPT_INVALID")

/-! ## The calls -/

/-- What `processNotificationBatch` counts. -/
structure Tally where
  delivered : Nat := 0
  failed : Nat := 0
  deadLettered : Nat := 0

/-- The loop of `processNotificationBatch` at one record. -/
structure Batch where
  record : NotificationOutboxRecord
  rest : List NotificationOutboxRecord
  tally : Tally

/-- What the loop does next with its record. -/
inductive Place where
  /-- `provider.deliver`. -/
  | deliver
  /-- `markNotificationDelivered` or `markNotificationAccepted`. -/
  | mark (result : NotificationDelivery)
  /-- `markNotificationFailed`. -/
  | fail (failureCode : String)

/-- A call of `processNotificationBatch`. -/
inductive Call where
  | claim (input : BatchInput)
  | record (batch : Batch) (place : Place)

/-- What the world outside answers. -/
inductive Input where
  /-- The statement is made.  `now` is the date, `uuid` the random id that a claim draws,
  `locked` the rows that others hold. -/
  | proceed (now : Int) (uuid : String) (locked : List String)
  /-- The provider answers. -/
  | answered (result : Except DeliveryError NotificationDelivery)
  /-- The statement fails. -/
  | failure
  /-- The process stops. -/
  | crash

/-- The loop at the first of the remaining records. -/
def nextRecord (tally : Tally) : List NotificationOutboxRecord → Option Call
  | [] => none
  | record :: rest => some (.record { record := record, rest := rest, tally := tally } .deliver)

namespace Batch

/-- The loop after its record. -/
def next (batch : Batch) (tally : Tally) : Option Call := nextRecord tally batch.rest

/-- The update that records what the provider answered. -/
def mark (batch : Batch) (db : Database) (result : NotificationDelivery) (now : Int) :
    Except String Database :=
  match result.terminal with
  | .delivered =>
    markNotificationDelivered db batch.record.id batch.record.leaseToken result.providerMessageId
      now
  | .accepted =>
    markNotificationAccepted db batch.record.id batch.record.leaseToken result.providerMessageId
      (now + 60000)

/-- What the loop counts of an answer. -/
def counted (batch : Batch) (result : NotificationDelivery) : Tally :=
  match result.terminal with
  | .delivered => { batch.tally with delivered := batch.tally.delivered + 1 }
  | .accepted => batch.tally

/-- What the loop counts of a failure. -/
def countedFailure (batch : Batch) : Tally :=
  if batch.record.maxAttempts ≤ batch.record.attempts then
    { batch.tally with deadLettered := batch.tally.deadLettered + 1 }
  else { batch.tally with failed := batch.tally.failed + 1 }

/-- The next statement of the loop.  The provider's answer comes as another input. -/
def run (batch : Batch) (db : Database) (now : Int) : Place → Option (Database × Option Call)
  | .deliver => none
  | .mark result =>
    match batch.mark db result now with
    | .ok db' => some (db', batch.next (batch.counted result))
    | .error _ => some (db, some (.record batch (.fail (notificationFailureCode .other))))
  | .fail failureCode =>
    match markNotificationFailed db batch.record batch.record.leaseToken failureCode now with
    | .ok db' => some (db', batch.next batch.countedFailure)
    | .error _ => some (db, none)

/-- The provider's answer. -/
def answered (batch : Batch) : Except DeliveryError NotificationDelivery → Call
  | .ok result => .record batch (.mark result)
  | .error error => .record batch (.fail (notificationFailureCode error))

/-- A statement that fails is a failed delivery, and ends the call where that is being
stored. -/
def broken (batch : Batch) : Place → Option Call
  | .fail _ => none
  | _ => some (.record batch (.fail (notificationFailureCode .other)))

end Batch

/-- One step of a call. -/
def Call.advance (db : Database) (input : Input) : Call → Option (Database × Option Call)
  | .claim batchInput =>
    match input with
    | .proceed now uuid locked =>
      match claimNotificationBatch db batchInput now uuid locked with
      | .ok (db', records) => some (db', nextRecord {} records)
      | .error _ => some (db, none)
    | .answered _ => none
    | .failure => some (db, none)
    | .crash => some (db, none)
  | .record batch place =>
    match input with
    | .proceed now _ _ => batch.run db now place
    | .answered result =>
      match place with
      | .deliver => some (db, some (batch.answered result))
      | _ => none
    | .failure => some (db, batch.broken place)
    | .crash => some (db, none)

/-- A call begins with its claim. -/
def Call.isInitial : Call → Bool
  | .claim _ => true
  | .record .. => false

/-- What happens to the table besides. -/
inductive Env where
  /-- `enqueueNotification`. -/
  | enqueueNotification (input : NewNotification) (id : String) (now : Int)
  /-- The trigger on `GovernanceNotification`, and the other modules that store
  notifications. -/
  | insert (input : NewNotification) (id : String) (now : Int)
  /-- `retryDeadLetterNotification`. -/
  | retryDeadLetterNotification (id : String) (now : Int)

/-- An operation that fails changes nothing. -/
def Env.apply (db : Database) : Env → Database
  | .enqueueNotification input id now =>
    (Notifications.enqueueNotification db input id now).toOption.getD db
  | .insert input id now => db.insert input id now
  | .retryDeadLetterNotification id now =>
    (Notifications.retryDeadLetterNotification db id now).toOption.getD db

/-- Any number of workers over the outbox. -/
def notifications : Program Database Call Env Input where
  env := Env.apply
  initial := Call.isInitial
  advance db input call := call.advance db input

end AvantimePlatform.Notifications
