import AvantimePlatform.Jira.WebhookPayload

/-!
# Ingesting webhooks

`ingestJiraWebhook`.  A webhook that passes the checks is stored as an inbound event,
unless one of two unique keys refuses the row: the fingerprint of the body, or the provider
event id at the origin of the tenant.

The fingerprint tells any two bodies apart.  The provider event id does not: where the
payload gives none it is made from the type, the entity and the time, and the issue is no
part of it.  `webhooks_stored_iff` says for which pairs of webhooks both are stored.
-/

namespace AvantimePlatform.Jira

open AvantimePlatform AvantimePlatform.Checked

/-- What `ingestJiraWebhook` reads of a `JiraWebhookConfiguration`. -/
structure JiraWebhookConfiguration where
  enabled : Bool
  secret : Option String
  allowedOrigin : Option String
  replayWindowMs : Int
  maximumPayloadBytes : Nat
  enabledEvents : List JiraWebhookEventType
  maximumAttempts : Nat

/-- A row of `JiraInboundEvent`, with the columns that only the ingestion uses. -/
structure WebhookEventRow extends JiraInboundEventRecord where
  providerEventId : List Char
  eventType : JiraWebhookEventType
  jiraTenantOrigin : String
deriving DecidableEq

/-- The tables of the ingestion. -/
structure WebhookTables where
  requests : List SupportRequest := []
  events : List WebhookEventRow := []

/-- The input of `ingestJiraWebhook`. -/
structure WebhookInput where
  rawBody : String
  signature : Option String
  now : Int

/-- `JiraWebhookIngestResult`. -/
inductive JiraWebhookIngestResult where
  | accepted (eventId : String)
  | duplicate (eventId : String)
  | unsupportedEvent
  | unknownIssue
deriving DecidableEq

/-- A webhook that has passed the checks. -/
structure CheckedWebhook where
  payload : Json
  eventType : JiraWebhookEventType
  origin : String
  occurredAt : Int
  issueId : String
  issueKey : String
  normalized : NormalizedJiraInboundPayload

section Ingest

variable (runtime : WebhookRuntime) (configuration : JiraWebhookConfiguration)

/-- `createJiraWebhookSignature`. -/
def createJiraWebhookSignature (secret rawBody : String) : String :=
  "sha256=" ++ runtime.hmacSha256 secret rawBody

/-- `/^sha256=[a-f0-9]{64}$/u`. -/
def isSignatureText (signature : String) : Bool :=
  signature.toList.take 7 == "sha256=".toList && (signature.toList.drop 7).length == 64 &&
    (signature.toList.drop 7).all fun c => c.isDigit || decide ('a' ≤ c) && decide (c ≤ 'f')

/-- `verifyJiraWebhookSignature`. -/
def verifyJiraWebhookSignature (secret rawBody : String) (signature : Option String) :
    Except WebhookError Unit :=
  match signature with
  | none => .error ⟨"JIRA_WEBHOOK_SIGNATURE_INVALID", some 401⟩
  | some signature =>
    require (isSignatureText signature ∧ signature = createJiraWebhookSignature runtime secret rawBody)
      ⟨"JIRA_WEBHOOK_SIGNATURE_INVALID", some 401⟩

/-- The secret and the origin of a configuration that is enabled. -/
def JiraWebhookConfiguration.active : Except WebhookError (String × String) :=
  match configuration.secret, configuration.allowedOrigin with
  | some secret, some allowedOrigin =>
    if configuration.enabled = true ∧ secret ≠ "" ∧ allowedOrigin ≠ "" then .ok (secret, allowedOrigin)
    else .error ⟨"JIRA_WEBHOOK_DISABLED", some 404⟩
  | _, _ => .error ⟨"JIRA_WEBHOOK_DISABLED", some 404⟩

/-- `object(JSON.parse(input.rawBody), ..)`. -/
def parsePayload (rawBody : String) : Except WebhookError Json :=
  object (runtime.parseJson rawBody) "JIRA_WEBHOOK_JSON_INVALID"

/-- `payload.webhookEvent`, if it is enabled. -/
def enabledEventType (payload : Json) : Option JiraWebhookEventType :=
  (JiraWebhookEventType.all.find? fun eventType =>
    Json.asString? (payload.member? "webhookEvent") == some eventType.name).filter
      fun eventType => decide (eventType ∈ configuration.enabledEvents)

/-- The checks of `ingestJiraWebhook`, from the size of the body to `normalizeEvent`.  It is
`none` for an event that is not supported. -/
def checkWebhook (input : WebhookInput) : Except WebhookError (Option CheckedWebhook) := do
  let (secret, allowedOrigin) ← configuration.active
  require (input.rawBody.utf8ByteSize ≤ configuration.maximumPayloadBytes)
    ⟨"JIRA_WEBHOOK_PAYLOAD_TOO_LARGE", some 413⟩
  verifyJiraWebhookSignature runtime secret input.rawBody input.signature
  let payload ← parsePayload runtime input.rawBody
  match enabledEventType configuration payload with
  | none => return none
  | some eventType =>
    let issue ← object (payload.member? "issue") "JIRA_WEBHOOK_ISSUE_INVALID"
    let origin ← jiraOrigin runtime issue payload
    require (origin = allowedOrigin) ⟨"JIRA_WEBHOOK_TENANT_DENIED", some 403⟩
    let occurredAt ← date runtime (payload.member? "timestamp") "JIRA_WEBHOOK_TIMESTAMP_INVALID"
    require (|input.now - occurredAt| ≤ configuration.replayWindowMs)
      ⟨"JIRA_WEBHOOK_REPLAY_EXPIRED", some 409⟩
    let issueId ← safeProviderReference (issue.member? "id") "JIRA_WEBHOOK_ISSUE_ID_INVALID"
    let issueKey ← safeProviderReference (issue.member? "key") "JIRA_WEBHOOK_ISSUE_KEY_INVALID"
    let normalized ← normalizeEvent runtime payload eventType occurredAt
    return some {
      payload := payload, eventType := eventType, origin := origin, occurredAt := occurredAt
      issueId := issueId, issueKey := issueKey, normalized := normalized }

/-- `jiraEventFingerprint`. -/
def jiraEventFingerprint (origin rawBody : String) : String :=
  runtime.sha256 (origin ++ "\x00" ++ rawBody)

/-- What the provider event id of a checked webhook is made from. -/
def CheckedWebhook.reference (webhook : CheckedWebhook) : Except WebhookError EventReference :=
  eventReference runtime webhook.payload webhook.eventType webhook.normalized webhook.occurredAt

/-- The row that a checked webhook is stored as. -/
def CheckedWebhook.row (webhook : CheckedWebhook) (request : SupportRequest)
    (reference : EventReference) (fingerprint id : String) (createdAt : Int) : WebhookEventRow where
  id := id
  eventFingerprint := fingerprint
  jiraIssueId := webhook.issueId
  jiraIssueKey := webhook.issueKey
  requestId := request.id
  companyId := request.companyId
  normalizedPayload := some webhook.normalized
  occurredAt := webhook.occurredAt
  createdAt := createdAt
  maxAttempts := configuration.maximumAttempts
  nextAttemptAt := createdAt
  correlationId := "jira-hook-" ++ String.ofList (fingerprint.toList.take 32)
  providerEventId := reference.text
  eventType := webhook.eventType
  jiraTenantOrigin := webhook.origin

/-- The row has a key of the new one that is unique, its id apart. -/
def WebhookEventRow.isSameEvent (row new : WebhookEventRow) : Bool :=
  row.eventFingerprint = new.eventFingerprint ||
    row.jiraTenantOrigin = new.jiraTenantOrigin && row.providerEventId = new.providerEventId

/-- The unique keys of `JiraInboundEvent` admit a row. -/
def WebhookTables.admitsEvent (tables : WebhookTables) (new : WebhookEventRow) : Bool :=
  tables.events.all fun row => row.id ≠ new.id && !row.isSameEvent new

/-- The transaction of `ingestJiraWebhook`, and what it does when a unique key refuses the
row. -/
def storeEvent (tables : WebhookTables) (new : WebhookEventRow) :
    Except WebhookError (WebhookTables × JiraWebhookIngestResult) :=
  if tables.admitsEvent new then
    .ok ({ tables with events := tables.events ++ [new] }, .accepted new.id)
  else
    match tables.events.find? (·.isSameEvent new) with
    | some existing => .ok (tables, .duplicate existing.id)
    | none => .error ⟨"NotFoundError", none⟩

/-- `ingestJiraWebhook`.  `id` and `createdAt` are what the database gives a new row. -/
def ingestJiraWebhook (tables : WebhookTables) (input : WebhookInput) (id : String)
    (createdAt : Int) : Except WebhookError (WebhookTables × JiraWebhookIngestResult) := do
  match ← checkWebhook runtime configuration input with
  | none => return (tables, .unsupportedEvent)
  | some webhook =>
    match tables.requests.find? fun request =>
      request.jiraIssueId = some webhook.issueId && request.jiraKey = some webhook.issueKey with
    | none => return (tables, .unknownIssue)
    | some request =>
      let reference ← webhook.reference runtime
      storeEvent tables (webhook.row configuration request reference
        (jiraEventFingerprint runtime webhook.origin input.rawBody) id createdAt)

end Ingest

/-! ## What the checks leave -/

section Checks

variable {runtime : WebhookRuntime} {configuration : JiraWebhookConfiguration}

/-- What a webhook that passes the checks is, but for the time it arrives. -/
theorem checkWebhook_eq_some {input : WebhookInput} {webhook : CheckedWebhook}
    (h : checkWebhook runtime configuration input = .ok (some webhook)) :
    configuration.allowedOrigin = some webhook.origin ∧
      parsePayload runtime input.rawBody = .ok webhook.payload ∧
      enabledEventType configuration webhook.payload = some webhook.eventType ∧
      date runtime (webhook.payload.member? "timestamp") "JIRA_WEBHOOK_TIMESTAMP_INVALID" =
        .ok webhook.occurredAt ∧
      (∃ issue, object (webhook.payload.member? "issue") "JIRA_WEBHOOK_ISSUE_INVALID" = .ok issue ∧
        safeProviderReference (issue.member? "id") "JIRA_WEBHOOK_ISSUE_ID_INVALID" =
          .ok webhook.issueId ∧
        safeProviderReference (issue.member? "key") "JIRA_WEBHOOK_ISSUE_KEY_INVALID" =
          .ok webhook.issueKey) ∧
      normalizeEvent runtime webhook.payload webhook.eventType webhook.occurredAt =
        .ok webhook.normalized := by
  unfold checkWebhook at h
  obtain ⟨⟨secret, allowedOrigin⟩, hactive, h⟩ := bind_eq_ok.mp h
  have h := (seq_eq_ok.mp (seq_eq_ok.mp h).2).2
  obtain ⟨payload, hpayload, h⟩ := bind_eq_ok.mp h
  have horigin : configuration.allowedOrigin = some allowedOrigin := by
    unfold JiraWebhookConfiguration.active at hactive
    split at hactive
    · next hsecret hallowed =>
      rw [hallowed]
      split at hactive
      · cases hactive
        rfl
      · cases hactive
    · cases hactive
  cases htype : enabledEventType configuration payload with
  | none => simp only [htype] at h; cases h
  | some eventType =>
      simp only [htype] at h
      obtain ⟨issue, hissue, h⟩ := bind_eq_ok.mp h
      obtain ⟨origin, -, h⟩ := bind_eq_ok.mp h
      obtain ⟨hsame, h⟩ := seq_eq_ok.mp h
      obtain ⟨occurredAt, hoccurred, h⟩ := bind_eq_ok.mp h
      have h := (seq_eq_ok.mp h).2
      obtain ⟨issueId, hid, h⟩ := bind_eq_ok.mp h
      obtain ⟨issueKey, hkey, h⟩ := bind_eq_ok.mp h
      obtain ⟨normalized, hnormalized, h⟩ := bind_eq_ok.mp h
      cases h
      rw [require_eq_ok] at hsame
      exact ⟨hsame ▸ horigin, hpayload, htype, hoccurred, ⟨issue, hissue, hid, hkey⟩, hnormalized⟩

/-- Two webhooks with one body are the same webhook. -/
theorem checkWebhook_inj {first second : WebhookInput} {webhook webhook' : CheckedWebhook}
    (h : checkWebhook runtime configuration first = .ok (some webhook))
    (h' : checkWebhook runtime configuration second = .ok (some webhook'))
    (hbody : first.rawBody = second.rawBody) : webhook = webhook' := by
  obtain ⟨horigin, hpayload, htype, hoccurred, ⟨issue, hissue, hid, hkey⟩, hnormalized⟩ :=
    checkWebhook_eq_some h
  obtain ⟨horigin', hpayload', htype', hoccurred', ⟨issue', hissue', hid', hkey'⟩, hnormalized'⟩ :=
    checkWebhook_eq_some h'
  obtain ⟨payload, eventType, origin, occurredAt, issueId, issueKey, normalized⟩ := webhook
  obtain ⟨payload', eventType', origin', occurredAt', issueId', issueKey', normalized'⟩ := webhook'
  obtain rfl : origin = origin' := Option.some.inj (horigin.symm.trans horigin')
  rw [← hbody] at hpayload'
  obtain rfl : payload = payload' := Except.ok.inj (hpayload.symm.trans hpayload')
  obtain rfl : eventType = eventType' := Option.some.inj (htype.symm.trans htype')
  obtain rfl : occurredAt = occurredAt' := Except.ok.inj (hoccurred.symm.trans hoccurred')
  obtain rfl : issue = issue' := Except.ok.inj (hissue.symm.trans hissue')
  obtain rfl : issueId = issueId' := Except.ok.inj (hid.symm.trans hid')
  obtain rfl : issueKey = issueKey' := Except.ok.inj (hkey.symm.trans hkey')
  obtain rfl : normalized = normalized' := Except.ok.inj (hnormalized.symm.trans hnormalized')
  rfl

/-- The fingerprints of two bodies at one origin differ. -/
theorem fingerprint_ne (hsha : Function.Injective runtime.sha256) {origin body body' : String}
    (hbody : body ≠ body') :
    jiraEventFingerprint runtime origin body ≠ jiraEventFingerprint runtime origin body' := by
  intro heq
  have happend : origin ++ "\x00" ++ body = origin ++ "\x00" ++ body' := hsha heq
  have hlists := congrArg String.toList happend
  simp only [String.toList_append] at hlists
  exact hbody (String.toList_inj.mp (List.append_cancel_left hlists))

end Checks

/-! ## Which pairs are stored -/

section Stored

variable {runtime : WebhookRuntime} {configuration : JiraWebhookConfiguration}
  {tables tables' : WebhookTables}

/-- Ingested on its own, the webhook passes the checks as `webhook` and is stored. -/
def StoredAlone (runtime : WebhookRuntime) (configuration : JiraWebhookConfiguration)
    (tables : WebhookTables) (input : WebhookInput) (id : String) (createdAt : Int)
    (webhook : CheckedWebhook) : Prop :=
  checkWebhook runtime configuration input = .ok (some webhook) ∧
    ∃ tables', ingestJiraWebhook runtime configuration tables input id createdAt =
      .ok (tables', .accepted id)

/-- Ingested one after the other, both webhooks are stored. -/
def BothStored (runtime : WebhookRuntime) (configuration : JiraWebhookConfiguration)
    (tables : WebhookTables) (first second : WebhookInput) (id id' : String)
    (createdAt createdAt' : Int) : Prop :=
  ∃ tables' tables'',
    ingestJiraWebhook runtime configuration tables first id createdAt = .ok (tables', .accepted id) ∧
    ingestJiraWebhook runtime configuration tables' second id' createdAt' =
      .ok (tables'', .accepted id') ∧
    (∃ row ∈ tables''.events, row.id = id) ∧ ∃ row ∈ tables''.events, row.id = id'

/-- The webhooks are for two issues, or they carry two normalized payloads. -/
def CheckedWebhook.IsOther (webhook webhook' : CheckedWebhook) : Prop :=
  webhook.issueId ≠ webhook'.issueId ∨ webhook.normalized ≠ webhook'.normalized

/-- The provider event ids of the webhooks are told apart. -/
def CheckedWebhook.ToldApart (runtime : WebhookRuntime) (webhook webhook' : CheckedWebhook) : Prop :=
  ∀ reference reference', webhook.reference runtime = .ok reference →
    webhook'.reference runtime = .ok reference' → Jira.ToldApart reference reference'

/-- The row that a webhook is stored as, and what the table must not have. -/
theorem stored_iff {input : WebhookInput} {id : String} {createdAt : Int} {webhook : CheckedWebhook}
    (hcheck : checkWebhook runtime configuration input = .ok (some webhook)) :
    ingestJiraWebhook runtime configuration tables input id createdAt = .ok (tables', .accepted id) ↔
      ∃ request reference,
        (tables.requests.find? fun request => request.jiraIssueId = some webhook.issueId &&
          request.jiraKey = some webhook.issueKey) = some request ∧
        webhook.reference runtime = .ok reference ∧
        tables.admitsEvent (webhook.row configuration request reference
          (jiraEventFingerprint runtime webhook.origin input.rawBody) id createdAt) = true ∧
        tables' = { tables with events := tables.events ++ [webhook.row configuration request reference
          (jiraEventFingerprint runtime webhook.origin input.rawBody) id createdAt] } := by
  unfold ingestJiraWebhook
  rw [hcheck]
  show (match tables.requests.find? _ with | none => _ | some _ => _) = _ ↔ _
  cases hrequest : tables.requests.find? fun request => request.jiraIssueId = some webhook.issueId &&
      request.jiraKey = some webhook.issueKey with
  | none => simp [pure, Except.pure]
  | some request =>
      show (webhook.reference runtime >>= _) = _ ↔ _
      cases hreference : webhook.reference runtime with
      | error e => simp [bind, Except.bind]
      | ok reference =>
          show storeEvent tables _ = _ ↔ _
          unfold storeEvent
          set new := webhook.row configuration request reference
            (jiraEventFingerprint runtime webhook.origin input.rawBody) id createdAt with hnew
          by_cases hadmits : tables.admitsEvent new = true
          · have hid : new.id = id := rfl
            rw [if_pos hadmits, hid]
            constructor
            · intro h
              cases h
              exact ⟨request, reference, rfl, rfl, hadmits, rfl⟩
            · rintro ⟨request', reference', hrequest', hreference', -, rfl⟩
              cases hrequest'
              cases hreference'
              rfl
          · rw [if_neg hadmits]
            constructor
            · intro h
              split at h <;> cases h
            · rintro ⟨request', reference', hrequest', hreference', hadmits', -⟩
              cases hrequest'
              cases hreference'
              exact absurd hadmits' hadmits

/-- A webhook whose provider event id or fingerprint is in the table is a duplicate of the first
such row. -/
theorem duplicate_of_isSameEvent {input : WebhookInput} {id : String} {createdAt : Int}
    {webhook : CheckedWebhook} {request : SupportRequest} {reference : EventReference}
    {existing : WebhookEventRow}
    (hcheck : checkWebhook runtime configuration input = .ok (some webhook))
    (hrequest : (tables.requests.find? fun request => request.jiraIssueId = some webhook.issueId &&
      request.jiraKey = some webhook.issueKey) = some request)
    (hreference : webhook.reference runtime = .ok reference)
    (hexisting : tables.events.find? (·.isSameEvent (webhook.row configuration request reference
      (jiraEventFingerprint runtime webhook.origin input.rawBody) id createdAt)) = some existing) :
    ingestJiraWebhook runtime configuration tables input id createdAt =
      .ok (tables, .duplicate existing.id) := by
  unfold ingestJiraWebhook
  rw [hcheck]
  show (match tables.requests.find? _ with | none => _ | some _ => _) = _
  rw [hrequest]
  show (webhook.reference runtime >>= _) = _
  rw [hreference]
  show storeEvent tables _ = _
  unfold storeEvent
  have hrefused : ¬tables.admitsEvent (webhook.row configuration request reference
      (jiraEventFingerprint runtime webhook.origin input.rawBody) id createdAt) = true := by
    intro hadmits
    have hrow := List.all_eq_true.mp hadmits existing (List.mem_of_find?_eq_some hexisting)
    have hsame := List.find?_some hexisting
    simp [hsame] at hrow
  rw [if_neg hrefused, hexisting]

/-- A row is admitted behind another one when it was admitted before, and they differ in
the keys. -/
theorem admitsEvent_append {row new : WebhookEventRow} (hnew : tables.admitsEvent new = true) :
    ({ tables with events := tables.events ++ [row] } : WebhookTables).admitsEvent new = true ↔
      row.id ≠ new.id ∧ row.isSameEvent new = false := by
  have hall : tables.events.all (fun row => row.id ≠ new.id && !row.isSameEvent new) = true := hnew
  unfold WebhookTables.admitsEvent
  rw [List.all_append, hall]
  simp

/-- One order: the second webhook is stored behind the first one exactly when the
references are told apart. -/
theorem bothStored_iff (hsha : Function.Injective runtime.sha256) {first second : WebhookInput}
    {id id' : String} {createdAt createdAt' : Int} {webhook webhook' : CheckedWebhook}
    (hfirst : StoredAlone runtime configuration tables first id createdAt webhook)
    (hsecond : StoredAlone runtime configuration tables second id' createdAt' webhook')
    (hids : id ≠ id') (hother : webhook.IsOther webhook') :
    BothStored runtime configuration tables first second id id' createdAt createdAt' ↔
      webhook.ToldApart runtime webhook' := by
  obtain ⟨hcheck, tables₁, hstored⟩ := hfirst
  obtain ⟨hcheck', tables₂, hstored'⟩ := hsecond
  obtain ⟨request, reference, hrequest, hreference, hadmits, rfl⟩ := (stored_iff hcheck).mp hstored
  obtain ⟨request', reference', hrequest', hreference', hadmits', rfl⟩ :=
    (stored_iff hcheck').mp hstored'
  -- The bodies differ, and so do the fingerprints; the origin is that of the configuration.
  have hbody : first.rawBody ≠ second.rawBody := by
    intro heq
    obtain rfl := checkWebhook_inj hcheck hcheck' heq
    rcases hother with h | h
    · exact h rfl
    · exact h rfl
  have horigin : webhook.origin = webhook'.origin := by
    have h := (checkWebhook_eq_some hcheck).1
    rw [(checkWebhook_eq_some hcheck').1] at h
    exact (Option.some.inj h).symm
  have hfingerprint : jiraEventFingerprint runtime webhook'.origin first.rawBody ≠
      jiraEventFingerprint runtime webhook'.origin second.rawBody := fingerprint_ne hsha hbody
  have hapart : webhook.ToldApart runtime webhook' ↔ reference.text ≠ reference'.text := by
    rw [text_ne_iff]
    constructor
    · intro h
      exact h reference reference' hreference hreference'
    · intro h r r' hr hr'
      rw [hreference] at hr
      rw [hreference'] at hr'
      cases hr
      cases hr'
      exact h
  set row := webhook.row configuration request reference
    (jiraEventFingerprint runtime webhook.origin first.rawBody) id createdAt with hrow
  set new := webhook'.row configuration request' reference'
    (jiraEventFingerprint runtime webhook'.origin second.rawBody) id' createdAt' with hnew
  have hkeys : row.isSameEvent new = false ↔ reference.text ≠ reference'.text := by
    have hrowF : row.eventFingerprint = jiraEventFingerprint runtime webhook'.origin first.rawBody := by
      rw [← horigin]
      rfl
    have hnewF : new.eventFingerprint = jiraEventFingerprint runtime webhook'.origin second.rawBody :=
      rfl
    have hsame : row.jiraTenantOrigin = new.jiraTenantOrigin := horigin
    have hrowId : row.providerEventId = reference.text := rfl
    have hnewId : new.providerEventId = reference'.text := rfl
    simp [WebhookEventRow.isSameEvent, hrowF, hnewF, hfingerprint, hsame, hrowId, hnewId]
  rw [hapart, ← hkeys]
  have hbehind : ({ tables with events := tables.events ++ [row] } : WebhookTables).admitsEvent new =
      true ↔ row.id ≠ new.id ∧ row.isSameEvent new = false := admitsEvent_append hadmits'
  constructor
  · rintro ⟨tables₁, tables₂, h₁, h₂, -, -⟩
    rw [hstored] at h₁
    cases h₁
    obtain ⟨request₂, reference₂, hrequest₂, hreference₂, hadmits₂, -⟩ := (stored_iff hcheck').mp h₂
    obtain rfl := Option.some.inj (hrequest'.symm.trans hrequest₂)
    obtain rfl := Except.ok.inj (hreference'.symm.trans hreference₂)
    exact (hbehind.mp hadmits₂).2
  · intro hdifferent
    have hbehind' := hbehind.mpr ⟨hids, hdifferent⟩
    refine ⟨_, _, hstored, (stored_iff hcheck').mpr
      ⟨request', reference', hrequest', hreference', hbehind', rfl⟩, ⟨row, ?_, rfl⟩, new, ?_, rfl⟩
    · exact List.mem_append_left _ (List.mem_append_right _ List.mem_cons_self)
    · exact List.mem_append_right _ List.mem_cons_self

theorem ToldApart.symm {first second : EventReference} (h : ToldApart first second) :
    ToldApart second first :=
  (text_ne_iff second first).mp ((text_ne_iff first second).mpr h).symm

end Stored

/-! ## Two issues that are deleted at once -/

section Deleted

/-- The body that Jira sends when an issue is deleted. -/
def deletedBody (issueId issueKey : String) : String :=
  "\x7b\"webhookEvent\":\"jira:issue_deleted\",\"timestamp\":1767225600000,\"issue\":\x7b\"id\":\"" ++
    issueId ++ "\",\"key\":\"" ++ issueKey ++
    "\",\"self\":\"https://avantime.atlassian.net/rest/api/2/issue/" ++ issueId ++ "\"\x7d\x7d"

/-- The value that it stands for. -/
def deletedPayload (issueId issueKey : String) : Json :=
  .object [("webhookEvent", .string "jira:issue_deleted"), ("timestamp", .number (.ofInt 1767225600000)),
    ("issue", .object [("id", .string issueId), ("key", .string issueKey),
      ("self", .string ("https://avantime.atlassian.net/rest/api/2/issue/" ++ issueId))])]

/-- A function that has the given values at two texts, and elsewhere tells texts apart. -/
def atTwo (first second value value' other : String) : String :=
  if other = first then value else if other = second then value' else "of " ++ other

theorem atTwo_injective {first second value value' : String} (hvalues : value ≠ value')
    (hvalue : value.toList.head? ≠ some 'o') (hvalue' : value'.toList.head? ≠ some 'o') :
    Function.Injective (atTwo first second value value') := by
  have hother : ∀ text : String, ("of " ++ text).toList.head? = some 'o' := by
    intro text
    rw [String.toList_append]
    rfl
  intro a b h
  unfold atTwo at h
  split at h
  · next ha =>
    split at h
    · next hb => rw [ha, hb]
    · split at h
      · exact absurd h hvalues
      · exact absurd (h ▸ hother b) hvalue
  · split at h
    · next ha =>
      split at h
      · exact absurd h.symm hvalues
      · split at h
        · next hb => rw [ha, hb]
        · exact absurd (h ▸ hother b) hvalue'
    · split at h
      · exact absurd (h ▸ hother a) hvalue
      · split at h
        · exact absurd (h ▸ hother a) hvalue'
        · have hlists := congrArg String.toList h
          simp only [String.toList_append] at hlists
          exact String.toList_inj.mp (List.append_cancel_left hlists)

/-- The runtime at the two bodies of the example. -/
def deletedRuntime : WebhookRuntime where
  parseJson body :=
    if body = deletedBody "10001" "AV-1" then some (deletedPayload "10001" "AV-1")
    else if body = deletedBody "10002" "AV-2" then some (deletedPayload "10002" "AV-2")
    else none
  parseDate _ := none
  numberText _ := ""
  urlOrigin _ := some "https://avantime.atlassian.net"
  normalize text := text
  withoutTags text := text
  withoutLinks text := text
  withoutEmails text := text
  hmacSha256 _ := atTwo (deletedBody "10001" "AV-1") (deletedBody "10002" "AV-2")
    "531d0bab808c8fba90f25b4539b2558dc79fdd2cf9c64f8e7fd80f3bd9b3457c"
    "ef10165888929d53524f389e8fa4aa0d6fa2948d7be7a4cb666a7e013bdcbaec"
  sha256 := atTwo ("https://avantime.atlassian.net" ++ "\x00" ++ deletedBody "10001" "AV-1")
    ("https://avantime.atlassian.net" ++ "\x00" ++ deletedBody "10002" "AV-2")
    "b15a8ed2935d3a30719c9454f06c938ec89e5333678899afc59b6d11a10849f4"
    "9655b28672e6b4a1f37bafdb596071f149d4a969fbb437faeba0950d02bb30b0"

def deletedConfiguration : JiraWebhookConfiguration where
  enabled := true
  secret := some "correct-horse-battery-staple-0123456789"
  allowedOrigin := some "https://avantime.atlassian.net"
  replayWindowMs := 300000
  maximumPayloadBytes := 262144
  enabledEvents := JiraWebhookEventType.all
  maximumAttempts := 5

def deletedRequest (id issueId issueKey : String) : SupportRequest where
  id := id
  publicId := "AVP-" ++ id
  companyId := "c1"
  requesterId := "u1"
  jiraIssueId := some issueId
  jiraKey := some issueKey

def deletedTables : WebhookTables where
  requests := [deletedRequest "r1" "10001" "AV-1", deletedRequest "r2" "10002" "AV-2"]

def deletedWebhook (issueId issueKey : String) : CheckedWebhook where
  payload := deletedPayload issueId issueKey
  eventType := .issueDeleted
  origin := "https://avantime.atlassian.net"
  occurredAt := 1767225600000
  issueId := issueId
  issueKey := issueKey
  normalized := .issueDeleted (some 1767225600000)

/-- What both provider event ids are made from. -/
def deletedReference : EventReference :=
  .composed .issueDeleted (toString (1767225600000 : Int)) 1767225600000

/-- The row of the first webhook. -/
def firstRow : WebhookEventRow :=
  (deletedWebhook "10001" "AV-1").row deletedConfiguration (deletedRequest "r1" "10001" "AV-1")
    deletedReference (jiraEventFingerprint deletedRuntime "https://avantime.atlassian.net"
      (deletedBody "10001" "AV-1")) "e1" 1767225600500

def firstInput : WebhookInput where
  rawBody := deletedBody "10001" "AV-1"
  signature := some "sha256=531d0bab808c8fba90f25b4539b2558dc79fdd2cf9c64f8e7fd80f3bd9b3457c"
  now := 1767225600500

def secondInput : WebhookInput where
  rawBody := deletedBody "10002" "AV-2"
  signature := some "sha256=ef10165888929d53524f389e8fa4aa0d6fa2948d7be7a4cb666a7e013bdcbaec"
  now := 1767225600500

/-- The checks of a webhook of the example. -/
theorem checkWebhook_deleted {input : WebhookInput} {issueId issueKey : String}
    (hsize : input.rawBody.utf8ByteSize ≤ 262144)
    (hsignature : verifyJiraWebhookSignature deletedRuntime "correct-horse-battery-staple-0123456789"
      input.rawBody input.signature = .ok ())
    (hparse : deletedRuntime.parseJson input.rawBody = some (deletedPayload issueId issueKey))
    (hnow : input.now = 1767225600500) (hid : isSafeReference issueId = true)
    (hkey : isSafeReference issueKey = true) :
    checkWebhook deletedRuntime deletedConfiguration input =
      .ok (some (deletedWebhook issueId issueKey)) := by
  have hactive : deletedConfiguration.active =
      .ok ("correct-horse-battery-staple-0123456789", "https://avantime.atlassian.net") := by
    simp [JiraWebhookConfiguration.active, deletedConfiguration]
  have hpayload : parsePayload deletedRuntime input.rawBody = .ok (deletedPayload issueId issueKey) := by
    unfold parsePayload
    rw [hparse]
    rfl
  have htype : enabledEventType deletedConfiguration (deletedPayload issueId issueKey) =
      some .issueDeleted := by
    simp [enabledEventType, deletedConfiguration, deletedPayload, Json.member?, Json.asString?,
      JiraWebhookEventType.all, JiraWebhookEventType.name, List.find?]
  have hdate : date deletedRuntime ((deletedPayload issueId issueKey).member? "timestamp")
      "JIRA_WEBHOOK_TIMESTAMP_INVALID" = .ok 1767225600000 := by
    have hclip : timeClip (.ofInt 1767225600000) = some 1767225600000 := by decide
    simp [date, deletedPayload, Json.member?, List.lookup, hclip]
  have hreference : ∀ {value code : String}, isSafeReference value = true →
      safeProviderReference (some (.string value)) code = .ok value := by
    intro value code hvalue
    simp [safeProviderReference, Json.asString?, hvalue]
  have hnormalized : normalizeEvent deletedRuntime (deletedPayload issueId issueKey) .issueDeleted
      1767225600000 = .ok (.issueDeleted (some 1767225600000)) := rfl
  have horigin : jiraOrigin deletedRuntime (.object [("id", .string issueId), ("key", .string issueKey),
      ("self", .string ("https://avantime.atlassian.net/rest/api/2/issue/" ++ issueId))])
      (deletedPayload issueId issueKey) = .ok "https://avantime.atlassian.net" := by
    simp [jiraOrigin, Json.member?, Json.asString?, List.lookup, deletedRuntime]
  have hwindow : |input.now - 1767225600000| ≤ deletedConfiguration.replayWindowMs := by
    rw [hnow]
    decide
  unfold checkWebhook
  refine bind_eq_ok.mpr ⟨_, hactive, seq_eq_ok.mpr ⟨require_eq_ok.mpr hsize, ?_⟩⟩
  refine seq_eq_ok.mpr ⟨hsignature, bind_eq_ok.mpr ⟨_, hpayload, ?_⟩⟩
  simp only [htype]
  refine bind_eq_ok.mpr ⟨_, rfl, bind_eq_ok.mpr ⟨_, horigin, ?_⟩⟩
  refine seq_eq_ok.mpr ⟨require_eq_ok.mpr rfl, bind_eq_ok.mpr ⟨_, hdate, ?_⟩⟩
  refine seq_eq_ok.mpr ⟨require_eq_ok.mpr hwindow, bind_eq_ok.mpr ⟨_, hreference hid, ?_⟩⟩
  exact bind_eq_ok.mpr ⟨_, hreference hkey, bind_eq_ok.mpr ⟨_, hnormalized, rfl⟩⟩

theorem checkWebhook_firstInput : checkWebhook deletedRuntime deletedConfiguration firstInput =
    .ok (some (deletedWebhook "10001" "AV-1")) := by
  have hbody : firstInput.rawBody = deletedBody "10001" "AV-1" := rfl
  have hhmac : deletedRuntime.hmacSha256 "correct-horse-battery-staple-0123456789" firstInput.rawBody =
      "531d0bab808c8fba90f25b4539b2558dc79fdd2cf9c64f8e7fd80f3bd9b3457c" := by
    simp only [deletedRuntime, atTwo, if_pos hbody]
  apply checkWebhook_deleted
  · decide +kernel
  · refine require_eq_ok.mpr ⟨by decide, ?_⟩
    rw [createJiraWebhookSignature, hhmac]
    decide
  · simp only [deletedRuntime, if_pos hbody]
  · rfl
  · decide
  · decide

theorem checkWebhook_secondInput : checkWebhook deletedRuntime deletedConfiguration secondInput =
    .ok (some (deletedWebhook "10002" "AV-2")) := by
  have hother : secondInput.rawBody ≠ deletedBody "10001" "AV-1" := by decide
  have hbody : secondInput.rawBody = deletedBody "10002" "AV-2" := rfl
  have hhmac : deletedRuntime.hmacSha256 "correct-horse-battery-staple-0123456789" secondInput.rawBody =
      "ef10165888929d53524f389e8fa4aa0d6fa2948d7be7a4cb666a7e013bdcbaec" := by
    simp only [deletedRuntime, atTwo, if_neg hother, if_pos hbody]
  apply checkWebhook_deleted
  · decide +kernel
  · refine require_eq_ok.mpr ⟨by decide, ?_⟩
    rw [createJiraWebhookSignature, hhmac]
    decide
  · simp only [deletedRuntime, if_neg hother, if_pos hbody]
  · rfl
  · decide
  · decide

/-- Both webhooks of the example are stored on their own. -/
theorem storedAlone_firstInput :
    StoredAlone deletedRuntime deletedConfiguration deletedTables firstInput "e1" 1767225600500
      (deletedWebhook "10001" "AV-1") :=
  ⟨checkWebhook_firstInput, _, (stored_iff checkWebhook_firstInput).mpr ⟨_, _, rfl, rfl, rfl, rfl⟩⟩

theorem storedAlone_secondInput :
    StoredAlone deletedRuntime deletedConfiguration deletedTables secondInput "e2" 1767225600600
      (deletedWebhook "10002" "AV-2") :=
  ⟨checkWebhook_secondInput, _, (stored_iff checkWebhook_secondInput).mpr ⟨_, _, rfl, rfl, rfl, rfl⟩⟩

theorem deletedRuntime_sha256_injective : Function.Injective deletedRuntime.sha256 :=
  atTwo_injective (by decide) (by decide) (by decide)

end Deleted

end AvantimePlatform.Jira
