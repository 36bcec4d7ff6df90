import AvantimePlatform.Jira.Inbound
import AvantimePlatform.Lib.Json

/-!
# The payload of a webhook

What `jira-webhook.ts` and `jira-sync-policy.ts` read off a webhook before the tables
are asked: the text of a comment, the name of its author, the normalized payload of the
event, and the provider event id.

The built-in operations on text, the digests and `new URL` are in a `WebhookRuntime`;
nothing is assumed of them here.
-/

namespace AvantimePlatform.Jira

open AvantimePlatform AvantimePlatform.Checked

/-- What the module takes from the language and its library: `JSON.parse`, the time value
of `new Date` of a text, `String` of a number, the origin of `new URL`, the normal form NFKC, the
replacements by `HTML_TAG_GLOBAL`, `WEB_URL` and `EMAIL`, and the two digests as
hexadecimal text. -/
structure WebhookRuntime where
  parseJson : String → Option Json
  parseDate : String → Option Int
  numberText : JsNumber → String
  urlOrigin : String → Option String
  normalize : String → String
  withoutTags : String → String
  withoutLinks : String → String
  withoutEmails : String → String
  hmacSha256 : String → String → String
  sha256 : String → String

/-- `JiraWebhookError`, or an `Error` without a status. -/
structure WebhookError where
  code : String
  httpStatus : Option Nat
deriving DecidableEq

/-- `JIRA_WEBHOOK_EVENTS`. -/
inductive JiraWebhookEventType where
  | issueUpdated
  | issueDeleted
  | commentCreated
  | commentUpdated
deriving DecidableEq

namespace JiraWebhookEventType

def name : JiraWebhookEventType → String
  | issueUpdated => "jira:issue_updated"
  | issueDeleted => "jira:issue_deleted"
  | commentCreated => "comment_created"
  | commentUpdated => "comment_updated"

def all : List JiraWebhookEventType := [issueUpdated, issueDeleted, commentCreated, commentUpdated]

end JiraWebhookEventType

/-! ## Text -/

section Text

variable (runtime : WebhookRuntime)

/-- `.replace(/\r\n?/gu, '\n')`. -/
def unifyNewlines : List Char → List Char
  | [] => []
  | '\r' :: '\n' :: rest => '\n' :: unifyNewlines rest
  | '\r' :: rest => '\n' :: unifyNewlines rest
  | c :: rest => c :: unifyNewlines rest

/-- The characters of `/[\u0000-\u0008\u000B\u000C\u000E-\u001F\u007F]/`. -/
def isControl (c : Char) : Bool :=
  decide (c.toNat ≤ 8) || c.toNat == 11 || c.toNat == 12 ||
    decide (14 ≤ c.toNat) && decide (c.toNat ≤ 31) || c.toNat == 127

/-- `.replace(/[ \t]+\n/gu, '\n')`. -/
def dropBlanksBeforeNewline (text : List Char) : List Char :=
  text.foldr (fun c rest =>
    if (c = ' ' ∨ c = '\t') ∧ rest.head? = some '\n' then rest else c :: rest) []

/-- `.replace(/\n{3,}/gu, '\n\n')`. -/
def collapseNewlines (text : List Char) : List Char :=
  text.foldr (fun c rest =>
    if c = '\n' ∧ rest.take 2 = ['\n', '\n'] then rest else c :: rest) []

/-- `normalizedText`. -/
def normalizedText (value : String) (maximumLength : Nat) (code : String) :
    Except WebhookError String :=
  let unified := (unifyNewlines (runtime.normalize value).toList).filter fun c => !isControl c
  let text := Text.trim (String.ofList (collapseNewlines (dropBlanksBeforeNewline unified)))
  if text = "" then .error ⟨code ++ "_REQUIRED", none⟩
  else if maximumLength < Text.utf16Length text then .error ⟨code ++ "_TOO_LONG", none⟩
  else .ok text

/-- `scrubProviderText`. -/
def scrubProviderText (value : String) : String :=
  runtime.withoutLinks (runtime.withoutTags value)

/-- The types of node that end a line. -/
def blockTypes : List String := ["paragraph", "heading", "listItem", "blockquote", "codeBlock"]

/-- `projectAdfNode`, with the levels that are left: 31 at `depth` 0. -/
def projectAdfNode : Nat → Json → List String
  | levels + 1, .object members =>
    let item := Json.object members
    let type := Json.asString? (item.member? "type")
    let text :=
      match Json.asString? (item.member? "text") with
      | some text => if type = some "text" then [scrubProviderText runtime text] else []
      | none => []
    let mention := if type = some "mention" then ["@participant"] else []
    let hardBreak := if type = some "hardBreak" then ["\n"] else []
    let content :=
      match item.member? "content" with
      | some (.array items) => (items.take 1000).flatMap fun child => projectAdfNode levels child
      | _ => []
    let newline := if type.any (· ∈ blockTypes) then ["\n"] else []
    text ++ mention ++ hardBreak ++ content ++ newline
  | _, _ => []

/-- `projectAdfToSafeText`. -/
def projectAdfToSafeText : Option Json → Except WebhookError String
  | some (.string value) => normalizedText runtime (scrubProviderText runtime value) 5000 "JIRA_ADF"
  | some value => normalizedText runtime (String.join (projectAdfNode runtime 31 value)) 5000 "JIRA_ADF"
  | none => normalizedText runtime "" 5000 "JIRA_ADF"

/-- `/(?:automation|system|bot)/iu`, which folds the long s as well. -/
def namesAutomation (name : String) : Bool :=
  let folded := String.ofList (name.toList.map fun c => if c = 'ſ' then 's' else c.toLower)
  ["automation", "system", "bot"].any fun word => decide (includes folded word)

/-- `safeJiraAuthor`. -/
def safeJiraAuthor : Option Json → Except WebhookError String
  | some (.object members) => do
    let author := Json.object members
    let displayName := (Json.asString? (author.member? "displayName")).getD ""
    let accountType := Text.toLowerCase ((Json.asString? (author.member? "accountType")).getD "")
    let redactedName := Text.trim (runtime.withoutEmails displayName)
    let safeName ←
      if redactedName = "" then .ok "Jira specialist"
      else normalizedText runtime redactedName 80 "JIRA_AUTHOR"
    return if accountType = "app" || namesAutomation displayName then "Jira automation" else safeName
  | _ => .ok "Jira specialist"

/-- `isJiraAutomationAuthor`. -/
def isJiraAutomationAuthor : Option Json → Bool
  | some (.object members) =>
    let author := Json.object members
    Json.asString? (author.member? "accountType") == some "app" ||
      (Json.asString? (author.member? "displayName")).any namesAutomation
  | _ => false

end Text

/-! ## The event -/

section Event

variable (runtime : WebhookRuntime)

/-- `object`. -/
def object (value : Option Json) (code : String) : Except WebhookError Json :=
  match value with
  | some (.object members) => .ok (.object members)
  | _ => .error ⟨code, some 400⟩

/-- The time value of `new Date(value)` of a number. -/
def timeClip : JsNumber → Option Int
  | .finite value => if |value| ≤ 8640000000000000 then some (value.num.tdiv value.den) else none
  | .nonFinite => none

/-- `date`. -/
def date (value : Option Json) (code : String) : Except WebhookError Int :=
  let parsed :=
    match value with
    | some (.number value) => timeClip value
    | some (.string value) => runtime.parseDate value
    | _ => none
  match parsed with
  | some time => .ok time
  | none => .error ⟨code, some 400⟩

/-- `date(value ?? occurredAt.toISOString(), code)`. -/
def dateOr (value : Option Json) (occurredAt : Int) (code : String) : Except WebhookError Int :=
  match Json.orElse value none with
  | none => .ok occurredAt
  | some value => date runtime (some value) code

/-- `safeProviderReference`. -/
def safeProviderReference (value : Option Json) (code : String) : Except WebhookError String :=
  match Json.asString? value with
  | some reference => if isSafeReference reference then .ok reference else .error ⟨code, none⟩
  | none => .error ⟨code, none⟩

/-- `jiraOrigin`. -/
def jiraOrigin (issue payload : Json) : Except WebhookError String :=
  match (Json.asString? (issue.member? "self")).or (Json.asString? (payload.member? "baseUrl")) with
  | none => .error ⟨"JIRA_WEBHOOK_TENANT_MISSING", some 403⟩
  | some source =>
    match runtime.urlOrigin source with
    | some origin => .ok origin
    | none => .error ⟨"JIRA_WEBHOOK_TENANT_INVALID", some 403⟩

/-- The test of `explicitPublicComment` on one property. -/
def isPublicProperty (property : Json) : Bool :=
  Json.asString? (property.member? "key") == some "sd.public.comment" &&
    match property.member? "value" with
    | some (.boolean value) => value
    | some (.object members) =>
      match (Json.object members).member? "internal" with
      | some (.boolean internal) => !internal
      | _ => false
    | _ => false

/-- `value === true`. -/
def isTrue : Option Json → Bool
  | some (.boolean value) => value
  | _ => false

/-- `explicitPublicComment`. -/
def explicitPublicComment (comment : Json) : Bool :=
  isTrue (comment.member? "jsdPublic") || isTrue (comment.member? "public") ||
    match comment.member? "properties" with
    | some (.array properties) => properties.any isPublicProperty
    | _ => false

/-- `statusName` of `normalizeEvent`. -/
def statusName (status : Json) : Except WebhookError String :=
  match Json.asString? (status.member? "name") with
  | some name =>
    if Text.trim name = "" then .error ⟨"JIRA_WEBHOOK_STATUS_NAME_INVALID", some 400⟩
    else .ok (String.ofList (Text.sliceUnits 160 (Text.trim (runtime.normalize name)).toList))
  | none => .error ⟨"JIRA_WEBHOOK_STATUS_NAME_INVALID", some 400⟩

/-- `normalizeEvent`. -/
def normalizeEvent (payload : Json) (eventType : JiraWebhookEventType) (occurredAt : Int) :
    Except WebhookError NormalizedJiraInboundPayload := do
  let issue ← object (payload.member? "issue") "JIRA_WEBHOOK_ISSUE_INVALID"
  let fields := (issue.member? "fields").getD .null
  let updatedAt ← dateOr runtime (fields.member? "updated") occurredAt "JIRA_WEBHOOK_UPDATED_AT_INVALID"
  match eventType with
  | .issueDeleted => return .issueDeleted (some updatedAt)
  | .issueUpdated =>
    let status ← object (fields.member? "status") "JIRA_WEBHOOK_STATUS_INVALID"
    let statusId ← safeProviderReference (status.member? "id") "JIRA_WEBHOOK_STATUS_ID_INVALID"
    let name ← statusName runtime status
    return .status statusId name (some updatedAt)
  | .commentCreated | .commentUpdated =>
    let comment ← object (payload.member? "comment") "JIRA_WEBHOOK_COMMENT_INVALID"
    let author := Json.orElse (comment.member? "updateAuthor") (comment.member? "author")
    let publicComment := explicitPublicComment comment
    let automation := isJiraAutomationAuthor author
    let commentId ← safeProviderReference (comment.member? "id") "JIRA_WEBHOOK_COMMENT_ID_INVALID"
    let body ←
      if publicComment && !automation then projectAdfToSafeText runtime (comment.member? "body")
      else .ok "[withheld]"
    let authorName ← safeJiraAuthor runtime author
    let commentUpdatedAt ← dateOr runtime
      (Json.orElse (comment.member? "updated") (comment.member? "created")) occurredAt
      "JIRA_WEBHOOK_COMMENT_DATE_INVALID"
    return .comment commentId body authorName publicComment automation (some commentUpdatedAt)

end Event

/-! ## The provider event id -/

section Reference

variable (runtime : WebhookRuntime)

mutual

/-- `String(value)`; it throws on an object that has a member `toString` or hides
`valueOf` behind one. -/
def stringOf : Json → Option String
  | .null => some "null"
  | .boolean true => some "true"
  | .boolean false => some "false"
  | .number value => some (runtime.numberText value)
  | .string value => some value
  | .array items => (joined items).map fun texts => ",".intercalate texts
  | .object members =>
    if (members.lookup "toString").isSome then none else some "[object Object]"

/-- The texts that `Array.prototype.join` puts together. -/
def joined : List Json → Option (List String)
  | [] => some []
  | .null :: rest => (joined rest).map fun texts => "" :: texts
  | item :: rest =>
    match stringOf item, joined rest with
    | some text, some texts => some (text :: texts)
    | _, _ => none

end

/-- What the provider event id is made from: the id that the payload gives, or the type
of the event, the entity that has changed and the time. -/
inductive EventReference where
  | explicit (id : String)
  | composed (eventType : JiraWebhookEventType) (entity : String) (occurredAt : Int)
deriving DecidableEq

/-- The characters of a reference that is put together, behind the type and its colon. -/
def entityText (entity : String) (occurredAt : Int) : List Char :=
  entity.toList ++ ':' :: (toString occurredAt).toList

/-- The characters of the provider event id. -/
def EventReference.text : EventReference → List Char
  | .explicit id => id.toList
  | .composed eventType entity occurredAt =>
    Text.sliceUnits 200 (eventType.name.toList ++ ':' :: entityText entity occurredAt)

/-- `webhookEventId` or `eventId` of the payload, where it is a safe reference. -/
def explicitEventId (payload : Json) : Option String :=
  (Json.asString? (Json.orElse (payload.member? "webhookEventId") (payload.member? "eventId"))).filter
    isSafeReference

/-- `entity` of `providerEventId`. -/
def entity (payload : Json) : NormalizedJiraInboundPayload → Option Json
  | .comment commentId _ _ _ _ _ => some (.string commentId)
  | .status .. | .issueDeleted _ => (payload.member? "changelog").bind (·.member? "id")

/-- `providerEventId`, before the text is put together. -/
def eventReference (payload : Json) (eventType : JiraWebhookEventType)
    (normalized : NormalizedJiraInboundPayload) (occurredAt : Int) :
    Except WebhookError EventReference :=
  match explicitEventId payload with
  | some id => .ok (.explicit id)
  | none =>
    match Json.orElse (entity payload normalized) none with
    | none => .ok (.composed eventType (toString occurredAt) occurredAt)
    | some value =>
      match stringOf runtime value with
      | some text => .ok (.composed eventType text occurredAt)
      | none => .error ⟨"TypeError", none⟩

/-- The references give different provider event ids: two ids of Jira's own that differ,
an id and a text that differ, or two texts that differ in the type or in the part of the
entity and the time that is kept. -/
def ToldApart : EventReference → EventReference → Prop
  | .explicit id, .explicit other => id ≠ other
  | .explicit id, .composed eventType entity occurredAt =>
    id.toList ≠ (EventReference.composed eventType entity occurredAt).text
  | .composed eventType entity occurredAt, .explicit id =>
    id.toList ≠ (EventReference.composed eventType entity occurredAt).text
  | .composed eventType entity occurredAt, .composed eventType' entity' occurredAt' =>
    eventType ≠ eventType' ∨
      Text.sliceUnits (199 - eventType.name.length) (entityText entity occurredAt) ≠
        Text.sliceUnits (199 - eventType'.name.length) (entityText entity' occurredAt')

instance : (first second : EventReference) → Decidable (ToldApart first second)
  | .explicit id, .explicit other => inferInstanceAs (Decidable (id ≠ other))
  | .explicit id, .composed eventType entity occurredAt =>
    inferInstanceAs (Decidable (id.toList ≠ (EventReference.composed eventType entity occurredAt).text))
  | .composed eventType entity occurredAt, .explicit id =>
    inferInstanceAs (Decidable (id.toList ≠ (EventReference.composed eventType entity occurredAt).text))
  | .composed _ _ _, .composed _ _ _ => inferInstanceAs (Decidable (_ ∨ _))

theorem text_composed (eventType : JiraWebhookEventType) (entity : String) (occurredAt : Int) :
    (EventReference.composed eventType entity occurredAt).text =
      eventType.name.toList ++ ':' ::
        Text.sliceUnits (199 - eventType.name.length) (entityText entity occurredAt) := by
  have hunits : ∀ c ∈ eventType.name.toList ++ [':'], c.toNat < 65536 := by
    cases eventType <;> simp [JiraWebhookEventType.name]
  have hroom : (eventType.name.toList ++ [':']).length + (199 - eventType.name.length) = 200 := by
    cases eventType <;> decide
  have happend := Text.sliceUnits_append (199 - eventType.name.length) hunits
    (entityText entity occurredAt)
  rw [hroom, List.append_assoc, List.append_assoc] at happend
  exact happend

/-- The type can be read back off the text. -/
theorem eventType_eq_of_text {eventType eventType' : JiraWebhookEventType} {rest rest' : List Char}
    (h : eventType.name.toList ++ ':' :: rest = eventType'.name.toList ++ ':' :: rest') :
    eventType = eventType' := by
  have hfront := congrArg (List.take 13) h
  cases eventType <;> cases eventType' <;>
    first | rfl | (simp [JiraWebhookEventType.name] at hfront)

theorem text_ne_iff (first second : EventReference) :
    first.text ≠ second.text ↔ ToldApart first second := by
  cases first with
  | explicit id =>
      cases second with
      | explicit other => exact not_congr String.toList_inj
      | composed eventType entity occurredAt => exact Iff.rfl
  | composed eventType entity occurredAt =>
      cases second with
      | explicit id => exact ne_comm
      | composed eventType' entity' occurredAt' =>
          rw [text_composed, text_composed]
          show _ ↔ eventType ≠ eventType' ∨ _
          constructor
          · intro hne
            by_contra hsame
            obtain ⟨rfl, hrest⟩ : eventType = eventType' ∧ _ = _ := by
              rwa [not_or, not_not, not_not] at hsame
            exact hne (by rw [hrest])
          · intro hapart heq
            have htype : eventType = eventType' := eventType_eq_of_text heq
            subst htype
            have hrest := (List.cons.inj (List.append_cancel_left heq)).2
            rcases hapart with hne | hne
            · exact hne rfl
            · exact hne hrest

end Reference

end AvantimePlatform.Jira
