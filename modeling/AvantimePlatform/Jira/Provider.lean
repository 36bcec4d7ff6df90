import AvantimePlatform.Jira.WebhookPayload

/-!
# The Jira provider

`jira.ts`: the projections of a request and of a comment to what Jira is sent, the
interface `JiraProviderAdapter`, and `JiraCloudProvider`.

A call of the provider makes one HTTP request after the other.  The interface says where a
call begins and what one answer does to it, over the state that the tenant of Jira keeps;
what others do there is a step of their own.  An answer may be lost after the request has
taken effect, and the body of a response may be unreadable, which `request` takes for
`null`.
-/

namespace AvantimePlatform.Jira

open AvantimePlatform AvantimePlatform.Checked

/-- What the module takes from the language and its library: the normal form NFKC, the
digest as hexadecimal text, the classes `\p{L}` and `\p{N}`, and the address of an issue. -/
structure ProviderRuntime where
  normalize : String → String
  sha256 : String → String
  isLetterOrNumber : Char → Bool
  issueUrl : String → String

/-- `JiraProviderError`, or any other `Error`. -/
inductive JiraError where
  | provider (code : String) (retryable : Bool)
  | other (message : String)
deriving DecidableEq

/-- The result of `providerFailure` and `jiraFailure`. -/
structure JiraFailure where
  code : String
  retryable : Bool
deriving DecidableEq

def JiraError.message : JiraError → String
  | provider code _ => code
  | other message => message

/-- The prefixes of `/^(?:JIRA_PAYLOAD_|JIRA_MAPPING_|JIRA_REQUEST_)/u`. -/
def permanentPrefixes : List String := ["JIRA_PAYLOAD_", "JIRA_MAPPING_", "JIRA_REQUEST_"]

/-- `jiraFailure`. -/
def jiraFailure : JiraError → JiraFailure
  | .provider code retryable => ⟨code, retryable⟩
  | .other _ => ⟨"JIRA_PROVIDER_FAILURE", true⟩

/-- `providerFailure`. -/
def providerFailure (error : JiraError) : JiraFailure :=
  if (permanentPrefixes.any fun start => start.toList.isPrefixOf error.message.toList) &&
      isSafeFailureCode error.message then
    ⟨error.message, false⟩
  else jiraFailure error

/-! ## The projections -/

/-- `JiraRequestPriority`. -/
inductive JiraRequestPriority where
  | low
  | normal
  | high
  | critical
deriving DecidableEq

/-- `PRIORITY_NAMES`. -/
def JiraRequestPriority.name : JiraRequestPriority → String
  | low => "Low"
  | normal => "Medium"
  | high => "High"
  | critical => "Highest"

/-- The spelling of a priority. -/
def JiraRequestPriority.spelling : JiraRequestPriority → String
  | low => "LOW"
  | normal => "NORMAL"
  | high => "HIGH"
  | critical => "CRITICAL"

/-- The columns of an operation and of its request that only `projectJiraCreateIssue`
reads. -/
structure IssueDraft where
  subject : String
  description : String
  category : String
  priority : JiraRequestPriority
  projectKey : String
  issueType : String
  componentId : Option String
  requestType : Option String

/-- `JiraIssuePayload`. -/
structure JiraIssuePayload where
  projectKey : String
  issueType : String
  summary : String
  description : String
  metadata : String
  labels : List String
  priority : String
  componentId : Option String
  marker : String
  requestReference : String

/-- `JiraCommentPayload`. -/
structure JiraCommentPayload where
  issueId : String
  issueKey : String
  body : String
  marker : String
  requestReference : String
deriving DecidableEq

/-- `JiraCreateIssueResult`. -/
structure JiraCreateIssueResult where
  issueId : String
  issueKey : String
  issueUrl : String
deriving DecidableEq

/-- `JiraAddCommentResult`. -/
structure JiraAddCommentResult where
  commentId : String
deriving DecidableEq

/-- `/^[A-Z][A-Z0-9_]{1,49}$/u`. -/
def isSafeProjectKey (value : String) : Bool :=
  match value.toList with
  | [] => false
  | first :: rest =>
    first.isUpper && decide (1 ≤ rest.length) && decide (rest.length ≤ 49) &&
      rest.all fun c => c.isUpper || c.isDigit || c == '_'

/-- `/^[A-Z][A-Z0-9_]{1,49}-[1-9][0-9]{0,19}$/u`. -/
def isSafeIssueKey (value : String) : Bool :=
  let project := value.toList.takeWhile (· != '-')
  isSafeProjectKey (String.ofList project) &&
    match value.toList.drop project.length with
    | '-' :: first :: rest =>
      first.isDigit && first != '0' && decide (rest.length ≤ 19) && rest.all Char.isDigit
    | _ => false

/-- `/^[a-zA-Z0-9][a-zA-Z0-9._:-]{0,99}$/u`. -/
def isSafeOptionalId (value : String) : Bool :=
  isSafeReference value && decide (value.toList.length ≤ 100)

section Projections

variable (runtime : ProviderRuntime)

/-- `/^[\p{L}\p{N}][\p{L}\p{N} _.-]{0,99}$/u`. -/
def isSafeIssueType (value : String) : Bool :=
  match value.toList with
  | [] => false
  | first :: rest =>
    runtime.isLetterOrNumber first && decide (rest.length ≤ 99) &&
      rest.all fun c => runtime.isLetterOrNumber c || c == ' ' || c == '_' || c == '.' || c == '-'

/-- `CATEGORIES`. -/
def categories : List String := ["1С", "Интеграция", "Agent+", "AI", "Инфраструктура", "Другое"]

/-- `plainText`. -/
def plainText (value : String) (maximumLength : Nat) (name : String) : Except JiraError String :=
  let unified := (unifyNewlines (runtime.normalize value).toList).filter fun c => !isControl c
  let normalized := Text.trim (String.ofList unified)
  if normalized = "" ∨ maximumLength < Text.utf16Length normalized then
    .error (.other ("JIRA_PAYLOAD_" ++ name ++ "_INVALID"))
  else .ok normalized

/-- `.digest('hex').slice(0, length)`. -/
def digestStart (value : String) (length : Nat) : String :=
  String.ofList ((runtime.sha256 value).toList.take length)

/-- `safeMarker`. -/
def safeMarker (idempotencyKey : String) : String :=
  "avantime-" ++ digestStart runtime idempotencyKey 32

/-- `value && !pattern.test(value)` does not hold. -/
def optionallyMatches (pattern : String → Bool) (value : Option String) : Prop :=
  ∀ text ∈ value, text = "" ∨ pattern text = true

instance (pattern : String → Bool) (value : Option String) :
    Decidable (optionallyMatches pattern value) :=
  inferInstanceAs (Decidable (∀ text ∈ value, _ ∨ _))

/-- `projectJiraCreateIssue`. -/
def projectJiraCreateIssue (draft : IssueDraft) (requestId idempotencyKey : String) :
    Except JiraError JiraIssuePayload := do
  require (isSafeProjectKey draft.projectKey) (.other "JIRA_PAYLOAD_PROJECT_INVALID")
  require (isSafeIssueType runtime draft.issueType) (.other "JIRA_PAYLOAD_ISSUE_TYPE_INVALID")
  require (optionallyMatches isSafeOptionalId draft.componentId) (.other "JIRA_PAYLOAD_COMPONENT_INVALID")
  require (optionallyMatches isSafeOptionalId draft.requestType)
    (.other "JIRA_PAYLOAD_REQUEST_TYPE_INVALID")
  require (draft.category ∈ categories) (.other "JIRA_PAYLOAD_CATEGORY_INVALID")
  let subject ← plainText runtime draft.subject 160 "SUMMARY"
  let description ← plainText runtime draft.description 5000 "DESCRIPTION"
  let requestReference ← plainText runtime requestId 100 "REQUEST_REFERENCE"
  let requestType := (draft.requestType.filter (· ≠ "")).toList.map fun type => "Request type: " ++ type
  return {
    projectKey := draft.projectKey
    issueType := draft.issueType
    summary := subject
    description := description
    metadata := "\n".intercalate (["Avantime request: " ++ requestReference,
      "Category: " ++ draft.category, "Priority: " ++ draft.priority.spelling] ++ requestType)
    labels := [safeMarker runtime idempotencyKey,
      "avantime-request-" ++ digestStart runtime requestReference 16]
    priority := draft.priority.name
    componentId := draft.componentId.filter (· ≠ "")
    marker := safeMarker runtime idempotencyKey
    requestReference := requestReference }

/-- `projectJiraComment`. -/
def projectJiraComment (issueId issueKey requestReference body idempotencyKey : String) :
    Except JiraError JiraCommentPayload := do
  require (isSafeReference issueId) (.other "JIRA_COMMENT_ISSUE_ID_INVALID")
  require (isSafeIssueKey issueKey) (.other "JIRA_COMMENT_ISSUE_KEY_INVALID")
  let text ← plainText runtime body 5000 "COMMENT"
  let reference ← plainText runtime requestReference 100 "REQUEST_REFERENCE"
  return {
    issueId := issueId
    issueKey := issueKey
    body := text
    marker := "avantime-comment-" ++ digestStart runtime idempotencyKey 32
    requestReference := reference }

end Projections

/-! ## The interface -/

/-- The answer to an HTTP request. -/
inductive ProviderAnswer where
  /-- It takes effect and is answered; what it creates gets this id and key. -/
  | respond (id key : String)
  /-- It takes effect, and the body of the response cannot be read. -/
  | unreadable (id key : String)
  /-- It fails.  It may have taken effect before. -/
  | fail (error : JiraError) (effect : Option (String × String))
deriving DecidableEq

/-- The body of the response can be read. -/
def ProviderAnswer.isReadable : ProviderAnswer → Bool
  | .unreadable _ _ => false
  | _ => true

/-- `JiraProviderAdapter`.  A call of `createIssue` or `addComment` is at a place, and an
answer leaves it at the next place or ends it. -/
structure JiraProviderAdapter where
  Tenant : Type
  IssuePlace : Type
  CommentPlace : Type
  Others : Type
  createIssue : JiraIssuePayload → Nat → IssuePlace
  addComment : JiraCommentPayload → Nat → CommentPlace
  advanceIssue : Tenant → ProviderAnswer → IssuePlace →
    Tenant × (IssuePlace ⊕ Except JiraError JiraCreateIssueResult)
  advanceComment : Tenant → ProviderAnswer → CommentPlace →
    Tenant × (CommentPlace ⊕ Except JiraError JiraAddCommentResult)
  others : Tenant → Others → Tenant

/-! ## `JiraCloudProvider` -/

/-- An issue of the tenant. -/
structure JiraIssue where
  id : String
  key : String
  projectKey : String
  labels : List String
deriving DecidableEq

/-- A comment on an issue of the tenant. -/
structure JiraComment where
  id : String
  issueKey : String
  body : String
  isPublic : Bool
deriving DecidableEq

/-- The tenant: its issues, and its comments with the oldest first. -/
structure JiraTenant where
  issues : List JiraIssue := []
  comments : List JiraComment := []

/-- Where a call of `createIssue` is. -/
inductive CloudIssuePlace where
  /-- Before the search for the marker. -/
  | search (payload : JiraIssuePayload)
  /-- Before the request that creates the issue. -/
  | create (payload : JiraIssuePayload)

/-- Where a call of `addComment` is. -/
inductive CloudCommentPlace where
  /-- Before the comments are listed. -/
  | list (payload : JiraCommentPayload)
  /-- Before the request that posts the comment. -/
  | post (payload : JiraCommentPayload)
deriving DecidableEq

/-- What others do at the tenant. -/
inductive CloudOthers where
  | issue (issue : JiraIssue)
  | comment (comment : JiraComment)

section Cloud

variable (runtime : ProviderRuntime)

/-- `safeIssueResult`. -/
def safeIssueResult (id key : String) : Except JiraError JiraCreateIssueResult :=
  if isSafeReference id && isSafeIssueKey key then .ok ⟨id, key, runtime.issueUrl key⟩
  else .error (.provider "JIRA_RESPONSE_INVALID" false)

/-- `safeProviderReference` of `jira.ts`. -/
def safeCommentReference (id : String) : Except JiraError JiraAddCommentResult :=
  if isSafeReference id then .ok ⟨id⟩ else .error (.provider "JIRA_COMMENT_RESPONSE_INVALID" false)

/-- The issue that a payload creates. -/
def JiraIssuePayload.issue (payload : JiraIssuePayload) (id key : String) : JiraIssue where
  id := id
  key := key
  projectKey := payload.projectKey
  labels := payload.labels

/-- The two issues that the search for the marker returns. -/
def JiraTenant.search (tenant : JiraTenant) (payload : JiraIssuePayload) : List JiraIssue :=
  (tenant.issues.filter fun issue =>
    issue.projectKey = payload.projectKey && issue.labels.contains payload.marker).take 2

def JiraTenant.addIssue (tenant : JiraTenant) (issue : JiraIssue) : JiraTenant :=
  { tenant with issues := tenant.issues ++ [issue] }

/-- `createIssue` after the search. -/
def afterSearch (payload : JiraIssuePayload) :
    List JiraIssue → CloudIssuePlace ⊕ Except JiraError JiraCreateIssueResult
  | [] => .inl (.create payload)
  | [existing] => .inr (safeIssueResult runtime existing.id existing.key)
  | _ => .inr (.error (.provider "JIRA_RECONCILIATION_AMBIGUOUS" false))

/-- One step of `createIssue`. -/
def cloudIssue (tenant : JiraTenant) (answer : ProviderAnswer) :
    CloudIssuePlace → JiraTenant × (CloudIssuePlace ⊕ Except JiraError JiraCreateIssueResult)
  | .search payload =>
    match answer with
    | .respond _ _ => (tenant, afterSearch runtime payload (tenant.search payload))
    | .unreadable _ _ => (tenant, afterSearch runtime payload [])
    | .fail error _ => (tenant, .inr (.error error))
  | .create payload =>
    match answer with
    | .respond id key => (tenant.addIssue (payload.issue id key), .inr (safeIssueResult runtime id key))
    | .unreadable id key =>
      (tenant.addIssue (payload.issue id key), .inr (.error (.provider "JIRA_RESPONSE_INVALID" false)))
    | .fail error none => (tenant, .inr (.error error))
    | .fail error (some (id, key)) => (tenant.addIssue (payload.issue id key), .inr (.error error))

/-- `marker` of `addComment`. -/
def JiraCommentPayload.reference (payload : JiraCommentPayload) : String :=
  "Avantime reference: " ++ payload.requestReference ++ "/" ++ payload.marker

/-- The comment that a payload posts. -/
def JiraCommentPayload.comment (payload : JiraCommentPayload) (id : String) : JiraComment where
  id := id
  issueKey := payload.issueKey
  body := payload.body ++ "\n\n" ++ payload.reference
  isPublic := true

/-- `comment.body.endsWith(marker)`. -/
def JiraComment.endsWith (comment : JiraComment) (marker : String) : Bool :=
  marker.toList.isSuffixOf comment.body.toList

/-- The public comments on an issue. -/
def JiraTenant.publicComments (tenant : JiraTenant) (issueKey : String) : List JiraComment :=
  tenant.comments.filter fun comment => comment.issueKey = issueKey && comment.isPublic

/-- The page of comments that `addComment` reads, with `limit=100`. -/
def JiraTenant.page (tenant : JiraTenant) (issueKey : String) : List JiraComment :=
  (tenant.publicComments issueKey).take 100

def JiraTenant.addComment (tenant : JiraTenant) (comment : JiraComment) : JiraTenant :=
  { tenant with comments := tenant.comments ++ [comment] }

/-- `addComment` after the comments are listed. -/
def afterList (payload : JiraCommentPayload) (values : List JiraComment) :
    CloudCommentPlace ⊕ Except JiraError JiraAddCommentResult :=
  match values.filter (·.endsWith payload.reference) with
  | [] => .inl (.post payload)
  | [matched] => .inr (safeCommentReference matched.id)
  | _ => .inr (.error (.provider "JIRA_COMMENT_RECONCILIATION_AMBIGUOUS" false))

/-- One step of `addComment`. -/
def cloudComment (tenant : JiraTenant) (answer : ProviderAnswer) :
    CloudCommentPlace → JiraTenant × (CloudCommentPlace ⊕ Except JiraError JiraAddCommentResult)
  | .list payload =>
    match answer with
    | .respond _ _ => (tenant, afterList payload (tenant.page payload.issueKey))
    | .unreadable _ _ => (tenant, afterList payload [])
    | .fail error _ => (tenant, .inr (.error error))
  | .post payload =>
    match answer with
    | .respond id _ => (tenant.addComment (payload.comment id), .inr (safeCommentReference id))
    | .unreadable id _ =>
      (tenant.addComment (payload.comment id),
        .inr (.error (.provider "JIRA_COMMENT_RESPONSE_INVALID" false)))
    | .fail error none => (tenant, .inr (.error error))
    | .fail error (some (id, _)) => (tenant.addComment (payload.comment id), .inr (.error error))

def cloudOthers (tenant : JiraTenant) : CloudOthers → JiraTenant
  | .issue issue => tenant.addIssue issue
  | .comment comment => tenant.addComment comment

/-- `JiraCloudProvider`. -/
def jiraCloudProvider : JiraProviderAdapter where
  Tenant := JiraTenant
  IssuePlace := CloudIssuePlace
  CommentPlace := CloudCommentPlace
  Others := CloudOthers
  createIssue payload _ := .search payload
  addComment payload _ := .list payload
  advanceIssue := cloudIssue runtime
  advanceComment := cloudComment
  others := cloudOthers

end Cloud

/-! ## What one answer does -/

section Answers

variable {tenant tenant' : JiraTenant} {answer : ProviderAnswer}

@[simp] theorem addIssue_comments (tenant : JiraTenant) (issue : JiraIssue) :
    (tenant.addIssue issue).comments = tenant.comments := rfl

@[simp] theorem addComment_issues (tenant : JiraTenant) (comment : JiraComment) :
    (tenant.addComment comment).issues = tenant.issues := rfl

theorem endsWith_reference (payload : JiraCommentPayload) (id : String) :
    (payload.comment id).endsWith payload.reference = true := by
  unfold JiraComment.endsWith JiraCommentPayload.comment
  rw [List.isSuffixOf_iff_suffix, String.toList_append]
  exact List.suffix_append _ _

/-- What an answer does to a call of `addComment`: the call ends and the tenant stays as it is,
or the call has listed the comments without finding its own, or its comment is posted and
the call ends. -/
theorem cloudComment_cases {place : CloudCommentPlace}
    {next : CloudCommentPlace ⊕ Except JiraError JiraAddCommentResult}
    (h : cloudComment tenant answer place = (tenant', next)) :
    (∃ result, tenant' = tenant ∧ next = .inr result) ∨
    (∃ payload, place = .list payload ∧ tenant' = tenant ∧ next = .inl (.post payload) ∧
      (answer.isReadable = false ∨
        ∀ comment ∈ tenant.page payload.issueKey, comment.endsWith payload.reference = false)) ∨
    (∃ payload id result, place = .post payload ∧ tenant' = tenant.addComment (payload.comment id) ∧
      next = .inr result) := by
  cases place with
  | list payload =>
      cases answer with
      | respond id key =>
          obtain ⟨rfl, rfl⟩ := Prod.mk.inj h
          unfold afterList
          split
          · next hnone =>
            refine Or.inr (Or.inl ⟨payload, rfl, rfl, rfl, Or.inr fun comment hcomment => ?_⟩)
            have hall := List.filter_eq_nil_iff.mp hnone comment hcomment
            simpa using hall
          · exact Or.inl ⟨_, rfl, rfl⟩
          · exact Or.inl ⟨_, rfl, rfl⟩
      | unreadable id key =>
          obtain ⟨rfl, rfl⟩ := Prod.mk.inj h
          exact Or.inr (Or.inl ⟨payload, rfl, rfl, rfl, Or.inl rfl⟩)
      | fail error effect =>
          obtain ⟨rfl, rfl⟩ := Prod.mk.inj h
          exact Or.inl ⟨_, rfl, rfl⟩
  | post payload =>
      cases answer with
      | respond id key =>
          obtain ⟨rfl, rfl⟩ := Prod.mk.inj h
          exact Or.inr (Or.inr ⟨payload, id, _, rfl, rfl, rfl⟩)
      | unreadable id key =>
          obtain ⟨rfl, rfl⟩ := Prod.mk.inj h
          exact Or.inr (Or.inr ⟨payload, id, _, rfl, rfl, rfl⟩)
      | fail error effect =>
          cases effect with
          | none =>
              obtain ⟨rfl, rfl⟩ := Prod.mk.inj h
              exact Or.inl ⟨_, rfl, rfl⟩
          | some created =>
              obtain ⟨rfl, rfl⟩ := Prod.mk.inj h
              exact Or.inr (Or.inr ⟨payload, created.1, _, rfl, rfl, rfl⟩)

end Answers

end AvantimePlatform.Jira
