import AvantimePlatform.Lib.Text

/-!
# The synchronisation policy

What `jira-sync-policy.ts` decides about an inbound event: the portal status that
a Jira status name stands for (`resolveJiraStatus`) and what a status event may do
to a request (`statusTransitionDecision`).

A date is its time value in milliseconds.  The date of a stored payload is `none`
where `new Date` makes an invalid date of its text.
-/

namespace AvantimePlatform.Jira

/-- `PortalRequestStatus`. -/
inductive PortalRequestStatus where
  | new
  | opened
  | inProgress
  | waitingCustomer
  | resolved
  | closed
deriving DecidableEq

namespace PortalRequestStatus

/-- `PORTAL_STATUSES`, with the spelling of each. -/
def names : List (String × PortalRequestStatus) :=
  [("NEW", new), ("OPEN", opened), ("IN_PROGRESS", inProgress),
   ("WAITING_CUSTOMER", waitingCustomer), ("RESOLVED", resolved), ("CLOSED", closed)]

/-- `PORTAL_STATUSES.has(status)`. -/
def ofName (name : String) : Option PortalRequestStatus := names.lookup name

/-- `RESOLVED` or `CLOSED`. -/
def IsTerminal (status : PortalRequestStatus) : Prop :=
  status = resolved ∨ status = closed

instance (status : PortalRequestStatus) : Decidable status.IsTerminal :=
  inferInstanceAs (Decidable (_ ∨ _))

end PortalRequestStatus

/-- `NormalizedJiraInboundPayload`. -/
inductive NormalizedJiraInboundPayload where
  | status (statusId statusName : String) (jiraUpdatedAt : Option Int)
  | comment (commentId body authorName : String) (isPublic automation : Bool)
      (jiraUpdatedAt : Option Int)
  | issueDeleted (jiraUpdatedAt : Option Int)
deriving DecidableEq

/-! ## Status names -/

/-- `DEFAULT_STATUS_MAPPING`. -/
def defaultStatusMapping : List (String × PortalRequestStatus) :=
  [("to do", .opened), ("todo", .opened), ("open", .opened), ("new", .opened),
   ("in progress", .inProgress), ("waiting for customer", .waitingCustomer),
   ("waiting customer", .waitingCustomer), ("resolved", .resolved), ("done", .resolved),
   ("closed", .closed)]

/-- `name.trim().toLowerCase()`. -/
def foldStatusName (name : String) : String := Text.toLowerCase (Text.trim name)

/-- The entries of a stored status mapping; `none` is a value that is no string. -/
abbrev StatusMapping := List (String × Option String)

/-- The object `custom` after the loop over the organization's mapping.  An
assignment to `__proto__` of a string does nothing. -/
def customStatuses (mapping : StatusMapping) : String → Option PortalRequestStatus :=
  mapping.foldl (fun custom entry =>
    match entry.2.bind PortalRequestStatus.ofName with
    | some status =>
      if foldStatusName entry.1 = "__proto__" then custom
      else Function.update custom (foldStatusName entry.1) (some status)
    | none => custom) (fun _ => none)

/-- What `custom[name] ?? DEFAULT_STATUS_MAPPING[name] ?? null` evaluates to: a
status, `null`, or a member that every object inherits. -/
inductive ResolvedStatus where
  | portal (status : PortalRequestStatus)
  | inherited
  | unknown
deriving DecidableEq

/-- The members of `Object.prototype` whose names are in lower case. -/
def inheritedNames : List String := ["constructor", "__proto__"]

/-- `resolveJiraStatus`. -/
def resolveJiraStatus (statusName : String) (organizationMapping : Option StatusMapping) :
    ResolvedStatus :=
  let name := foldStatusName statusName
  match customStatuses (organizationMapping.getD []) name with
  | some status => .portal status
  | none =>
    if name ∈ inheritedNames then .inherited
    else
      match defaultStatusMapping.lookup name with
      | some status => .portal status
      | none => .unknown

/-! ## Status events -/

/-- The outcomes of `statusTransitionDecision`. -/
inductive StatusTransition where
  | stale
  | terminalConflict
  | unchanged
  | apply
deriving DecidableEq

/-- `statusTransitionDecision`. -/
def statusTransitionDecision (currentStatus : PortalRequestStatus)
    (currentJiraUpdatedAt : Option Int) (incomingStatus : PortalRequestStatus)
    (incomingJiraUpdatedAt : Int) : StatusTransition :=
  if ∃ current ∈ currentJiraUpdatedAt, incomingJiraUpdatedAt ≤ current then .stale
  else if currentStatus.IsTerminal ∧ ¬incomingStatus.IsTerminal then .terminalConflict
  else if currentStatus = incomingStatus then .unchanged
  else .apply

/-- An event that is not stale conflicts exactly when it would reopen the request. -/
theorem statusTransitionDecision_eq_terminalConflict {current incoming : PortalRequestStatus}
    {currentAt : Option Int} {incomingAt : Int} (hfresh : ∀ t ∈ currentAt, t < incomingAt) :
    statusTransitionDecision current currentAt incoming incomingAt = .terminalConflict ↔
      current.IsTerminal ∧ ¬incoming.IsTerminal := by
  have hstale : ¬∃ t ∈ currentAt, incomingAt ≤ t := by
    intro ⟨t, ht, hle⟩
    have hlt := hfresh t ht
    omega
  unfold statusTransitionDecision
  rw [if_neg hstale]
  by_cases hconflict : current.IsTerminal ∧ ¬incoming.IsTerminal
  · simp [hconflict]
  · rw [if_neg hconflict]
    have hother : (if current = incoming then StatusTransition.unchanged else .apply) ≠
        .terminalConflict := by split <;> decide
    exact iff_of_false hother hconflict

end AvantimePlatform.Jira
