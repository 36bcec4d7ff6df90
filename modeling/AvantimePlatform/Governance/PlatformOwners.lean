import AvantimePlatform.Governance.TwoPerson

/-!
# The last platform owner

`executePlatformOwnerChange` of `platform-role-governance.ts` as an executor of
approvals.  Its reads and writes come after an advisory lock that all these calls
take, so they are one step; users change at any time.

An owner is effective when the assignment is active and not disabled and its user is
active and not disabled: that is what `validateGovernanceInvariants` and the bootstrap
check count.  The guard of a removal counts the assignments alone.
-/

namespace AvantimePlatform.Governance

open AvantimePlatform AvantimePlatform.Checked AvantimePlatform.Interleaving
  AvantimePlatform.Transition

inductive PlatformRole where
  | owner | admin | support | auditor | operator
deriving DecidableEq

/-- A row of `User`. -/
structure PlatformUser where
  id : String
  active : Bool := true
  disabledAt : Option Int := none
deriving DecidableEq

/-- A row of `PlatformRoleAssignment`. -/
structure PlatformRoleAssignment where
  id : String
  userId : String
  role : PlatformRole
  active : Bool := true
  version : Int := 1
  assignedById : Option String := none
  disabledAt : Option Int := none
deriving DecidableEq

/-- The two tables. -/
structure PlatformTables where
  users : List PlatformUser := []
  assignments : List PlatformRoleAssignment := []

namespace PlatformTables

/-- The user with an id. -/
def user? (db : PlatformTables) (id : String) : Option PlatformUser :=
  KeyedList.find PlatformUser.id id db.users

/-- The owner assignment of a user. -/
def owner? (db : PlatformTables) (userId : String) : Option PlatformRoleAssignment :=
  db.assignments.find? fun row => row.userId = userId && row.role = .owner

/-- The user of an assignment is active and not disabled. -/
def hasActiveUser (db : PlatformTables) (row : PlatformRoleAssignment) : Bool :=
  (db.user? row.userId).any fun user => user.active && user.disabledAt.isNone

end PlatformTables

/-- `{ role: 'PLATFORM_OWNER', active: true, disabledAt: null }`. -/
def PlatformRoleAssignment.isActiveOwner (row : PlatformRoleAssignment) : Bool :=
  row.role = .owner && row.active && row.disabledAt.isNone

namespace PlatformTables

/-- The count of the guard of a removal. -/
def activeOwners (db : PlatformTables) : Nat :=
  db.assignments.countP (·.isActiveOwner)

/-- The count of `validateGovernanceInvariants` and of `validateDatabaseEvidence`, which
adds `user: { active: true, disabledAt: null }`. -/
def effectiveOwners (db : PlatformTables) : Nat :=
  db.assignments.countP fun row => row.isActiveOwner && db.hasActiveUser row

end PlatformTables

/-! ## The executor -/

inductive OwnerAction where
  | assign | remove
deriving DecidableEq

/-- What `executePlatformOwnerChange` closes over. -/
structure OwnerChange where
  targetUserId : String
  action : OwnerAction
deriving DecidableEq

/-- The action type that an approval must have. -/
def OwnerAction.actionType : OwnerAction → GovernanceApprovalAction
  | .assign => .platformOwnerAssign
  | .remove => .platformOwnerRemove

/-- The input that `executePlatformOwnerChange` passes on. -/
def executePlatformOwnerChange (session : AppSession) (approvalId : String) (change : OwnerChange)
    (authorized : Bool) (now : Int) : ExecuteInput OwnerChange where
  session := session
  requestId := approvalId
  executionKey := "platform-owner:" ++ approvalId
  executionAuthorized := authorized
  expectedActionType := change.action.actionType
  now := now
  caller := change

/-- The condition of the update of an assignment. -/
def PlatformRoleAssignment.isVersionOf (row current : PlatformRoleAssignment) (version : Int) :
    Bool :=
  row.id = current.id && row.version = version

/-- The data of the update of an assignment. -/
def PlatformRoleAssignment.change (row : PlatformRoleAssignment) (action : OwnerAction)
    (actorId : String) (now : Int) : PlatformRoleAssignment :=
  { row with
    active := action = .assign, disabledAt := if action = .assign then none else some now
    assignedById := some actorId, version := row.version + 1 }

/-- The assignment that is created. -/
def newOwner (id userId actorId : String) : PlatformRoleAssignment where
  id := id
  userId := userId
  role := .owner
  assignedById := some actorId

/-- The write of an owner change, on the assignment it has read.  `id` is the id of a
new one. -/
def writeOwner (db : PlatformTables) (input : ExecuteInput OwnerChange) (currentVersion : Int)
    (current : Option PlatformRoleAssignment) (id : String) : Except String PlatformTables :=
  match current with
  | none => do
    require (∀ row ∈ db.assignments, row.id ≠ id) prismaError
    return { db with
      assignments := db.assignments ++ [newOwner id input.caller.targetUserId input.session.userId] }
  | some current => do
    require (db.assignments.countP (·.isVersionOf current currentVersion) = 1)
      "PLATFORM_ROLE_VERSION_CHANGED"
    return { db with
      assignments := KeyedList.updateMany (·.isVersionOf current currentVersion)
        (·.change input.caller.action input.session.userId input.now) db.assignments }

/-- The executor of `executePlatformOwnerChange`. -/
def changeOwner (input : ExecuteInput OwnerChange) (currentVersion : Int) (id : String)
    (request : ApprovedRequest) (db : PlatformTables) : Except String PlatformTables := do
  require (request.safeParameters.get "targetUserId" = some (.string input.caller.targetUserId) ∧
      request.safeParameters.get "assignmentVersion" = some (.version currentVersion) ∧
      request.resourceId = some input.caller.targetUserId)
    "APPROVAL_TARGET_CHANGED"
  require (∃ target ∈ db.user? input.caller.targetUserId, target.active ∧ target.disabledAt = none)
    "PLATFORM_ROLE_TARGET_INACTIVE"
  let current := db.owner? input.caller.targetUserId
  require ((current.map (·.version)).getD 0 = currentVersion) "PLATFORM_ROLE_VERSION_CHANGED"
  require (input.caller.action = .remove → 1 < db.activeOwners ∧ ∃ row ∈ current, row.active)
    "LAST_PLATFORM_OWNER_PROTECTED"
  writeOwner db input currentVersion current id

/-- Owner changes read the version of the assignment first. -/
def ownerChange : Executor PlatformTables OwnerChange Int String where
  capture := fun input db => some (((db.owner? input.caller.targetUserId).map (·.version)).getD 0)
  currentResourceVersion := some
  execute := fun input currentVersion id request db =>
    (changeOwner input currentVersion id request db).toOption

/-- A call is one of the approval calls, or an owner change as its caller makes it. -/
def isOwnerCall (call : ApprovalCall OwnerChange Int) : Bool :=
  match call with
  | .execute input _ =>
    let passed := executePlatformOwnerChange input.session input.requestId input.caller
      input.executionAuthorized input.now
    input.executionKey = passed.executionKey && input.expectedActionType = passed.expectedActionType
  | _ => true

/-- Any number of owner changes and approval calls; users change at any time. -/
def ownerChanges (digest : CanonicalApproval → String) :
    Program (Tables PlatformTables OwnerChange Int) (ApprovalCall OwnerChange Int)
      (List PlatformUser) (ApprovalInput String) :=
  { approvals digest ownerChange (fun db users => { db with users := users }) with
    initial := fun call => call.isInitial && isOwnerCall call }

/-! ## What an owner change does to the assignments -/

/-- The keys of the assignments: `id`, and `(userId, role)` as far as owners go. -/
structure AssignmentsKeyed (db : PlatformTables) : Prop where
  ids : KeyedList.Distinct PlatformRoleAssignment.id db.assignments
  owners : ∀ a ∈ db.assignments, ∀ b ∈ db.assignments, a.role = .owner → b.role = .owner →
    a.userId = b.userId → a = b

theorem owner?_eq_some {db : PlatformTables} {userId : String} {row : PlatformRoleAssignment}
    (h : db.owner? userId = some row) :
    row ∈ db.assignments ∧ row.userId = userId ∧ row.role = .owner := by
  have hfound := List.find?_some h
  simp only [Bool.and_eq_true, decide_eq_true_eq] at hfound
  exact ⟨List.mem_of_find?_eq_some h, hfound.1, hfound.2⟩

theorem owner?_eq_none {db : PlatformTables} {userId : String} (h : db.owner? userId = none) :
    ∀ row ∈ db.assignments, row.role = .owner → row.userId ≠ userId := by
  intro row hrow hrole huser
  have hnot := List.find?_eq_none.mp h row hrow
  simp [huser, hrole] at hnot

/-- What an owner change that does not throw leaves. -/
inductive OwnerChanged (input : ExecuteInput OwnerChange) (db : PlatformTables) :
    PlatformTables → Prop where
  | created (id : String) (haction : input.caller.action = .assign)
      (hfresh : ∀ row ∈ db.assignments, row.id ≠ id)
      (hnone : db.owner? input.caller.targetUserId = none) :
      OwnerChanged input db { db with
        assignments :=
          db.assignments ++ [newOwner id input.caller.targetUserId input.session.userId] }
  | changed (current : PlatformRoleAssignment)
      (hcurrent : db.owner? input.caller.targetUserId = some current) :
      OwnerChanged input db { db with
        assignments := KeyedList.updateMany (·.isVersionOf current current.version)
          (·.change input.caller.action input.session.userId input.now) db.assignments }

theorem ownerChanged_of_changeOwner {input : ExecuteInput OwnerChange} {version : Int} {id : String}
    {request : ApprovedRequest} {db db' : PlatformTables}
    (h : changeOwner input version id request db = .ok db') : OwnerChanged input db db' := by
  simp only [changeOwner, bind_eq_ok, require_eq_ok] at h
  obtain ⟨-, -, -, -, -, hversion, -, hguard, h⟩ := h
  cases hcurrent : db.owner? input.caller.targetUserId with
  | none =>
      rw [hcurrent] at h hguard
      simp only [writeOwner, bind_eq_ok, require_eq_ok] at h
      obtain ⟨-, hfresh, h⟩ := h
      obtain rfl := Except.ok.inj h
      refine OwnerChanged.created id ?_ hfresh hcurrent
      cases haction : input.caller.action with
      | assign => rfl
      | remove =>
          obtain ⟨row, hrow, -⟩ := (hguard haction).2
          cases hrow
  | some current =>
      rw [hcurrent] at h hversion
      have hversion : current.version = version := hversion
      simp only [writeOwner, bind_eq_ok, require_eq_ok] at h
      obtain ⟨-, -, h⟩ := h
      obtain rfl := Except.ok.inj h
      rw [← hversion]
      exact OwnerChanged.changed current hcurrent

variable {input : ExecuteInput OwnerChange} {db db' : PlatformTables}

/-- The update of an assignment finds that one. -/
theorem eq_of_isVersionOf (hkeyed : AssignmentsKeyed db) {row current : PlatformRoleAssignment}
    (hrow : row ∈ db.assignments) (hcurrent : current ∈ db.assignments) {version : Int}
    (h : row.isVersionOf current version = true) : row = current := by
  have hid : row.id = current.id := by
    simp only [PlatformRoleAssignment.isVersionOf, Bool.and_eq_true, decide_eq_true_eq] at h
    exact h.1
  have hfound := KeyedList.find_of_mem hkeyed.ids hrow
  rw [hid, KeyedList.find_of_mem hkeyed.ids hcurrent] at hfound
  exact (Option.some.inj hfound).symm

theorem OwnerChanged.keyed (hkeyed : AssignmentsKeyed db) (h : OwnerChanged input db db') :
    AssignmentsKeyed db' := by
  cases h with
  | created id haction hfresh hnone =>
      have hnew : KeyedList.find PlatformRoleAssignment.id
          (newOwner id input.caller.targetUserId input.session.userId).id db.assignments = none :=
        KeyedList.find_eq_none.mpr hfresh
      refine ⟨KeyedList.distinct_append_new hkeyed.ids hnew, ?_⟩
      intro a ha b hb hra hrb huser
      rcases List.mem_append.mp ha with ha | ha
      · rcases List.mem_append.mp hb with hb | hb
        · exact hkeyed.owners a ha b hb hra hrb huser
        · rw [List.mem_singleton.mp hb] at huser
          exact absurd huser (owner?_eq_none hnone a ha hra)
      · rw [List.mem_singleton.mp ha] at huser ⊢
        rcases List.mem_append.mp hb with hb | hb
        · exact absurd huser.symm (owner?_eq_none hnone b hb hrb)
        · exact (List.mem_singleton.mp hb).symm
  | changed current hcurrent =>
      obtain ⟨hmem, hcurrentUser, hcurrentRole⟩ := owner?_eq_some hcurrent
      refine ⟨KeyedList.distinct_updateMany (by intro row; rfl) hkeyed.ids, ?_⟩
      intro a ha b hb hra hrb huser
      rcases KeyedList.mem_updateMany ha with ⟨ha₀, hpa⟩ | ⟨a₀, ha₀, hpa, rfl⟩
      · rcases KeyedList.mem_updateMany hb with ⟨hb₀, hpb⟩ | ⟨b₀, hb₀, hpb, rfl⟩
        · exact hkeyed.owners a ha₀ b hb₀ hra hrb huser
        · -- The changed row is the only owner assignment of its user.
          have hsame := hkeyed.owners a ha₀ b₀ hb₀ hra hrb huser
          rw [hsame, hpb] at hpa
          cases hpa
      · rcases KeyedList.mem_updateMany hb with ⟨hb₀, hpb⟩ | ⟨b₀, hb₀, hpb, rfl⟩
        · have hsame := hkeyed.owners a₀ ha₀ b hb₀ hra hrb huser
          rw [← hsame, hpa] at hpb
          cases hpb
        · rw [eq_of_isVersionOf hkeyed ha₀ hmem hpa, eq_of_isVersionOf hkeyed hb₀ hmem hpb]

/-- After a removal the effective owners are those of other users. -/
theorem effectiveOwners_removed (hkeyed : AssignmentsKeyed db)
    (hremove : input.caller.action = .remove) (h : OwnerChanged input db db') :
    0 < db'.effectiveOwners ↔ ∃ row ∈ db.assignments, row.isActiveOwner = true ∧
      row.userId ≠ input.caller.targetUserId ∧ db.hasActiveUser row = true := by
  cases h with
  | created id haction hfresh hnone =>
      rw [hremove] at haction
      cases haction
  | changed current hcurrent =>
      obtain ⟨hmem, hcurrentUser, hcurrentRole⟩ := owner?_eq_some hcurrent
      rw [PlatformTables.effectiveOwners, List.countP_pos_iff]
      constructor
      · rintro ⟨row', hrow', heffective⟩
        rw [Bool.and_eq_true] at heffective
        rcases KeyedList.mem_updateMany hrow' with ⟨hrow, hp⟩ | ⟨row, hrow, -, rfl⟩
        · refine ⟨row', hrow, heffective.1, fun huser => ?_, heffective.2⟩
          have hrole : row'.role = .owner := by
            have := heffective.1
            simp only [PlatformRoleAssignment.isActiveOwner, Bool.and_eq_true,
              decide_eq_true_eq] at this
            exact this.1.1
          have hsame := hkeyed.owners row' hrow current hmem hrole hcurrentRole
            (huser.trans hcurrentUser.symm)
          rw [hsame] at hp
          simp [PlatformRoleAssignment.isVersionOf] at hp
        · simp [PlatformRoleAssignment.isActiveOwner, PlatformRoleAssignment.change, hremove]
            at heffective
      · rintro ⟨row, hrow, hactive, huser, huserActive⟩
        refine ⟨row, ?_, by rw [Bool.and_eq_true]; exact ⟨hactive, huserActive⟩⟩
        refine List.mem_map.mpr ⟨row, hrow, if_neg fun hp => huser ?_⟩
        rw [eq_of_isVersionOf hkeyed hrow hmem hp, hcurrentUser]

/-! ## Runs -/

/-- The tables of approvals over the platform's tables. -/
abbrev OwnerTables := Tables PlatformTables OwnerChange Int

/-- The states of the system. -/
abbrev OwnerWorld := World OwnerTables (ApprovalCall OwnerChange Int)

/-- The steps of the system. -/
abbrev OwnerEvent := Event (List PlatformUser) (ApprovalCall OwnerChange Int) (ApprovalInput String)

section Runs

variable {digest : CanonicalApproval → String} {w w' : OwnerWorld} {ev : OwnerEvent}

/-- The step commits the removal of a user. -/
def CommitsRemove (digest : CanonicalApproval → String) (w : OwnerWorld) (ev : OwnerEvent)
    (target : String) : Prop :=
  ∃ i id answer input captured request made db', ev = .advance i (.proceed id answer) ∧
    w.locals[i]? = some (.execute input (.commit captured request made)) ∧
    input.caller = { targetUserId := target, action := .remove } ∧
    executeCommit digest ownerChange w.shared input captured request made answer = .ok db'

/-- A removal that commits leaves an effective owner when there was one. -/
def RemoveKeepsOwner (digest : CanonicalApproval → String) (w : OwnerWorld) (ev : OwnerEvent)
    (w' : OwnerWorld) : Prop :=
  ∀ target, CommitsRemove digest w ev target → 0 < w.shared.resources.effectiveOwners →
    0 < w'.shared.resources.effectiveOwners

/-- The condition on a removal that commits while there is an effective owner: among the
assignments that its guard counts, one of another user has an active user. -/
def OtherOwnerRemains (digest : CanonicalApproval → String) (w : OwnerWorld) (ev : OwnerEvent) :
    Prop :=
  ∀ target, CommitsRemove digest w ev target → 0 < w.shared.resources.effectiveOwners →
    ∃ row ∈ w.shared.resources.assignments, row.isActiveOwner = true ∧ row.userId ≠ target ∧
      w.shared.resources.hasActiveUser row = true

theorem changeOwner_of_execute {input : ExecuteInput OwnerChange} {version : Int} {id : String}
    {request : ApprovedRequest} {db db' : PlatformTables}
    (h : ownerChange.execute input version id request db = some db') :
    changeOwner input version id request db = .ok db' := by
  have h : (changeOwner input version id request db).toOption = some db' := h
  cases hchange : changeOwner input version id request db with
  | error e =>
      rw [hchange] at h
      cases h
  | ok db'' =>
      rw [hchange] at h
      rw [Option.some.inj h]

theorem ownerChanged_of_commit {db db' : OwnerTables} {input : ExecuteInput OwnerChange}
    {captured : Int} {request : GovernanceApprovalRequest} {made : List GovernanceApprovalDecision}
    {answer : String}
    (h : executeCommit digest ownerChange db input captured request made answer = .ok db') :
    OwnerChanged input db.resources db'.resources := by
  obtain ⟨resources, -, -, hresources, rfl⟩ := executed_of_commit h
  exact ownerChanged_of_changeOwner (changeOwner_of_execute hresources)

/-- A step of a call leaves the platform's tables or makes an owner change. -/
theorem Wrote.ownerChanged {db db' : OwnerTables} {input : ApprovalInput String}
    {call : ApprovalCall OwnerChange Int} (h : Wrote digest ownerChange db input call db') :
    db'.resources = db.resources ∨
      ∃ executeInput, OwnerChanged executeInput db.resources db'.resources := by
  cases h with
  | nothing => exact Or.inl rfl
  | requested id answer input fingerprint expiresAt hnew => exact Or.inl rfl
  | expired input call p hopen => exact Or.inl rfl
  | decided id answer input request made status hstatus hcount => exact Or.inl rfl
  | cancelled id answer input => exact Or.inl rfl
  | executed id answer input captured request made resources hadmitted hcount hresources =>
      exact Or.inr ⟨input, ownerChanged_of_changeOwner (changeOwner_of_execute hresources)⟩

theorem assignmentsKeyed_step (hkeyed : AssignmentsKeyed w.shared.resources)
    (hstep : (ownerChanges digest).step w ev w') : AssignmentsKeyed w'.shared.resources := by
  rcases Program.step_cases hstep with ⟨users, -, rfl⟩ | ⟨call, -, -, rfl⟩ |
    ⟨i, input, call, db', next, -, -, hadvance, rfl⟩
  · exact ⟨hkeyed.ids, hkeyed.owners⟩
  · exact hkeyed
  · obtain ⟨rfl, rfl⟩ := Prod.mk.inj (Option.some.inj hadvance)
    have hwrote : Wrote digest ownerChange w.shared input call _ := wrote_advance w.shared input call
    rcases hwrote.ownerChanged with hsame | ⟨executeInput, hchanged⟩
    · show AssignmentsKeyed (ApprovalCall.advance digest ownerChange w.shared input call).1.resources
      rw [hsame]
      exact hkeyed
    · exact hchanged.keyed hkeyed

/-- What a removal that commits leaves. -/
theorem effectiveOwners_of_commitsRemove (hkeyed : AssignmentsKeyed w.shared.resources)
    (hstep : (ownerChanges digest).step w ev w') {target : String}
    (h : CommitsRemove digest w ev target) :
    0 < w'.shared.resources.effectiveOwners ↔ ∃ row ∈ w.shared.resources.assignments,
      row.isActiveOwner = true ∧ row.userId ≠ target ∧
        w.shared.resources.hasActiveUser row = true := by
  obtain ⟨i, id, answer, input, captured, request, made, db', rfl, hlocal, hcaller, hcommit⟩ := h
  have hshared : w'.shared = db' := by
    have hnext : (ownerChanges digest).next w (.advance i (.proceed id answer)) = some w' := hstep
    simp only [Program.next, hlocal, Option.bind_some] at hnext
    obtain ⟨⟨sh, next⟩, hadvance, rfl⟩ := Option.map_eq_some_iff.mp hnext
    obtain ⟨rfl, -⟩ := Prod.mk.inj (Option.some.inj hadvance)
    show (ExecutePlace.run digest ownerChange w.shared input answer
      (.commit captured request made)).1 = db'
    simp only [ExecutePlace.run, hcommit]
  have hremove : input.caller.action = .remove := by rw [hcaller]
  have htarget : input.caller.targetUserId = target := by rw [hcaller]
  rw [hshared, effectiveOwners_removed hkeyed hremove (ownerChanged_of_commit hcommit), htarget]

end Runs

/-! ## A removal that leaves no effective owner -/

/-- One owner is active; the user of the other is not. -/
def formerOwner : OwnerWorld where
  shared :=
    { resources :=
        { users := [{ id := "owner" }, { id := "former", active := false }]
          assignments := [{ id := "1", userId := "owner", role := .owner },
            { id := "2", userId := "former", role := .owner }] } }
  locals := []

/-- The request to remove the active one. -/
def removal : RequestInput where
  session := sessionOf "admin"
  actionType := .platformOwnerRemove
  scope := .platform
  companyId := none
  resourceId := some "owner"
  expectedVersion := some 1
  safeParameters :=
    { entries := [("targetUserId", .string "owner"), ("assignmentVersion", .version 1)]
      nodup := by decide }
  confirmation := "REMOVE PLATFORM OWNER"
  now := 2000

/-- The call that executes it. -/
def removalExecution : ExecuteInput OwnerChange :=
  executePlatformOwnerChange (sessionOf "admin") "approval"
    { targetUserId := "owner", action := .remove } true 2000

/-- The run up to the commit. -/
def removalUntilCommit : List OwnerEvent :=
  approvedUntilCommit removal "support" removalExecution "3"

/-- The first call is at the commit of a removal of the owner, and will commit. -/
def isAtRemoval (w : OwnerWorld) : Bool :=
  match (w.locals[0]? : Option (ApprovalCall OwnerChange Int)) with
  | some (.execute input (.commit captured request made)) =>
    input.caller = { targetUserId := "owner", action := .remove } &&
      (executeCommit (·.requesterId) ownerChange w.shared input captured request made "3").toBool
  | _ => false

theorem commitsRemove_of_isAtRemoval {w : OwnerWorld} (h : isAtRemoval w = true) :
    CommitsRemove (·.requesterId) w (.advance 0 (.proceed "approval" "3")) "owner" := by
  unfold isAtRemoval at h
  split at h
  · next input captured request made hlocal =>
    rw [Bool.and_eq_true, decide_eq_true_eq] at h
    cases hcommit : executeCommit (·.requesterId) ownerChange w.shared input captured request made
      "3" with
    | error e =>
        rw [hcommit] at h
        cases h.2
    | ok db' =>
        exact ⟨0, "approval", "3", input, captured, request, made, db', rfl, hlocal, h.1, hcommit⟩
  · cases h

end AvantimePlatform.Governance
