import AvantimePlatform.Team.Writes

/-!
# Changes from below

Two operations change a member.  `changeOrganizationMembershipStatus` asks
`canManageMembership` about the current role of the member;
`changeOrganizationMemberRole` asks only which role the actor may assign.

* `ManagesTarget`: a call that succeeds has an actor that may manage the current role of
  its target.
* `Overreaches` lists the role changes that succeed without it: a manager demotes a
  manager, an administrator or an owner, or an administrator changes an owner.
* `managesTarget_iff`: these are all.
-/

namespace AvantimePlatform.Team

open AvantimePlatform AvantimePlatform.Checked AvantimePlatform.Transition OrganizationRole

variable {db db' : TeamTables}

/-! ## The two operations as one step each -/

/-- A call that no other call interrupts. -/
inductive GovernanceCall where
  | changeRole (input : ChangeRoleInput)
  | changeStatus (input : ChangeStatusInput)
deriving DecidableEq

namespace GovernanceCall

def session : GovernanceCall → TeamSession
  | changeRole input => input.session
  | changeStatus input => input.session

/-- The member that the call is about. -/
def target (db : TeamTables) : GovernanceCall → Option OrganizationMembership
  | changeRole input => readForChange db input.session input.membershipId
  | changeStatus input => readForChange db input.session input.membershipId

/-- `changeOrganizationMemberRole` and `changeOrganizationMembershipStatus`. -/
def run (db : TeamTables) : GovernanceCall → Except String TeamTables
  | changeRole input =>
    match readForChange db input.session input.membershipId with
    | none => .error "MEMBERSHIP_NOT_FOUND"
    | some read => changeRoleCommit db input read
  | changeStatus input =>
    match readForChange db input.session input.membershipId with
    | none => .error "MEMBERSHIP_NOT_FOUND"
    | some read => changeStatusCommit db input read

/-- The tables after the call. -/
def next (db : TeamTables) (call : GovernanceCall) : Option TeamTables :=
  some (settle db (call.run db))

end GovernanceCall

/-- A call that succeeds has an actor that may manage the current role of its target, and
does not rank below it. -/
def ManagesTarget (db : TeamTables) (call : GovernanceCall) (db' : TeamTables) : Prop :=
  call.run db = .ok db' →
    ∃ row actorRole, call.target db = some row ∧
      resolveOrganizationRole call.session = some actorRole ∧
      canManageMembership actorRole row.organizationRole = true ∧
      row.organizationRole.rank ≤ actorRole.rank

/-- The role changes from below. -/
inductive Overreaches (db : TeamTables) (input : ChangeRoleInput) (row : OrganizationMembership) :
    Prop where
  /-- A manager demotes whoever is no member or viewer. -/
  | manager (role : OrganizationRole) (hactor : resolveOrganizationRole input.session = some .manager)
      (hrow : row.organizationRole = .owner ∨ row.organizationRole = .admin ∨
        row.organizationRole = .manager)
      (hname : ofName? input.nextRole = some role) (hrole : role = .member ∨ role = .viewer)
      (hlast : row.organizationRole = .owner → 1 < db.activeOwnerCount row.companyId)
  /-- An administrator demotes an owner. -/
  | admin (role : OrganizationRole) (hactor : resolveOrganizationRole input.session = some .admin)
      (hrow : row.organizationRole = .owner) (hname : ofName? input.nextRole = some role)
      (hrole : role ≠ .owner) (hlast : 1 < db.activeOwnerCount row.companyId)
  /-- An administrator that may assign owners makes an owner an owner. -/
  | adminOwner (hactor : resolveOrganizationRole input.session = some .admin)
      (hrow : row.organizationRole = .owner) (hname : input.nextRole = OrganizationRole.owner.name)
      (hallow : input.allowAdminOwnerAssignment = true)
      (hcritical : ownerAssignmentAllowed input.session input.confirmation input.now = true)

/-- The call is no role change from below, on an active member and with its version. -/
def StaysWithinRank (db : TeamTables) : GovernanceCall → Prop
  | .changeRole input =>
    ∀ row, readForChange db input.session input.membershipId = some row → row.status = .active →
      row.version = input.expectedVersion → ¬Overreaches db input row
  | .changeStatus _ => True

/-! ## One call -/

/-- What is read for a change is the row at its id. -/
theorem membership?_of_readForChange {session : TeamSession} {membershipId : String}
    {row : OrganizationMembership} (h : readForChange db session membershipId = some row) :
    db.membership? row.id = some row := by
  unfold readForChange at h
  split at h
  · cases h
  · have hrow := (Option.filter_eq_some_iff.mp h).1
    rw [(KeyedList.find_eq_some hrow).2]
    exact hrow

theorem ofName?_name (role : OrganizationRole) : ofName? role.name = some role := by
  cases role <;> rfl

theorem name_of_ofName? {value : String} {role : OrganizationRole} (h : ofName? value = some role) :
    role.name = value := by
  simpa using List.find?_some h

/-- A role change that is decided although the actor may not manage the target is one from
below. -/
theorem overreaches_of_decided {input : ChangeRoleInput} {row : OrganizationMembership}
    {actorRole role : OrganizationRole}
    (hactor : resolveOrganizationRole input.session = some actorRole)
    (hdecided : evaluateRoleAssignment
      (input.assignment actorRole row (db.activeOwnerCount row.companyId)) = .ok role)
    (hcritical : input.nextRole = OrganizationRole.owner.name →
      ownerAssignmentAllowed input.session input.confirmation input.now = true)
    (hcannot : canManageMembership actorRole row.organizationRole = false) :
    Overreaches db input row := by
  obtain ⟨hname, -, hprotected, hassign⟩ := evaluateRoleAssignment_eq_ok.mp hdecided
  change ofName? input.nextRole = some role at hname
  change ¬(row.organizationRole = .owner ∧ role ≠ .owner ∧ db.activeOwnerCount row.companyId ≤ 1)
    at hprotected
  change role ∈ assignable input.allowAdminOwnerAssignment actorRole at hassign
  cases actorRole with
  | owner => cases hcannot
  | admin =>
      have hrow : row.organizationRole = .owner := by
        by_contra hne
        rw [canManageMembership, if_neg OrganizationRole.noConfusion, if_pos rfl,
          decide_eq_false_iff_not] at hcannot
        exact hcannot hne
      by_cases hrole : role = .owner
      · rw [hrole] at hname hassign
        have hnext : input.nextRole = OrganizationRole.owner.name := (name_of_ofName? hname).symm
        refine Overreaches.adminOwner hactor hrow hnext ?_ (hcritical hnext)
        by_contra hallow
        rw [assignable, if_neg hallow] at hassign
        exact absurd hassign (by decide)
      · refine Overreaches.admin role hactor hrow hname hrole ?_
        by_contra hcount
        exact hprotected ⟨hrow, hrole, not_lt.mp hcount⟩
  | manager =>
      have hrole : role = .member ∨ role = .viewer := by simpa [assignable] using hassign
      refine Overreaches.manager role hactor ?_ hname hrole ?_
      · revert hcannot
        cases row.organizationRole <;> decide
      · intro howner
        by_contra hcount
        refine hprotected ⟨howner, ?_, not_lt.mp hcount⟩
        rcases hrole with rfl | rfl
        · exact OrganizationRole.noConfusion
        · exact OrganizationRole.noConfusion
  | member => cases hassign
  | viewer => cases hassign

/-- A role change from below is decided. -/
theorem Overreaches.decided {input : ChangeRoleInput} {row : OrganizationMembership}
    (h : Overreaches db input row) :
    ∃ actorRole role, resolveOrganizationRole input.session = some actorRole ∧
      canManageMembership actorRole row.organizationRole = false ∧
      evaluateRoleAssignment (input.assignment actorRole row (db.activeOwnerCount row.companyId)) =
        .ok role ∧
      (input.nextRole = OrganizationRole.owner.name →
        ownerAssignmentAllowed input.session input.confirmation input.now = true) := by
  cases h with
  | manager role hactor hrow hname hrole hlast =>
      refine ⟨.manager, role, hactor, ?_, ?_, ?_⟩
      · rcases hrow with hrow | hrow | hrow
        · rw [hrow]; rfl
        · rw [hrow]; rfl
        · rw [hrow]; rfl
      · refine evaluateRoleAssignment_eq_ok.mpr ⟨hname, ?_, ?_, ?_⟩
        · rintro ⟨-, hrank⟩
          change row.organizationRole.rank < role.rank at hrank
          rcases hrole with rfl | rfl
          · rcases hrow with hrow | hrow | hrow
            · rw [hrow] at hrank; exact absurd hrank (by decide)
            · rw [hrow] at hrank; exact absurd hrank (by decide)
            · rw [hrow] at hrank; exact absurd hrank (by decide)
          · rcases hrow with hrow | hrow | hrow
            · rw [hrow] at hrank; exact absurd hrank (by decide)
            · rw [hrow] at hrank; exact absurd hrank (by decide)
            · rw [hrow] at hrank; exact absurd hrank (by decide)
        · rintro ⟨howner, -, hcount⟩
          exact absurd (hlast howner) (not_lt.mpr hcount)
        · rcases hrole with rfl | rfl
          · exact List.mem_cons_self
          · exact List.mem_cons_of_mem _ List.mem_cons_self
      · intro hnext
        rw [hnext, ofName?_name] at hname
        have hrole' := Option.some.inj hname
        rcases hrole with rfl | rfl
        · cases hrole'
        · cases hrole'
  | admin role hactor hrow hname hrole hlast =>
      refine ⟨.admin, role, hactor, ?_, ?_, ?_⟩
      · rw [hrow]
        rfl
      · refine evaluateRoleAssignment_eq_ok.mpr ⟨hname, ?_, ?_, ?_⟩
        · rintro ⟨-, hrank⟩
          change row.organizationRole.rank < role.rank at hrank
          rw [hrow] at hrank
          revert hrank
          cases role <;> decide
        · rintro ⟨-, -, hcount⟩
          exact absurd hlast (not_lt.mpr hcount)
        · show role ∈ assignable input.allowAdminOwnerAssignment .admin
          unfold assignable
          revert hrole
          cases input.allowAdminOwnerAssignment <;> cases role <;> decide
      · intro hnext
        rw [hnext, ofName?_name] at hname
        exact absurd (Option.some.inj hname).symm hrole
  | adminOwner hactor hrow hname hallow hcritical =>
      refine ⟨.admin, .owner, hactor, ?_, ?_, fun _ => hcritical⟩
      · rw [hrow]
        rfl
      · refine evaluateRoleAssignment_eq_ok.mpr ⟨?_, ?_, ?_, ?_⟩
        · show ofName? input.nextRole = some .owner
          rw [hname, ofName?_name]
        · rintro ⟨-, hrank⟩
          change row.organizationRole.rank < OrganizationRole.owner.rank at hrank
          rw [hrow] at hrank
          exact lt_irrefl _ hrank
        · rintro ⟨-, hne, -⟩
          exact hne rfl
        · show OrganizationRole.owner ∈ assignable input.allowAdminOwnerAssignment .admin
          rw [hallow]
          decide

/-- A role change succeeds from above exactly when it is not one from below. -/
theorem managesTarget_changeRole_iff {input : ChangeRoleInput} :
    ManagesTarget db (.changeRole input)
        (settle db ((GovernanceCall.changeRole input).run db)) ↔
      StaysWithinRank db (.changeRole input) := by
  cases hread : readForChange db input.session input.membershipId with
  | none =>
      refine iff_of_true ?_ ?_
      · intro hok
        simp only [GovernanceCall.run, hread] at hok
        cases hok
      · intro row hrow
        rw [hread] at hrow
        cases hrow
  | some read =>
      have hrun : (GovernanceCall.changeRole input).run db = changeRoleCommit db input read := by
        simp only [GovernanceCall.run, hread]
      have hfound : db.membership? read.id = some read := membership?_of_readForChange hread
      constructor
      · intro hmanages row hrow hactive hversion hover
        have hrowRead : read = row := Option.some.inj (hread.symm.trans hrow)
        rw [← hrowRead] at hactive hversion hover
        obtain ⟨actorRole, role, hactor, hcannot, hdecided, hcritical⟩ := hover.decided
        have hcommit : changeRoleCommit db input read = .ok (db.setMembership (read.assign role)) := by
          unfold changeRoleCommit
          rw [seq_eq_ok, require_eq_ok, bind_eq_ok]
          refine ⟨hcritical, role, ?_, ?_⟩
          · unfold changeRoleDecision
            rw [hactor]
            dsimp only
            rw [hdecided]
          · rw [hfound]
            dsimp only
            rw [seq_eq_ok, require_eq_ok]
            exact ⟨⟨rfl, hversion, hactive⟩, rfl⟩
        rw [hrun, hcommit] at hmanages
        obtain ⟨target, actor, htarget, hactor', hcan, -⟩ := hmanages (hrun.trans hcommit)
        have hsameTarget : read = target := Option.some.inj (hread.symm.trans htarget)
        have hsameActor : actorRole = actor := Option.some.inj (hactor.symm.trans hactor')
        rw [← hsameTarget, ← hsameActor, hcannot] at hcan
        cases hcan
      · intro hwithin hok
        rw [hrun] at hok
        have hcritical : input.nextRole = OrganizationRole.owner.name →
            ownerAssignmentAllowed input.session input.confirmation input.now = true := by
          unfold changeRoleCommit at hok
          rw [seq_eq_ok, require_eq_ok] at hok
          exact hok.1
        obtain ⟨row, role, hchanged⟩ := changeRoleCommit_eq_ok hok
        have hrowRead : read = row := Option.some.inj (hfound.symm.trans hchanged.found)
        have hactive : read.status = .active := hrowRead ▸ hchanged.active
        have hversion : read.version = input.expectedVersion := hrowRead ▸ hchanged.version
        obtain ⟨actorRole, hactor, hdecided⟩ := changeRoleDecision_eq_ok hchanged.decided
        have hcan : canManageMembership actorRole read.organizationRole = true := by
          by_contra hcannot
          exact hwithin read hread hactive hversion (overreaches_of_decided hactor hdecided hcritical
            (Bool.eq_false_iff.mpr hcannot))
        exact ⟨read, actorRole, hread, hactor, hcan, rank_le_of_canManageMembership hcan⟩

/-- A status change that succeeds has an actor that may manage its target. -/
theorem managesTarget_changeStatus {input : ChangeStatusInput} :
    ManagesTarget db (.changeStatus input) db' := by
  intro hok
  unfold GovernanceCall.run at hok
  cases hread : readForChange db input.session input.membershipId with
  | none =>
      simp only [hread] at hok
      cases hok
  | some read =>
      simp only [hread] at hok
      obtain ⟨row, hchanged⟩ := changeStatusCommit_eq_ok hok
      have hchecked := hchanged.checked
      unfold changeStatusChecks at hchecked
      rw [seq_eq_ok, require_eq_ok] at hchecked
      obtain ⟨actorRole, hactor, hcan⟩ := require_eq_ok.mp hchecked.2
      exact ⟨read, actorRole, hread, hactor, hcan, rank_le_of_canManageMembership hcan⟩

/-! ## Sequences of calls -/

/-- Along every sequence of calls, each that succeeds has an actor that may manage its
target exactly when none is a role change from below. -/
theorem changes_from_above_iff {run : List (GovernanceCall × TeamTables)}
    (hrun : Run (stepOf GovernanceCall.next) db run) :
    AllSteps ManagesTarget db run ↔ StepsMeet StaysWithinRank db run := by
  refine allSteps_iff_stepsMeet (fun _ _ _ _ _ => trivial) ?_ hrun trivial
  intro db call db' _ hstep
  have hdb' : settle db (call.run db) = db' := Option.some.inj hstep
  rw [← hdb']
  cases call with
  | changeRole input => exact managesTarget_changeRole_iff
  | changeStatus input => exact iff_of_true managesTarget_changeStatus trivial

/-! ## An owner that a manager removes -/

/-- A company with two owners and a manager. -/
def ownersAndManager : TeamTables where
  memberships :=
    [{ id := "m1", userId := "first-owner", companyId := "acme", organizationRole := .owner },
     { id := "m2", userId := "second-owner", companyId := "acme", organizationRole := .owner },
     { id := "m3", userId := "manager", companyId := "acme", organizationRole := .manager }]

def managerSession : TeamSession where
  userId := "manager"
  companyId := some "acme"
  emailNormalized := "manager"
  organizationRole := some .manager

/-- The manager makes an owner a viewer. -/
def demoteOwner : GovernanceCall :=
  .changeRole
    { session := managerSession, membershipId := "m2", nextRole := "VIEWER", expectedVersion := 1,
      now := 1000 }

/-- Then it removes the viewer. -/
def removeViewer : GovernanceCall :=
  .changeStatus
    { session := managerSession, membershipId := "m2", status := .removed, expectedVersion := 2,
      now := 2000 }

theorem changes_from_above_iff_demoteOwner :
    AllSteps ManagesTarget ownersAndManager
        (trace GovernanceCall.next ownersAndManager [demoteOwner, removeViewer]) ↔
      StepsMeet StaysWithinRank ownersAndManager
        (trace GovernanceCall.next ownersAndManager [demoteOwner, removeViewer]) :=
  changes_from_above_iff (run_trace _ _)

/-- Both calls succeed, and the manager may not manage the owner. -/
theorem owner_demoted_by_manager :
    ¬AllSteps ManagesTarget ownersAndManager
      (trace GovernanceCall.next ownersAndManager [demoteOwner, removeViewer]) := by
  rintro ⟨hdemote, -⟩
  obtain ⟨row, actorRole, hrow, hactor, -, hrank⟩ := hdemote (by decide)
  have hrowRole : row.organizationRole = .owner := by
    rw [← Option.some.inj hrow]
  have hactorRole : actorRole = .manager := (Option.some.inj hactor).symm
  rw [hrowRole, hactorRole] at hrank
  exact absurd hrank (by decide)

end AvantimePlatform.Team
