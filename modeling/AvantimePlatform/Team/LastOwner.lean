import AvantimePlatform.Team.Writes

/-!
# The last owner of an organization

An organization that has an active owner must keep one.  The test for the last owner is
made inside the transaction, under the lock of the company, but with the role that the
call read before it; and an acceptance of an invitation makes no such test.

* `lastOwner_put` says when writing one membership back leaves no active owner.
* `Deposes` lists the three ways in which a call takes the last owner away: it accepts an
  invitation to a lower role, or it changes a role or a status that it read before its
  member became the last owner.
* `keeps_an_owner_iff`: the organization keeps an owner along a run exactly when no step
  of the run is one of these.
-/

namespace AvantimePlatform.Team

open AvantimePlatform AvantimePlatform.Checked AvantimePlatform.Interleaving
  AvantimePlatform.Transition

variable {db db' : TeamTables} {company : String}

/-! ## Counting the owners -/

/-- The membership is the only one that `activeOwnerCount` counts. -/
def LastOwner (db : TeamTables) (company : String) (row : OrganizationMembership) : Prop :=
  row.isActiveOwner company = true ∧ db.activeOwnerCount company = 1

/-- Writing a membership back leaves no owner exactly when it was the last one and is an
owner no more. -/
theorem lastOwner_put (row : OrganizationMembership) {old : OrganizationMembership}
    (hkeyed : Keyed db) (hold : db.membership? row.id = some old)
    (howner : 0 < db.activeOwnerCount company)
    (hdb : db'.memberships = KeyedList.put OrganizationMembership.id row db.memberships) :
    ¬0 < db'.activeOwnerCount company ↔
      LastOwner db company old ∧ row.isActiveOwner company = false := by
  have hcount := KeyedList.countP_put (p := (·.isActiveOwner company)) hkeyed.memberships hold
  rw [← hdb] at hcount
  change db'.activeOwnerCount company + _ = db.activeOwnerCount company + _ at hcount
  unfold LastOwner
  rcases Bool.eq_false_or_eq_true (old.isActiveOwner company) with hb | hb
  · rcases Bool.eq_false_or_eq_true (row.isActiveOwner company) with ha | ha
    · simp only [ha, hb, if_true] at hcount
      simp only [ha, Bool.true_eq_false, and_false, iff_false]
      omega
    · simp only [ha, hb, Bool.false_eq_true, if_true, if_false] at hcount
      simp only [ha, hb, true_and, and_true]
      omega
  · simp only [hb, Bool.false_eq_true, if_false] at hcount
    simp only [hb, Bool.false_eq_true, false_and, iff_false]
    omega

/-- A new membership takes no owner away. -/
theorem activeOwnerCount_append (row : OrganizationMembership)
    (hdb : db'.memberships = db.memberships ++ [row]) :
    db.activeOwnerCount company ≤ db'.activeOwnerCount company := by
  unfold TeamTables.activeOwnerCount
  rw [hdb, List.countP_append]
  exact Nat.le_add_right _ _

theorem isActiveOwner_iff {row : OrganizationMembership} :
    row.isActiveOwner company = true ↔
      row.companyId = company ∧ row.organizationRole = .owner ∧ row.status = .active ∧
        row.active = true := by
  simp [OrganizationMembership.isActiveOwner, and_assoc]

theorem isActiveOwner_eq_false_of_role {row : OrganizationMembership}
    (h : row.organizationRole ≠ .owner) : row.isActiveOwner company = false := by
  rw [Bool.eq_false_iff]
  intro howner
  exact h (isActiveOwner_iff.mp howner).2.1

theorem isActiveOwner_eq_false_of_status {row : OrganizationMembership}
    (h : row.status ≠ .active) : row.isActiveOwner company = false := by
  rw [Bool.eq_false_iff]
  intro howner
  exact h (isActiveOwner_iff.mp howner).2.2.1

/-! ## What takes the last owner away -/

/-- The next statement of a call takes the last owner away. -/
inductive Deposes (db : TeamTables) (company : String) : TeamCall → Prop where
  /-- The last owner accepts an open invitation. -/
  | accept (input : AcceptInput) (invitation : IdentityInvitation) (user : TeamUser)
      (row : OrganizationMembership) (stored : IdentityInvitation)
      (hrow : db.membershipOf? input.session.userId invitation.companyId = some row)
      (hlast : LastOwner db company row) (hstored : db.invitation? invitation.id = some stored)
      (hopen : stored.isAcceptable input.now = true) :
      Deposes db company (.accept input (.commit invitation user))
  /-- A lower role is assigned to the last owner by a call that read it in another role,
  and that an owner of that other role could be assigned. -/
  | changeRole (input : ChangeRoleInput) (read row : OrganizationMembership)
      (actorRole role : OrganizationRole) (hrow : db.membership? read.id = some row)
      (hlast : LastOwner db company row) (hcompany : row.companyId = read.companyId)
      (hversion : row.version = input.expectedVersion)
      (hread : read.organizationRole ≠ .owner)
      (hactor : resolveOrganizationRole input.session = some actorRole)
      (hname : OrganizationRole.ofName? input.nextRole = some role) (hrole : role ≠ .owner)
      (hself : ¬(input.session.userId = read.userId ∧ read.organizationRole.rank < role.rank))
      (hassign : role ∈ assignable input.allowAdminOwnerAssignment actorRole) :
      Deposes db company (.changeRole input (some read))
  /-- The last owner is suspended or removed by a call that read it in another role. -/
  | changeStatus (input : ChangeStatusInput) (read row : OrganizationMembership)
      (hrow : db.membership? read.id = some row) (hlast : LastOwner db company row)
      (hcompany : row.companyId = read.companyId) (hversion : row.version = input.expectedVersion)
      (hread : read.organizationRole ≠ .owner) (hstatus : input.status ≠ .active)
      (hchecked : changeStatusChecks input read = .ok ()) :
      Deposes db company (.changeStatus input (some read))

/-- The step takes no last owner away. -/
def SparesLastOwner (company : String) (w : TeamWorld) (ev : TeamEvent) : Prop :=
  ∀ i id tokenHash call, ev = .advance i (.proceed id tokenHash) → w.locals[i]? = some call →
    ¬Deposes w.shared company call

/-- The invitation that an acceptance holds is not one to be an owner. -/
def InvitesNoOwner : TeamCall → Prop
  | .accept _ (.findUser invitation) => invitation.organizationRole ≠ .owner
  | .accept _ (.commit invitation _) => invitation.organizationRole ≠ .owner
  | _ => True

theorem invitesNoOwner_initial {call : TeamCall} (h : call.isInitial = true) :
    InvitesNoOwner call := by
  cases call with
  | accept input place =>
      cases place with
      | findInvitation => trivial
      | findUser invitation => cases h
      | commit invitation user => cases h
  | _ => trivial

theorem invitesNoOwner_advance {input : TeamInput} {call next : TeamCall}
    (hcall : InvitesNoOwner call) (hnext : (call.advance db input).2 = some next) :
    InvitesNoOwner next := by
  cases input with
  | failure => cases hnext
  | proceed id tokenHash =>
      cases call with
      | invite input place =>
          cases place with
          | find =>
              simp only [TeamCall.advance, InvitePlace.run] at hnext
              split at hnext
              · cases hnext
              · split at hnext
                · cases hnext
                · rw [← Option.some.inj hnext]
                  trivial
          | revokeOpen companyId role =>
              rw [← Option.some.inj hnext]
              trivial
          | create companyId role => cases hnext
      | accept input place =>
          cases place with
          | findInvitation =>
              simp only [TeamCall.advance, AcceptPlace.run] at hnext
              split at hnext
              · cases hnext
              · next row hrow =>
                split at hnext
                · next hvalid =>
                  rw [← Option.some.inj hnext]
                  simp only [AcceptInput.invitationValid, Bool.and_eq_true,
                    decide_eq_true_eq] at hvalid
                  exact hvalid.1.2
                · cases hnext
          | findUser invitation =>
              simp only [TeamCall.advance, AcceptPlace.run] at hnext
              split at hnext
              · cases hnext
              · split at hnext
                · rw [← Option.some.inj hnext]
                  exact hcall
                · cases hnext
          | commit invitation user => cases hnext
      | revoke input => cases hnext
      | changeRole input read =>
          cases read with
          | none =>
              obtain ⟨row, -, rfl⟩ := Option.map_eq_some_iff.mp hnext
              trivial
          | some read => cases hnext
      | changeStatus input read =>
          cases read with
          | none =>
              obtain ⟨row, -, rfl⟩ := Option.map_eq_some_iff.mp hnext
              trivial
          | some read => cases hnext
      | bootstrap input => cases hnext

/-! ## One step -/

/-- A step that takes no last owner away leaves an owner. -/
theorem Wrote.keepsOwner (hkeyed : Keyed db) {input : TeamInput} {call : TeamCall}
    (howner : 0 < db.activeOwnerCount company)
    (hspares : ∀ id tokenHash, input = .proceed id tokenHash → ¬Deposes db company call)
    (h : Wrote db input call db') : 0 < db'.activeOwnerCount company := by
  cases h with
  | nothing => exact howner
  | revokedOpen id tokenHash input companyId role => exact howner
  | invited id tokenHash input companyId role h =>
      obtain ⟨-, -, rfl⟩ := createInvitation_eq_ok h
      exact howner
  | accepted id tokenHash input invitation user h =>
      rcases memberships_acceptCommit h with ⟨row, hrow, hdb⟩ | ⟨-, -, hdb⟩
      · by_contra hnone
        have hold : db.membership? row.id = some row := membership?_of_membershipOf? hkeyed hrow
        have hlast := (lastOwner_put (row.admitMember invitation.organizationRole) hkeyed hold howner
          hdb).mp hnone
        obtain ⟨stored, hstored, hopen, -⟩ := invitations_acceptCommit h
        exact hspares id tokenHash rfl
          (Deposes.accept input invitation user row stored hrow hlast.1 hstored hopen)
      · exact lt_of_lt_of_le howner (activeOwnerCount_append _ hdb)
  | revoked id tokenHash input h =>
      obtain ⟨row, -, -, -, rfl⟩ := revokeCompanyInvitation_eq_ok h
      exact howner
  | roleChanged id tokenHash input read h =>
      obtain ⟨row, role, hchanged⟩ := changeRoleCommit_eq_ok h
      have hid : row.id = read.id := (KeyedList.find_eq_some hchanged.found).2
      have hold : db.membership? row.id = some row := by rw [hid]; exact hchanged.found
      by_contra hnone
      have hdb := congrArg TeamTables.memberships hchanged.written
      obtain ⟨hlast, hlow⟩ := (lastOwner_put (row.assign role) hkeyed hold howner hdb).mp hnone
      obtain ⟨hcompany, -, hactive⟩ := isActiveOwner_iff.mp hlast.1
      have hrole : role ≠ .owner := by
        intro hrole
        rw [Bool.eq_false_iff] at hlow
        exact hlow (isActiveOwner_iff.mpr ⟨hcompany, hrole, hactive⟩)
      obtain ⟨actorRole, hactor, hdecided⟩ := changeRoleDecision_eq_ok hchanged.decided
      obtain ⟨hname, hself, hprotected, hassign⟩ := evaluateRoleAssignment_eq_ok.mp hdecided
      refine hspares id tokenHash rfl
        (Deposes.changeRole input read row actorRole role hchanged.found hlast hchanged.company
          hchanged.version ?_ hactor hname hrole hself hassign)
      intro hread
      have hcount : db.activeOwnerCount read.companyId = 1 := by
        rw [← hchanged.company, hcompany]
        exact hlast.2
      exact hprotected ⟨hread, hrole, le_of_eq hcount⟩
  | statusChanged id tokenHash input read h =>
      obtain ⟨row, hchanged⟩ := changeStatusCommit_eq_ok h
      have hid : row.id = read.id := (KeyedList.find_eq_some hchanged.found).2
      have hold : db.membership? row.id = some row := by rw [hid]; exact hchanged.found
      by_contra hnone
      have hdb := congrArg TeamTables.memberships hchanged.written
      obtain ⟨hlast, hlow⟩ := (lastOwner_put (row.setStatus input.status) hkeyed hold howner
        hdb).mp hnone
      obtain ⟨hcompany, hrole, -⟩ := isActiveOwner_iff.mp hlast.1
      have hstatus : input.status ≠ .active := by
        intro hstatus
        rw [Bool.eq_false_iff] at hlow
        refine hlow (isActiveOwner_iff.mpr ⟨hcompany, hrole, ?_, decide_eq_true hstatus⟩)
        rw [hstatus]
        rfl
      refine hspares id tokenHash rfl
        (Deposes.changeStatus input read row hchanged.found hlast hchanged.company
          hchanged.version ?_ hstatus hchanged.checked)
      intro hread
      have hcount : 1 < db.activeOwnerCount read.companyId := hchanged.notLast hread hstatus
      rw [← hchanged.company, hcompany, hlast.2] at hcount
      omega
  | bootstrapped id tokenHash input h =>
      obtain ⟨row, companyId, hrow, hadmin, -, rfl⟩ := bootstrap_eq_ok h
      have hid : row.id = input.membershipId := (KeyedList.find_eq_some hrow).2
      have hold : db.membership? row.id = some row := by rw [hid]; exact hrow
      by_contra hnone
      obtain ⟨hlast, -⟩ := (lastOwner_put (row.assign .owner) hkeyed hold howner rfl).mp hnone
      have hrole := (isActiveOwner_iff.mp hlast.1).2.1
      simp only [OrganizationMembership.canBootstrap, Bool.and_eq_true, decide_eq_true_eq] at hadmin
      rw [hadmin.1.1.1.2] at hrole
      cases hrole

/-- A step that takes the last owner away leaves none. -/
theorem Deposes.leavesNone (hkeyed : Keyed db) {call : TeamCall} (hcall : InvitesNoOwner call)
    (h : Deposes db company call) (id tokenHash : String) :
    ¬0 < (call.advance db (.proceed id tokenHash)).1.activeOwnerCount company := by
  cases h with
  | accept input invitation user row stored hrow hlast hstored hopen =>
      have hold : db.membership? row.id = some row := membership?_of_membershipOf? hkeyed hrow
      obtain ⟨db', hdb, hmembers⟩ := acceptCommit_of_member user id hstored hopen hrow
      have hafter : (TeamCall.advance db (.proceed id tokenHash)
          (.accept input (.commit invitation user))).1 = db' := by
        show settle db (acceptCommit db input invitation user id) = db'
        rw [hdb]
        rfl
      have howner : 0 < db.activeOwnerCount company := by rw [hlast.2]; exact Nat.one_pos
      rw [hafter, lastOwner_put (row.admitMember invitation.organizationRole) hkeyed hold howner hmembers]
      exact ⟨hlast, isActiveOwner_eq_false_of_role hcall⟩
  | changeRole input read row actorRole role hrow hlast hcompany hversion hread hactor hname hrole
      hself hassign =>
      have hid : row.id = read.id := (KeyedList.find_eq_some hrow).2
      have hold : db.membership? row.id = some row := by rw [hid]; exact hrow
      have hdecided : changeRoleDecision db input read = .ok role := by
        have hok : evaluateRoleAssignment
            (input.assignment actorRole read (db.activeOwnerCount read.companyId)) = .ok role :=
          evaluateRoleAssignment_eq_ok.mpr
            ⟨hname, hself, fun hprotected => hread hprotected.1, hassign⟩
        unfold changeRoleDecision
        rw [hactor]
        dsimp only
        rw [hok]
      have hnotOwner : input.nextRole = OrganizationRole.owner.name →
          ownerAssignmentAllowed input.session input.confirmation input.now = true := by
        intro hnext
        rw [hnext] at hname
        exact absurd (Option.some.inj hname).symm hrole
      have hactive : row.status = .active := (isActiveOwner_iff.mp hlast.1).2.2.1
      have hcommit : changeRoleCommit db input read = .ok (db.setMembership (row.assign role)) := by
        unfold changeRoleCommit
        rw [seq_eq_ok, require_eq_ok, bind_eq_ok]
        refine ⟨hnotOwner, role, hdecided, ?_⟩
        rw [hrow]
        dsimp only
        rw [seq_eq_ok, require_eq_ok]
        exact ⟨⟨hcompany, hversion, hactive⟩, rfl⟩
      have howner : 0 < db.activeOwnerCount company := by rw [hlast.2]; exact Nat.one_pos
      show ¬0 < (settle db (changeRoleCommit db input read)).activeOwnerCount company
      rw [hcommit]
      refine (lastOwner_put (row.assign role) hkeyed hold howner rfl).mpr ⟨hlast, ?_⟩
      exact isActiveOwner_eq_false_of_role hrole
  | changeStatus input read row hrow hlast hcompany hversion hread hstatus hchecked =>
      have hid : row.id = read.id := (KeyedList.find_eq_some hrow).2
      have hold : db.membership? row.id = some row := by rw [hid]; exact hrow
      have hcommit : changeStatusCommit db input read =
          .ok (db.setMembership (row.setStatus input.status)) := by
        unfold changeStatusCommit
        rw [seq_eq_ok, seq_eq_ok, require_eq_ok]
        refine ⟨hchecked, fun howner => absurd howner hread, ?_⟩
        rw [hrow]
        dsimp only
        rw [seq_eq_ok, require_eq_ok]
        exact ⟨⟨hcompany, hversion⟩, rfl⟩
      have howner : 0 < db.activeOwnerCount company := by rw [hlast.2]; exact Nat.one_pos
      show ¬0 < (settle db (changeStatusCommit db input read)).activeOwnerCount company
      rw [hcommit]
      refine (lastOwner_put (row.setStatus input.status) hkeyed hold howner rfl).mpr ⟨hlast, ?_⟩
      refine isActiveOwner_eq_false_of_status ?_
      show input.status.status ≠ .active
      cases hinput : input.status with
      | active => exact absurd hinput hstatus
      | suspended => exact MembershipStatus.noConfusion
      | removed => exact MembershipStatus.noConfusion

/-! ## Runs -/

/-- The organization has an active owner, and no call is in progress. -/
def StartsWithOwner (company : String) (w : TeamWorld) : Prop :=
  w.Quiescent ∧ Keyed w.shared ∧ 0 < w.shared.activeOwnerCount company

/-- The organization has an active owner. -/
def HasOwner (company : String) (w : TeamWorld) : Prop := 0 < w.shared.activeOwnerCount company

theorem hasOwner_guarded {w : TeamWorld}
    (hr : Reachable (StartsWithOwner company) (Guarded (SparesLastOwner company) team.step) w) :
    (Keyed w.shared ∧ HasOwner company w) ∧ ∀ call ∈ w.locals, InvitesNoOwner call := by
  have hinv := Program.reachable_inv (P := team)
    (I := fun db => Keyed db ∧ 0 < db.activeOwnerCount company)
    (L := fun _ call => InvitesNoOwner call) ?_ ?_ ?_ ?_ hr
  · exact hinv
  · rintro w ⟨hquiet, hkeyed, howner⟩
    refine ⟨⟨hkeyed, howner⟩, fun call hcall => ?_⟩
    rw [hquiet] at hcall
    cases hcall
  · intro db users hI
    exact ⟨⟨⟨hI.1.memberships, hI.1.members, hI.1.invitations⟩, hI.2⟩, fun _ hcall => hcall⟩
  · intro w call _ _ hinitial
    exact invitesNoOwner_initial hinitial
  · intro w i input call sh next hI hL hok hcall hmem hadvance
    obtain ⟨hsh, hnext⟩ := Prod.mk.inj (Option.some.inj hadvance)
    rw [← hsh]
    have hwrote : Wrote w.shared input call (call.advance w.shared input).1 :=
      wrote_advance w.shared input call
    refine ⟨⟨hwrote.keyed hI.1, hwrote.keepsOwner hI.1 hI.2 ?_⟩, ?_, fun _ _ hm => hm⟩
    · intro id tokenHash hinput
      exact hok i id tokenHash call (by rw [hinput]) hcall
    · intro m hm
      rw [hm] at hnext
      exact invitesNoOwner_advance (hL call hmem) hnext

theorem hasOwner_of_step {w w' : TeamWorld} {ev : TeamEvent}
    (hr : Reachable (StartsWithOwner company) (Guarded (SparesLastOwner company) team.step) w)
    (hstep : team.step w ev w') (hnot : ¬SparesLastOwner company w ev) : ¬HasOwner company w' := by
  unfold SparesLastOwner at hnot
  push Not at hnot
  obtain ⟨i, id, tokenHash, call, rfl, hcall, hdeposes⟩ := hnot
  obtain ⟨⟨hkeyed, -⟩, hlocals⟩ := hasOwner_guarded hr
  unfold HasOwner
  rw [shared_of_advance hstep hcall]
  exact hdeposes.leavesNone hkeyed (hlocals call (List.mem_of_getElem? hcall)) id tokenHash

/-- An organization that starts with an active owner keeps one along a run exactly when
no step of the run deposes the last one. -/
theorem keeps_an_owner_iff {w : TeamWorld} {run : List (TeamEvent × TeamWorld)}
    (hstart : StartsWithOwner company w) (hrun : Run team.step w run) :
    AlwaysHolds (HasOwner company) w run ↔ StepsMeet (SparesLastOwner company) w run :=
  alwaysHolds_iff_stepsMeet (fun _ hr => (hasOwner_guarded hr).1.2)
    (fun _ _ _ hr hstep hnot => hasOwner_of_step hr hstep hnot) hrun (Reachable.start hstart)

/-! ## An organization that loses its last owner -/

/-- A company with an owner and two administrators. -/
def ownerAndAdmins : TeamWorld where
  shared :=
    { memberships :=
        [{ id := "m1", userId := "first-user", companyId := "acme", organizationRole := .owner },
         { id := "m2", userId := "second-user", companyId := "acme", organizationRole := .admin },
         { id := "m3", userId := "third-user", companyId := "acme", organizationRole := .admin }] }
  locals := []

/-- The session of a member, with a fresh second factor. -/
def sessionOf (userId : String) (role : OrganizationRole) : TeamSession where
  userId := userId
  companyId := some "acme"
  emailNormalized := userId
  organizationRole := some role
  mfaSatisfied := true
  authenticationAt := 1000

/-- The third user begins to make the second a member and reads it as `ADMIN`.  The first
makes the second an owner, which makes the first a member; then the third user's call goes
on. -/
def staleDemotion : List TeamEvent :=
  [.spawn (.changeRole
     { session := sessionOf "third-user" .admin, membershipId := "m2", nextRole := "MEMBER",
       expectedVersion := 2, now := 2000 } none),
   .advance 0 (.proceed "" ""),
   .spawn (.changeRole
     { session := sessionOf "first-user" .owner, membershipId := "m2", nextRole := "OWNER",
       expectedVersion := 1, confirmation := some "ASSIGN OWNER", now := 2000 } none),
   .advance 1 (.proceed "" ""), .advance 1 (.proceed "" ""),
   .spawn (.changeRole
     { session := sessionOf "second-user" .owner, membershipId := "m1", nextRole := "MEMBER",
       expectedVersion := 1, now := 2000 } none),
   .advance 1 (.proceed "" ""), .advance 1 (.proceed "" ""),
   .advance 0 (.proceed "" "")]

theorem startsWithOwner_ownerAndAdmins : StartsWithOwner "acme" ownerAndAdmins := by
  refine ⟨rfl, ⟨?_, ?_, ?_⟩, by decide⟩
  · simp [KeyedList.Distinct, ownerAndAdmins]
  · decide
  · simp [KeyedList.Distinct, ownerAndAdmins]

theorem keeps_an_owner_iff_staleDemotion :
    AlwaysHolds (HasOwner "acme") ownerAndAdmins (trace team.next ownerAndAdmins staleDemotion) ↔
      StepsMeet (SparesLastOwner "acme") ownerAndAdmins
        (trace team.next ownerAndAdmins staleDemotion) :=
  keeps_an_owner_iff startsWithOwner_ownerAndAdmins (run_trace _ _)

/-- The call of the third user makes the last owner a member. -/
theorem last_owner_lost :
    ∃ w, Reachable (StartsWithOwner "acme") team.step w ∧ w.shared.activeOwnerCount "acme" = 0 :=
  exists_reachable_of_exec (fun w : TeamWorld => w.shared.activeOwnerCount "acme" = 0) team.next
    staleDemotion startsWithOwner_ownerAndAdmins (by decide)

end AvantimePlatform.Team
