import AvantimePlatform.Team.Memberships

/-!
# What the team operations write

For each transaction, what it has checked when it does not throw, and the row it
leaves.  `Wrote` collects them: what one step of a call may do to the tables.  The
invariants are proved by cases on it.

`Keyed` is what the database itself guarantees: ids are unique, a user has at most one
membership in a company, and a token hash belongs to one invitation.
-/

namespace AvantimePlatform.Team

open AvantimePlatform AvantimePlatform.Checked AvantimePlatform.Interleaving
  AvantimePlatform.Transition

variable {db db' : TeamTables}

/-! ## The transactions -/

/-- What the upsert of an acceptance leaves. -/
theorem admitMember_eq_ok {userId companyId id : String} {role : OrganizationRole}
    (h : db.admitMember userId companyId role id = .ok db') :
    (∃ row, db.membershipOf? userId companyId = some row ∧
        db' = db.setMembership (row.admitMember role)) ∨
      (db.membershipOf? userId companyId = none ∧ db.membership? id = none ∧
        db' = { db with memberships := db.memberships ++ [admitted id userId companyId role] }) := by
  unfold TeamTables.admitMember at h
  split at h
  · next row hrow => exact Or.inl ⟨row, hrow, (Except.ok.inj h).symm⟩
  · next hnone =>
    rw [seq_eq_ok, require_eq_ok] at h
    exact Or.inr ⟨hnone, h.1, (Except.ok.inj h.2).symm⟩

/-- An acceptance that commits has found its invitation open. -/
theorem acceptCommit_eq_ok {input : AcceptInput} {invitation : IdentityInvitation}
    {user : TeamUser} {id : String} (h : acceptCommit db input invitation user id = .ok db') :
    ∃ row, db.invitation? invitation.id = some row ∧ row.isAcceptable input.now = true ∧
      ∃ member, (db.setInvitation
          { row with acceptedAt := some input.now
                     acceptedBy := some input.session.userId }).admitMember input.session.userId
        invitation.companyId invitation.organizationRole id = .ok member ∧
        db' = member.setUserCompany user invitation.companyId := by
  unfold acceptCommit at h
  split at h
  · cases h
  · next row hrow =>
    rw [seq_eq_ok, require_eq_ok, bind_eq_ok] at h
    obtain ⟨hopen, member, hmember, hdb⟩ := h
    exact ⟨row, hrow, hopen, member, hmember, (Except.ok.inj hdb).symm⟩

@[simp] theorem memberships_setUserCompany (user : TeamUser) (companyId : String) :
    (db.setUserCompany user companyId).memberships = db.memberships := by
  unfold TeamTables.setUserCompany
  split
  · rfl
  · rfl

@[simp] theorem invitations_setUserCompany (user : TeamUser) (companyId : String) :
    (db.setUserCompany user companyId).invitations = db.invitations := by
  unfold TeamTables.setUserCompany
  split
  · rfl
  · rfl

/-- What an acceptance leaves of the memberships: the one of the user in the company is
admitted, or created. -/
theorem memberships_acceptCommit {input : AcceptInput} {invitation : IdentityInvitation}
    {user : TeamUser} {id : String} (h : acceptCommit db input invitation user id = .ok db') :
    (∃ row, db.membershipOf? input.session.userId invitation.companyId = some row ∧
        db'.memberships = KeyedList.put OrganizationMembership.id
          (row.admitMember invitation.organizationRole) db.memberships) ∨
      (db.membershipOf? input.session.userId invitation.companyId = none ∧
        db.membership? id = none ∧
        db'.memberships = db.memberships ++
          [admitted id input.session.userId invitation.companyId invitation.organizationRole]) := by
  obtain ⟨row, -, -, member, hmember, rfl⟩ := acceptCommit_eq_ok h
  rw [memberships_setUserCompany]
  rcases admitMember_eq_ok hmember with ⟨found, hfound, rfl⟩ | ⟨hnone, hfresh, rfl⟩
  · exact Or.inl ⟨found, hfound, rfl⟩
  · exact Or.inr ⟨hnone, hfresh, rfl⟩

/-- What it leaves of the invitations: its own is accepted. -/
theorem invitations_acceptCommit {input : AcceptInput} {invitation : IdentityInvitation}
    {user : TeamUser} {id : String} (h : acceptCommit db input invitation user id = .ok db') :
    ∃ row, db.invitation? invitation.id = some row ∧ row.isAcceptable input.now = true ∧
      db'.invitations = KeyedList.put IdentityInvitation.id
        { row with acceptedAt := some input.now, acceptedBy := some input.session.userId }
        db.invitations := by
  obtain ⟨row, hrow, hopen, member, hmember, rfl⟩ := acceptCommit_eq_ok h
  refine ⟨row, hrow, hopen, ?_⟩
  rw [invitations_setUserCompany]
  rcases admitMember_eq_ok hmember with ⟨found, -, rfl⟩ | ⟨-, -, rfl⟩
  · rfl
  · rfl

/-- An acceptance of an open invitation by a member commits, and admits the member. -/
theorem acceptCommit_of_member {input : AcceptInput} {invitation stored : IdentityInvitation}
    {row : OrganizationMembership} (user : TeamUser) (id : String)
    (hstored : db.invitation? invitation.id = some stored)
    (hopen : stored.isAcceptable input.now = true)
    (hrow : db.membershipOf? input.session.userId invitation.companyId = some row) :
    ∃ db', acceptCommit db input invitation user id = .ok db' ∧
      db'.memberships = KeyedList.put OrganizationMembership.id
        (row.admitMember invitation.organizationRole) db.memberships := by
  let accepted := db.setInvitation
    { stored with acceptedAt := some input.now, acceptedBy := some input.session.userId }
  have hadmit : accepted.admitMember input.session.userId invitation.companyId
      invitation.organizationRole id =
        .ok (accepted.setMembership (row.admitMember invitation.organizationRole)) := by
    have hrow' : accepted.membershipOf? input.session.userId invitation.companyId = some row := hrow
    unfold TeamTables.admitMember
    rw [hrow']
  refine ⟨(accepted.setMembership (row.admitMember invitation.organizationRole)).setUserCompany user
    invitation.companyId, ?_, ?_⟩
  · unfold acceptCommit
    rw [hstored]
    dsimp only
    rw [seq_eq_ok, require_eq_ok, bind_eq_ok]
    exact ⟨hopen, _, hadmit, rfl⟩
  · rw [memberships_setUserCompany]
    rfl

/-- A revocation that does not throw has found its invitation open. -/
theorem revokeCompanyInvitation_eq_ok {input : RevokeInput}
    (h : revokeCompanyInvitation db input = .ok db') :
    ∃ row, db.invitation? input.invitationId = some row ∧ row.acceptedAt = none ∧
      row.revokedAt = none ∧ db' = db.setInvitation { row with revokedAt := some input.now } := by
  unfold revokeCompanyInvitation at h
  obtain ⟨companyId, -, h⟩ := bind_eq_ok.mp h
  split at h
  · cases h
  · next row hrow =>
    rw [seq_eq_ok, require_eq_ok] at h
    exact ⟨row, hrow, h.1.2.1, h.1.2.2, (Except.ok.inj h.2).symm⟩

/-- What the decision of a role change has checked. -/
theorem changeRoleDecision_eq_ok {input : ChangeRoleInput} {read : OrganizationMembership}
    {role : OrganizationRole} (h : changeRoleDecision db input read = .ok role) :
    ∃ actorRole, resolveOrganizationRole input.session = some actorRole ∧
      evaluateRoleAssignment (input.assignment actorRole read (db.activeOwnerCount read.companyId)) =
        .ok role := by
  unfold changeRoleDecision at h
  split at h
  · cases h
  · next actorRole hactor =>
    split at h
    · next decided hdecided =>
      refine ⟨actorRole, hactor, ?_⟩
      rw [hdecided, Except.ok.inj h]
    · cases h

/-- What a role change that commits has checked, and the row it leaves. -/
structure RoleChanged (db : TeamTables) (input : ChangeRoleInput) (read row : OrganizationMembership)
    (role : OrganizationRole) (db' : TeamTables) : Prop where
  decided : changeRoleDecision db input read = .ok role
  found : db.membership? read.id = some row
  company : row.companyId = read.companyId
  version : row.version = input.expectedVersion
  active : row.status = .active
  written : db' = db.setMembership (row.assign role)

theorem changeRoleCommit_eq_ok {input : ChangeRoleInput} {read : OrganizationMembership}
    (h : changeRoleCommit db input read = .ok db') :
    ∃ row role, RoleChanged db input read row role db' := by
  unfold changeRoleCommit at h
  rw [seq_eq_ok, bind_eq_ok] at h
  obtain ⟨-, role, hdecided, h⟩ := h
  split at h
  · cases h
  · next row hrow =>
    rw [seq_eq_ok, require_eq_ok] at h
    obtain ⟨⟨hcompany, hversion, hactive⟩, hdb⟩ := h
    exact ⟨row, role, hdecided, hrow, hcompany, hversion, hactive, (Except.ok.inj hdb).symm⟩

/-- What a status change that commits has checked, and the row it leaves. -/
structure StatusChanged (db : TeamTables) (input : ChangeStatusInput)
    (read row : OrganizationMembership) (db' : TeamTables) : Prop where
  checked : changeStatusChecks input read = .ok ()
  notLast : read.organizationRole = .owner → input.status ≠ .active →
    1 < db.activeOwnerCount read.companyId
  found : db.membership? read.id = some row
  company : row.companyId = read.companyId
  version : row.version = input.expectedVersion
  written : db' = db.setMembership (row.setStatus input.status)

theorem changeStatusCommit_eq_ok {input : ChangeStatusInput} {read : OrganizationMembership}
    (h : changeStatusCommit db input read = .ok db') :
    ∃ row, StatusChanged db input read row db' := by
  unfold changeStatusCommit at h
  rw [seq_eq_ok, seq_eq_ok, require_eq_ok] at h
  obtain ⟨hchecked, hnotLast, h⟩ := h
  split at h
  · cases h
  · next row hrow =>
    rw [seq_eq_ok, require_eq_ok] at h
    obtain ⟨⟨hcompany, hversion⟩, hdb⟩ := h
    exact ⟨row, hchecked, hnotLast, hrow, hcompany, hversion, (Except.ok.inj hdb).symm⟩

/-- A bootstrap that commits makes its admin an owner. -/
theorem bootstrap_eq_ok {input : BootstrapInput}
    (h : bootstrapFirstOrganizationOwner db input = .ok db') :
    ∃ row companyId, db.membership? input.membershipId = some row ∧
      row.canBootstrap input companyId = true ∧ db.activeOwnerCount companyId = 0 ∧
      db' = db.setMembership (row.assign .owner) := by
  unfold bootstrapFirstOrganizationOwner at h
  obtain ⟨companyId, -, h⟩ := bind_eq_ok.mp h
  rw [seq_eq_ok, seq_eq_ok, require_eq_ok, require_eq_ok] at h
  obtain ⟨-, hcount, h⟩ := h
  split at h
  · cases h
  · next row hrow =>
    rw [seq_eq_ok, require_eq_ok] at h
    exact ⟨row, companyId, hrow, h.1, hcount, (Except.ok.inj h.2).symm⟩

theorem createInvitation_eq_ok {row : IdentityInvitation} (h : createInvitation db row = .ok db') :
    db.invitation? row.id = none ∧ db.invitationOf? row.tokenHash = none ∧
      db' = { db with invitations := db.invitations ++ [row] } := by
  unfold createInvitation at h
  rw [seq_eq_ok, require_eq_ok] at h
  exact ⟨h.1.1, h.1.2, (Except.ok.inj h.2).symm⟩

/-! ## One step of a call -/

/-- What one step of a call may write. -/
inductive Wrote (db : TeamTables) : TeamInput → TeamCall → TeamTables → Prop where
  | nothing (input : TeamInput) (call : TeamCall) : Wrote db input call db
  | revokedOpen (id tokenHash : String) (input : InviteInput) (companyId : String)
      (role : OrganizationRole) :
      Wrote db (.proceed id tokenHash) (.invite input (.revokeOpen companyId role))
        (db.revokeOpen companyId input.emailNormalized input.now)
  | invited (id tokenHash : String) (input : InviteInput) (companyId : String)
      (role : OrganizationRole) {db' : TeamTables}
      (h : createInvitation db (input.invitation companyId role id tokenHash) = .ok db') :
      Wrote db (.proceed id tokenHash) (.invite input (.create companyId role)) db'
  | accepted (id tokenHash : String) (input : AcceptInput) (invitation : IdentityInvitation)
      (user : TeamUser) {db' : TeamTables}
      (h : acceptCommit db input invitation user id = .ok db') :
      Wrote db (.proceed id tokenHash) (.accept input (.commit invitation user)) db'
  | revoked (id tokenHash : String) (input : RevokeInput) {db' : TeamTables}
      (h : revokeCompanyInvitation db input = .ok db') :
      Wrote db (.proceed id tokenHash) (.revoke input) db'
  | roleChanged (id tokenHash : String) (input : ChangeRoleInput) (read : OrganizationMembership)
      {db' : TeamTables} (h : changeRoleCommit db input read = .ok db') :
      Wrote db (.proceed id tokenHash) (.changeRole input (some read)) db'
  | statusChanged (id tokenHash : String) (input : ChangeStatusInput)
      (read : OrganizationMembership) {db' : TeamTables}
      (h : changeStatusCommit db input read = .ok db') :
      Wrote db (.proceed id tokenHash) (.changeStatus input (some read)) db'
  | bootstrapped (id tokenHash : String) (input : BootstrapInput) {db' : TeamTables}
      (h : bootstrapFirstOrganizationOwner db input = .ok db') :
      Wrote db (.proceed id tokenHash) (.bootstrap input) db'

/-- A transaction leaves its result, or the tables as they were. -/
theorem settle_cases {result : Except String TeamTables} {P : TeamTables → Prop} (hsame : P db)
    (hok : ∀ db', result = .ok db' → P db') : P (settle db result) := by
  cases result with
  | error e => exact hsame
  | ok db' => exact hok db' rfl

theorem wrote_advance (db : TeamTables) (input : TeamInput) (call : TeamCall) :
    Wrote db input call (call.advance db input).1 := by
  cases input with
  | failure => exact Wrote.nothing _ _
  | proceed id tokenHash =>
      cases call with
      | invite input place =>
          cases place with
          | find =>
              simp only [TeamCall.advance, InvitePlace.run]
              split
              · exact Wrote.nothing _ _
              · split
                · exact Wrote.nothing _ _
                · exact Wrote.nothing _ _
          | revokeOpen companyId role => exact Wrote.revokedOpen id tokenHash input companyId role
          | create companyId role =>
              exact settle_cases (Wrote.nothing _ _) fun db' h =>
                Wrote.invited id tokenHash input companyId role h
      | accept input place =>
          cases place with
          | findInvitation =>
              simp only [TeamCall.advance, AcceptPlace.run]
              split
              · exact Wrote.nothing _ _
              · split
                · exact Wrote.nothing _ _
                · exact Wrote.nothing _ _
          | findUser invitation =>
              simp only [TeamCall.advance, AcceptPlace.run]
              split
              · exact Wrote.nothing _ _
              · split
                · exact Wrote.nothing _ _
                · exact Wrote.nothing _ _
          | commit invitation user =>
              exact settle_cases (Wrote.nothing _ _) fun db' h =>
                Wrote.accepted id tokenHash input invitation user h
      | revoke input =>
          exact settle_cases (Wrote.nothing _ _) fun db' h => Wrote.revoked id tokenHash input h
      | changeRole input read =>
          cases read with
          | none => exact Wrote.nothing _ _
          | some read =>
              exact settle_cases (Wrote.nothing _ _) fun db' h =>
                Wrote.roleChanged id tokenHash input read h
      | changeStatus input read =>
          cases read with
          | none => exact Wrote.nothing _ _
          | some read =>
              exact settle_cases (Wrote.nothing _ _) fun db' h =>
                Wrote.statusChanged id tokenHash input read h
      | bootstrap input =>
          exact settle_cases (Wrote.nothing _ _) fun db' h =>
            Wrote.bootstrapped id tokenHash input h

/-! ## The memberships after a step -/

/-- What one step leaves of the memberships: nothing changes, one row of a new user is
appended, or one row is written back under its keys. -/
inductive MembershipsWrote (db : TeamTables) : List OrganizationMembership → Prop where
  | same : MembershipsWrote db db.memberships
  | created (row : OrganizationMembership) (hid : db.membership? row.id = none)
      (hnone : db.membershipOf? row.userId row.companyId = none) :
      MembershipsWrote db (db.memberships ++ [row])
  | changed (old row : OrganizationMembership) (hold : db.membership? row.id = some old)
      (huser : row.userId = old.userId) (hcompany : row.companyId = old.companyId) :
      MembershipsWrote db (KeyedList.put OrganizationMembership.id row db.memberships)

/-- The keys of the tables. -/
structure Keyed (db : TeamTables) : Prop where
  memberships : KeyedList.Distinct OrganizationMembership.id db.memberships
  members : ∀ a ∈ db.memberships, ∀ b ∈ db.memberships, a.userId = b.userId →
    a.companyId = b.companyId → a = b
  invitations : KeyedList.Distinct IdentityInvitation.id db.invitations

theorem membershipOf?_eq_some {userId companyId : String} {row : OrganizationMembership}
    (h : db.membershipOf? userId companyId = some row) :
    row ∈ db.memberships ∧ row.userId = userId ∧ row.companyId = companyId := by
  have hfound := List.find?_some h
  rw [Bool.and_eq_true, beq_iff_eq, beq_iff_eq] at hfound
  exact ⟨List.mem_of_find?_eq_some h, hfound.1, hfound.2⟩

theorem membershipOf?_eq_none {userId companyId : String}
    (h : db.membershipOf? userId companyId = none) :
    ∀ row ∈ db.memberships, row.userId = userId → row.companyId ≠ companyId := by
  intro row hrow huser hcompany
  have hnot := List.find?_eq_none.mp h row hrow
  simp [huser, hcompany] at hnot

/-- The membership that is found by its two keys is the one at its id. -/
theorem membership?_of_membershipOf? (hkeyed : Keyed db) {userId companyId : String}
    {row : OrganizationMembership} (h : db.membershipOf? userId companyId = some row) :
    db.membership? row.id = some row :=
  KeyedList.find_of_mem hkeyed.memberships (membershipOf?_eq_some h).1

theorem Wrote.memberships (hkeyed : Keyed db) {input : TeamInput} {call : TeamCall}
    (h : Wrote db input call db') : MembershipsWrote db db'.memberships := by
  cases h with
  | nothing => exact MembershipsWrote.same
  | revokedOpen id tokenHash input companyId role => exact MembershipsWrote.same
  | invited id tokenHash input companyId role h =>
      obtain ⟨-, -, rfl⟩ := createInvitation_eq_ok h
      exact MembershipsWrote.same
  | accepted id tokenHash input invitation user h =>
      rcases memberships_acceptCommit h with ⟨row, hrow, hdb⟩ | ⟨hnone, hid, hdb⟩
      · rw [hdb]
        exact MembershipsWrote.changed row _ (membership?_of_membershipOf? hkeyed hrow) rfl rfl
      · rw [hdb]
        exact MembershipsWrote.created _ hid hnone
  | revoked id tokenHash input h =>
      obtain ⟨row, -, -, -, rfl⟩ := revokeCompanyInvitation_eq_ok h
      exact MembershipsWrote.same
  | roleChanged id tokenHash input read h =>
      obtain ⟨row, role, hchanged⟩ := changeRoleCommit_eq_ok h
      have hid : row.id = read.id := (KeyedList.find_eq_some hchanged.found).2
      rw [hchanged.written]
      refine MembershipsWrote.changed row (row.assign role) ?_ rfl rfl
      show db.membership? row.id = some row
      rw [hid]
      exact hchanged.found
  | statusChanged id tokenHash input read h =>
      obtain ⟨row, hchanged⟩ := changeStatusCommit_eq_ok h
      have hid : row.id = read.id := (KeyedList.find_eq_some hchanged.found).2
      rw [hchanged.written]
      refine MembershipsWrote.changed row (row.setStatus input.status) ?_ rfl rfl
      show db.membership? row.id = some row
      rw [hid]
      exact hchanged.found
  | bootstrapped id tokenHash input h =>
      obtain ⟨row, companyId, hrow, -, -, rfl⟩ := bootstrap_eq_ok h
      have hid : row.id = input.membershipId := (KeyedList.find_eq_some hrow).2
      refine MembershipsWrote.changed row (row.assign .owner) ?_ rfl rfl
      show db.membership? row.id = some row
      rw [hid]
      exact hrow

/-- The keys of the memberships are kept. -/
theorem MembershipsWrote.keyed (hkeyed : Keyed db) {rows : List OrganizationMembership}
    (h : MembershipsWrote db rows) :
    KeyedList.Distinct OrganizationMembership.id rows ∧
      ∀ a ∈ rows, ∀ b ∈ rows, a.userId = b.userId → a.companyId = b.companyId → a = b := by
  cases h with
  | same => exact ⟨hkeyed.memberships, hkeyed.members⟩
  | created row hid hnone =>
      refine ⟨KeyedList.distinct_append_new hkeyed.memberships hid, ?_⟩
      intro a ha b hb huser hcompany
      rw [List.mem_append, List.mem_singleton] at ha hb
      rcases ha with ha | rfl
      · rcases hb with hb | rfl
        · exact hkeyed.members a ha b hb huser hcompany
        · exact absurd hcompany (membershipOf?_eq_none hnone a ha huser)
      · rcases hb with hb | rfl
        · exact absurd hcompany.symm (membershipOf?_eq_none hnone b hb huser.symm)
        · rfl
  | changed old row hold huserOld hcompanyOld =>
      refine ⟨KeyedList.distinct_put hkeyed.memberships, ?_⟩
      have holdMem : old ∈ db.memberships := (KeyedList.find_eq_some hold).1
      have holdId : old.id = row.id := (KeyedList.find_eq_some hold).2
      intro a ha b hb huser hcompany
      rcases KeyedList.mem_put ha with hrowA | ⟨haOld, hane⟩
      · rcases KeyedList.mem_put hb with hrowB | ⟨hbOld, hbne⟩
        · rw [hrowA, hrowB]
        · rw [hrowA, huserOld] at huser
          rw [hrowA, hcompanyOld] at hcompany
          have hsame : old = b := hkeyed.members old holdMem b hbOld huser hcompany
          rw [← hsame] at hbne
          exact absurd holdId hbne
      · rcases KeyedList.mem_put hb with hrowB | ⟨hbOld, hbne⟩
        · rw [hrowB, huserOld] at huser
          rw [hrowB, hcompanyOld] at hcompany
          have hsame : a = old := hkeyed.members a haOld old holdMem huser hcompany
          rw [hsame] at hane
          exact absurd holdId hane
        · exact hkeyed.members a haOld b hbOld huser hcompany

/-- The ids of the invitations are kept, and a new one is new. -/
theorem Wrote.invitationsDistinct (hkeyed : Keyed db) {input : TeamInput} {call : TeamCall}
    (h : Wrote db input call db') :
    KeyedList.Distinct IdentityInvitation.id db'.invitations := by
  cases h with
  | nothing => exact hkeyed.invitations
  | revokedOpen id tokenHash input companyId role =>
      exact KeyedList.distinct_updateMany (by intro row; rfl) hkeyed.invitations
  | invited id tokenHash input companyId role h =>
      obtain ⟨hid, -, rfl⟩ := createInvitation_eq_ok h
      exact KeyedList.distinct_append_new hkeyed.invitations hid
  | accepted id tokenHash input invitation user h =>
      obtain ⟨row, -, -, hdb⟩ := invitations_acceptCommit h
      rw [hdb]
      exact KeyedList.distinct_put hkeyed.invitations
  | revoked id tokenHash input h =>
      obtain ⟨row, -, -, -, rfl⟩ := revokeCompanyInvitation_eq_ok h
      exact KeyedList.distinct_put hkeyed.invitations
  | roleChanged id tokenHash input read h =>
      obtain ⟨row, role, hchanged⟩ := changeRoleCommit_eq_ok h
      rw [hchanged.written]
      exact hkeyed.invitations
  | statusChanged id tokenHash input read h =>
      obtain ⟨row, hchanged⟩ := changeStatusCommit_eq_ok h
      rw [hchanged.written]
      exact hkeyed.invitations
  | bootstrapped id tokenHash input h =>
      obtain ⟨row, companyId, -, -, -, rfl⟩ := bootstrap_eq_ok h
      exact hkeyed.invitations

theorem Wrote.keyed (hkeyed : Keyed db) {input : TeamInput} {call : TeamCall}
    (h : Wrote db input call db') : Keyed db' where
  memberships := ((h.memberships hkeyed).keyed hkeyed).1
  members := ((h.memberships hkeyed).keyed hkeyed).2
  invitations := h.invitationsDistinct hkeyed

/-- What a step of a call leaves. -/
theorem shared_of_advance {w w' : TeamWorld} {i : Nat} {input : TeamInput} {call : TeamCall}
    (hstep : team.step w (.advance i input) w') (hcall : w.locals[i]? = some call) :
    w'.shared = (call.advance w.shared input).1 := by
  obtain ⟨found, hfound, hrest⟩ := Option.bind_eq_some_iff.mp hstep
  rw [hcall] at hfound
  obtain ⟨next, hnext, rfl⟩ := Option.map_eq_some_iff.mp hrest
  rw [← Option.some.inj hfound] at hnext
  rw [← Option.some.inj hnext]

/-- The keys are kept by every step of the system. -/
theorem keyed_step {w w' : TeamWorld} {ev : TeamEvent} (hkeyed : Keyed w.shared)
    (hstep : team.step w ev w') : Keyed w'.shared := by
  rcases Program.step_cases hstep with ⟨users, -, rfl⟩ | ⟨call, -, -, rfl⟩ |
    ⟨i, input, call, db', next, -, -, hadvance, rfl⟩
  · exact ⟨hkeyed.memberships, hkeyed.members, hkeyed.invitations⟩
  · exact hkeyed
  · have hdb : (call.advance w.shared input).1 = db' := congrArg Prod.fst (Option.some.inj hadvance)
    rw [← hdb]
    exact (wrote_advance w.shared input call).keyed hkeyed

end AvantimePlatform.Team
