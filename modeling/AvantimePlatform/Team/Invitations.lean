import AvantimePlatform.Lib.Happenings
import AvantimePlatform.Team.Writes

/-!
# What an invitation may change

An invitation admits: an acceptance must not bring a suspended or removed member back,
nor give an active member another role.  `acceptCompanyInvitation` tests the status of
the membership when it reads the user, not in the transaction that writes it, and it
tests no role.

* `admitsOnly_iff`: an acceptance leaves such members alone exactly when it finds none.
* `Closed` is an invitation that was accepted or revoked.  It stays closed, an acceptance
  finds its invitation open and closes it, so that each is accepted at most once and not
  after a revocation.
-/

namespace AvantimePlatform.Team

open AvantimePlatform AvantimePlatform.Checked AvantimePlatform.Interleaving
  AvantimePlatform.Transition

variable {db db' : TeamTables}

/-! ## The members that an acceptance finds -/

/-- No later decision on a member is overridden: a suspended or removed member does not
become active, and an active member keeps its role. -/
def DecisionsKept (db db' : TeamTables) : Prop :=
  ∀ row ∈ db.memberships, ∀ row' ∈ db'.memberships, row'.id = row.id →
    (row.status = .suspended ∨ row.status = .removed → row'.status ≠ .active) ∧
      (row.status = .active → row'.organizationRole = row.organizationRole)

/-- The step of an acceptance overrides no decision on a member. -/
def AdmitsOnly (w : TeamWorld) (ev : TeamEvent) (w' : TeamWorld) : Prop :=
  ∀ i answer input place, ev = .advance i answer → w.locals[i]? = some (.accept input place) →
    DecisionsKept w.shared w'.shared

/-- The member that an acceptance writes is neither suspended nor removed, and if it is
active it has the role of the invitation. -/
def FindsNewcomer (db : TeamTables) (input : AcceptInput) (invitation : IdentityInvitation) : Prop :=
  ∀ row, db.membershipOf? input.session.userId invitation.companyId = some row →
    row.status ≠ .suspended ∧ row.status ≠ .removed ∧
      (row.status = .active → row.organizationRole = invitation.organizationRole)

/-- A step that is the transaction of an acceptance, on an invitation that is still open,
finds a newcomer. -/
def AcceptsNewcomers (w : TeamWorld) (ev : TeamEvent) : Prop :=
  ∀ i id tokenHash input invitation user stored, ev = .advance i (.proceed id tokenHash) →
    w.locals[i]? = some (.accept input (.commit invitation user)) →
    w.shared.invitation? invitation.id = some stored → stored.isAcceptable input.now = true →
    FindsNewcomer w.shared input invitation

theorem decisionsKept_of_memberships (hkeyed : Keyed db) (h : db'.memberships = db.memberships) :
    DecisionsKept db db' := by
  intro row hrow row' hrow' hid
  rw [h] at hrow'
  have hfound : KeyedList.find OrganizationMembership.id row'.id db.memberships = some row' :=
    KeyedList.find_of_mem hkeyed.memberships hrow'
  rw [hid, KeyedList.find_of_mem hkeyed.memberships hrow] at hfound
  have hsame : row = row' := Option.some.inj hfound
  rw [← hsame]
  refine ⟨?_, fun _ => rfl⟩
  rintro (hstatus | hstatus)
  · rw [hstatus]
    exact MembershipStatus.noConfusion
  · rw [hstatus]
    exact MembershipStatus.noConfusion

/-- An acceptance that commits overrides no decision exactly when it finds a newcomer. -/
theorem decisionsKept_acceptCommit (hkeyed : Keyed db) {input : AcceptInput}
    {invitation : IdentityInvitation} {user : TeamUser} {id : String}
    (h : acceptCommit db input invitation user id = .ok db') :
    DecisionsKept db db' ↔ FindsNewcomer db input invitation := by
  rcases memberships_acceptCommit h with ⟨found, hfound, hdb⟩ | ⟨hnone, hid, hdb⟩
  · have hmem : found ∈ db.memberships := (membershipOf?_eq_some hfound).1
    constructor
    · intro hkept row hrow
      rw [hfound] at hrow
      rw [← Option.some.inj hrow]
      have hadmitted : found.admitMember invitation.organizationRole ∈ db'.memberships := by
        rw [hdb]
        exact List.mem_map.mpr ⟨found, hmem, if_pos rfl⟩
      obtain ⟨hclosed, hrole⟩ := hkept found hmem _ hadmitted rfl
      refine ⟨fun hstatus => ?_, fun hstatus => ?_, fun hactive => (hrole hactive).symm⟩
      · exact hclosed (Or.inl hstatus) rfl
      · exact hclosed (Or.inr hstatus) rfl
    · intro hnew row hrow row' hrow' hrowId
      rw [hdb] at hrow'
      obtain ⟨hsuspended, hremoved, hrole⟩ := hnew found hfound
      rcases KeyedList.mem_put hrow' with hput | ⟨hold, -⟩
      · have hsame : row = found := by
          have hrowFound := KeyedList.find_of_mem hkeyed.memberships hrow
          rw [← hrowId, hput] at hrowFound
          have hfoundFound := KeyedList.find_of_mem hkeyed.memberships hmem
          exact Option.some.inj (hrowFound.symm.trans hfoundFound)
        rw [hput, hsame]
        refine ⟨?_, fun hactive => (hrole hactive).symm⟩
        rintro (hstatus | hstatus)
        · exact absurd hstatus hsuspended
        · exact absurd hstatus hremoved
      · exact decisionsKept_of_memberships hkeyed rfl row hrow row' hold hrowId
  · have hnew : FindsNewcomer db input invitation := by
      intro row hrow
      rw [hnone] at hrow
      cases hrow
    refine iff_of_true ?_ hnew
    intro row hrow row' hrow' hrowId
    rw [hdb, List.mem_append, List.mem_singleton] at hrow'
    rcases hrow' with hold | hcreated
    · exact decisionsKept_of_memberships hkeyed rfl row hrow row' hold hrowId
    · rw [hcreated] at hrowId
      exact absurd hrowId.symm (KeyedList.find_eq_none.mp hid row hrow)

/-- What the step of an acceptance writes: nothing, or its transaction commits. -/
theorem accept_cases (db : TeamTables) (answer : TeamInput) (input : AcceptInput)
    (place : AcceptPlace) :
    ((TeamCall.accept input place).advance db answer).1 = db ∨
      ∃ id tokenHash invitation user, answer = .proceed id tokenHash ∧
        place = .commit invitation user ∧
        acceptCommit db input invitation user id =
          .ok ((TeamCall.accept input place).advance db answer).1 := by
  generalize hdb : ((TeamCall.accept input place).advance db answer).1 = db'
  have hwrote := wrote_advance db answer (.accept input place)
  rw [hdb] at hwrote
  cases hwrote with
  | nothing => exact Or.inl rfl
  | accepted id tokenHash _ invitation user h =>
      exact Or.inr ⟨id, tokenHash, invitation, user, rfl, rfl, h⟩

/-- An acceptance overrides no decision exactly when it finds a newcomer. -/
theorem admitsOnly_iff {w w' : TeamWorld} {ev : TeamEvent} (hkeyed : Keyed w.shared)
    (hstep : team.step w ev w') : AdmitsOnly w ev w' ↔ AcceptsNewcomers w ev := by
  constructor
  · intro hadmits i id tokenHash input invitation user stored hev hcall hstored hopen
    have hkept := hadmits i _ input _ hev hcall
    rw [hev] at hstep
    intro row hrow
    obtain ⟨db', hcommit, -⟩ := acceptCommit_of_member user id hstored hopen hrow
    have hw' : w'.shared = db' := by
      rw [shared_of_advance hstep hcall]
      show settle w.shared (acceptCommit w.shared input invitation user id) = db'
      rw [hcommit]
      rfl
    rw [hw'] at hkept
    exact (decisionsKept_acceptCommit hkeyed hcommit).mp hkept row hrow
  · intro haccepts i answer input place hev hcall
    rw [hev] at hstep
    rw [shared_of_advance hstep hcall]
    rcases accept_cases w.shared answer input place with hsame | ⟨id, tokenHash, invitation, user,
      hanswer, hplace, hcommit⟩
    · rw [hsame]
      exact decisionsKept_of_memberships hkeyed rfl
    · obtain ⟨stored, hstored, hopen, -⟩ := invitations_acceptCommit hcommit
      rw [hanswer] at hev
      rw [hplace] at hcall
      exact (decisionsKept_acceptCommit hkeyed hcommit).mpr
        (haccepts i id tokenHash input invitation user stored hev hcall hstored hopen)

/-! ## Accepted once -/

/-- The invitation was accepted or revoked. -/
def Closed (db : TeamTables) (id : String) : Prop :=
  ∃ row, db.invitation? id = some row ∧ (row.acceptedAt ≠ none ∨ row.revokedAt ≠ none)

/-- The invitation that the step accepts. -/
def acceptedIn (w : TeamWorld) : TeamEvent → Option String
  | .advance i (.proceed id _) =>
    match w.locals[i]? with
    | some (.accept input (.commit invitation user)) =>
      match acceptCommit w.shared input invitation user id with
      | .ok _ => some invitation.id
      | .error _ => none
    | _ => none
  | _ => none

/-- The step of an acceptance that commits. -/
theorem acceptedIn_eq_some {w w' : TeamWorld} {ev : TeamEvent} {invitationId : String}
    (hstep : team.step w ev w') (h : acceptedIn w ev = some invitationId) :
    ∃ id input invitation user, invitation.id = invitationId ∧
      acceptCommit w.shared input invitation user id = .ok w'.shared := by
  unfold acceptedIn at h
  split at h
  · next i id tokenHash =>
    split at h
    · next input invitation user hcall =>
      split at h
      · next db' hcommit =>
        refine ⟨id, input, invitation, user, Option.some.inj h, ?_⟩
        rw [shared_of_advance hstep hcall, hcommit]
        show Except.ok db' = Except.ok
          (settle w.shared (acceptCommit w.shared input invitation user id))
        rw [hcommit]
        rfl
      · cases h
    · cases h
  · cases h

theorem closed_congr (h : db'.invitations = db.invitations) {id : String} (hclosed : Closed db id) :
    Closed db' id := by
  obtain ⟨row, hrow, hflags⟩ := hclosed
  refine ⟨row, ?_, hflags⟩
  unfold TeamTables.invitation? at hrow ⊢
  rw [h]
  exact hrow

/-- Writing an open invitation back leaves the closed ones closed. -/
theorem closed_put {row old : IdentityInvitation} {id : String}
    (hdb : db'.invitations = KeyedList.put IdentityInvitation.id row db.invitations)
    (hold : db.invitation? row.id = some old)
    (hflags : row.acceptedAt ≠ none ∨ row.revokedAt ≠ none)
    (hclosed : Closed db id ∨ id = row.id) : Closed db' id := by
  have hfind : db'.invitation? id = if id = row.id then some row else db.invitation? id := by
    unfold TeamTables.invitation?
    rw [hdb]
    exact KeyedList.find_put hold
  by_cases hid : id = row.id
  · rw [if_pos hid] at hfind
    exact ⟨row, hfind, hflags⟩
  · rw [if_neg hid] at hfind
    obtain ⟨stored, hstored, hstoredFlags⟩ := hclosed.resolve_right hid
    exact ⟨stored, hfind.trans hstored, hstoredFlags⟩

/-- What is closed stays closed. -/
theorem Wrote.keepsClosed {answer : TeamInput} {call : TeamCall} (h : Wrote db answer call db')
    {id : String} (hclosed : Closed db id) : Closed db' id := by
  cases h with
  | nothing => exact hclosed
  | revokedOpen _ tokenHash input companyId role =>
      obtain ⟨row, hrow, hflags⟩ := hclosed
      have hfind : (db.revokeOpen companyId input.emailNormalized input.now).invitation? id =
          (db.invitation? id).map fun row =>
            if row.isOpenFor companyId input.emailNormalized then
              { row with revokedAt := some input.now }
            else row :=
        KeyedList.find_updateMany (by intro row; rfl) db.invitations
      rw [hrow] at hfind
      refine ⟨_, hfind, ?_⟩
      dsimp only
      split
      · exact Or.inr (Option.some_ne_none _)
      · exact hflags
  | invited _ tokenHash input companyId role h =>
      obtain ⟨hnew, -, rfl⟩ := createInvitation_eq_ok h
      obtain ⟨row, hrow, hflags⟩ := hclosed
      refine ⟨row, ?_, hflags⟩
      have hfind := KeyedList.find_append_new (k := id) hnew
      refine hfind.trans ?_
      rw [if_neg ?_]
      · exact hrow
      · intro hid
        rw [hid, hnew] at hrow
        cases hrow
  | accepted _ tokenHash input invitation user h =>
      obtain ⟨stored, hstored, -, hdb⟩ := invitations_acceptCommit h
      have hid : stored.id = invitation.id := (KeyedList.find_eq_some hstored).2
      have hself : db.invitation? stored.id = some stored := by
        rw [hid]
        exact hstored
      exact closed_put hdb hself (Or.inl (Option.some_ne_none _)) (Or.inl hclosed)
  | revoked _ tokenHash input h =>
      obtain ⟨stored, hstored, -, -, rfl⟩ := revokeCompanyInvitation_eq_ok h
      have hid : stored.id = input.invitationId := (KeyedList.find_eq_some hstored).2
      have hself : db.invitation? stored.id = some stored := by
        rw [hid]
        exact hstored
      exact closed_put rfl hself (Or.inr (Option.some_ne_none _)) (Or.inl hclosed)
  | roleChanged _ tokenHash input read h =>
      obtain ⟨row, role, hchanged⟩ := changeRoleCommit_eq_ok h
      rw [hchanged.written]
      exact closed_congr rfl hclosed
  | statusChanged _ tokenHash input read h =>
      obtain ⟨row, hchanged⟩ := changeStatusCommit_eq_ok h
      rw [hchanged.written]
      exact closed_congr rfl hclosed
  | bootstrapped _ tokenHash input h =>
      obtain ⟨row, companyId, -, -, -, rfl⟩ := bootstrap_eq_ok h
      exact closed_congr rfl hclosed

theorem closed_step {w w' : TeamWorld} {ev : TeamEvent} {id : String}
    (hstep : team.step w ev w') (hclosed : Closed w.shared id) : Closed w'.shared id := by
  rcases Program.step_cases hstep with ⟨users, -, rfl⟩ | ⟨call, -, -, rfl⟩ |
    ⟨i, input, call, sh, next, rfl, hcall, -, -⟩
  · exact hclosed
  · exact hclosed
  · rw [shared_of_advance hstep hcall]
    exact (wrote_advance w.shared input call).keepsClosed hclosed

/-- An acceptance finds its invitation open. -/
theorem not_closed_of_acceptedIn {w w' : TeamWorld} {ev : TeamEvent} {invitationId : String}
    (hstep : team.step w ev w') (h : acceptedIn w ev = some invitationId) :
    ¬Closed w.shared invitationId := by
  obtain ⟨id, input, invitation, user, rfl, hcommit⟩ := acceptedIn_eq_some hstep h
  obtain ⟨stored, hstored, hopen, -⟩ := invitations_acceptCommit hcommit
  rintro ⟨row, hrow, hflags⟩
  rw [hstored] at hrow
  rw [← Option.some.inj hrow] at hflags
  simp only [IdentityInvitation.isAcceptable, Bool.and_eq_true, Option.isNone_iff_eq_none] at hopen
  rcases hflags with hflag | hflag
  · exact hflag hopen.1.1
  · exact hflag hopen.1.2

/-- It closes the invitation. -/
theorem closed_of_acceptedIn {w w' : TeamWorld} {ev : TeamEvent} {invitationId : String}
    (hstep : team.step w ev w') (h : acceptedIn w ev = some invitationId) :
    Closed w'.shared invitationId := by
  obtain ⟨id, input, invitation, user, rfl, hcommit⟩ := acceptedIn_eq_some hstep h
  obtain ⟨stored, hstored, -, hdb⟩ := invitations_acceptCommit hcommit
  have hid : stored.id = invitation.id := (KeyedList.find_eq_some hstored).2
  have hself : w.shared.invitation? stored.id = some stored := by
    rw [hid]
    exact hstored
  exact closed_put hdb hself (Or.inl (Option.some_ne_none _)) (Or.inr hid.symm)

/-! ## Runs -/

/-- Along every run each invitation is accepted at most once, and not after it was closed;
and the acceptances override no decision on a member exactly when each of them finds a
newcomer. -/
theorem invitations_admit_only_iff {w : TeamWorld} {run : List (TeamEvent × TeamWorld)}
    (hkeyed : Keyed w.shared) (hrun : Run team.step w run) :
    (AllSteps AdmitsOnly w run ↔ StepsMeet AcceptsNewcomers w run) ∧
      (happenings acceptedIn w run).Nodup ∧
      NeverAfterClosed acceptedIn (fun w id => Closed w.shared id) w run := by
  have hinv : ∀ (w : TeamWorld) (ev : TeamEvent) (w' : TeamWorld), Keyed w.shared →
      team.step w ev w' → Keyed w'.shared :=
    fun _ _ _ hkeyed hstep => keyed_step hkeyed hstep
  have hkeep : ∀ (w : TeamWorld) (ev : TeamEvent) (w' : TeamWorld) (id : String),
      Keyed w.shared → team.step w ev w' → Closed w.shared id → Closed w'.shared id :=
    fun _ _ _ _ _ hstep hclosed => closed_step hstep hclosed
  have hopen : ∀ (w : TeamWorld) (ev : TeamEvent) (w' : TeamWorld) (id : String),
      Keyed w.shared → team.step w ev w' → acceptedIn w ev = some id → ¬Closed w.shared id :=
    fun _ _ _ _ _ hstep h => not_closed_of_acceptedIn hstep h
  have hadmits : ∀ (w : TeamWorld) (ev : TeamEvent) (w' : TeamWorld), Keyed w.shared →
      team.step w ev w' → (AdmitsOnly w ev w' ↔ AcceptsNewcomers w ev) :=
    fun _ _ _ hkeyed hstep => admitsOnly_iff hkeyed hstep
  refine ⟨?_, ?_, ?_⟩
  · exact allSteps_iff_stepsMeet hinv hadmits hrun hkeyed
  · exact nodup_happenings hinv hkeep hopen
      (fun _ _ _ _ _ hstep h => closed_of_acceptedIn hstep h) hrun hkeyed
  · exact neverAfterClosed_of_step hinv hkeep hopen hrun hkeyed

/-! ## A suspended member that is admitted -/

/-- A user that is no member of the company. -/
def guest : TeamUser where
  id := "guest"
  emailNormalized := "guest"
  emailVerifiedAt := some 0

/-- A company with an owner, and the guest. -/
def ownerAndGuest : TeamWorld where
  shared :=
    { users :=
        [{ id := "owner", emailNormalized := "owner", companyId := some "acme" },
         guest]
      memberships :=
        [{ id := "m1", userId := "owner", companyId := "acme", organizationRole := .owner }] }
  locals := []

def ownerSession : TeamSession where
  userId := "owner"
  companyId := some "acme"
  emailNormalized := "owner"
  organizationRole := some .owner

def guestSession : TeamSession where
  userId := "guest"
  companyId := none
  emailNormalized := "guest"

/-- The second invitation of the guest. -/
def secondInvitation : IdentityInvitation where
  id := "i2"
  tokenHash := "t2"
  companyId := "acme"
  emailNormalized := "guest"
  invitedBy := "owner"
  expiresAt := 1000 + invitationTtlMs

/-- Two invitations of the guest are made side by side, so that both stay open.  The guest
accepts the first, and begins to accept the second; then the owner suspends it. -/
def suspendedMeanwhile : List TeamEvent :=
  let invite : InviteInput := { session := ownerSession, emailNormalized := "guest", role := none, now := 1000 }
  [.spawn (.invite invite .find), .spawn (.invite invite .find),
   .advance 0 (.proceed "" ""), .advance 1 (.proceed "" ""),
   .advance 0 (.proceed "" ""), .advance 1 (.proceed "" ""),
   .advance 0 (.proceed "i1" "t1"), .advance 0 (.proceed "i2" "t2"),
   .spawn (.accept { session := guestSession, tokenHash := "t1", now := 2000 } .findInvitation),
   .advance 0 (.proceed "" ""), .advance 0 (.proceed "" ""), .advance 0 (.proceed "m2" ""),
   .spawn (.accept { session := guestSession, tokenHash := "t2", now := 3000 } .findInvitation),
   .advance 0 (.proceed "" ""), .advance 0 (.proceed "" ""),
   .spawn (.changeStatus
     { session := ownerSession, membershipId := "m2", status := .suspended, expectedVersion := 1,
       now := 4000 } none),
   .advance 1 (.proceed "" ""), .advance 1 (.proceed "" "")]

theorem keyed_ownerAndGuest : Keyed ownerAndGuest.shared := by
  refine ⟨?_, ?_, ?_⟩
  · simp [KeyedList.Distinct, ownerAndGuest]
  · decide
  · simp [KeyedList.Distinct, ownerAndGuest]

theorem invitations_admit_only_iff_suspendedMeanwhile :
    (AllSteps AdmitsOnly ownerAndGuest (trace team.next ownerAndGuest suspendedMeanwhile) ↔
        StepsMeet AcceptsNewcomers ownerAndGuest
          (trace team.next ownerAndGuest suspendedMeanwhile)) ∧
      (happenings acceptedIn ownerAndGuest
        (trace team.next ownerAndGuest suspendedMeanwhile)).Nodup ∧
      NeverAfterClosed acceptedIn (fun w id => Closed w.shared id) ownerAndGuest
        (trace team.next ownerAndGuest suspendedMeanwhile) :=
  invitations_admit_only_iff keyed_ownerAndGuest (run_trace _ _)

/-- The guest's second acceptance goes on and makes the suspended member active. -/
theorem suspended_member_admitted :
    ∃ s s', Steps team.step ownerAndGuest s ∧
      team.step s (.advance 0 (.proceed "" "")) s' ∧
      ¬AdmitsOnly s (.advance 0 (.proceed "" "")) s' := by
  obtain ⟨s, s', hsteps, hstep, hcall, hbefore, hafter⟩ := exists_step_of_exec
    (fun s s' : TeamWorld =>
      s.locals[0]? = some (.accept { session := guestSession, tokenHash := "t2", now := 3000 }
          (.commit secondInvitation { guest with companyId := some "acme" })) ∧
        (s.shared.membership? "m2").map (·.status) = some .suspended ∧
        (s'.shared.membership? "m2").map (·.status) = some .active)
    team.next (s := ownerAndGuest) suspendedMeanwhile (.advance 0 (.proceed "" ""))
    (fun _ _ _ => trivial) (by decide)
  refine ⟨s, s', hsteps.of_guarded, hstep, fun hadmits => ?_⟩
  obtain ⟨row, hrow, hsuspended⟩ := Option.map_eq_some_iff.mp hbefore
  obtain ⟨row', hrow', hactive⟩ := Option.map_eq_some_iff.mp hafter
  have hkept := hadmits 0 _ _ _ rfl hcall
  obtain ⟨hmem, hid⟩ := KeyedList.find_eq_some hrow
  obtain ⟨hmem', hid'⟩ := KeyedList.find_eq_some hrow'
  exact (hkept row hmem row' hmem' (hid'.trans hid.symm)).1 (Or.inl hsuspended) hactive

end AvantimePlatform.Team
