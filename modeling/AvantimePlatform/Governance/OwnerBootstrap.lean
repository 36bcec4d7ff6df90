import AvantimePlatform.Documents.Record
import AvantimePlatform.Governance.PlatformOwners
import AvantimePlatform.Lib.Text

/-!
# The first platform owner

`executePlatformOwnerBootstrap` of `platform-owner-bootstrap.ts` as a transaction that makes
one statement after the other, beside any number of owner changes.  The bootstrap holds an
advisory lock, but not the one that owner changes take.

An insert is seen by nobody before the transaction commits, so the inserts of the bootstrap
are part of its last step.  Users change at any time.

* `Ownerless` is what the count of the bootstrap stands for until it commits.
* `bootstrap_ownerless`: at most one bootstrap commits in a run, and there is no other owner
  then, when nobody else has become one between its count and its commit.
-/

namespace AvantimePlatform.Governance

open AvantimePlatform AvantimePlatform.Checked AvantimePlatform.Interleaving
  AvantimePlatform.Transition

/-! ## The request -/

/-- `BOOTSTRAP_SINGLETON`. -/
def bootstrapSingleton : String := "first-platform-owner-v1"

/-- `CONFIRMATION_PHRASE`. -/
def bootstrapConfirmation : String := "BOOTSTRAP FIRST PLATFORM OWNER"

/-- `RECENT_AUTH_WINDOW_MS`. -/
def recentAuthWindowMs : Int := 10 * 60000

/-- `MAX_AUTHORIZATION_LIFETIME_MS`. -/
def maxAuthorizationLifetimeMs : Int := 15 * 60000

/-- `SAFE_REFERENCE`. -/
def isBootstrapReference (value : String) : Bool :=
  match value.toList with
  | [] => false
  | first :: rest =>
    first.isAlphanum && decide (2 ≤ rest.length) && decide (rest.length ≤ 199) &&
      rest.all fun c => c.isAlphanum || "._:/-".toList.contains c

structure PlatformOwnerBootstrapInput where
  environment : String
  expectedEnvironment : String
  targetUserId : String
  targetEmail : String
  sessionEvidenceId : String
  mfaEventEvidenceId : String
  authorizationId : String
  authorizationExpiresAt : Int
  authorizationToken : String
  expectedAuthorizationHash : String
  confirmation : String
  now : Int
deriving DecidableEq

/-- `normalizedEmail`. -/
def normalizedEmail (value : String) : String := Text.toLowerCase (Text.trim value)

/-- `hashesMatch`. -/
def hashesMatch (actual expected : String) : Bool :=
  Documents.Record.isSha256Hex actual && Documents.Record.isSha256Hex expected &&
    actual = expected

/-- `validatePlatformOwnerBootstrapRequest`: the hash of the authorization. -/
def validatePlatformOwnerBootstrapRequest (sha256 : String → String)
    (input : PlatformOwnerBootstrapInput) : Except String String := do
  require (["integration", "staging"].contains input.environment = true ∧
      input.environment = input.expectedEnvironment)
    "BOOTSTRAP_ENVIRONMENT_DENIED"
  require (input.confirmation = bootstrapConfirmation) "BOOTSTRAP_CONFIRMATION_REQUIRED"
  require (isBootstrapReference input.targetUserId = true ∧
      isBootstrapReference input.sessionEvidenceId = true ∧
      isBootstrapReference input.mfaEventEvidenceId = true ∧
      isBootstrapReference input.authorizationId = true)
    "BOOTSTRAP_REFERENCE_INVALID"
  require (3 ≤ Text.utf16Length (normalizedEmail input.targetEmail) ∧
      '@' ∈ (normalizedEmail input.targetEmail).toList)
    "BOOTSTRAP_TARGET_INVALID"
  require (32 ≤ Text.utf16Length input.authorizationToken ∧
      input.now < input.authorizationExpiresAt ∧
      input.authorizationExpiresAt - input.now ≤ maxAuthorizationLifetimeMs)
    "BOOTSTRAP_AUTHORIZATION_INVALID"
  require (hashesMatch (sha256 input.authorizationToken) input.expectedAuthorizationHash = true)
    "BOOTSTRAP_AUTHORIZATION_INVALID"
  return sha256 input.authorizationToken

/-! ## The evidence -/

/-- What is read of a `UserSession`. -/
structure SessionEvidence where
  id : String
  userId : String
  revokedAt : Option Int
  expiresAt : Int
  idleExpiresAt : Int
  authenticationAt : Int
deriving DecidableEq

/-- What is read of a `SecurityEvent`.  `method` and `sessionId` are those of its metadata. -/
structure MfaEvidence where
  userId : Option String
  action : String
  result : String
  method : Option String
  sessionId : Option String
  createdAt : Int
deriving DecidableEq

/-- What the six queries of `validateDatabaseEvidence` have read so far. -/
structure BootstrapReads where
  /-- The target, with its `emailNormalized`. -/
  target : Option (PlatformUser × String) := none
  session : Option SessionEvidence := none
  mfaEvent : Option MfaEvidence := none
  activeMfa : Nat := 0
  activeOwners : Nat := 0
  existingBootstrap : Bool := false
deriving DecidableEq

/-- The session is one of a recent login of the target. -/
def SessionEvidence.isRecent (session : SessionEvidence) (targetId : String) (now : Int) : Bool :=
  session.userId = targetId && session.revokedAt.isNone && decide (now < session.expiresAt) &&
    decide (now < session.idleExpiresAt) && decide (session.authenticationAt ≤ now) &&
    decide (now - session.authenticationAt ≤ recentAuthWindowMs)

/-- The event is the second factor of that login. -/
def MfaEvidence.isRecent (event : MfaEvidence) (targetId sessionId : String) (now : Int) : Bool :=
  event.userId = some targetId && event.action = "identity.login.success" &&
    event.result = "SUCCEEDED" && event.method = some "TOTP" &&
    event.sessionId = some sessionId && decide (event.createdAt ≤ now) &&
    decide (now - event.createdAt ≤ recentAuthWindowMs)

/-- The checks of `validateDatabaseEvidence`. -/
def validateDatabaseEvidence (input : PlatformOwnerBootstrapInput) (reads : BootstrapReads) :
    Except String Unit := do
  require (∃ target ∈ reads.target, target.1.active = true ∧ target.1.disabledAt = none ∧
      target.2 = normalizedEmail input.targetEmail)
    "BOOTSTRAP_TARGET_INVALID"
  require (reads.activeOwners = 0 ∧ reads.existingBootstrap = false) "BOOTSTRAP_ALREADY_COMPLETED"
  require (∃ session ∈ reads.session, session.isRecent input.targetUserId input.now = true)
    "BOOTSTRAP_RECENT_AUTH_REQUIRED"
  require (∃ session ∈ reads.session, ∃ event ∈ reads.mfaEvent,
      event.isRecent input.targetUserId session.id input.now = true ∧ 1 ≤ reads.activeMfa)
    "BOOTSTRAP_MFA_EVIDENCE_REQUIRED"

/-! ## The transaction -/

/-- A row of `PlatformOwnerBootstrap`. -/
structure PlatformOwnerBootstrap where
  singletonKey : String
  authorizationId : String
  authorizationHash : String
  environment : String
  targetUserId : String
  sessionEvidenceHash : String
  mfaEventEvidenceId : String
  authorizationExpiresAt : Int
  assignmentId : String
  auditEventId : String
  notificationId : String
  executedAt : Int
deriving DecidableEq

/-- The tables of the owner changes, the bootstraps, and whether a transaction holds the
advisory lock of the bootstrap. -/
structure PlatformDatabase where
  governance : Tables PlatformTables OwnerChange Int
  bootstraps : List PlatformOwnerBootstrap := []
  locked : Bool := false

/-- The tables of the users and of the assignments. -/
abbrev PlatformDatabase.resources (db : PlatformDatabase) : PlatformTables :=
  db.governance.resources

/-- The next statement of the transaction. -/
inductive BootstrapStage where
  | lock | target | session | mfaEvent | activeMfa | owners | existing | write
deriving DecidableEq

/-- A call of `executePlatformOwnerBootstrap`, after its first check. -/
structure BootstrapCall where
  input : PlatformOwnerBootstrapInput
  stage : BootstrapStage := .lock
  reads : BootstrapReads := {}
deriving DecidableEq

/-- What the tables outside the model answer, and the ids of the new rows. -/
structure BootstrapAnswer where
  emailNormalized : String
  session : Option SessionEvidence
  mfaEvent : Option MfaEvidence
  activeMfa : Nat
  assignmentId : String
  auditEventId : String
  notificationId : String

/-- The row of the bootstrap. -/
def bootstrapRow (sha256 : String → String) (input : PlatformOwnerBootstrapInput)
    (answer : BootstrapAnswer) : PlatformOwnerBootstrap where
  singletonKey := bootstrapSingleton
  authorizationId := input.authorizationId
  authorizationHash := sha256 input.authorizationToken
  environment := input.environment
  targetUserId := input.targetUserId
  sessionEvidenceHash := sha256 input.sessionEvidenceId
  mfaEventEvidenceId := input.mfaEventEvidenceId
  authorizationExpiresAt := input.authorizationExpiresAt
  assignmentId := answer.assignmentId
  auditEventId := answer.auditEventId
  notificationId := answer.notificationId
  executedAt := input.now

/-- The unique columns of two bootstraps differ. -/
def PlatformOwnerBootstrap.Apart (row other : PlatformOwnerBootstrap) : Prop :=
  row.singletonKey ≠ other.singletonKey ∧ row.authorizationId ≠ other.authorizationId ∧
    row.authorizationHash ≠ other.authorizationHash ∧ row.assignmentId ≠ other.assignmentId ∧
    row.auditEventId ≠ other.auditEventId ∧ row.notificationId ≠ other.notificationId

instance (row other : PlatformOwnerBootstrap) : Decidable (row.Apart other) := by
  unfold PlatformOwnerBootstrap.Apart
  infer_instance

/-- The assignment that the bootstrap creates. -/
def firstOwner (id userId : String) : PlatformRoleAssignment where
  id := id
  userId := userId
  role := .owner

/-- The inserts of the transaction, and its commit. -/
def writeBootstrap (sha256 : String → String) (db : PlatformDatabase)
    (input : PlatformOwnerBootstrapInput) (answer : BootstrapAnswer) :
    Except String PlatformDatabase := do
  require (∀ row ∈ db.resources.assignments, row.id ≠ answer.assignmentId ∧
      ¬(row.userId = input.targetUserId ∧ row.role = .owner))
    prismaError
  require (∀ row ∈ db.bootstraps, row.Apart (bootstrapRow sha256 input answer)) prismaError
  return { db with
    governance := { db.governance with
      resources := { db.resources with
        assignments := db.resources.assignments ++
          [firstOwner answer.assignmentId input.targetUserId] } }
    bootstraps := db.bootstraps ++ [bootstrapRow sha256 input answer] }

/-- The transaction ends, and its lock with it. -/
def PlatformDatabase.unlock (db : PlatformDatabase) : PlatformDatabase := { db with locked := false }

/-- The statement of a stage, without an answer when the connection is lost. -/
def BootstrapCall.advance (sha256 : String → String) (db : PlatformDatabase) (call : BootstrapCall) :
    Option BootstrapAnswer → Option (PlatformDatabase × Option BootstrapCall)
  | none => some (if call.stage = .lock then db else db.unlock, none)
  | some answer =>
    match call.stage with
    | .lock =>
      -- The statement waits for the lock.
      if db.locked then none else some ({ db with locked := true }, some { call with stage := .target })
    | .target =>
      let target := (db.resources.user? call.input.targetUserId).map (·, answer.emailNormalized)
      some (db, some { call with stage := .session, reads := { call.reads with target := target } })
    | .session =>
      some (db, some { call with
        stage := .mfaEvent, reads := { call.reads with session := answer.session } })
    | .mfaEvent =>
      some (db, some { call with
        stage := .activeMfa, reads := { call.reads with mfaEvent := answer.mfaEvent } })
    | .activeMfa =>
      some (db, some { call with
        stage := .owners, reads := { call.reads with activeMfa := answer.activeMfa } })
    | .owners =>
      let activeOwners := db.resources.effectiveOwners
      some (db, some { call with
        stage := .existing, reads := { call.reads with activeOwners := activeOwners } })
    | .existing =>
      let existing := db.bootstraps.any (·.singletonKey = bootstrapSingleton)
      let reads := { call.reads with existingBootstrap := existing }
      match validateDatabaseEvidence call.input reads with
      | .ok () => some (db, some { call with stage := .write, reads := reads })
      | .error _ => some (db.unlock, none)
    | .write =>
      match writeBootstrap sha256 db call.input answer with
      | .ok db' => some (db'.unlock, none)
      | .error _ => some (db.unlock, none)

/-! ## The system -/

/-- A call of one of the two kinds. -/
inductive PlatformCall where
  | owner (call : ApprovalCall OwnerChange Int)
  | bootstrap (call : BootstrapCall)

inductive PlatformInput where
  | approval (input : ApprovalInput String)
  | bootstrap (answer : Option BootstrapAnswer)

/-- A call begins with its first statement; a bootstrap has passed its first check. -/
def PlatformCall.isInitial (sha256 : String → String) : PlatformCall → Bool
  | .owner call => call.isInitial && isOwnerCall call
  | .bootstrap call =>
    call.stage = .lock && (validatePlatformOwnerBootstrapRequest sha256 call.input).toBool

/-- Any number of bootstraps, owner changes and approval calls; users change at any time. -/
def platform (digest : CanonicalApproval → String) (sha256 : String → String) :
    Program PlatformDatabase PlatformCall (List PlatformUser) PlatformInput where
  env db users :=
    { db with governance := { db.governance with resources := { db.resources with users := users } } }
  initial := PlatformCall.isInitial sha256
  advance db input call :=
    match call, input with
    | .owner call, .approval input =>
      let (governance, next) := call.advance digest ownerChange db.governance input
      some ({ db with governance := governance }, next.map .owner)
    | .bootstrap call, .bootstrap answer =>
      (call.advance sha256 db answer).map fun (db, next) => (db, next.map .bootstrap)
    | _, _ => none

/-- The states of the system. -/
abbrev PlatformWorld := World PlatformDatabase PlatformCall

/-- The steps of the system. -/
abbrev PlatformEvent := Event (List PlatformUser) PlatformCall PlatformInput

/-! ## What a step does -/

section Steps

variable {digest : CanonicalApproval → String} {sha256 : String → String}
  {db db' : PlatformDatabase} {call : BootstrapCall} {next : Option BootstrapCall}
  {answer : Option BootstrapAnswer} {input : PlatformOwnerBootstrapInput}

/-- The bootstrap has counted no owner. -/
def BootstrapCall.hasCounted (call : BootstrapCall) : Bool :=
  (call.stage = .existing || call.stage = .write) && call.reads.activeOwners = 0

/-- A bootstrap is at its last step only when it has counted no owner. -/
def BootstrapCall.Placed (call : BootstrapCall) : Prop :=
  call.stage = .write → call.reads.activeOwners = 0

theorem activeOwners_of_validate {reads : BootstrapReads}
    (h : validateDatabaseEvidence input reads = .ok ()) : reads.activeOwners = 0 := by
  unfold validateDatabaseEvidence at h
  have hcount := (seq_eq_ok.mp (seq_eq_ok.mp h).2).1
  exact (require_eq_ok.mp hcount).1

/-- Where a statement that changes no row leaves the call: it has counted no owner only when
there is none. -/
structure Follows (db : PlatformDatabase) (call after : BootstrapCall) : Prop where
  placed : after.Placed
  input : after.input = call.input
  counted : after.hasCounted = true →
    call.hasCounted = true ∨ db.resources.effectiveOwners = 0

/-- Before the count there is nothing to rely on. -/
theorem follows_early {after : BootstrapCall} (hexisting : after.stage ≠ .existing)
    (hwrite : after.stage ≠ .write) (hinput : after.input = call.input) :
    Follows db call after where
  placed h := absurd h hwrite
  input := hinput
  counted h := by
    unfold BootstrapCall.hasCounted at h
    simp only [hexisting, hwrite, decide_false, Bool.or_self, Bool.false_and] at h
    cases h

theorem unchanged_of_read {after : BootstrapCall}
    (h : some (db, some after) = some (db', next)) (hfollows : Follows db call after) :
    db'.governance = db.governance ∧ db'.bootstraps = db.bootstraps ∧
      ∀ after, next = some after → Follows db call after := by
  obtain ⟨rfl, rfl⟩ := Prod.mk.inj (Option.some.inj h)
  refine ⟨rfl, rfl, fun other hother => ?_⟩
  rw [← Option.some.inj hother]
  exact hfollows

/-- What the statement of a bootstrap does: it commits, or it changes no row. -/
theorem bootstrap_advance (h : call.advance sha256 db answer = some (db', next)) :
    (∃ given committed, answer = some given ∧ call.stage = .write ∧
      writeBootstrap sha256 db call.input given = .ok committed ∧ db' = committed.unlock ∧
      next = none) ∨
    (db'.governance = db.governance ∧ db'.bootstraps = db.bootstraps ∧
      ∀ after, next = some after → Follows db call after) := by
  cases answer with
  | none =>
      refine Or.inr ?_
      obtain ⟨rfl, rfl⟩ := Prod.mk.inj (Option.some.inj h)
      split
      · exact ⟨rfl, rfl, by simp⟩
      · exact ⟨rfl, rfl, by simp⟩
  | some given =>
      unfold BootstrapCall.advance at h
      cases hstage : call.stage with
      | lock =>
          simp only [hstage] at h
          split at h
          · cases h
          · obtain ⟨rfl, rfl⟩ := Prod.mk.inj (Option.some.inj h)
            refine Or.inr ⟨rfl, rfl, fun after hafter => ?_⟩
            rw [← Option.some.inj hafter]
            exact follows_early (by simp) (by simp) rfl
      | target =>
          simp only [hstage] at h
          exact Or.inr (unchanged_of_read h (follows_early (by simp) (by simp) rfl))
      | session =>
          simp only [hstage] at h
          exact Or.inr (unchanged_of_read h (follows_early (by simp) (by simp) rfl))
      | mfaEvent =>
          simp only [hstage] at h
          exact Or.inr (unchanged_of_read h (follows_early (by simp) (by simp) rfl))
      | activeMfa =>
          simp only [hstage] at h
          exact Or.inr (unchanged_of_read h (follows_early (by simp) (by simp) rfl))
      | owners =>
          simp only [hstage] at h
          refine Or.inr (unchanged_of_read h ⟨fun hwrite => absurd hwrite (by simp), rfl,
            fun hcounted => Or.inr ?_⟩)
          simpa [BootstrapCall.hasCounted] using hcounted
      | existing =>
          simp only [hstage] at h
          split at h
          · next hvalid =>
              have hvalidated := activeOwners_of_validate hvalid
              have hcount : call.reads.activeOwners = 0 := hvalidated
              refine Or.inr (unchanged_of_read h ⟨fun _ => hcount, rfl, fun _ => Or.inl ?_⟩)
              simp [BootstrapCall.hasCounted, hstage, hcount]
          · obtain ⟨rfl, rfl⟩ := Prod.mk.inj (Option.some.inj h)
            exact Or.inr ⟨rfl, rfl, by simp⟩
      | write =>
          simp only [hstage] at h
          split at h
          · next committed hcommit =>
              obtain ⟨rfl, rfl⟩ := Prod.mk.inj (Option.some.inj h)
              exact Or.inl ⟨given, committed, rfl, rfl, hcommit, rfl, rfl⟩
          · obtain ⟨rfl, rfl⟩ := Prod.mk.inj (Option.some.inj h)
            exact Or.inr ⟨rfl, rfl, by simp⟩

/-- What a bootstrap that commits has found, and what it leaves. -/
theorem written_of_writeBootstrap {given : BootstrapAnswer}
    (h : writeBootstrap sha256 db input given = .ok db') :
    (∀ row ∈ db.resources.assignments, row.userId = input.targetUserId → row.role ≠ .owner) ∧
      (∀ row ∈ db.bootstraps, row.singletonKey ≠ bootstrapSingleton) ∧
      db'.resources.users = db.resources.users ∧
      db'.resources.assignments =
        db.resources.assignments ++ [firstOwner given.assignmentId input.targetUserId] ∧
      db'.bootstraps = db.bootstraps ++ [bootstrapRow sha256 input given] := by
  unfold writeBootstrap at h
  obtain ⟨hassignments, h⟩ := seq_eq_ok.mp h
  obtain ⟨hbootstraps, h⟩ := seq_eq_ok.mp h
  have hassignments := require_eq_ok.mp hassignments
  have hbootstraps := require_eq_ok.mp hbootstraps
  rw [← Except.ok.inj h]
  refine ⟨fun row hrow huser hrole => ?_, fun row hrow => (hbootstraps row hrow).1, rfl, rfl, rfl⟩
  exact (hassignments row hrow).2 ⟨huser, hrole⟩

/-! ## The condition, and the property -/

/-- The step commits the assignment of an owner. -/
def CommitsAssign (digest : CanonicalApproval → String) (w : PlatformWorld) (ev : PlatformEvent)
    (target : String) : Prop :=
  ∃ i id answer input captured request made db', ev = .advance i (.approval (.proceed id answer)) ∧
    w.locals[i]? = some (.owner (.execute input (.commit captured request made))) ∧
    input.caller = { targetUserId := target, action := .assign } ∧
    executeCommit digest ownerChange w.shared.governance input captured request made answer =
      .ok db'

/-- The step enables the user of an active owner assignment. -/
def EnablesOwner (w : PlatformWorld) (ev : PlatformEvent) : Prop :=
  ∃ users, ev = .env users ∧ ∃ row ∈ w.shared.resources.assignments, row.isActiveOwner = true ∧
    w.shared.resources.hasActiveUser row = false ∧
    ({ w.shared.resources with users := users } : PlatformTables).hasActiveUser row = true

/-- Nobody else becomes an owner after a bootstrap has counted no owner and before it has
committed. -/
def NoOwnerMeanwhile (digest : CanonicalApproval → String) (w : PlatformWorld)
    (ev : PlatformEvent) : Prop :=
  ∀ call, .bootstrap call ∈ w.locals → call.hasCounted = true →
    ¬EnablesOwner w ev ∧
      ∀ target, CommitsAssign digest w ev target → target = call.input.targetUserId

/-- The step commits a bootstrap. -/
def CommitsBootstrap (w w' : PlatformWorld) : Prop :=
  w'.shared.bootstraps ≠ w.shared.bootstraps

instance (w w' : PlatformWorld) : Decidable (CommitsBootstrap w w') :=
  inferInstanceAs (Decidable (_ ≠ _))

/-- Besides the assignment that a bootstrap creates there is no effective owner when it
commits. -/
def OwnerlessCommit (w : PlatformWorld) (_ : PlatformEvent) (w' : PlatformWorld) : Prop :=
  ∀ row ∈ w'.shared.bootstraps, row ∉ w.shared.bootstraps →
    ∀ assignment ∈ w'.shared.resources.assignments, assignment.id ≠ row.assignmentId →
      ¬(assignment.isActiveOwner = true ∧ w'.shared.resources.hasActiveUser assignment = true)

instance (w w' : PlatformWorld) (ev : PlatformEvent) : Decidable (OwnerlessCommit w ev w') :=
  inferInstanceAs (Decidable (∀ row ∈ w'.shared.bootstraps, row ∉ w.shared.bootstraps →
    ∀ assignment ∈ w'.shared.resources.assignments, assignment.id ≠ row.assignmentId →
      ¬(assignment.isActiveOwner = true ∧ w'.shared.resources.hasActiveUser assignment = true)))

/-- The bootstraps that commit in a run. -/
def bootstrapCommits : PlatformWorld → List (PlatformEvent × PlatformWorld) → Nat
  | _, [] => 0
  | w, (_, w') :: rest =>
    (if CommitsBootstrap w w' then 1 else 0) + bootstrapCommits w' rest

end Steps

/-! ## The invariant -/

section Invariant

variable {digest : CanonicalApproval → String} {sha256 : String → String}
  {db db' : PlatformDatabase} {w w' : PlatformWorld} {ev : PlatformEvent} {target : String}

/-- There is no effective owner, or a bootstrap for `target` cannot commit any more. -/
def Ownerless (db : PlatformDatabase) (target : String) : Prop :=
  db.resources.effectiveOwners = 0 ∨
    (∃ row ∈ db.resources.assignments, row.userId = target ∧ row.role = .owner) ∨
    db.bootstraps ≠ []

/-- What a call relies on between its statements. -/
def CallOwnerless (db : PlatformDatabase) : PlatformCall → Prop
  | .owner _ => True
  | .bootstrap call =>
    call.Placed ∧ (call.hasCounted = true → Ownerless db call.input.targetUserId)

/-- Every bootstrap has the same key. -/
def SingletonKeys (db : PlatformDatabase) : Prop :=
  ∀ row ∈ db.bootstraps, row.singletonKey = bootstrapSingleton

theorem effectiveOwners_eq_zero {tables : PlatformTables} :
    tables.effectiveOwners = 0 ↔ ∀ row ∈ tables.assignments, row.isActiveOwner = true →
      tables.hasActiveUser row = false := by
  unfold PlatformTables.effectiveOwners
  rw [List.countP_eq_zero]
  refine forall₂_congr fun row _ => ?_
  cases row.isActiveOwner with
  | false => simp
  | true => simp

/-- Users that change do not bring an owner, unless they enable the user of one. -/
theorem ownerless_of_env {users : List PlatformUser} (h : Ownerless w.shared target)
    (hnone : ¬EnablesOwner w (.env users)) :
    Ownerless ((platform digest sha256).env w.shared users) target := by
  rcases h with hzero | hrow | hbootstraps
  · refine Or.inl (effectiveOwners_eq_zero.mpr fun row hrow hactive => ?_)
    have hbefore := effectiveOwners_eq_zero.mp hzero row hrow hactive
    cases hafter : PlatformTables.hasActiveUser
        ((platform digest sha256).env w.shared users).resources row with
    | false => rfl
    | true => exact absurd ⟨users, rfl, row, hrow, hactive, hbefore, hafter⟩ hnone
  · exact Or.inr (Or.inl hrow)
  · exact Or.inr (Or.inr hbootstraps)

/-- An owner change keeps the owner rows of a user. -/
theorem ownerRow_of_ownerChanged {input : ExecuteInput OwnerChange} {tables tables' : PlatformTables}
    (hchanged : OwnerChanged input tables tables')
    (h : ∃ row ∈ tables.assignments, row.userId = target ∧ row.role = .owner) :
    ∃ row ∈ tables'.assignments, row.userId = target ∧ row.role = .owner := by
  obtain ⟨row, hrow, huser, hrole⟩ := h
  cases hchanged with
  | created id haction hfresh hnone => exact ⟨row, List.mem_append_left _ hrow, huser, hrole⟩
  | changed current hcurrent =>
      refine ⟨_, List.mem_map_of_mem hrow, ?_⟩
      split
      · exact ⟨huser, hrole⟩
      · exact ⟨huser, hrole⟩

/-- A removal brings no owner. -/
theorem effectiveOwners_of_remove {input : ExecuteInput OwnerChange}
    {tables tables' : PlatformTables} (hchanged : OwnerChanged input tables tables')
    (hremove : input.caller.action = .remove) (hzero : tables.effectiveOwners = 0) :
    tables'.effectiveOwners = 0 := by
  rw [effectiveOwners_eq_zero] at hzero ⊢
  cases hchanged with
  | created id haction hfresh hnone =>
      rw [hremove] at haction
      cases haction
  | changed current hcurrent =>
      intro row hrow hactive
      rcases KeyedList.mem_updateMany hrow with ⟨hold, -⟩ | ⟨old, -, -, rfl⟩
      · exact hzero row hold hactive
      · simp [PlatformRoleAssignment.isActiveOwner, PlatformRoleAssignment.change, hremove]
          at hactive

/-- An assignment leaves an owner row of its target. -/
theorem ownerRow_of_assign {input : ExecuteInput OwnerChange} {tables tables' : PlatformTables}
    (hchanged : OwnerChanged input tables tables') :
    ∃ row ∈ tables'.assignments, row.userId = input.caller.targetUserId ∧ row.role = .owner := by
  cases hchanged with
  | created id haction hfresh hnone =>
      exact ⟨_, List.mem_append_right _ (List.mem_singleton.mpr rfl), rfl, rfl⟩
  | changed current hcurrent =>
      obtain ⟨hmem, huser, hrole⟩ := owner?_eq_some hcurrent
      refine ⟨_, List.mem_map_of_mem hmem, ?_⟩
      split
      · exact ⟨huser, hrole⟩
      · exact ⟨huser, hrole⟩

/-- A step of an approval call leaves the assignments, or is the commit of an owner change. -/
theorem ownerChanged_of_advance {i : Nat} {input : ApprovalInput String}
    {call : ApprovalCall OwnerChange Int} (hlocal : w.locals[i]? = some (.owner call)) :
    let governance := (call.advance digest ownerChange w.shared.governance input).1
    governance.resources = w.shared.resources ∨
      ∃ executeInput, OwnerChanged executeInput w.shared.resources governance.resources ∧
        (executeInput.caller.action = .assign →
          CommitsAssign digest w (.advance i (.approval input))
            executeInput.caller.targetUserId) := by
  have hwrote : Wrote digest ownerChange w.shared.governance input call _ :=
    wrote_advance w.shared.governance input call
  dsimp only
  generalize (call.advance digest ownerChange w.shared.governance input).1 = governance at hwrote ⊢
  cases hwrote with
  | nothing => exact Or.inl rfl
  | requested id answer input fingerprint expiresAt hnew => exact Or.inl rfl
  | expired input call p hopen => exact Or.inl rfl
  | decided id answer input request made status hstatus hcount => exact Or.inl rfl
  | cancelled id answer input => exact Or.inl rfl
  | executed id answer input captured request made resources hadmitted hcount hresources hcommit =>
      refine Or.inr ⟨input, ownerChanged_of_changeOwner (changeOwner_of_execute hresources), ?_⟩
      intro hassign
      refine ⟨i, id, answer, input, captured, request, made, _, rfl, hlocal, ?_, hcommit⟩
      rw [← hassign]

/-- Such a step keeps what a bootstrap has counted, when it does not make somebody else an
owner. -/
theorem ownerless_of_owner {i : Nat} {input : ApprovalInput String}
    {call : ApprovalCall OwnerChange Int} (hlocal : w.locals[i]? = some (.owner call))
    (hassign : ∀ other, CommitsAssign digest w (.advance i (.approval input)) other → other = target)
    (h : Ownerless w.shared target) :
    Ownerless { w.shared with
      governance := (call.advance digest ownerChange w.shared.governance input).1 } target := by
  rcases @ownerChanged_of_advance digest w i input call hlocal with hsame |
    ⟨executeInput, hchanged, hcommits⟩
  · unfold Ownerless at h ⊢
    rw [← hsame] at h
    exact h
  · rcases h with hzero | hrow | hbootstraps
    · cases haction : executeInput.caller.action with
      | assign =>
          have htarget := hassign _ (hcommits haction)
          rw [← htarget]
          exact Or.inr (Or.inl (ownerRow_of_assign hchanged))
      | remove => exact Or.inl (effectiveOwners_of_remove hchanged haction hzero)
    · exact Or.inr (Or.inl (ownerRow_of_ownerChanged hchanged hrow))
    · exact Or.inr (Or.inr hbootstraps)

/-- A step of a bootstrap keeps what the others have counted. -/
theorem ownerless_of_bootstrap {call : BootstrapCall} {answer : Option BootstrapAnswer}
    {next : Option BootstrapCall} (hadvance : call.advance sha256 db answer = some (db', next))
    (h : Ownerless db target) : Ownerless db' target := by
  rcases bootstrap_advance hadvance with ⟨given, committed, -, -, hcommit, rfl, -⟩ |
    ⟨hgovernance, hbootstraps, -⟩
  · obtain ⟨-, -, -, -, hrows⟩ := written_of_writeBootstrap hcommit
    refine Or.inr (Or.inr ?_)
    show committed.bootstraps ≠ []
    rw [hrows]
    simp
  · unfold Ownerless PlatformDatabase.resources at h ⊢
    rw [hgovernance, hbootstraps]
    exact h

theorem singletonKeys_of_bootstrap {call : BootstrapCall} {answer : Option BootstrapAnswer}
    {next : Option BootstrapCall} (hadvance : call.advance sha256 db answer = some (db', next))
    (h : SingletonKeys db) : SingletonKeys db' := by
  unfold SingletonKeys at h ⊢
  rcases bootstrap_advance hadvance with ⟨given, committed, -, -, hcommit, rfl, -⟩ |
    ⟨-, hbootstraps, -⟩
  · obtain ⟨-, -, -, -, hrows⟩ := written_of_writeBootstrap hcommit
    intro row hrow
    have hrow : row ∈ committed.bootstraps := hrow
    rw [hrows] at hrow
    rcases List.mem_append.mp hrow with hold | hnew
    · exact h row hold
    · rw [List.mem_singleton.mp hnew]
      rfl
  · rw [hbootstraps]
    exact h

/-- The invariant: every call can rely on what it has counted. -/
def WorldOwnerless (w : PlatformWorld) : Prop :=
  SingletonKeys w.shared ∧ ∀ call ∈ w.locals, CallOwnerless w.shared call

/-- What the condition says of a step that is not the call's own. -/
theorem callOwnerless_of_keeps {call : PlatformCall}
    (h : CallOwnerless db call)
    (hkeeps : ∀ bootstrap, call = .bootstrap bootstrap → bootstrap.hasCounted = true →
      Ownerless db bootstrap.input.targetUserId → Ownerless db' bootstrap.input.targetUserId) :
    CallOwnerless db' call := by
  cases call with
  | owner call => trivial
  | bootstrap call => exact ⟨h.1, fun hcounted => hkeeps call rfl hcounted (h.2 hcounted)⟩

theorem callOwnerless_of_initial {call : PlatformCall} (h : call.isInitial sha256 = true) :
    CallOwnerless db call := by
  cases call with
  | owner call => trivial
  | bootstrap call =>
      have hstage : call.stage = .lock := by
        unfold PlatformCall.isInitial at h
        rw [Bool.and_eq_true, decide_eq_true_eq] at h
        exact h.1
      refine ⟨fun hwrite => ?_, fun hcounted => ?_⟩
      · rw [hstage] at hwrite
        cases hwrite
      · simp [BootstrapCall.hasCounted, hstage] at hcounted

/-- A step of a call is one of an approval call, or one of a bootstrap. -/
theorem advance_cases {input : PlatformInput} {call : PlatformCall} {next : Option PlatformCall}
    (h : (platform digest sha256).advance db input call = some (db', next)) :
    (∃ ownerCall approval, call = .owner ownerCall ∧ input = .approval approval ∧
      db' = { db with
        governance := (ownerCall.advance digest ownerChange db.governance approval).1 } ∧
      ∀ after, next = some after → CallOwnerless db' after) ∨
    ∃ bootstrap answer after, call = .bootstrap bootstrap ∧ input = .bootstrap answer ∧
      bootstrap.advance sha256 db answer = some (db', after) ∧ next = after.map .bootstrap := by
  cases call with
  | owner ownerCall =>
      cases input with
      | approval approval =>
          obtain ⟨rfl, rfl⟩ := Prod.mk.inj (Option.some.inj h)
          refine Or.inl ⟨ownerCall, approval, rfl, rfl, rfl, fun after hafter => ?_⟩
          obtain ⟨ownerAfter, -, rfl⟩ := Option.map_eq_some_iff.mp hafter
          trivial
      | bootstrap answer => cases h
  | bootstrap bootstrap =>
      cases input with
      | approval approval => cases h
      | bootstrap answer =>
          obtain ⟨⟨after, following⟩, hadvance, heq⟩ := Option.map_eq_some_iff.mp h
          obtain ⟨rfl, rfl⟩ := Prod.mk.inj heq
          exact Or.inr ⟨bootstrap, answer, following, rfl, rfl, hadvance, rfl⟩

/-- Where a bootstrap is left, it can rely on what it has counted. -/
theorem callOwnerless_of_advance {call after : BootstrapCall} {answer : Option BootstrapAnswer}
    {next : Option BootstrapCall} (hcall : CallOwnerless db (.bootstrap call))
    (hadvance : call.advance sha256 db answer = some (db', next)) (hafter : next = some after) :
    CallOwnerless db' (.bootstrap after) := by
  have hkeep : ∀ target, Ownerless db target → Ownerless db' target :=
    fun _ => ownerless_of_bootstrap hadvance
  rcases bootstrap_advance hadvance with ⟨-, -, -, -, -, -, hended⟩ | ⟨-, -, hfollows⟩
  · rw [hended] at hafter
    cases hafter
  · have hplace := hfollows after hafter
    refine ⟨hplace.placed, fun hcounted => hkeep _ ?_⟩
    rw [hplace.input]
    rcases hplace.counted hcounted with hbefore | hzero
    · exact hcall.2 hbefore
    · exact Or.inl hzero

theorem worldOwnerless_step (hinv : WorldOwnerless w) (hok : NoOwnerMeanwhile digest w ev)
    (hstep : (platform digest sha256).step w ev w') : WorldOwnerless w' := by
  obtain ⟨hkeys, hcalls⟩ := hinv
  rcases Program.step_cases hstep with ⟨users, rfl, rfl⟩ | ⟨call, rfl, hinitial, rfl⟩ |
    ⟨i, input, call, db', next, rfl, hlocal, hadvance, rfl⟩
  · refine ⟨hkeys, fun call hcall => callOwnerless_of_keeps (hcalls call hcall) ?_⟩
    rintro bootstrap rfl hcounted hownerless
    exact @ownerless_of_env digest sha256 _ _ _ hownerless (hok bootstrap hcall hcounted).1
  · refine ⟨hkeys, fun other hother => ?_⟩
    rcases List.mem_append.mp hother with hold | hnew
    · exact hcalls other hold
    · rw [List.mem_singleton.mp hnew]
      exact callOwnerless_of_initial hinitial
  · rcases advance_cases hadvance with ⟨ownerCall, approval, rfl, rfl, rfl, hnext⟩ |
      ⟨bootstrap, answer, after, rfl, rfl, hmoved, rfl⟩
    · refine ⟨hkeys, fun other hother => ?_⟩
      rcases mem_replaceLocal hother with hnew | hold
      · exact hnext other hnew
      · refine callOwnerless_of_keeps (hcalls other hold) ?_
        rintro waiting rfl hcounted hownerless
        exact ownerless_of_owner hlocal (hok waiting hold hcounted).2 hownerless
    · refine ⟨singletonKeys_of_bootstrap hmoved hkeys, fun other hother => ?_⟩
      rcases mem_replaceLocal hother with hnew | hold
      · obtain ⟨following, hfollowing, rfl⟩ := Option.map_eq_some_iff.mp hnew
        exact callOwnerless_of_advance (hcalls _ (List.mem_of_getElem? hlocal)) hmoved hfollowing
      · refine callOwnerless_of_keeps (hcalls other hold) ?_
        intro waiting _ _ hownerless
        exact ownerless_of_bootstrap hmoved hownerless

/-! ## Runs -/

/-- Only the commit of a bootstrap adds a row, and there is no other before it. -/
theorem committed_of_step (hkeys : SingletonKeys w.shared)
    (hstep : (platform digest sha256).step w ev w') :
    w'.shared.bootstraps = w.shared.bootstraps ∨
      ∃ i given call committed, ev = .advance i (.bootstrap (some given)) ∧
        w.locals[i]? = some (.bootstrap call) ∧ call.stage = .write ∧
        writeBootstrap sha256 w.shared call.input given = .ok committed ∧
        w'.shared = committed.unlock ∧ w.shared.bootstraps = [] := by
  rcases Program.step_cases hstep with ⟨users, rfl, rfl⟩ | ⟨call, rfl, hinitial, rfl⟩ |
    ⟨i, input, call, db', next, rfl, hlocal, hadvance, rfl⟩
  · exact Or.inl rfl
  · exact Or.inl rfl
  · rcases advance_cases hadvance with ⟨ownerCall, approval, rfl, rfl, rfl, -⟩ |
      ⟨bootstrap, answer, after, rfl, rfl, hmoved, rfl⟩
    · exact Or.inl rfl
    · rcases bootstrap_advance hmoved with ⟨given, committed, rfl, hstage, hcommit, rfl, -⟩ |
        ⟨-, hbootstraps, -⟩
      · refine Or.inr ⟨i, given, bootstrap, committed, rfl, hlocal, hstage, hcommit, rfl, ?_⟩
        obtain ⟨-, hfree, -⟩ := written_of_writeBootstrap hcommit
        rw [List.eq_nil_iff_forall_not_mem]
        intro row hrow
        exact hfree row hrow (hkeys row hrow)
      · exact Or.inl hbootstraps

theorem ownerlessCommit_of_step (hinv : WorldOwnerless w)
    (hstep : (platform digest sha256).step w ev w') : OwnerlessCommit w ev w' := by
  obtain ⟨hkeys, hcalls⟩ := hinv
  intro row hrow hnew assignment hassignment hother
  rcases committed_of_step hkeys hstep with hsame |
    ⟨i, given, call, committed, -, hlocal, hstage, hcommit, hshared, hnone⟩
  · rw [hsame] at hrow
    exact absurd hrow hnew
  · obtain ⟨hfree, -, husers, hassignments, hrows⟩ := written_of_writeBootstrap hcommit
    have hcall : CallOwnerless w.shared (.bootstrap call) :=
      hcalls _ (List.mem_of_getElem? hlocal)
    have hcounted : call.hasCounted = true := by
      simp [BootstrapCall.hasCounted, hstage, hcall.1 hstage]
    have hzero : w.shared.resources.effectiveOwners = 0 := by
      rcases hcall.2 hcounted with hzero | ⟨taken, htaken, huser, hrole⟩ | hbootstraps
      · exact hzero
      · exact absurd hrole (hfree taken htaken huser)
      · exact absurd hnone hbootstraps
    rw [hshared] at hrow hassignment ⊢
    have hassignment : assignment ∈ committed.resources.assignments := hassignment
    have hrow : row ∈ committed.bootstraps := hrow
    rw [hrows, hnone] at hrow
    rw [hassignments] at hassignment
    have hid : row.assignmentId = given.assignmentId := by
      rw [List.mem_singleton.mp hrow]
      rfl
    rintro ⟨hactive, huser⟩
    rcases List.mem_append.mp hassignment with hold | hcreated
    · have hinactive := effectiveOwners_eq_zero.mp hzero assignment hold hactive
      have hsame : committed.unlock.resources.hasActiveUser assignment =
          w.shared.resources.hasActiveUser assignment := by
        show committed.resources.hasActiveUser assignment = _
        unfold PlatformTables.hasActiveUser PlatformTables.user?
        rw [husers]
      rw [hsame, hinactive] at huser
      cases huser
    · rw [List.mem_singleton.mp hcreated, hid] at hother
      exact hother rfl

theorem singletonKeys_step (hkeys : SingletonKeys w.shared)
    (hstep : (platform digest sha256).step w ev w') : SingletonKeys w'.shared := by
  rcases Program.step_cases hstep with ⟨users, rfl, rfl⟩ | ⟨call, rfl, hinitial, rfl⟩ |
    ⟨i, input, call, db', next, rfl, hlocal, hadvance, rfl⟩
  · exact hkeys
  · exact hkeys
  · rcases advance_cases hadvance with ⟨ownerCall, approval, rfl, rfl, rfl, -⟩ |
      ⟨bootstrap, answer, after, rfl, rfl, hmoved, rfl⟩
    · exact hkeys
    · exact singletonKeys_of_bootstrap hmoved hkeys

/-- At most one bootstrap commits, and none when there is one already. -/
theorem bootstrapCommits_le_one {run : List (PlatformEvent × PlatformWorld)}
    (hkeys : SingletonKeys w.shared) (hrun : Run (platform digest sha256).step w run) :
    bootstrapCommits w run ≤ 1 ∧ (w.shared.bootstraps ≠ [] → bootstrapCommits w run = 0) := by
  induction hrun with
  | nil w => exact ⟨Nat.zero_le 1, fun _ => rfl⟩
  | @cons w w' ev rest hstep _ ih =>
      obtain ⟨hrest, hended⟩ := ih (singletonKeys_step hkeys hstep)
      rw [bootstrapCommits]
      rcases committed_of_step hkeys hstep with hsame |
        ⟨-, given, call, committed, -, -, -, hcommit, hshared, hnone⟩
      · have hnot : ¬CommitsBootstrap w w' := fun hcommits => hcommits hsame
        rw [hsame] at hended
        rw [if_neg hnot, Nat.zero_add]
        exact ⟨hrest, hended⟩
      · obtain ⟨-, -, -, -, hrows⟩ := written_of_writeBootstrap hcommit
        have hafter : w'.shared.bootstraps ≠ [] := by
          rw [hshared]
          show committed.bootstraps ≠ []
          rw [hrows]
          simp
        rw [hended hafter]
        refine ⟨?_, fun hsome => absurd hnone hsome⟩
        split
        · exact le_refl 1
        · exact Nat.zero_le 1

/-- No bootstrap is under way, and the bootstraps of the table have their key. -/
structure Begins (sha256 : String → String) (w : PlatformWorld) : Prop where
  keys : SingletonKeys w.shared
  calls : ∀ call ∈ w.locals, call.isInitial sha256 = true

/-- In every run at most one bootstrap commits.  When nobody else becomes an owner between
the count and the commit of a bootstrap, there is no other owner when it commits. -/
theorem bootstrap_ownerless {w : PlatformWorld} {run : List (PlatformEvent × PlatformWorld)}
    (hbegins : Begins sha256 w) (hrun : Run (platform digest sha256).step w run) :
    bootstrapCommits w run ≤ 1 ∧
      (StepsMeet (NoOwnerMeanwhile digest) w run → AllSteps OwnerlessCommit w run) := by
  have hinv : WorldOwnerless w :=
    ⟨hbegins.keys, fun call hcall => callOwnerless_of_initial (hbegins.calls call hcall)⟩
  refine ⟨(bootstrapCommits_le_one hbegins.keys hrun).1, fun hmeet => ?_⟩
  clear hbegins
  induction hrun with
  | nil w => trivial
  | cons hstep _ ih =>
      exact ⟨ownerlessCommit_of_step hinv hstep,
        ih (worldOwnerless_step hinv hmeet.1 hstep) hmeet.2⟩

end Invariant

/-! ## An owner that is assigned meanwhile -/

/-- The hash of the examples. -/
def constantSha256 (_ : String) : String := String.ofList (List.replicate 64 '0')

/-- Two users, and no owner. -/
def ownerlessPlatform : PlatformWorld where
  shared := { governance := { resources := { users := [{ id := "first" }, { id := "second" }] } } }
  locals := []

/-- The bootstrap of the first user. -/
def firstBootstrap : PlatformOwnerBootstrapInput where
  environment := "staging"
  expectedEnvironment := "staging"
  targetUserId := "first"
  targetEmail := "first@example.org"
  sessionEvidenceId := "session"
  mfaEventEvidenceId := "event"
  authorizationId := "authorization"
  authorizationExpiresAt := 3000
  authorizationToken := String.ofList (List.replicate 32 't')
  expectedAuthorizationHash := constantSha256 ""
  confirmation := bootstrapConfirmation
  now := 2000

/-- The evidence that the database has for it. -/
def firstEvidence : BootstrapAnswer where
  emailNormalized := "first@example.org"
  session := some
    { id := "session", userId := "first", revokedAt := none, expiresAt := 3000
      idleExpiresAt := 3000, authenticationAt := 1000 }
  mfaEvent := some
    { userId := some "first", action := "identity.login.success", result := "SUCCEEDED"
      method := some "TOTP", sessionId := some "session", createdAt := 1000 }
  activeMfa := 1
  assignmentId := "1"
  auditEventId := "audit"
  notificationId := "notification"

/-- The bootstrap begins as the call at a position, and goes on to its last statement. -/
def bootstrapUntilWrite (position : Nat) : List PlatformEvent :=
  .spawn (.bootstrap { input := firstBootstrap }) ::
    List.replicate 7 (.advance position (.bootstrap (some firstEvidence)))

/-- The last statement of the bootstrap. -/
def commitFirst : PlatformEvent := .advance 0 (.bootstrap (some firstEvidence))

/-- A step of the bootstrap, or the start of one. -/
def isBootstrapEvent : PlatformEvent → Bool
  | .spawn (.bootstrap _) => true
  | .advance _ (.bootstrap _) => true
  | _ => false

theorem noOwnerMeanwhile_of_bootstrap {digest : CanonicalApproval → String} {w : PlatformWorld}
    {ev : PlatformEvent} (h : isBootstrapEvent ev = true) : NoOwnerMeanwhile digest w ev := by
  intro call _ _
  refine ⟨?_, ?_⟩
  · rintro ⟨users, rfl, -⟩
    cases h
  · rintro target ⟨i, id, answer, input, captured, request, made, db', rfl, -⟩
    cases h

theorem stepsMeet_of_bootstraps {digest : CanonicalApproval → String} {w : PlatformWorld}
    {run : List (PlatformEvent × PlatformWorld)}
    (h : ∀ entry ∈ run, isBootstrapEvent entry.1 = true) :
    StepsMeet (NoOwnerMeanwhile digest) w run := by
  induction run generalizing w with
  | nil => trivial
  | cons entry run ih =>
      exact ⟨noOwnerMeanwhile_of_bootstrap (h entry List.mem_cons_self),
        ih fun other hother => h other (List.mem_cons_of_mem entry hother)⟩

/-- The run of a bootstrap by itself. -/
def aloneRun : List (PlatformEvent × PlatformWorld) :=
  trace (platform (·.requesterId) constantSha256).next ownerlessPlatform
    (bootstrapUntilWrite 0 ++ [commitFirst])

theorem bootstrap_ownerless_alone :
    bootstrapCommits ownerlessPlatform aloneRun ≤ 1 ∧
      AllSteps OwnerlessCommit ownerlessPlatform aloneRun := by
  have hbegins : Begins constantSha256 ownerlessPlatform :=
    ⟨by simp [SingletonKeys, ownerlessPlatform], by simp [ownerlessPlatform]⟩
  obtain ⟨hcommits, hownerless⟩ :=
    @bootstrap_ownerless (·.requesterId) constantSha256 ownerlessPlatform aloneRun hbegins
      (run_trace _ _)
  refine ⟨hcommits, hownerless (stepsMeet_of_bootstraps ?_)⟩
  decide

/-- The approval to make the second user an owner. -/
def assignment : RequestInput where
  session := sessionOf "admin"
  actionType := .platformOwnerAssign
  scope := .platform
  companyId := none
  resourceId := some "second"
  expectedVersion := some 0
  safeParameters :=
    { entries := [("targetUserId", .string "second"), ("assignmentVersion", .version 0)]
      nodup := by decide }
  confirmation := "ASSIGN PLATFORM OWNER"
  now := 2000

/-- The call that executes it. -/
def assignmentExecution : ExecuteInput OwnerChange :=
  executePlatformOwnerChange (sessionOf "admin") "approval"
    { targetUserId := "second", action := .assign } true 2000

/-- A step of the owner changes as one of the platform. -/
def ofOwnerEvent : OwnerEvent → PlatformEvent
  | .env users => .env users
  | .spawn call => .spawn (.owner call)
  | .advance i input => .advance i (.approval input)

/-- The assignment is about to commit, the bootstrap counts no owner, and the assignment
commits. -/
def assignedMeanwhile : List PlatformEvent :=
  (approvedUntilCommit assignment "support" assignmentExecution "2").map ofOwnerEvent ++
    bootstrapUntilWrite 1 ++ [.advance 0 (.approval (.proceed "approval" "2"))]

/-- The bootstrap commits beside the new owner. -/
theorem bootstrap_beside_owner :
    Begins constantSha256 ownerlessPlatform ∧
      ∃ w w', Steps (platform (·.requesterId) constantSha256).step ownerlessPlatform w ∧
        (platform (·.requesterId) constantSha256).step w commitFirst w' ∧
        ¬OwnerlessCommit w commitFirst w' := by
  refine ⟨⟨by simp [SingletonKeys, ownerlessPlatform], by simp [ownerlessPlatform]⟩, ?_⟩
  obtain ⟨w, w', hsteps, hstep, hcommit⟩ := exists_step_of_exec
    (fun w w' : PlatformWorld => ¬OwnerlessCommit w commitFirst w')
    (platform (·.requesterId) constantSha256).next (s := ownerlessPlatform) assignedMeanwhile
    commitFirst (fun _ _ _ => trivial) (by decide)
  exact ⟨w, w', hsteps.of_guarded, hstep, hcommit⟩

end AvantimePlatform.Governance
