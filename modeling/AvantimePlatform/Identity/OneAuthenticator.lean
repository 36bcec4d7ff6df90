import AvantimePlatform.Identity.SingleUse

/-!
# One authenticator for a user

A user is meant to have at most one active authenticator, and none after it was disabled.
`beginTotpEnrollment` looks for an active one before its transaction, and `disableTotp`
disables the one whose code it has verified, whether or not it is still the active one.

* `openCount` counts the authenticators of a user that are active or pending.  An
  enrolment that commits while none is active leaves one; nothing else raises it.
* `lastChange` is whether the authenticator was confirmed or disabled last.
* `one_authenticator`: when every enrolment commits while the user has no active
  authenticator, and every disabling while it has no other one than its own, at most one is
  active, and none after a disabling.
-/

namespace AvantimePlatform.Identity

open AvantimePlatform AvantimePlatform.Interleaving AvantimePlatform.Transition

variable {crypto : MfaCrypto} {db db' : MfaTables} {userId : String}

/-! ## Counting authenticators -/

/-- The active authenticators of the user. -/
def MfaTables.activeCount (db : MfaTables) (userId : String) : Nat :=
  db.methods.countP (·.isActiveOf userId)

/-- An authenticator that is active or may become so. -/
def MfaMethod.isOpenOf (row : MfaMethod) (userId : String) : Bool :=
  row.isActiveOf userId || row.isPendingOf userId

def MfaTables.openCount (db : MfaTables) (userId : String) : Nat :=
  db.methods.countP (·.isOpenOf userId)

theorem activeCount_le_openCount (db : MfaTables) (userId : String) :
    db.activeCount userId ≤ db.openCount userId := by
  refine List.countP_mono_left fun row _ hactive => ?_
  rw [MfaMethod.isOpenOf, hactive, Bool.true_or]

/-- The count after an authenticator is written back. -/
theorem countP_setMethod (p : MfaMethod → Bool) (row : MfaMethod) {old : MfaMethod}
    (hmethods : KeyedList.Distinct MfaMethod.id db.methods)
    (hold : db.method? row.id = some old) :
    (db.setMethod row).methods.countP p + (if p old = true then 1 else 0) =
      db.methods.countP p + if p row = true then 1 else 0 :=
  KeyedList.countP_put hmethods hold

/-- Nothing changes in the counts when both predicates agree on the row. -/
theorem countP_setMethod_same (p : MfaMethod → Bool) (row : MfaMethod) {old : MfaMethod}
    (hmethods : KeyedList.Distinct MfaMethod.id db.methods)
    (hold : db.method? row.id = some old) (hsame : p row = p old) :
    (db.setMethod row).methods.countP p = db.methods.countP p := by
  have hcount := countP_setMethod p row hmethods hold
  rw [hsame] at hcount
  omega

theorem isActiveOf_used (row : MfaMethod) (counter : Int) :
    (row.used counter).isActiveOf userId = row.isActiveOf userId := rfl

theorem isOpenOf_used (row : MfaMethod) (counter : Int) :
    (row.used counter).isOpenOf userId = row.isOpenOf userId := rfl

theorem isActiveOf_retired (row : MfaMethod) : row.retired.isActiveOf userId = false := by
  simp [MfaMethod.isActiveOf, MfaMethod.retired]

theorem isOpenOf_retired (row : MfaMethod) : row.retired.isOpenOf userId = false := by
  simp [MfaMethod.isOpenOf, MfaMethod.isActiveOf, MfaMethod.isPendingOf, MfaMethod.retired]

/-- Activating a pending authenticator keeps it open. -/
theorem isOpenOf_activated {row : MfaMethod} (counter : Int) (hpending : row.status = .pending) :
    (row.activated counter).isOpenOf userId = row.isOpenOf userId := by
  have hnotPending : (row.activated counter).isPendingOf userId = false := by
    simp [MfaMethod.isPendingOf, MfaMethod.activated]
  have hnotActive : row.isActiveOf userId = false := by
    simp [MfaMethod.isActiveOf, hpending]
  have hsame : (row.activated counter).isActiveOf userId = row.isPendingOf userId := by
    unfold MfaMethod.isActiveOf MfaMethod.isPendingOf MfaMethod.activated
    rw [hpending]
    rfl
  rw [MfaMethod.isOpenOf, MfaMethod.isOpenOf, hnotPending, hnotActive, hsame, Bool.or_false,
    Bool.false_or]

/-- An enrolment retires what is pending: what stays open was active, and the new one is
open. -/
theorem openCount_enroll (db : MfaTables) (userId owner secretEncrypted : String) (now : Int) :
    (db.enroll owner secretEncrypted now).openCount userId =
      if owner = userId then db.activeCount userId + 1 else db.openCount userId := by
  unfold MfaTables.openCount MfaTables.activeCount MfaTables.enroll KeyedList.updateMany
  rw [List.countP_append, List.countP_map, List.countP_singleton]
  by_cases howner : owner = userId
  · have hnew : (enrolled db.serial owner secretEncrypted now).isOpenOf userId = true := by
      simp [MfaMethod.isOpenOf, MfaMethod.isPendingOf, enrolled, howner]
    rw [if_pos howner, if_pos hnew]
    congr 1
    refine List.countP_congr fun row _ => ?_
    simp only [Function.comp_apply, howner]
    split
    · next hpending =>
      rw [isOpenOf_retired]
      simp only [MfaMethod.isPendingOf, Bool.and_eq_true, decide_eq_true_eq] at hpending
      simp [MfaMethod.isActiveOf, hpending.2]
    · next hpending =>
      rw [MfaMethod.isOpenOf, Bool.eq_false_iff.mpr hpending, Bool.or_false]
  · have hnew : (enrolled db.serial owner secretEncrypted now).isOpenOf userId = false := by
      simp [MfaMethod.isOpenOf, MfaMethod.isActiveOf, MfaMethod.isPendingOf, enrolled, howner]
    rw [if_neg howner, if_neg (by rw [hnew]; exact Bool.false_ne_true), Nat.add_zero]
    refine List.countP_congr fun row _ => ?_
    simp only [Function.comp_apply]
    split
    · next hpending =>
      rw [isOpenOf_retired]
      simp only [MfaMethod.isPendingOf, Bool.and_eq_true, decide_eq_true_eq] at hpending
      have hne : row.userId ≠ userId := by
        rw [hpending.1.1]
        exact howner
      simp [MfaMethod.isOpenOf, MfaMethod.isActiveOf, MfaMethod.isPendingOf, hne]
    · rfl

/-- An enrolment activates nothing. -/
theorem activeCount_enroll (db : MfaTables) (userId owner secretEncrypted : String) (now : Int) :
    (db.enroll owner secretEncrypted now).activeCount userId = db.activeCount userId := by
  unfold MfaTables.activeCount MfaTables.enroll KeyedList.updateMany
  rw [List.countP_append, List.countP_map, List.countP_singleton]
  have hnew : (enrolled db.serial owner secretEncrypted now).isActiveOf userId = false := by
    simp [MfaMethod.isActiveOf, enrolled]
  rw [if_neg (by rw [hnew]; exact Bool.false_ne_true), Nat.add_zero]
  refine List.countP_congr fun row _ => ?_
  simp only [Function.comp_apply]
  split
  · next hpending =>
    rw [isActiveOf_retired]
    simp only [MfaMethod.isPendingOf, Bool.and_eq_true, decide_eq_true_eq] at hpending
    simp [MfaMethod.isActiveOf, hpending.2]
  · rfl

/-! ## The changes of a user -/

/-- What happened to the authenticator of a user. -/
inductive AuthenticatorChange where
  | confirmed | disabled
deriving DecidableEq

/-- The change of the user's authenticator that commits in the step. -/
def changeIn (crypto : MfaCrypto) (userId : String) (w : MfaWorld) :
    MfaEvent → Option AuthenticatorChange
  | .advance i .made =>
    match w.locals[i]? with
    | some (.factor input (.commit methodId)) =>
      if input.use = .disable ∧ input.userId = userId ∧
          (w.shared.disable input.userId methodId).isSome = true then some .disabled
      else none
    | some (.confirm input (.activate methodId counter)) =>
      if input.userId = userId ∧ (w.shared.activate input.userId methodId counter
          (input.codes.map (hashRecoveryCode crypto))).isSome = true then some .confirmed
      else none
    | _ => none
  | _ => none

/-- The last change of the user's authenticator. -/
def lastChange (crypto : MfaCrypto) (userId : String) (past : History MfaWorld MfaEvent) :
    Option AuthenticatorChange :=
  past.findSome? fun (w, ev) => changeIn crypto userId w ev

/-- An enrolment of the user commits while it has no active authenticator, and a
disabling while it has no other one than the call's own. -/
def ChangesInOrder (userId : String) (w : MfaWorld) (ev : MfaEvent) : Prop :=
  ∀ i call, ev = .advance i .made → w.locals[i]? = some call →
    match call with
    | .begin input .enroll => input.userId = userId → w.shared.activeCount userId = 0
    | .factor input (.commit methodId) => input.use = .disable → input.userId = userId →
        ∀ row ∈ w.shared.methods, row.isActiveOf userId = true → row.id = methodId
    | _ => True

/-! ## One step -/

theorem openCount_activate (userId : String) {owner : String} {methodId : Nat} {counter : Int} {hashes : List String}
    (hmethods : KeyedList.Distinct MfaMethod.id db.methods)
    (h : db.activate owner methodId counter hashes = some db') :
    db'.openCount userId = db.openCount userId := by
  obtain ⟨row, hrow, -, hpending, hreplaced⟩ := activate_eq_some h
  have hself : db.method? (row.activated counter).id = some row := method?_self hrow
  rw [replaceRecoveryCodes_eq_some hreplaced]
  exact countP_setMethod_same (·.isOpenOf userId) (row.activated counter) hmethods hself
    (isOpenOf_activated counter hpending)

/-- A confirmation of another user activates nothing of this one. -/
theorem activeCount_activate {owner : String} {methodId : Nat} {counter : Int}
    {hashes : List String} (hmethods : KeyedList.Distinct MfaMethod.id db.methods)
    (howner : owner ≠ userId)
    (h : db.activate owner methodId counter hashes = some db') :
    db'.activeCount userId = db.activeCount userId := by
  obtain ⟨row, hrow, huser, -, hreplaced⟩ := activate_eq_some h
  have hne : row.userId ≠ userId := by
    rw [huser]
    exact howner
  have hsame : (row.activated counter).isActiveOf userId = row.isActiveOf userId := by
    simp [MfaMethod.isActiveOf, MfaMethod.activated, hne]
  have hself : db.method? (row.activated counter).id = some row := method?_self hrow
  rw [replaceRecoveryCodes_eq_some hreplaced]
  exact countP_setMethod_same (·.isActiveOf userId) (row.activated counter) hmethods hself hsame

/-- Disabling an authenticator raises neither count. -/
theorem count_disable (userId : String) {owner : String} {methodId : Nat}
    (hmethods : KeyedList.Distinct MfaMethod.id db.methods)
    (h : db.disable owner methodId = some db') :
    db'.openCount userId ≤ db.openCount userId ∧
      db'.activeCount userId ≤ db.activeCount userId := by
  obtain ⟨row, hrow, hreplaced⟩ := disable_eq_some h
  rw [replaceRecoveryCodes_eq_some hreplaced]
  have hself : db.method? row.retired.id = some row := method?_self hrow
  have hopen := countP_setMethod (·.isOpenOf userId) row.retired hmethods hself
  have hactive := countP_setMethod (·.isActiveOf userId) row.retired hmethods hself
  rw [isOpenOf_retired, if_neg Bool.false_ne_true] at hopen
  rw [isActiveOf_retired, if_neg Bool.false_ne_true] at hactive
  constructor
  · show (db.setMethod row.retired).methods.countP (·.isOpenOf userId) ≤
      db.methods.countP (·.isOpenOf userId)
    omega
  · show (db.setMethod row.retired).methods.countP (·.isActiveOf userId) ≤
      db.methods.countP (·.isActiveOf userId)
    omega

/-- Disabling the only active authenticator leaves none. -/
theorem activeCount_disable {owner : String} {methodId : Nat}
    (honly : ∀ row ∈ db.methods, row.isActiveOf userId = true → row.id = methodId)
    (h : db.disable owner methodId = some db') : db'.activeCount userId = 0 := by
  obtain ⟨row, hrow, hreplaced⟩ := disable_eq_some h
  have hid : row.id = methodId := (KeyedList.find_eq_some hrow).2
  rw [replaceRecoveryCodes_eq_some hreplaced]
  refine List.countP_eq_zero.mpr fun found hfound => ?_
  rcases KeyedList.mem_put hfound with rfl | ⟨hold, hne⟩
  · rw [isActiveOf_retired]
    exact Bool.false_ne_true
  · intro hactive
    have hfoundId : found.id = methodId := honly found hold hactive
    exact hne (hfoundId.trans hid.symm)

/-- Using a counter changes neither count. -/
theorem count_useCounter (userId : String) {methodId : Nat} {counter : Int}
    (hmethods : KeyedList.Distinct MfaMethod.id db.methods)
    (h : db.useCounter methodId counter = some db') :
    db'.openCount userId = db.openCount userId ∧
      db'.activeCount userId = db.activeCount userId := by
  obtain ⟨row, hrow, -, rfl⟩ := useCounter_eq_some h
  have hself : db.method? (row.used counter).id = some row := method?_self hrow
  exact ⟨countP_setMethod_same _ (row.used counter) hmethods hself (isOpenOf_used row counter),
    countP_setMethod_same _ (row.used counter) hmethods hself (isActiveOf_used row counter)⟩

/-- What holds of the user's authenticators along a run in order. -/
structure OneOpen (crypto : MfaCrypto) (userId : String) (past : History MfaWorld MfaEvent)
    (w : MfaWorld) : Prop where
  keyed : MfaKeyed w.shared
  atMostOne : w.shared.openCount userId ≤ 1
  off : lastChange crypto userId past = some .disabled → w.shared.activeCount userId = 0

/-- One step of a call in order keeps at most one authenticator open, and activates one
only by a confirmation. -/
theorem MfaWrote.oneOpen {answer : MfaAnswer} {call : MfaCall}
    (hmethods : KeyedList.Distinct MfaMethod.id db.methods) (hone : db.openCount userId ≤ 1)
    (henroll : ∀ input, answer = .made → call = .begin input .enroll → input.userId = userId →
      db.activeCount userId = 0)
    (h : MfaWrote crypto db answer call db') :
    db'.openCount userId ≤ 1 ∧
      (db'.activeCount userId ≤ db.activeCount userId ∨
        ∃ input methodId counter, answer = .made ∧ call = .confirm input (.activate methodId counter) ∧
          input.userId = userId ∧ db.activate input.userId methodId counter
            (input.codes.map (hashRecoveryCode crypto)) = some db') := by
  cases h with
  | nothing => exact ⟨hone, Or.inl le_rfl⟩
  | counted input challenge => exact ⟨hone, Or.inl le_rfl⟩
  | consumed input challenge user verification h =>
      obtain ⟨closed, hclosed, hused⟩ := consume_eq_some h
      obtain ⟨row, hrow, hopen, rfl⟩ := closeChallenge_eq_some hclosed
      rcases hused with ⟨counter, methodId, -, hused⟩ | ⟨recoveryCodeId, -, hused⟩
      · have hclosedMethods : KeyedList.Distinct MfaMethod.id
            (db.setChallenge (row.consumed input.now)).methods := hmethods
        obtain ⟨hsameOpen, hsameActive⟩ := count_useCounter userId hclosedMethods hused
        exact ⟨le_of_eq_of_le hsameOpen hone, Or.inl (le_of_eq hsameActive)⟩
      · obtain ⟨code, -, -, rfl⟩ := useRecoveryCode_eq_some hused
        exact ⟨hone, Or.inl le_rfl⟩
  | counterUsed input methodId counter h =>
      obtain ⟨hopen, hactive⟩ := count_useCounter userId hmethods h
      exact ⟨by omega, Or.inl (le_of_eq hactive)⟩
  | regenerated input methodId codes huse h =>
      rw [replaceRecoveryCodes_eq_some h]
      exact ⟨hone, Or.inl le_rfl⟩
  | disabled input methodId huse h =>
      obtain ⟨hopen, hactive⟩ := count_disable userId hmethods h
      exact ⟨hopen.trans hone, Or.inl hactive⟩
  | enrolled input =>
      rw [openCount_enroll, activeCount_enroll]
      refine ⟨?_, Or.inl le_rfl⟩
      split
      · next howner =>
        rw [henroll input rfl rfl howner]
      · exact hone
  | activated input methodId counter h =>
      have hopen := openCount_activate userId hmethods h
      refine ⟨by omega, ?_⟩
      by_cases howner : input.userId = userId
      · exact Or.inr ⟨input, methodId, counter, rfl, rfl, howner, h⟩
      · exact Or.inl (le_of_eq (activeCount_activate hmethods howner h))

/-! ## Runs -/

/-- The user starts with at most one authenticator that is active or pending, and no call
is in progress. -/
def StartsWithOne (userId : String) (w : MfaWorld) : Prop :=
  w.Quiescent ∧ MfaKeyed w.shared ∧ w.shared.openCount userId ≤ 1

theorem lastChange_cons (past : History MfaWorld MfaEvent) (w : MfaWorld) (ev : MfaEvent) :
    lastChange crypto userId ((w, ev) :: past) =
      (changeIn crypto userId w ev).or (lastChange crypto userId past) := by
  unfold lastChange
  rw [List.findSome?_cons]
  dsimp only
  cases changeIn crypto userId w ev with
  | none => rw [Option.none_or]
  | some change => rw [Option.some_or]

/-- The step whose change is a disabling is the commit of one. -/
theorem changeIn_eq_disabled {w w' : MfaWorld} {ev : MfaEvent}
    (hstep : (mfa crypto).step w ev w') (h : changeIn crypto userId w ev = some .disabled) :
    ∃ i input methodId, ev = .advance i .made ∧
      w.locals[i]? = some (.factor input (.commit methodId)) ∧ input.use = .disable ∧
      input.userId = userId ∧ w.shared.disable input.userId methodId = some w'.shared := by
  unfold changeIn at h
  split at h
  · next i =>
    split at h
    · next input methodId hcall =>
      split at h
      · next hdisable =>
        obtain ⟨huse, huser, hsome⟩ := hdisable
        obtain ⟨db', hdb'⟩ := Option.isSome_iff_exists.mp hsome
        refine ⟨i, input, methodId, rfl, hcall, huse, huser, ?_⟩
        rw [mfaShared_of_advance hstep hcall, hdb']
        show some db' = some (settleMfa w.shared (input.commit crypto w.shared methodId))
        unfold FactorInput.commit
        rw [huse]
        dsimp only
        rw [hdb']
        rfl
      · cases h
    · split at h
      · cases h
      · cases h
    · cases h
  · cases h

theorem oneOpen_step {past : History MfaWorld MfaEvent} {w w' : MfaWorld} {ev : MfaEvent}
    (hone : OneOpen crypto userId past w) (hok : ChangesInOrder userId w ev)
    (hstep : (mfa crypto).step w ev w') : OneOpen crypto userId ((w, ev) :: past) w' := by
  have hkeyed : MfaKeyed w'.shared := mfaKeyed_step hone.keyed hstep
  have hafter : w'.shared.openCount userId ≤ 1 ∧
      (w'.shared.activeCount userId ≤ w.shared.activeCount userId ∨
        changeIn crypto userId w ev = some .confirmed) := by
    rcases Program.step_cases hstep with ⟨e, -, rfl⟩ | ⟨call, -, -, rfl⟩ |
      ⟨i, answer, call, sh, next, rfl, hcall, -, -⟩
    · have hmethods : (w.shared.change e).methods = w.shared.methods := by
        cases e with
        | users rows => rfl
        | providers live => rfl
        | login tokenHash owner identityProviderId expiresAt =>
            refine settleMfa_cases (P := fun db' => db'.methods = w.shared.methods) rfl fun db' h => ?_
            unfold MfaTables.createLoginChallenge at h
            split at h
            · cases h
            · rw [← Option.some.inj h]
      have hopen : (w.shared.change e).openCount userId = w.shared.openCount userId := by
        unfold MfaTables.openCount
        rw [hmethods]
      have hactive : (w.shared.change e).activeCount userId = w.shared.activeCount userId := by
        unfold MfaTables.activeCount
        rw [hmethods]
      exact ⟨le_of_eq_of_le hopen hone.atMostOne, Or.inl (le_of_eq hactive)⟩
    · exact ⟨hone.atMostOne, Or.inl le_rfl⟩
    · rw [mfaShared_of_advance hstep hcall]
      have hwrote := mfaWrote_advance crypto w.shared answer call
      obtain ⟨hopen, hactive⟩ := hwrote.oneOpen hone.keyed.methods hone.atMostOne (by
        intro input hanswer hbegin howner
        rw [hanswer] at hok
        have hnone := hok i call rfl hcall
        rw [hbegin] at hnone
        exact hnone howner)
      refine ⟨hopen, hactive.imp_right ?_⟩
      rintro ⟨input, methodId, counter, rfl, rfl, howner, hactivate⟩
      unfold changeIn
      dsimp only
      rw [hcall]
      dsimp only
      rw [if_pos ⟨howner, by rw [hactivate]; rfl⟩]
  refine ⟨hkeyed, hafter.1, fun hlast => ?_⟩
  rw [lastChange_cons] at hlast
  cases hchange : changeIn crypto userId w ev with
  | none =>
      rw [hchange, Option.none_or] at hlast
      have hle := hafter.2.resolve_right (by rw [hchange]; exact Option.some_ne_none _ ∘ Eq.symm)
      exact Nat.le_zero.mp (hle.trans (le_of_eq (hone.off hlast)))
  | some change =>
      rw [hchange, Option.some_or] at hlast
      rw [Option.some.inj hlast] at hchange
      obtain ⟨i, input, methodId, rfl, hcall, huse, huser, hdisable⟩ :=
        changeIn_eq_disabled hstep hchange
      have honly := hok i _ rfl hcall huse huser
      exact activeCount_disable honly hdisable

/-- Along every run in order the user has at most one active authenticator, and none after
a disabling that no confirmation follows. -/
theorem one_authenticator {past : History MfaWorld MfaEvent} {w : MfaWorld}
    (h : ReachedBy (StartsWithOne userId) (fun _ => ChangesInOrder userId) (mfa crypto).step past w) :
    w.shared.activeCount userId ≤ 1 ∧
      (lastChange crypto userId past = some .disabled → w.shared.activeCount userId = 0) := by
  have hone : OneOpen crypto userId past w := by
    refine h.invariant (OneOpen crypto userId) ?_ ?_
    · rintro w ⟨-, hkeyed, hopen⟩
      refine ⟨hkeyed, hopen, fun hlast => ?_⟩
      cases hlast
    · intro past w ev w' hone hok hstep
      exact oneOpen_step hone hok hstep
  exact ⟨(activeCount_le_openCount _ _).trans hone.atMostOne, hone.off⟩

/-! ## Two active authenticators -/

/-- A user without an authenticator. -/
def noAuthenticator : MfaWorld where
  shared := { users := [{ id := "user", role := .admin }] }
  locals := []

theorem startsWithOne_noAuthenticator : StartsWithOne "user" noAuthenticator := by
  refine ⟨rfl, ?_, by decide⟩
  refine ⟨List.nodup_nil, ?_, ?_, List.nodup_nil, ?_, List.nodup_nil, ?_⟩
  all_goals
    intro row hrow
    cases hrow

def beginEnrolment : MfaCall :=
  .begin { userId := "user", secretEncrypted := sampleStored, now := 50000 } .findActive

def confirmEnrolment (methodId : Nat) : MfaCall :=
  .confirm
    { userId := "user", methodId := methodId, code := "287082", codes := ["ABCD-EFGH-JKLM"]
      now := 59000 } .read

theorem one_authenticator_beginEnrolment :
    ∃ (past : History MfaWorld MfaEvent) (w : MfaWorld), w.shared.openCount "user" = 1 ∧
      w.shared.activeCount "user" ≤ 1 ∧
      (lastChange sampleCrypto "user" past = some .disabled →
        w.shared.activeCount "user" = 0) := by
  have hmeets : HistoryMeets (mfa sampleCrypto).next (fun _ => ChangesInOrder "user") []
      noAuthenticator [.spawn beginEnrolment, .advance 0 .made, .advance 0 .made] := by
    refine ⟨?_, ?_, ?_, trivial⟩
    · intro i call hev
      cases hev
    · intro i call hev hcall
      cases hev
      cases hcall
      trivial
    · intro i call hev hcall
      cases hev
      cases hcall
      intro _
      rfl
  have hstart : StartsWithOne "user" noAuthenticator := startsWithOne_noAuthenticator
  have hreached := reachedBy_of_execHistory (.start hstart) hmeets rfl
  exact ⟨_, _, by decide, one_authenticator hreached⟩

/-- Two enrolments find no active authenticator; each is then created and confirmed. -/
theorem two_authenticators_active :
    ∃ past w, ReachedBy (StartsWithOne "user") (fun _ _ _ => True) (mfa sampleCrypto).step past w ∧
      w.shared.activeCount "user" = 2 :=
  exists_reachedBy_of_exec (fun _ w => w.shared.activeCount "user" = 2) _
    [.spawn beginEnrolment, .spawn beginEnrolment, .advance 0 .made, .advance 1 .made,
     .advance 0 .made, .spawn (confirmEnrolment 0), .advance 1 .made, .advance 1 .made,
     .advance 0 .made, .spawn (confirmEnrolment 2), .advance 0 .made, .advance 0 .made]
    startsWithOne_noAuthenticator (by decide +kernel)

end AvantimePlatform.Identity
