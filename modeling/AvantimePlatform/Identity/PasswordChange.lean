import AvantimePlatform.Identity.PasswordCalls

/-!
# A password that has been replaced

A login verifies its password on the hash that it has read, and acts on it later: it stores a
new hash of the password, earns a challenge, creates a session.  A change of the password
revokes sessions and reset tokens only.

* `Retired`: a change or a reset has replaced the password by a different one.
* `OldPasswordCutOff`: the stored hash verifies no retired password, and nothing was done on
  the strength of one since.
* `ChangesAlone`: when a password is set, no login is under way with another one, and no
  challenge that another one has earned is open.
* `old_password_cut_off`: along the runs whose changes are all such, a replaced password is
  cut off.
-/

namespace AvantimePlatform.Identity

open AvantimePlatform AvantimePlatform.Checked AvantimePlatform.Interleaving
  AvantimePlatform.Transition

variable (crypto : PasswordCrypto)

/-! ## The property -/

/-- The stored hash of the user verifies the password. -/
def Stores (db : PasswordTables) (userId password : String) : Prop :=
  ∃ row ∈ db.credentials, row.userId = userId ∧
    (verifyPasswordVersioned crypto password row.passwordHash).valid = true

instance (db : PasswordTables) (userId password : String) :
    Decidable (Stores crypto db userId password) :=
  inferInstanceAs (Decidable (∃ row ∈ db.credentials, _))

/-- The user and the password of a call whose next step sets one, when that step commits. -/
def PasswordCall.sets (db : PasswordTables) : PasswordCall → Option (String × String)
  | .change input .commit =>
    match input.commit crypto db with
    | .ok _ => some (input.userId, input.newPassword)
    | .error _ => none
  | .reset input (.commit item email now) =>
    match input.commit crypto db item email now with
    | .ok _ => some (item.userId, input.password)
    | .error _ => none
  | _ => none

/-- The user and the password that the step sets. -/
def passwordSetIn (w : PasswordWorld) : PasswordEvent → Option (String × String)
  | .advance i answer =>
    if answer = .failed then none else (w.locals[i]?).bind fun call => call.sets crypto w.shared
  | _ => none

/-- The user and the password of a call whose next step creates a session or consumes a
challenge, when that step commits. -/
def PasswordCall.uses (db : PasswordTables) : PasswordCall → Option (String × String)
  | .login input (.createSession identity) => some (identity.userId, input.password)
  | .mfa _ (.consume challenge _ now) =>
    match db.consume challenge.id now with
    | .ok _ => challenge.verifiedPassword.map fun password => (challenge.userId, password)
    | .error _ => none
  | .mfa _ (.createSession challenge _) =>
    challenge.verifiedPassword.map fun password => (challenge.userId, password)
  | _ => none

/-- The user and the password on whose strength the step creates a session or consumes a
challenge. -/
def passwordUsedIn (w : PasswordWorld) : PasswordEvent → Option (String × String)
  | .advance i answer =>
    if answer = .failed then none else (w.locals[i]?).bind fun call => call.uses w.shared
  | _ => none

abbrev PasswordHistory := History PasswordWorld PasswordEvent

/-- The password was that of the user when a change or a reset has replaced it by a different
one, and has not been set again. -/
def Retired (userId : String) : PasswordHistory → String → Prop
  | [], _ => False
  | (w, ev) :: past, old =>
    match passwordSetIn crypto w ev with
    | some (owner, new) =>
      if owner = userId then (Retired userId past old ∨ Stores crypto w.shared userId old) ∧ old ≠ new
      else Retired userId past old
    | none => Retired userId past old

instance decidableRetired (userId : String) :
    (past : PasswordHistory) → (old : String) → Decidable (Retired crypto userId past old)
  | [], _ => inferInstanceAs (Decidable False)
  | (w, ev) :: past, old =>
    have : Decidable (Retired crypto userId past old) := decidableRetired userId past old
    match h : passwordSetIn crypto w ev with
    | none => decidable_of_iff (Retired crypto userId past old) (by rw [Retired, h])
    | some (owner, new) =>
      decidable_of_iff
        (if owner = userId then (Retired crypto userId past old ∨ Stores crypto w.shared userId old) ∧
          old ≠ new else Retired crypto userId past old) (by rw [Retired, h])

/-- No session was created and no challenge consumed on the strength of a retired
password. -/
def NoLateUse (userId : String) : PasswordHistory → Prop
  | [] => True
  | (w, ev) :: past => NoLateUse userId past ∧
    ∀ password, passwordUsedIn w ev = some (userId, password) → ¬Retired crypto userId past password

/-- A replaced password is not stored any more, and was not used since. -/
def OldPasswordCutOff (userId : String) (past : PasswordHistory) (w : PasswordWorld) : Prop :=
  (∀ old, Retired crypto userId past old → ¬Stores crypto w.shared userId old) ∧
    NoLateUse crypto userId past

/-! ## The condition -/

/-- The user and the password of a login that is under way: it has read a hash that verifies
the password, or holds a challenge that the password has earned. -/
def PasswordCall.evidence : PasswordCall → Option (String × String)
  | .login input (.verify credential user _) =>
    if (verifyPasswordVersioned crypto input.password credential.passwordHash).valid = true then
      some (user.id, input.password)
    else none
  | .login input (.rehash user _) | .login input (.loadPolicy user _)
  | .login input (.createChallenge user _) => some (user.id, input.password)
  | .login input (.findUser identity) | .login input (.createSession identity) =>
    some (identity.userId, input.password)
  | .mfa _ (.consume challenge _ _) | .mfa _ (.findUser challenge _)
  | .mfa _ (.createSession challenge _) =>
    challenge.verifiedPassword.map fun password => (challenge.userId, password)
  | _ => none

/-- When the step sets a password of the user, no login of the user is under way with a
different one, and no challenge that a different one has earned is open. -/
def ChangesAlone (userId : String) (w : PasswordWorld) (ev : PasswordEvent) : Prop :=
  ∀ new, passwordSetIn crypto w ev = some (userId, new) →
    (∀ call ∈ w.locals, ∀ password, call.evidence crypto = some (userId, password) →
      password = new) ∧
    ∀ challenge ∈ w.shared.challenges, challenge.userId = userId →
      ∀ password, challenge.verifiedPassword = some password →
        challenge.isConsumable w.shared.clock = true → password = new

variable {crypto} {db db' : PasswordTables} {userId : String}

/-! ## What a step stores -/

theorem stores_congr {password : String} (h : db'.credentials = db.credentials) :
    Stores crypto db' userId password ↔ Stores crypto db userId password := by
  unfold Stores
  rw [h]

/-- After a hash of `password` is written for `owner`, the hash of `owner` verifies nothing
else, and the others are as they were. -/
theorem stores_setHash {owner salt password old : String} {stored : StoredHash}
    (hhash : hashPassword crypto salt password = .ok stored)
    (h : Stores crypto (db.setHash owner stored) userId old) :
    (owner = userId ∧ old = password) ∨ (owner ≠ userId ∧ Stores crypto db userId old) := by
  obtain ⟨row, hrow, howner, hverify⟩ := h
  rcases KeyedList.mem_updateMany hrow with ⟨hmem, hother⟩ | ⟨found, hmem, hmine, rfl⟩
  · refine Or.inr ⟨fun hsame => ?_, row, hmem, howner, hverify⟩
    rw [← howner] at hsame
    exact absurd hsame.symm (of_decide_eq_false hother)
  · have hfound : found.userId = owner := of_decide_eq_true hmine
    exact Or.inl ⟨hfound.symm.trans howner, eq_of_verify_hashPassword hhash hverify⟩

theorem stores_upsertCredential {owner identifier salt password old : String} {stored : StoredHash}
    (hhash : hashPassword crypto salt password = .ok stored)
    (hwrite : db.upsertCredential owner identifier stored = .ok db')
    (h : Stores crypto db' userId old) :
    (owner = userId ∧ old = password) ∨ (owner ≠ userId ∧ Stores crypto db userId old) := by
  unfold PasswordTables.upsertCredential at hwrite
  split at hwrite
  · rw [← Except.ok.inj hwrite] at h
    exact stores_setHash hhash h
  · next hnone =>
    split at hwrite
    · cases hwrite
    · rw [← Except.ok.inj hwrite] at h
      obtain ⟨row, hrow, howner, hverify⟩ := h
      rcases List.mem_append.mp hrow with hmem | hnew
      · refine Or.inr ⟨fun hsame => ?_, row, hmem, howner, hverify⟩
        have hnot := List.find?_eq_none.mp hnone row hmem
        rw [hsame, ← howner] at hnot
        exact hnot (beq_self_eq_true _)
      · rw [List.mem_singleton.mp hnew] at howner hverify
        exact Or.inl ⟨howner, eq_of_verify_hashPassword hhash hverify⟩

/-- What a login stores is the password it has verified. -/
theorem stores_rehash {input : LoginInput} {user : PasswordUser} {old : String}
    (hwrite : input.rehash crypto db user = .ok db') (h : Stores crypto db' userId old) :
    (user.id = userId ∧ old = input.password) ∨ Stores crypto db userId old := by
  obtain ⟨stored, hhash, hrest⟩ := bind_eq_ok.mp hwrite
  obtain ⟨written, hupsert, hclear⟩ := bind_eq_ok.mp hrest
  rw [← Except.ok.inj hclear] at h
  have hwritten : Stores crypto written userId old := h
  rcases stores_upsertCredential hhash hupsert hwritten with hmine | ⟨-, hold⟩
  · exact Or.inl hmine
  · exact Or.inr hold

/-- What a change leaves. -/
theorem stores_changeCommit {input : ChangePasswordInput} {old : String}
    (hwrite : input.commit crypto db = .ok db') (h : Stores crypto db' userId old) :
    (input.userId = userId ∧ old = input.newPassword) ∨
      (input.userId ≠ userId ∧ Stores crypto db userId old) := by
  obtain ⟨stored, hhash, hrest⟩ := bind_eq_ok.mp hwrite
  rw [seq_eq_ok] at hrest
  rw [← Except.ok.inj hrest.2] at h
  have hset : Stores crypto (db.setHash input.userId stored) userId old := h
  exact stores_setHash hhash hset

/-- What a reset leaves. -/
theorem stores_resetCommit {input : ResetPasswordInput} {item : PasswordResetToken}
    {email old : String} {now : Int} (hwrite : input.commit crypto db item email now = .ok db')
    (h : Stores crypto db' userId old) :
    (item.userId = userId ∧ old = input.password) ∨
      (item.userId ≠ userId ∧ Stores crypto db userId old) := by
  obtain ⟨stored, hhash, hrest⟩ := bind_eq_ok.mp hwrite
  rw [seq_eq_ok] at hrest
  obtain ⟨written, hupsert, hclear⟩ := bind_eq_ok.mp hrest.2
  rw [← Except.ok.inj hclear] at h
  have hwritten : Stores crypto written userId old := h
  exact stores_upsertCredential hhash hupsert hwritten

/-- What the step of a call leaves stored was stored before, or is the password that the call
has verified, or the one that it sets. -/
theorem stores_advance {answer : PasswordAnswer} {call : PasswordCall} {old : String}
    (hanswer : answer ≠ .failed)
    (h : Stores crypto (call.advance crypto db answer).1 userId old) :
    Stores crypto db userId old ∨ call.evidence crypto = some (userId, old) ∨
      call.sets crypto db = some (userId, old) := by
  unfold PasswordCall.advance at h
  rw [if_neg hanswer] at h
  cases call with
  | login input stage =>
      cases stage with
      | findCredential => exact Or.inl h
      | verify credential user now => exact Or.inl h
      | rehash user now =>
          dsimp only [LoginStage.run] at h
          cases hwrite : input.rehash crypto db user with
          | error e =>
              rw [hwrite] at h
              exact Or.inl h
          | ok written =>
              rw [hwrite] at h
              have hwritten : Stores crypto written userId old := h
              rcases stores_rehash hwrite hwritten with ⟨rfl, rfl⟩ | hold
              · exact Or.inr (Or.inl rfl)
              · exact Or.inl hold
      | loadPolicy user now =>
          have hsame : ((LoginStage.loadPolicy user now).run crypto db input answer).1 = db := by
            dsimp only [LoginStage.run]
            split
            · rfl
            · rfl
            · rfl
          dsimp only at h
          rw [hsame] at h
          exact Or.inl h
      | createChallenge user now => exact Or.inl h
      | findUser identity => exact Or.inl h
      | createSession identity => exact Or.inl h
  | mfa challengeToken stage =>
      cases stage with
      | load => exact Or.inl h
      | countAttempt challenge => exact Or.inl h
      | consume challenge user now =>
          refine Or.inl ((stores_congr ?_).mp h)
          dsimp only [MfaLoginStage.run]
          cases hwrite : db.consume challenge.id now with
          | error e => rfl
          | ok written =>
              unfold PasswordTables.consume at hwrite
              rw [seq_eq_ok] at hwrite
              rw [← Except.ok.inj hwrite.2]
              rfl
      | findUser challenge identity => exact Or.inl h
      | createSession challenge identity => exact Or.inl h
  | change input stage =>
      cases stage with
      | findCredential =>
          have hsame : ((ChangePasswordStage.findCredential).run crypto db input).1 = db := by
            dsimp only [ChangePasswordStage.run]
            split
            · rfl
            · rfl
          dsimp only at h
          rw [hsame] at h
          exact Or.inl h
      | commit =>
          dsimp only [ChangePasswordStage.run] at h
          cases hwrite : input.commit crypto db with
          | error e =>
              rw [hwrite] at h
              exact Or.inl h
          | ok written =>
              rw [hwrite] at h
              have hwritten : Stores crypto written userId old := h
              rcases stores_changeCommit hwrite hwritten with ⟨rfl, rfl⟩ | ⟨-, hold⟩
              · refine Or.inr (Or.inr ?_)
                simp only [PasswordCall.sets, hwrite]
              · exact Or.inl hold
  | reset input stage =>
      cases stage with
      | findToken => exact Or.inl h
      | commit item email now =>
          dsimp only [ResetPasswordStage.run] at h
          cases hwrite : input.commit crypto db item email now with
          | error e =>
              rw [hwrite] at h
              exact Or.inl h
          | ok written =>
              rw [hwrite] at h
              have hwritten : Stores crypto written userId old := h
              rcases stores_resetCommit hwrite hwritten with ⟨rfl, rfl⟩ | ⟨-, hold⟩
              · refine Or.inr (Or.inr ?_)
                simp only [PasswordCall.sets, hwrite]
              · exact Or.inl hold

/-- After a step that sets a password of the user, the stored hash verifies that one only. -/
theorem eq_of_sets {answer : PasswordAnswer} {call : PasswordCall} {old new : String}
    (hanswer : answer ≠ .failed) (hsets : call.sets crypto db = some (userId, new))
    (h : Stores crypto (call.advance crypto db answer).1 userId old) : old = new := by
  unfold PasswordCall.advance at h
  rw [if_neg hanswer] at h
  cases call with
  | login input stage => cases hsets
  | mfa challengeToken stage => cases hsets
  | change input stage =>
      cases stage with
      | findCredential => cases hsets
      | commit =>
          dsimp only [ChangePasswordStage.run] at h
          dsimp only [PasswordCall.sets] at hsets
          cases hwrite : input.commit crypto db with
          | error e =>
              rw [hwrite] at hsets
              cases hsets
          | ok written =>
              rw [hwrite] at hsets h
              obtain ⟨rfl, rfl⟩ := Prod.mk.inj (Option.some.inj hsets)
              have hwritten : Stores crypto written input.userId old := h
              rcases stores_changeCommit hwrite hwritten with ⟨-, hsame⟩ | ⟨hne, -⟩
              · exact hsame
              · exact absurd rfl hne
  | reset input stage =>
      cases stage with
      | findToken => cases hsets
      | commit item email now =>
          dsimp only [ResetPasswordStage.run] at h
          dsimp only [PasswordCall.sets] at hsets
          cases hwrite : input.commit crypto db item email now with
          | error e =>
              rw [hwrite] at hsets
              cases hsets
          | ok written =>
              rw [hwrite] at hsets h
              obtain ⟨rfl, rfl⟩ := Prod.mk.inj (Option.some.inj hsets)
              have hwritten : Stores crypto written item.userId old := h
              rcases stores_resetCommit hwrite hwritten with ⟨-, hsame⟩ | ⟨hne, -⟩
              · exact hsame
              · exact absurd rfl hne

/-! ## What a call goes on with -/

/-- A challenge of the user that the password has earned and that is open. -/
def HasOpenChallenge (db : PasswordTables) (userId password : String) : Prop :=
  ∃ challenge ∈ db.challenges, challenge.userId = userId ∧
    challenge.verifiedPassword = some password ∧ challenge.isConsumable db.clock = true

/-- A call that begins has verified nothing. -/
theorem evidence_of_isInitial {call : PasswordCall} (h : call.isInitial = true) :
    call.evidence crypto = none := by
  cases call with
  | login input stage =>
      cases stage with
      | findCredential => rfl
      | verify credential user now => cases h
      | rehash user now => cases h
      | loadPolicy user now => cases h
      | createChallenge user now => cases h
      | findUser identity => cases h
      | createSession identity => cases h
  | mfa challengeToken stage =>
      cases stage with
      | load => rfl
      | countAttempt challenge => cases h
      | consume challenge user now => cases h
      | findUser challenge identity => cases h
      | createSession challenge identity => cases h
  | change input stage => rfl
  | reset input stage => rfl

theorem settlePassword_snd {next : Option PasswordCall} {result : Except String PasswordTables}
    {call : PasswordCall} (h : (settlePassword db next result).2 = some call) :
    next = some call := by
  cases result with
  | error e => cases h
  | ok db' => exact h

/-- The evidence of a login after its step: it had it before, or has read a hash that
verifies the password. -/
theorem evidence_login {input : LoginInput} {stage : LoginStage} {answer : PasswordAnswer}
    {next : PasswordCall} {password : String}
    (hnext : (stage.run crypto db input answer).2 = some next)
    (h : next.evidence crypto = some (userId, password)) :
    PasswordCall.evidence crypto (.login input stage) = some (userId, password) ∨
      Stores crypto db userId password := by
  cases stage with
  | findCredential =>
      obtain ⟨credential, hcredential, hrest⟩ := Option.bind_eq_some_iff.mp hnext
      obtain ⟨user, huser, rfl⟩ := Option.map_eq_some_iff.mp hrest
      dsimp only [PasswordCall.evidence] at h
      split at h
      · next hverify =>
        obtain ⟨howner, hpassword⟩ := Prod.mk.inj (Option.some.inj h)
        have hid : user.id = credential.userId := by
          have hfound := List.find?_some huser
          exact eq_of_beq hfound
        refine Or.inr ⟨credential, List.mem_of_find?_eq_some hcredential, ?_, ?_⟩
        · exact hid.symm.trans howner
        · rw [← hpassword]
          exact hverify
      · cases h
  | verify credential user now =>
      obtain ⟨stage, hstage, rfl⟩ := Option.map_eq_some_iff.mp hnext
      dsimp only [LoginInput.verified] at hstage
      split at hstage
      · next hverify =>
        have hbefore : PasswordCall.evidence crypto (.login input (.verify credential user now)) =
            some (user.id, input.password) := by
          dsimp only [PasswordCall.evidence]
          rw [if_pos hverify.1]
        rw [hbefore]
        split at hstage
        · rw [← Option.some.inj hstage] at h
          exact Or.inl h
        · rw [← Option.some.inj hstage] at h
          exact Or.inl h
      · cases hstage
  | rehash user now =>
      rw [← Option.some.inj (settlePassword_snd hnext)] at h
      exact Or.inl h
  | loadPolicy user now =>
      dsimp only [LoginStage.run] at hnext
      split at hnext
      · rw [← Option.some.inj hnext] at h
        exact Or.inl h
      · obtain ⟨identity, hidentity, rfl⟩ := Option.map_eq_some_iff.mp hnext
        have hid : identity.userId = user.id := (toIdentity_eq_some hidentity).2
        dsimp only [PasswordCall.evidence] at h
        rw [hid] at h
        exact Or.inl h
      · cases hnext
  | createChallenge user now => cases hnext
  | findUser identity =>
      dsimp only [LoginStage.run] at hnext
      split at hnext
      · rw [← Option.some.inj hnext] at h
        exact Or.inl h
      · cases hnext
  | createSession identity => cases hnext

/-- The evidence of a login with a second factor after its step: it had it before, or has
found its challenge open. -/
theorem evidence_mfa {challengeToken : String} {stage : MfaLoginStage} {answer : PasswordAnswer}
    {next : PasswordCall} {password : String}
    (hnext : (stage.run db challengeToken answer).2 = some next)
    (h : next.evidence crypto = some (userId, password)) :
    PasswordCall.evidence crypto (.mfa challengeToken stage) = some (userId, password) ∨
      HasOpenChallenge db userId password := by
  cases stage with
  | load =>
      obtain ⟨challenge, hchallenge, hrest⟩ := Option.bind_eq_some_iff.mp hnext
      obtain ⟨user, -, hstage⟩ := Option.bind_eq_some_iff.mp hrest
      split at hstage
      · next hopen =>
        have hevidence : challenge.verifiedPassword.map (fun p => (challenge.userId, p)) =
            some (userId, password) := by
          split at hstage
          · rw [← Option.some.inj hstage] at h
            cases h
          · rw [← Option.some.inj hstage] at h
            exact h
        obtain ⟨found, hfound, hpair⟩ := Option.map_eq_some_iff.mp hevidence
        obtain ⟨howner, rfl⟩ := Prod.mk.inj hpair
        exact Or.inr ⟨challenge, List.mem_of_find?_eq_some hchallenge, howner, hfound, hopen.1⟩
      · cases hstage
  | countAttempt challenge => cases hnext
  | consume challenge user now =>
      obtain ⟨identity, -, rfl⟩ := Option.map_eq_some_iff.mp (settlePassword_snd hnext)
      exact Or.inl h
  | findUser challenge identity =>
      dsimp only [MfaLoginStage.run] at hnext
      split at hnext
      · rw [← Option.some.inj hnext] at h
        exact Or.inl h
      · cases hnext
  | createSession challenge identity => cases hnext

/-- The evidence that a call has after its step: it had it before, or has found the password
stored, or an open challenge that it has earned. -/
theorem evidence_next {answer : PasswordAnswer} {call next : PasswordCall} {password : String}
    (hnext : (call.advance crypto db answer).2 = some next)
    (h : next.evidence crypto = some (userId, password)) :
    call.evidence crypto = some (userId, password) ∨ Stores crypto db userId password ∨
      HasOpenChallenge db userId password := by
  unfold PasswordCall.advance at hnext
  split at hnext
  · cases hnext
  · cases call with
    | login input stage =>
        rcases evidence_login hnext h with hbefore | hstores
        · exact Or.inl hbefore
        · exact Or.inr (Or.inl hstores)
    | mfa challengeToken stage =>
        rcases evidence_mfa hnext h with hbefore | hopen
        · exact Or.inl hbefore
        · exact Or.inr (Or.inr hopen)
    | change input stage =>
        cases stage with
        | findCredential =>
            dsimp only [ChangePasswordStage.run] at hnext
            split at hnext
            · cases hnext
            · rw [← Option.some.inj hnext] at h
              cases h
        | commit => cases settlePassword_snd hnext
    | reset input stage =>
        cases stage with
        | findToken =>
            obtain ⟨found, -, rfl⟩ := Option.map_eq_some_iff.mp hnext
            cases h
        | commit item email now => cases settlePassword_snd hnext

/-! ## Open challenges -/

/-- An update that opens no challenge leaves open what was open. -/
theorem hasOpenChallenge_updateMany {p : PasswordChallenge → Bool}
    {f : PasswordChallenge → PasswordChallenge} {password : String}
    (h : HasOpenChallenge db' userId password) (howner : ∀ row, (f row).userId = row.userId)
    (hpassword : ∀ row, (f row).verifiedPassword = row.verifiedPassword)
    (hopen : ∀ row now, (f row).isConsumable now = true → row.isConsumable now = true)
    (hchallenges : db'.challenges = KeyedList.updateMany p f db.challenges)
    (hclock : db'.clock = db.clock) : HasOpenChallenge db userId password := by
  obtain ⟨challenge, hmem, huser, hverified, hconsumable⟩ := h
  rw [hchallenges] at hmem
  rw [hclock] at hconsumable
  rcases KeyedList.mem_updateMany hmem with ⟨hold, -⟩ | ⟨row, hold, -, rfl⟩
  · exact ⟨challenge, hold, huser, hverified, hconsumable⟩
  · exact ⟨row, hold, (howner row).symm.trans huser, (hpassword row).symm.trans hverified,
      hopen row _ hconsumable⟩

/-- A challenge with one more attempt is open only if it was. -/
theorem isConsumable_of_withAttempt {row : PasswordChallenge} {now : Int}
    (h : row.withAttempt.isConsumable now = true) : row.isConsumable now = true := by
  have hafter : (row.consumedAt.isNone && decide (row.attempts + 1 < loginChallengeMaxAttempts) &&
      decide (now < row.expiresAt)) = true := h
  rw [Bool.and_eq_true, Bool.and_eq_true, decide_eq_true_eq, decide_eq_true_eq] at hafter
  show (row.consumedAt.isNone && decide (row.attempts < loginChallengeMaxAttempts) &&
      decide (now < row.expiresAt)) = true
  rw [Bool.and_eq_true, Bool.and_eq_true, decide_eq_true_eq, decide_eq_true_eq]
  exact ⟨⟨hafter.1.1, by omega⟩, hafter.2⟩

theorem hasOpenChallenge_congr {password : String} (hchallenges : db'.challenges = db.challenges)
    (hclock : db'.clock = db.clock) (h : HasOpenChallenge db' userId password) :
    HasOpenChallenge db userId password := by
  unfold HasOpenChallenge at h ⊢
  rwa [hchallenges, hclock] at h

theorem rehash_challenges (input : LoginInput) (user : PasswordUser)
    (h : input.rehash crypto db user = .ok db') :
    db'.challenges = db.challenges ∧ db'.clock = db.clock := by
  obtain ⟨stored, -, hrest⟩ := bind_eq_ok.mp h
  obtain ⟨written, hupsert, hclear⟩ := bind_eq_ok.mp hrest
  rw [← Except.ok.inj hclear]
  unfold PasswordTables.upsertCredential at hupsert
  split at hupsert
  · rw [← Except.ok.inj hupsert]
    exact ⟨rfl, rfl⟩
  · split at hupsert
    · cases hupsert
    · rw [← Except.ok.inj hupsert]
      exact ⟨rfl, rfl⟩

theorem changeCommit_challenges (input : ChangePasswordInput)
    (h : input.commit crypto db = .ok db') :
    db'.challenges = db.challenges ∧ db'.clock = db.clock := by
  obtain ⟨stored, -, hrest⟩ := bind_eq_ok.mp h
  rw [seq_eq_ok] at hrest
  rw [← Except.ok.inj hrest.2]
  exact ⟨rfl, rfl⟩

theorem resetCommit_challenges (input : ResetPasswordInput) (item : PasswordResetToken)
    (email : String) (now : Int) (h : input.commit crypto db item email now = .ok db') :
    db'.challenges = db.challenges ∧ db'.clock = db.clock := by
  obtain ⟨stored, -, hrest⟩ := bind_eq_ok.mp h
  rw [seq_eq_ok] at hrest
  obtain ⟨written, hupsert, hclear⟩ := bind_eq_ok.mp hrest.2
  rw [← Except.ok.inj hclear]
  unfold PasswordTables.upsertCredential at hupsert
  split at hupsert
  · rw [← Except.ok.inj hupsert]
    exact ⟨rfl, rfl⟩
  · split at hupsert
    · cases hupsert
    · rw [← Except.ok.inj hupsert]
      exact ⟨rfl, rfl⟩

theorem settlePassword_challenges (next : Option PasswordCall)
    {result : Except String PasswordTables}
    (h : ∀ db', result = .ok db' → db'.challenges = db.challenges ∧ db'.clock = db.clock) :
    (settlePassword db next result).1.challenges = db.challenges ∧
      (settlePassword db next result).1.clock = db.clock := by
  cases result with
  | error e => exact ⟨rfl, rfl⟩
  | ok db' => exact h db' rfl

/-- A challenge that is open after the step of a call was open before, or is earned by the
password that the call has verified. -/
theorem hasOpenChallenge_advance {answer : PasswordAnswer} {call : PasswordCall}
    {password : String} (hanswer : answer ≠ .failed)
    (h : HasOpenChallenge (call.advance crypto db answer).1 userId password) :
    HasOpenChallenge db userId password ∨ call.evidence crypto = some (userId, password) := by
  unfold PasswordCall.advance at h
  rw [if_neg hanswer] at h
  cases call with
  | login input stage =>
      cases stage with
      | findCredential => exact Or.inl h
      | verify credential user now => exact Or.inl h
      | rehash user now =>
          have hsame := settlePassword_challenges (some (.login input (.loadPolicy user now)))
            fun written (hwrite : input.rehash crypto db user = .ok written) =>
              rehash_challenges input user hwrite
          obtain ⟨hchallenges, hclock⟩ := hsame
          exact Or.inl (hasOpenChallenge_congr hchallenges hclock h)
      | loadPolicy user now =>
          have hsame : ((LoginStage.loadPolicy user now).run crypto db input answer).1 = db := by
            dsimp only [LoginStage.run]
            split
            · rfl
            · rfl
            · rfl
          dsimp only at h
          rw [hsame] at h
          exact Or.inl h
      | createChallenge user now =>
          obtain ⟨challenge, hmem, howner, hverified, hopen⟩ := h
          rcases List.mem_append.mp hmem with hold | hnew
          · exact Or.inl ⟨challenge, hold, howner, hverified, hopen⟩
          · rw [List.mem_singleton.mp hnew] at howner hverified
            have huser : user.id = userId := howner
            have hpassword : input.password = password := Option.some.inj hverified
            refine Or.inr ?_
            show some (user.id, input.password) = some (userId, password)
            rw [huser, hpassword]
      | findUser identity => exact Or.inl h
      | createSession identity => exact Or.inl h
  | mfa challengeToken stage =>
      cases stage with
      | load => exact Or.inl h
      | countAttempt challenge =>
          have hafter : HasOpenChallenge (db.countAttempt challenge.id) userId password := h
          exact Or.inl (hasOpenChallenge_updateMany (f := PasswordChallenge.withAttempt) hafter
            (fun _ => rfl) (fun _ => rfl) (fun _ _ => isConsumable_of_withAttempt) rfl rfl)
      | consume challenge user now =>
          dsimp only [MfaLoginStage.run] at h
          cases hwrite : db.consume challenge.id now with
          | error e =>
              rw [hwrite] at h
              exact Or.inl h
          | ok written =>
              rw [hwrite] at h
              unfold PasswordTables.consume at hwrite
              rw [seq_eq_ok] at hwrite
              have hafter : HasOpenChallenge written userId password := h
              rw [← Except.ok.inj hwrite.2] at hafter
              refine Or.inl (hasOpenChallenge_updateMany (f := PasswordChallenge.close now) hafter
                (fun _ => rfl) (fun _ => rfl) ?_ rfl rfl)
              intro row now' hopen
              cases hopen
      | findUser challenge identity => exact Or.inl h
      | createSession challenge identity => exact Or.inl h
  | change input stage =>
      cases stage with
      | findCredential =>
          have hsame : ((ChangePasswordStage.findCredential).run crypto db input).1 = db := by
            dsimp only [ChangePasswordStage.run]
            split
            · rfl
            · rfl
          dsimp only at h
          rw [hsame] at h
          exact Or.inl h
      | commit =>
          have hsame := settlePassword_challenges none
            fun written (hwrite : input.commit crypto db = .ok written) =>
              changeCommit_challenges input hwrite
          obtain ⟨hchallenges, hclock⟩ := hsame
          exact Or.inl (hasOpenChallenge_congr hchallenges hclock h)
  | reset input stage =>
      cases stage with
      | findToken => exact Or.inl h
      | commit item email now =>
          have hsame := settlePassword_challenges none
            fun written (hwrite : input.commit crypto db item email now = .ok written) =>
              resetCommit_challenges input item email now hwrite
          obtain ⟨hchallenges, hclock⟩ := hsame
          exact Or.inl (hasOpenChallenge_congr hchallenges hclock h)

/-- Nothing else opens a challenge that a password has earned. -/
theorem hasOpenChallenge_change {password : String} {e : PasswordEnv}
    (h : HasOpenChallenge (db.change e) userId password) : HasOpenChallenge db userId password := by
  obtain ⟨challenge, hmem, howner, hverified, hopen⟩ := h
  cases e with
  | tick time =>
      refine ⟨challenge, hmem, howner, hverified, ?_⟩
      have hafter : (challenge.isCountable && decide (max db.clock time < challenge.expiresAt)) =
          true := hopen
      show (challenge.isCountable && decide (db.clock < challenge.expiresAt)) = true
      rw [Bool.and_eq_true, decide_eq_true_eq] at hafter ⊢
      exact ⟨hafter.1, by omega⟩
  | users rows => exact ⟨challenge, hmem, howner, hverified, hopen⟩
  | providers live => exact ⟨challenge, hmem, howner, hverified, hopen⟩
  | externalLogin tokenHash owner provider =>
      rcases List.mem_append.mp hmem with hold | hnew
      · exact ⟨challenge, hold, howner, hverified, hopen⟩
      · rw [List.mem_singleton.mp hnew] at hverified
        cases hverified
  | resetToken tokenHash owner expiresAt => exact ⟨challenge, hmem, howner, hverified, hopen⟩

/-- What a call uses it has verified. -/
theorem evidence_of_uses {call : PasswordCall} {used : String × String}
    (h : call.uses db = some used) : call.evidence crypto = some used := by
  cases call with
  | login input stage =>
      cases stage with
      | createSession identity => exact h
      | findCredential => cases h
      | verify credential user now => cases h
      | rehash user now => cases h
      | loadPolicy user now => cases h
      | createChallenge user now => cases h
      | findUser identity => cases h
  | mfa challengeToken stage =>
      cases stage with
      | consume challenge user now =>
          dsimp only [PasswordCall.uses] at h
          split at h
          · exact h
          · cases h
      | createSession challenge identity => exact h
      | load => cases h
      | countAttempt challenge => cases h
      | findUser challenge identity => cases h
  | change input stage => cases h
  | reset input stage => cases h

/-! ## Runs -/

/-- What holds wherever a history leads whose changes are alone. -/
structure CutOffSoFar (crypto : PasswordCrypto) (userId : String) (past : PasswordHistory)
    (w : PasswordWorld) : Prop where
  stored : ∀ old, Retired crypto userId past old → ¬Stores crypto w.shared userId old
  calls : ∀ call ∈ w.locals, ∀ password, call.evidence crypto = some (userId, password) →
    ¬Retired crypto userId past password
  challenges : ∀ password, HasOpenChallenge w.shared userId password →
    ¬Retired crypto userId past password
  uses : NoLateUse crypto userId past

/-- A step that sets no password of the user retires none. -/
theorem retired_of_not_set {past : PasswordHistory} {w : PasswordWorld} {ev : PasswordEvent}
    {old : String} (hset : ∀ new, passwordSetIn crypto w ev ≠ some (userId, new))
    (h : Retired crypto userId ((w, ev) :: past) old) : Retired crypto userId past old := by
  rw [Retired] at h
  split at h
  · next owner new hfound =>
    split at h
    · next howner =>
      rw [howner] at hfound
      exact absurd hfound (hset new)
    · exact h
  · exact h

/-- A step that sets a password does not retire it. -/
theorem not_retired_of_set {past : PasswordHistory} {w : PasswordWorld} {ev : PasswordEvent}
    {new : String} (hset : passwordSetIn crypto w ev = some (userId, new)) :
    ¬Retired crypto userId ((w, ev) :: past) new := by
  intro h
  rw [Retired, hset] at h
  dsimp only at h
  rw [if_pos rfl] at h
  exact h.2 rfl

/-- What a step of a call leaves. -/
theorem passwordShared_of_advance {w w' : PasswordWorld} {i : Nat} {answer : PasswordAnswer}
    {call : PasswordCall} (hstep : (passwords crypto).step w (.advance i answer) w')
    (hcall : w.locals[i]? = some call) :
    w'.shared = (call.advance crypto w.shared answer).1 ∧
      ∀ m ∈ w'.locals, (call.advance crypto w.shared answer).2 = some m ∨ m ∈ w.locals := by
  obtain ⟨found, hfound, hrest⟩ := Option.bind_eq_some_iff.mp hstep
  rw [hcall] at hfound
  obtain ⟨next, hnext, rfl⟩ := Option.map_eq_some_iff.mp hrest
  rw [← Option.some.inj hfound] at hnext
  rw [← Option.some.inj hnext]
  exact ⟨rfl, fun m hm => mem_replaceLocal hm⟩

/-- A call that sets a password ends. -/
theorem next_of_sets {answer : PasswordAnswer} {call : PasswordCall} {set : String × String}
    (h : call.sets crypto db = some set) : (call.advance crypto db answer).2 = none := by
  unfold PasswordCall.advance
  split
  · rfl
  · cases call with
    | login input stage => cases h
    | mfa challengeToken stage => cases h
    | change input stage =>
        cases stage with
        | findCredential => cases h
        | commit =>
            dsimp only [ChangePasswordStage.run]
            cases input.commit crypto db with
            | error e => rfl
            | ok db' => rfl
    | reset input stage =>
        cases stage with
        | findToken => cases h
        | commit item email now =>
            dsimp only [ResetPasswordStage.run]
            cases input.commit crypto db item email now with
            | error e => rfl
            | ok db' => rfl

/-- What is used in a step is not retired, as its call has verified it. -/
theorem noLateUse_step {past : PasswordHistory} {w : PasswordWorld} {ev : PasswordEvent}
    (h : CutOffSoFar crypto userId past w) : NoLateUse crypto userId ((w, ev) :: past) := by
  refine ⟨h.uses, fun password hused => ?_⟩
  cases ev with
  | env e => cases hused
  | spawn call => cases hused
  | advance i answer =>
      dsimp only [passwordUsedIn] at hused
      split at hused
      · cases hused
      · obtain ⟨call, hcall, huses⟩ := Option.bind_eq_some_iff.mp hused
        exact h.calls call (List.mem_of_getElem? hcall) password (evidence_of_uses huses)

/-- A step that sets no password of the user. -/
theorem cutOffSoFar_other {past : PasswordHistory} {w w' : PasswordWorld} {ev : PasswordEvent}
    (h : CutOffSoFar crypto userId past w) (hstep : (passwords crypto).step w ev w')
    (hset : ∀ new, passwordSetIn crypto w ev ≠ some (userId, new)) :
    CutOffSoFar crypto userId ((w, ev) :: past) w' := by
  have huses : NoLateUse crypto userId ((w, ev) :: past) := noLateUse_step h
  rcases Program.step_cases hstep with ⟨e, rfl, rfl⟩ | ⟨call, rfl, hinitial, rfl⟩ |
    ⟨i, answer, call, sh, next, rfl, hcall, -, -⟩
  · refine ⟨fun old hold hstores => ?_, fun call hmem password hevidence hold => ?_,
      fun password hopen hold => ?_, huses⟩
    · have hsame : (w.shared.change e).credentials = w.shared.credentials := by
        cases e with
        | tick time => rfl
        | users rows => rfl
        | providers live => rfl
        | externalLogin tokenHash owner provider => rfl
        | resetToken tokenHash owner expiresAt => rfl
      exact h.stored old (retired_of_not_set hset hold) ((stores_congr hsame).mp hstores)
    · exact h.calls call hmem password hevidence (retired_of_not_set hset hold)
    · exact h.challenges password (hasOpenChallenge_change hopen) (retired_of_not_set hset hold)
  · refine ⟨fun old hold => h.stored old (retired_of_not_set hset hold),
      fun found hmem password hevidence hold => ?_,
      fun password hopen hold => h.challenges password hopen (retired_of_not_set hset hold), huses⟩
    rcases List.mem_append.mp hmem with hbefore | hnew
    · exact h.calls found hbefore password hevidence (retired_of_not_set hset hold)
    · rw [List.mem_singleton.mp hnew, evidence_of_isInitial hinitial] at hevidence
      cases hevidence
  · obtain ⟨hshared, hlocals⟩ := passwordShared_of_advance hstep hcall
    have hmine : ∀ password, call.evidence crypto = some (userId, password) →
        ¬Retired crypto userId past password := h.calls call (List.mem_of_getElem? hcall)
    by_cases hanswer : answer = .failed
    · have hsame : call.advance crypto w.shared answer = (w.shared, none) := by
        rw [hanswer]
        rfl
      rw [hsame] at hshared hlocals
      refine ⟨fun old hold => ?_, fun found hmem password hevidence hold => ?_,
        fun password hopen hold => ?_, huses⟩
      · rw [hshared]
        exact h.stored old (retired_of_not_set hset hold)
      · rcases hlocals found hmem with hnext | hbefore
        · cases hnext
        · exact h.calls found hbefore password hevidence (retired_of_not_set hset hold)
      · rw [hshared] at hopen
        exact h.challenges password hopen (retired_of_not_set hset hold)
    · refine ⟨fun old hold hstores => ?_, fun found hmem password hevidence hold => ?_,
        fun password hopen hold => ?_, huses⟩
      · have hretired := retired_of_not_set hset hold
        rw [hshared] at hstores
        rcases stores_advance hanswer hstores with hbefore | hevidence | hsets
        · exact h.stored old hretired hbefore
        · exact hmine old hevidence hretired
        · refine hset old ?_
          dsimp only [passwordSetIn]
          rw [if_neg hanswer, hcall]
          exact hsets
      · have hretired := retired_of_not_set hset hold
        rcases hlocals found hmem with hnext | hbefore
        · rcases evidence_next hnext hevidence with hbefore | hstores | hopen
          · exact hmine password hbefore hretired
          · exact h.stored password hretired hstores
          · exact h.challenges password hopen hretired
        · exact h.calls found hbefore password hevidence hretired
      · have hretired := retired_of_not_set hset hold
        rw [hshared] at hopen
        rcases hasOpenChallenge_advance hanswer hopen with hbefore | hevidence
        · exact h.challenges password hbefore hretired
        · exact hmine password hevidence hretired

/-- A step that sets a password of the user, and is alone. -/
theorem cutOffSoFar_set {past : PasswordHistory} {w w' : PasswordWorld} {ev : PasswordEvent}
    {new : String} (h : CutOffSoFar crypto userId past w) (hstep : (passwords crypto).step w ev w')
    (hset : passwordSetIn crypto w ev = some (userId, new)) (halone : ChangesAlone crypto userId w ev) :
    CutOffSoFar crypto userId ((w, ev) :: past) w' := by
  have huses : NoLateUse crypto userId ((w, ev) :: past) := noLateUse_step h
  have hnew : ¬Retired crypto userId ((w, ev) :: past) new := not_retired_of_set hset
  obtain ⟨hcalls, hchallenges⟩ := halone new hset
  cases ev with
  | env e => cases hset
  | spawn call => cases hset
  | advance i answer =>
      have hset' := hset
      dsimp only [passwordSetIn] at hset'
      split at hset'
      · cases hset'
      · next hanswer =>
        obtain ⟨call, hcall, hsets⟩ := Option.bind_eq_some_iff.mp hset'
        obtain ⟨hshared, hlocals⟩ := passwordShared_of_advance hstep hcall
        refine ⟨fun old hold hstores => ?_, fun found hmem password hevidence hold => ?_,
          fun password hopen hold => ?_, huses⟩
        · rw [hshared] at hstores
          rw [eq_of_sets hanswer hsets hstores] at hold
          exact hnew hold
        · rcases hlocals found hmem with hnext | hbefore
          · rw [next_of_sets hsets] at hnext
            cases hnext
          · rw [hcalls found hbefore password hevidence] at hold
            exact hnew hold
        · rw [hshared] at hopen
          rcases hasOpenChallenge_advance hanswer hopen with hbefore | hevidence
          · obtain ⟨challenge, hmem, howner, hverified, hconsumable⟩ := hbefore
            rw [hchallenges challenge hmem howner password hverified hconsumable] at hold
            exact hnew hold
          · rw [hcalls call (List.mem_of_getElem? hcall) password hevidence] at hold
            exact hnew hold

/-- No call is in progress. -/
def PasswordStart (w : PasswordWorld) : Prop := w.Quiescent

/-- Along the runs in which every change and reset of the user is alone, a replaced password
is cut off. -/
theorem old_password_cut_off {past : PasswordHistory} {w : PasswordWorld}
    (h : ReachedBy PasswordStart (fun _ => ChangesAlone crypto userId) (passwords crypto).step
      past w) : OldPasswordCutOff crypto userId past w := by
  have hgood : CutOffSoFar crypto userId past w := by
    refine h.invariant (CutOffSoFar crypto userId) ?_ ?_
    · intro w hstart
      refine ⟨fun old hold => hold.elim, fun call hmem => ?_, fun password _ hold => hold.elim,
        trivial⟩
      have hlocals : w.locals = [] := hstart
      rw [hlocals] at hmem
      cases hmem
    · intro past w ev w' hbefore halone hstep
      by_cases hset : ∃ new, passwordSetIn crypto w ev = some (userId, new)
      · obtain ⟨new, hset⟩ := hset
        exact cutOffSoFar_set hbefore hstep hset halone
      · exact cutOffSoFar_other hbefore hstep fun new hnew => hset ⟨new, hnew⟩
  exact ⟨hgood.stored, hgood.uses⟩

/-! ## A login that is overtaken by a reset -/

/-- The digests, on the passwords and salts below. -/
def samplePasswordCrypto : PasswordCrypto where
  scryptDigest password salt cost :=
    if password = "old password 1" ∧ salt = "AQEBAQEBAQEBAQEBAQEBAQ" ∧ cost = scryptCost then
      "03Mv1uolQBIWn3_92IWCSGrxIqFPtxEwmAVqpm5udT8"
    else if password = "new password 2" ∧ salt = "AgICAgICAgICAgICAgICAg" ∧ cost = scryptCost then
      "u_j-Xv8-vizqegAvL92RAz2Quyik3yt4wTglxrfEAy8"
    else "unknown:" ++ password
  pbkdf2Digest password salt iterations :=
    if password = "old password 1" ∧ salt = "salt" ∧ iterations = 210000 then
      "893524fd907c3a2be196c896d264dd599dfcf533872927d12e28e378dfec7cd3"
    else "unknown:" ++ password
  normalizeNfkc value := value
  scryptDigest_injective := by
    intro salt a b h
    have hunknown : ∀ digest password : String, digest.toList.head? ≠ some 'u' ∨
        digest.toList[1]? ≠ some 'n' → digest ≠ "unknown:" ++ password := by
      intro digest password hdigest heq
      rw [heq, String.toList_append] at hdigest
      simp at hdigest
    have happend : ∀ p q : String, "unknown:" ++ p = "unknown:" ++ q → p = q := by
      intro p q heq
      have hlist := congrArg String.toList heq
      rw [String.toList_append, String.toList_append] at hlist
      exact String.toList_inj.mp (List.append_cancel_left hlist)
    split at h
    · next ha =>
      split at h
      · next hb => exact ha.1.trans hb.1.symm
      · split at h
        · exact absurd h (by decide)
        · exact absurd h (hunknown _ _ (by decide))
    · split at h
      · next ha =>
        split at h
        · exact absurd h (by decide)
        · split at h
          · next hb => exact ha.1.trans hb.1.symm
          · exact absurd h (hunknown _ _ (by decide))
      · split at h
        · exact absurd h.symm (hunknown _ _ (by decide))
        · split at h
          · exact absurd h.symm (hunknown _ _ (by decide))
          · exact happend a b h

/-- A user with an old hash, and a reset token. -/
def oldHash : PasswordWorld where
  shared :=
    { serial := 1
      users := [{ id := "user", email := "user@company.test", role := .admin }]
      credentials :=
        [{ userId := "user", identifierNormalized := "user@company.test"
           passwordHash := .pbkdf2 (some 210000) "salt"
             "893524fd907c3a2be196c896d264dd599dfcf533872927d12e28e378dfec7cd3" }]
      resetTokens := [{ id := 0, tokenHash := "reset", userId := "user", expiresAt := 1800000 }] }
  locals := []

def resetCall : PasswordCall :=
  .reset { tokenHash := "reset", password := "new password 2", salt := "AgICAgICAgICAgICAgICAg" }
    .findToken

def oldLogin : PasswordCall :=
  .login { emailNormalized := "user@company.test", password := "old password 1"
           salt := "AQEBAQEBAQEBAQEBAQEBAQ", challengeTokenHash := "challenge" } .findCredential

/-- The password is reset, and nobody logs in meanwhile. -/
def resetAlone : List PasswordEvent := [.spawn resetCall, .advance 0 .made, .advance 0 .made]

/-- Nobody logs in and no challenge is open. -/
theorem changesAlone_of_idle {w : PasswordWorld} {ev : PasswordEvent}
    (hcalls : ∀ call ∈ w.locals, call.evidence crypto = none)
    (hchallenges : w.shared.challenges = []) : ChangesAlone crypto userId w ev := by
  intro new _
  refine ⟨fun call hcall password hevidence => ?_, fun challenge hmem => ?_⟩
  · rw [hcalls call hcall] at hevidence
    cases hevidence
  · rw [hchallenges] at hmem
    cases hmem

theorem old_password_cut_off_resetAlone :
    ∃ (past : PasswordHistory) (w : PasswordWorld),
      Retired samplePasswordCrypto "user" past "old password 1" ∧
        OldPasswordCutOff samplePasswordCrypto "user" past w := by
  have hmeets : HistoryMeets (passwords samplePasswordCrypto).next
      (fun _ => ChangesAlone samplePasswordCrypto "user") [] oldHash resetAlone :=
    ⟨changesAlone_of_idle (by decide) rfl, changesAlone_of_idle (by decide) rfl,
      changesAlone_of_idle (by decide) rfl, trivial⟩
  have hstart : PasswordStart oldHash := rfl
  have hreached := reachedBy_of_execHistory (.start hstart) hmeets rfl
  exact ⟨_, _, by decide, old_password_cut_off hreached⟩

/-- The login reads the old hash and verifies it, the reset commits, and the login stores a
new hash of the old password and goes on to its session. -/
def overtakenLogin : List PasswordEvent :=
  [.spawn oldLogin, .advance 0 .made, .advance 0 .made, .spawn resetCall, .advance 1 .made,
   .advance 1 .made, .advance 0 .made, .advance 0 (.policy true false), .advance 0 .made,
   .advance 0 .made]

theorem old_password_survives_reset :
    ∃ (past : PasswordHistory) (w : PasswordWorld),
      ReachedBy PasswordStart (fun _ _ _ => True) (passwords samplePasswordCrypto).step past w ∧
        ¬OldPasswordCutOff samplePasswordCrypto "user" past w := by
  have hstart : PasswordStart oldHash := rfl
  obtain ⟨past, w, hreached, hretired, hstores⟩ :=
    exists_reachedBy_of_exec
      (fun past w => Retired samplePasswordCrypto "user" past "old password 1" ∧
        Stores samplePasswordCrypto w.shared "user" "old password 1")
      (passwords samplePasswordCrypto).next overtakenLogin hstart
      (by decide)
  exact ⟨past, w, hreached, fun hcut => hcut.1 "old password 1" hretired hstores⟩

end AvantimePlatform.Identity
