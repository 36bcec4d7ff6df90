import AvantimePlatform.Identity.SingleUse

/-!
# The guess limit of a login challenge

A login challenge is meant to be tried `loginChallengeMaxAttempts` times.  The attempts
are read with the challenge, before the submitted code is compared, and counted after it;
a code that is right but was used by another login is not counted at all.

* `comparisonIn` is the challenge, as the call has read it, for which a step compares a
  code: with the secret when the challenge is loaded, with the recovery codes when they
  are looked up.
* `guess_limit`: when every comparison is made by a call that has read all the earlier
  ones as attempts, there are at most five.
-/

namespace AvantimePlatform.Identity

open AvantimePlatform AvantimePlatform.Interleaving AvantimePlatform.Transition

variable {crypto : MfaCrypto}

/-! ## The comparisons -/

/-- The code is compared with the secret of the authenticator. -/
def comparesSecret (crypto : MfaCrypto) (db : MfaTables) (user : AuthUser)
    (input : AuthenticateInput) : Bool :=
  match comparedSecret (db.activeMethod? user.id) input.code with
  | none => false
  | some (method, encrypted) =>
    (verifyStored crypto encrypted input.code input.now method.lastUsedCounter).isOk

/-- The challenge for which the step compares a submitted code. -/
def comparisonIn (crypto : MfaCrypto) (w : MfaWorld) : MfaEvent → Option LoginChallenge
  | .advance i .made =>
    match w.locals[i]? with
    | some (.authenticate input .load) =>
      (w.shared.challengeOf? input.challengeToken).filter fun challenge =>
        (w.shared.user? challenge.userId).any fun user =>
          w.shared.canAuthenticate challenge user input.now &&
            comparesSecret crypto w.shared user input
    | some (.authenticate _ (.findRecovery challenge _)) => some challenge
    | _ => none
  | _ => none

/-- The codes that were compared for a challenge. -/
def comparisons (crypto : MfaCrypto) (past : History MfaWorld MfaEvent) (challengeId : Nat) : Nat :=
  past.countP fun (w, ev) => (comparisonIn crypto w ev).any (·.id = challengeId)

/-- Whoever compares a code has read all the earlier comparisons as attempts. -/
def ReadsAllComparisons (crypto : MfaCrypto) (past : History MfaWorld MfaEvent) (w : MfaWorld)
    (ev : MfaEvent) : Prop :=
  ∀ challenge ∈ comparisonIn crypto w ev, comparisons crypto past challenge.id ≤ challenge.attempts

instance (past : History MfaWorld MfaEvent) (w : MfaWorld) (ev : MfaEvent) :
    Decidable (ReadsAllComparisons crypto past w ev) :=
  inferInstanceAs (Decidable (∀ challenge ∈ comparisonIn crypto w ev, _))

/-! ## The limit -/

/-- The challenge that a call looks recovery codes up for has attempts left. -/
def HasAttemptsLeft : MfaCall → Prop
  | .authenticate _ (.findRecovery challenge _) => challenge.attempts < loginChallengeMaxAttempts
  | _ => True

theorem attempts_lt_of_canAuthenticate {db : MfaTables} {challenge : LoginChallenge}
    {user : AuthUser} {now : Int} (h : db.canAuthenticate challenge user now = true) :
    challenge.attempts < loginChallengeMaxAttempts := by
  simp only [MfaTables.canAuthenticate, LoginChallenge.isConsumable, LoginChallenge.isCountable,
    Bool.and_eq_true, decide_eq_true_eq] at h
  exact h.1.1.1.2

theorem hasAttemptsLeft_initial {call : MfaCall} (h : call.isInitial = true) :
    HasAttemptsLeft call := by
  cases call with
  | authenticate input place =>
      cases place with
      | findRecovery challenge user => cases h
      | _ => trivial
  | _ => trivial

theorem hasAttemptsLeft_advance {db : MfaTables} {answer : MfaAnswer} {call next : MfaCall}
    (h : (call.advance crypto db answer).2 = some next) : HasAttemptsLeft next := by
  cases answer with
  | failed => cases h
  | required => cases h
  | made =>
      cases call with
      | authenticate input place =>
          cases place with
          | load =>
              simp only [MfaCall.advance, AuthenticatePlace.run] at h
              split at h
              · cases h
              · split at h
                · cases h
                · split at h
                  · next hcan =>
                    split at h
                    · rw [← Option.some.inj h]
                      exact attempts_lt_of_canAuthenticate hcan
                    · split at h
                      · cases h
                      · rw [← Option.some.inj h]
                        trivial
                      · rw [← Option.some.inj h]
                        trivial
                  · cases h
          | findRecovery challenge user =>
              simp only [MfaCall.advance, AuthenticatePlace.run] at h
              split at h
              · split at h
                · rw [← Option.some.inj h]
                  trivial
                · rw [← Option.some.inj h]
                  trivial
              · rw [← Option.some.inj h]
                trivial
          | countAttempt challenge => cases h
          | consume challenge user verification => cases h
      | factor input place =>
          cases next with
          | authenticate input' place' =>
              exfalso
              cases place with
              | overview => cases h
              | read =>
                  simp only [MfaCall.advance, FactorPlace.run] at h
                  split at h
                  · cases h
                  · split at h
                    · cases h
                    · split at h
                      · cases h
                      · split at h
                        · cases h
                        · cases h
              | useCounter methodId counter =>
                  simp only [MfaCall.advance, FactorPlace.run] at h
                  split at h
                  · cases h
                  · cases h
              | commit methodId => cases h
          | _ => trivial
      | begin input place =>
          cases next with
          | authenticate input' place' =>
              exfalso
              cases place with
              | findActive =>
                  simp only [MfaCall.advance, BeginPlace.run] at h
                  split at h
                  · cases h
                  · cases h
              | enroll => cases h
          | _ => trivial
      | confirm input place =>
          cases next with
          | authenticate input' place' =>
              exfalso
              cases place with
              | read =>
                  simp only [MfaCall.advance, ConfirmPlace.run] at h
                  split at h
                  · cases h
                  · split at h
                    · cases h
                    · split at h
                      · cases h
                      · cases h
              | activate methodId counter => cases h
          | _ => trivial

/-- A code is compared only for a challenge that was read with attempts left. -/
theorem attempts_lt_of_comparisonIn {w : MfaWorld} {ev : MfaEvent} {challenge : LoginChallenge}
    (hlocals : ∀ call ∈ w.locals, HasAttemptsLeft call)
    (h : comparisonIn crypto w ev = some challenge) :
    challenge.attempts < loginChallengeMaxAttempts := by
  unfold comparisonIn at h
  split at h
  · next i =>
    split at h
    · next input hcall =>
      obtain ⟨-, hcompares⟩ := Option.filter_eq_some_iff.mp h
      obtain ⟨user, -, hcan⟩ := (Option.any_eq_true _ _).mp hcompares
      rw [Bool.and_eq_true] at hcan
      exact attempts_lt_of_canAuthenticate hcan.1
    · next input found user hcall =>
      rw [← Option.some.inj h]
      exact hlocals _ (List.mem_of_getElem? hcall)
    · cases h
  · cases h

theorem comparisons_cons (past : History MfaWorld MfaEvent) (w : MfaWorld) (ev : MfaEvent)
    (challengeId : Nat) :
    comparisons crypto ((w, ev) :: past) challengeId = comparisons crypto past challengeId +
      if (comparisonIn crypto w ev).any (·.id = challengeId) then 1 else 0 :=
  List.countP_cons

/-- No call is in progress. -/
def MfaStart (w : MfaWorld) : Prop := w.Quiescent

/-- When every comparison is made by a call that has read all the earlier ones as attempts,
at most five codes are compared for a challenge. -/
theorem guess_limit {past : History MfaWorld MfaEvent} {w : MfaWorld}
    (h : ReachedBy MfaStart (ReadsAllComparisons crypto) (mfa crypto).step past w)
    (challengeId : Nat) : comparisons crypto past challengeId ≤ loginChallengeMaxAttempts := by
  have hinv := h.invariant
    (fun past w => (∀ call ∈ w.locals, HasAttemptsLeft call) ∧
      ∀ challengeId, comparisons crypto past challengeId ≤ loginChallengeMaxAttempts) ?_ ?_
  · exact hinv.2 challengeId
  · intro w hquiet
    refine ⟨fun call hcall => ?_, fun _ => Nat.zero_le _⟩
    rw [show w.locals = [] from hquiet] at hcall
    cases hcall
  · rintro past w ev w' ⟨hlocals, hlimit⟩ hok hstep
    refine ⟨fun call hcall => ?_, fun challengeId => ?_⟩
    · rcases Program.step_cases hstep with ⟨e, -, rfl⟩ | ⟨new, -, hnew, rfl⟩ |
        ⟨i, answer, old, sh, next, -, -, hadvance, rfl⟩
      · exact hlocals call hcall
      · rcases List.mem_append.mp hcall with hold | hadded
        · exact hlocals call hold
        · rw [List.mem_singleton.mp hadded]
          exact hasAttemptsLeft_initial hnew
      · rcases mem_replaceLocal hcall with hnext | hold
        · have hadv : (old.advance crypto w.shared answer).2 = some call := by
            rw [Option.some.inj hadvance]
            exact hnext
          exact hasAttemptsLeft_advance hadv
        · exact hlocals call hold
    · rw [comparisons_cons]
      split
      · next hcompared =>
        obtain ⟨challenge, hchallenge, hid⟩ := (Option.any_eq_true _ _).mp hcompared
        rw [decide_eq_true_eq] at hid
        have hread : comparisons crypto past challenge.id ≤ challenge.attempts :=
          hok challenge hchallenge
        have hleft := attempts_lt_of_comparisonIn hlocals hchallenge
        rw [hid] at hread
        omega
      · exact hlimit challengeId

/-! ## Six guesses -/

/-- A wrong code for the first of two logins. -/
def wrongGuess : MfaCall :=
  .authenticate { challengeToken := "first", code := "000000", now := 59000 } .load

/-- A wrong recovery code for it. -/
def wrongRecovery : List MfaEvent :=
  [.spawn (.authenticate { challengeToken := "first", code := "wrong", now := 59000 } .load),
   .advance 0 .made, .advance 0 .made]

theorem guess_limit_wrongRecovery :
    ∃ past w, comparisons sampleCrypto past 2 = 1 ∧
      ReachedBy MfaStart (ReadsAllComparisons sampleCrypto) (mfa sampleCrypto).step past w ∧
      comparisons sampleCrypto past 2 ≤ loginChallengeMaxAttempts := by
  have hmeets : HistoryMeets (mfa sampleCrypto).next (ReadsAllComparisons sampleCrypto) [] twoLogins
      wrongRecovery :=
    ⟨by decide, by decide, by decide, trivial⟩
  have hstart : MfaStart twoLogins := rfl
  have hreached := reachedBy_of_execHistory (.start hstart) hmeets rfl
  exact ⟨_, _, by decide, hreached, guess_limit hreached 2⟩

/-- Six calls load the challenge before any of them counts its attempt. -/
theorem six_codes_compared :
    ∃ past w, ReachedBy MfaStart (fun _ _ _ => True) (mfa sampleCrypto).step past w ∧
      ¬comparisons sampleCrypto past 2 ≤ loginChallengeMaxAttempts :=
  exists_reachedBy_of_exec
    (fun past _ => ¬comparisons sampleCrypto past 2 ≤ loginChallengeMaxAttempts) _
    (List.replicate 6 (.spawn wrongGuess) ++ (List.range 6).map fun i => .advance i .made)
    (s := twoLogins) rfl (by decide +kernel)

end AvantimePlatform.Identity
