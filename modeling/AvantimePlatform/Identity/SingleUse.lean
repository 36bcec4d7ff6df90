import AvantimePlatform.Identity.MfaWrites
import AvantimePlatform.Lib.Happenings

/-!
# Factors are used once

A code is verified on what was read before, and consumed later.  Each consumption is an
update that is guarded on the row as it is then: a challenge that is not consumed, a
recovery code that is not used, a counter above the last one.  So

* a challenge is authenticated at most once,
* a recovery code is accepted at most once,
* the counters that are accepted of one authenticator grow.

`challengeClosed`, `codeClosed` and `counterClosed` say when each cannot be used any more.
-/

namespace AvantimePlatform.Identity

open AvantimePlatform AvantimePlatform.Interleaving AvantimePlatform.Transition

variable {crypto : MfaCrypto} {db db' : MfaTables}

/-! ## What a step accepts -/

/-- The challenge, its user and what the code was verified as, of a login whose
transaction commits in the step. -/
def loginIn (w : MfaWorld) : MfaEvent → Option (LoginChallenge × AuthUser × Verification)
  | .advance i .made =>
    match w.locals[i]? with
    | some (.authenticate input (.consume challenge user verification)) =>
      if (w.shared.consume challenge.id user.id input.now verification).isSome then
        some (challenge, user, verification)
      else none
    | _ => none
  | _ => none

/-- The challenge that the step answers `AUTHENTICATED` for. -/
def authenticatedIn (w : MfaWorld) (ev : MfaEvent) : Option Nat :=
  (loginIn w ev).bind fun (challenge, user, _) =>
    if (toIdentity user true).isSome then some challenge.id else none

/-- The recovery code that the step accepts. -/
def recoveryCodeIn (w : MfaWorld) (ev : MfaEvent) : Option Nat :=
  (loginIn w ev).bind fun (_, _, verification) =>
    match verification with
    | .recovery recoveryCodeId => some recoveryCodeId
    | .totp _ _ => none

/-- The counter, with its authenticator, that the step accepts: in a login, for
`verifyActiveMfaCode`, or to confirm an enrolment. -/
def counterIn (crypto : MfaCrypto) (w : MfaWorld) (ev : MfaEvent) : Option (Nat × Int) :=
  match ev with
  | .advance i .made =>
    match w.locals[i]? with
    | some (.authenticate input (.consume challenge user (.totp counter methodId))) =>
      if (w.shared.consume challenge.id user.id input.now (.totp counter methodId)).isSome then
        some (methodId, counter)
      else none
    | some (.factor _ (.useCounter methodId counter)) =>
      if (w.shared.useCounter methodId counter).isSome then some (methodId, counter) else none
    | some (.confirm input (.activate methodId counter)) =>
      if (w.shared.activate input.userId methodId counter
          (input.codes.map (hashRecoveryCode crypto))).isSome then some (methodId, counter)
      else none
    | _ => none
  | _ => none

theorem loginIn_eq_some {w w' : MfaWorld} {ev : MfaEvent} {challenge : LoginChallenge}
    {user : AuthUser} {verification : Verification} (hstep : (mfa crypto).step w ev w')
    (h : loginIn w ev = some (challenge, user, verification)) :
    ∃ now, w.shared.consume challenge.id user.id now verification = some w'.shared := by
  unfold loginIn at h
  split at h
  · next i =>
    split at h
    · next input challenge' user' verification' hcall =>
      split at h
      · next hsome =>
        obtain ⟨rfl, hrest⟩ := Prod.mk.inj (Option.some.inj h)
        obtain ⟨rfl, rfl⟩ := Prod.mk.inj hrest
        obtain ⟨db', hdb'⟩ := Option.isSome_iff_exists.mp hsome
        refine ⟨input.now, ?_⟩
        rw [mfaShared_of_advance hstep hcall, hdb']
        show some db' = some (settleMfa w.shared (w.shared.consume _ _ _ _))
        rw [hdb']
        rfl
      · cases h
    · cases h
  · cases h

/-! ## Challenges -/

/-- The challenge was consumed. -/
def challengeClosed (db : MfaTables) (challengeId : Nat) : Prop :=
  ∃ row, db.challenge? challengeId = some row ∧ row.consumedAt ≠ none

/-- A consumed challenge stays consumed. -/
theorem challengeClosed_step {challengeId : Nat} (hkeyed : MfaKeyed db) (h : TablesWrote db db')
    (hclosed : challengeClosed db challengeId) : challengeClosed db' challengeId := by
  obtain ⟨row, hrow, hconsumed⟩ := hclosed
  cases h.challenges with
  | same hsame =>
      refine ⟨row, ?_, hconsumed⟩
      unfold MfaTables.challenge?
      rw [hsame]
      exact hrow
  | created new hid hfresh hnew hserial =>
      refine ⟨row, ?_, hconsumed⟩
      have hnone : KeyedList.find LoginChallenge.id new.id db.challenges = none := by
        rw [hid]
        exact find_serial hkeyed.challengeIds
      unfold MfaTables.challenge?
      rw [hnew, KeyedList.find_append_new hnone, if_neg]
      · exact hrow
      · intro heq
        rw [← heq, show KeyedList.find LoginChallenge.id challengeId db.challenges = some row from
          hrow] at hnone
        cases hnone
  | counted countedId hcounted =>
      have hfind : db'.challenge? challengeId = (db.challenge? challengeId).map fun row =>
          if (row.id = countedId && row.isCountable) = true then
            row.counted else row := by
        unfold MfaTables.challenge?
        rw [hcounted]
        exact KeyedList.find_updateMany (by intro row; rfl) db.challenges
      rw [hrow] at hfind
      refine ⟨_, hfind, ?_⟩
      dsimp only
      split
      · exact hconsumed
      · exact hconsumed
  | closed old now hold hopen hput =>
      have hfind : db'.challenge? challengeId =
          if challengeId = old.id then some (old.consumed now)
          else db.challenge? challengeId := by
        unfold MfaTables.challenge?
        rw [hput]
        exact KeyedList.find_put hold
      by_cases hid : challengeId = old.id
      · rw [if_pos hid] at hfind
        exact ⟨_, hfind, Option.some_ne_none _⟩
      · rw [if_neg hid] at hfind
        exact ⟨row, hfind.trans hrow, hconsumed⟩

/-- The challenge of a login is open when it commits, and closed after it. -/
theorem challenge_of_consume {challengeId : Nat} {userId : String} {now : Int}
    {verification : Verification} (h : db.consume challengeId userId now verification = some db') :
    ¬challengeClosed db challengeId ∧ challengeClosed db' challengeId := by
  obtain ⟨closed, hclosed, hused⟩ := consume_eq_some h
  obtain ⟨row, hrow, hopen, hset⟩ := closeChallenge_eq_some hclosed
  have hsame : db'.challenges = closed.challenges := by
    rcases hused with ⟨counter, methodId, -, hused⟩ | ⟨recoveryCodeId, -, hused⟩
    · obtain ⟨method, -, -, rfl⟩ := useCounter_eq_some hused
      rfl
    · obtain ⟨code, -, -, rfl⟩ := useRecoveryCode_eq_some hused
      rfl
  constructor
  · rintro ⟨row', hrow', hconsumed⟩
    rw [hrow] at hrow'
    rw [← Option.some.inj hrow'] at hconsumed
    simp only [LoginChallenge.isConsumable, LoginChallenge.isCountable, Bool.and_eq_true,
      Option.isNone_iff_eq_none] at hopen
    exact hconsumed hopen.1.1
  · have hid : row.id = challengeId := (KeyedList.find_eq_some hrow).2
    have hself : db.challenge? row.id = some row := challenge?_self hrow
    have hput : KeyedList.find LoginChallenge.id challengeId
        (KeyedList.put LoginChallenge.id (row.consumed now) db.challenges) =
          if challengeId = row.id then some (row.consumed now) else db.challenge? challengeId :=
      KeyedList.find_put hself
    rw [if_pos hid.symm] at hput
    refine ⟨row.consumed now, ?_, Option.some_ne_none _⟩
    unfold MfaTables.challenge?
    rw [hsame, hset]
    exact hput

/-! ## Recovery codes -/

/-- The recovery code was used or deleted. -/
def codeClosed (db : MfaTables) (recoveryCodeId : Nat) : Prop :=
  recoveryCodeId < db.serial ∧
    ∀ row, db.code? recoveryCodeId = some row → row.usedAt ≠ none

/-- A used recovery code is not free again, and a deleted one does not come back. -/
theorem codeClosed_step {recoveryCodeId : Nat} (hkeyed : MfaKeyed db) (h : TablesWrote db db')
    (hclosed : codeClosed db recoveryCodeId) : codeClosed db' recoveryCodeId := by
  obtain ⟨hold, hused⟩ := hclosed
  refine ⟨lt_of_lt_of_le hold h.serial, fun row hrow => ?_⟩
  unfold MfaTables.code? at hrow
  cases h.codes with
  | same hsame =>
      rw [hsame] at hrow
      exact hused row hrow
  | used old now hfound hfree hput =>
      rw [hput, KeyedList.find_put (x := old.used now) hfound] at hrow
      split at hrow
      · rw [← Option.some.inj hrow]
        exact Option.some_ne_none _
      · exact hused row hrow
  | replaced userId hashes hreplaced hserial =>
      rw [hreplaced] at hrow
      obtain ⟨hmem, hid⟩ := KeyedList.find_eq_some hrow
      rcases List.mem_append.mp hmem with hkept | hnew
      · refine hused row ?_
        rw [← hid]
        exact KeyedList.find_of_mem hkeyed.codes (List.mem_of_mem_filter hkept)
      · have hle := (id_of_mem_recoveryRows hnew).1
        omega

/-- The recovery code of a login is free when it commits, and closed after it. -/
theorem code_of_consume {challengeId recoveryCodeId : Nat} {userId : String} {now : Int}
    (hkeyed : MfaKeyed db)
    (h : db.consume challengeId userId now (.recovery recoveryCodeId) = some db') :
    ¬codeClosed db recoveryCodeId ∧ codeClosed db' recoveryCodeId := by
  obtain ⟨closed, hclosed, hused⟩ := consume_eq_some h
  obtain ⟨challenge, -, -, rfl⟩ := closeChallenge_eq_some hclosed
  obtain ⟨usedId, hsame, hused⟩ := hused.resolve_left (by rintro ⟨_, _, hne, -⟩; cases hne)
  rw [← Verification.recovery.inj hsame] at hused
  obtain ⟨row, hrow, hfree, rfl⟩ := useRecoveryCode_eq_some hused
  have hfound : db.code? recoveryCodeId = some row := hrow
  have hid : row.id = recoveryCodeId := (KeyedList.find_eq_some hrow).2
  constructor
  · rintro ⟨-, hall⟩
    exact hall row hfound hfree
  · refine ⟨?_, fun row' hrow' => ?_⟩
    · rw [← hid]
      exact hkeyed.codeIds row (KeyedList.find_eq_some hrow).1
    · have hself : db.code? row.id = some row := code?_self hfound
      have hput : KeyedList.find RecoveryCode.id recoveryCodeId
          (KeyedList.put RecoveryCode.id (row.used now) db.codes) =
            if recoveryCodeId = row.id then some (row.used now) else db.code? recoveryCodeId :=
        KeyedList.find_put hself
      rw [if_pos hid.symm] at hput
      have hrow'' : row.used now = row' := Option.some.inj (hput.symm.trans hrow')
      rw [← hrow'']
      exact Option.some_ne_none _

/-! ## Counters -/

/-- The counter is not above the last one that was used of its authenticator. -/
def counterClosed (db : MfaTables) (used : Nat × Int) : Prop :=
  ∃ row last, db.method? used.1 = some row ∧ row.lastUsedCounter = some last ∧ used.2 ≤ last

/-- Writing an authenticator back does not lower its last counter. -/
theorem counterClosed_put (row : MfaMethod) {old : MfaMethod} {used : Nat × Int}
    (hold : db.method? row.id = some old)
    (hgrows : ∀ last, old.lastUsedCounter = some last →
      ∃ last', row.lastUsedCounter = some last' ∧ last ≤ last')
    (hput : db'.methods = KeyedList.put MfaMethod.id row db.methods)
    (hclosed : counterClosed db used) : counterClosed db' used := by
  obtain ⟨found, last, hfound, hlast, hle⟩ := hclosed
  have hfind : db'.method? used.1 = if used.1 = row.id then some row else db.method? used.1 := by
    unfold MfaTables.method?
    rw [hput]
    exact KeyedList.find_put hold
  by_cases hid : used.1 = row.id
  · rw [if_pos hid] at hfind
    rw [hid, hold] at hfound
    rw [← Option.some.inj hfound] at hlast
    obtain ⟨last', hlast', hle'⟩ := hgrows last hlast
    exact ⟨row, last', hfind, hlast', hle.trans hle'⟩
  · rw [if_neg hid] at hfind
    exact ⟨found, last, hfind.trans hfound, hlast, hle⟩

/-- The last counter of an authenticator does not go down. -/
theorem counterClosed_step {used : Nat × Int} (hkeyed : MfaKeyed db) (h : TablesWrote db db')
    (hclosed : counterClosed db used) : counterClosed db' used := by
  cases h.methods with
  | same hsame =>
      obtain ⟨row, last, hrow, hlast⟩ := hclosed
      refine ⟨row, last, ?_, hlast⟩
      unfold MfaTables.method?
      rw [hsame]
      exact hrow
  | counterUsed old counter hold haccepts hput =>
      refine counterClosed_put (old.used counter) hold (fun last hlast => ?_) hput hclosed
      simp only [MfaMethod.accepts, Bool.and_eq_true, hlast, Option.all_some,
        decide_eq_true_eq] at haccepts
      exact ⟨counter, rfl, le_of_lt haccepts.2⟩
  | enrolled userId secretEncrypted now hnew hserial =>
      obtain ⟨row, last, hrow, hlast, hle⟩ := hclosed
      have hid : row.id = used.1 := (KeyedList.find_eq_some hrow).2
      have hlt : row.id < db.serial := hkeyed.methodIds row (KeyedList.find_eq_some hrow).1
      have hretired : KeyedList.find MfaMethod.id used.1
          (KeyedList.updateMany (·.isPendingOf userId) MfaMethod.retired db.methods) =
            (db.method? used.1).map fun row => if row.isPendingOf userId then row.retired else row :=
        KeyedList.find_updateMany (by intro row; rfl) db.methods
      have hids : ∀ row ∈ KeyedList.updateMany (·.isPendingOf userId) MfaMethod.retired db.methods,
          row.id < db.serial := by
        intro row hrow
        rcases KeyedList.mem_updateMany hrow with ⟨hold, -⟩ | ⟨old, hold, -, rfl⟩
        · exact hkeyed.methodIds row hold
        · exact hkeyed.methodIds old hold
      have hfind := KeyedList.find_append_new (k := used.1)
        (x := enrolled db.serial userId secretEncrypted now) (find_serial hids)
      have hne : used.1 ≠ (enrolled db.serial userId secretEncrypted now).id := by
        show used.1 ≠ db.serial
        omega
      rw [if_neg hne, hretired, hrow] at hfind
      unfold counterClosed MfaTables.method?
      rw [hnew]
      refine ⟨_, last, hfind, ?_, hle⟩
      dsimp only
      split
      · exact hlast
      · exact hlast
  | activated old counter hold hpending hput =>
      refine counterClosed_put (old.activated counter) hold (fun last hlast => ?_) hput hclosed
      rw [hkeyed.pending old (KeyedList.find_eq_some hold).1 hpending] at hlast
      cases hlast
  | disabled old hold hput =>
      exact counterClosed_put old.retired hold (fun last hlast => ⟨last, hlast, le_rfl⟩) hput hclosed

/-- A step that accepts a counter finds it above the last one, and makes it the last one. -/
theorem counter_of_put (row : MfaMethod) {old : MfaMethod} {counter : Int}
    (hold : db.method? row.id = some old) (hlow : ∀ last ∈ old.lastUsedCounter, last < counter)
    (hrow : row.lastUsedCounter = some counter)
    (hput : db'.methods = KeyedList.put MfaMethod.id row db.methods) :
    ¬counterClosed db (row.id, counter) ∧
      (db'.method? row.id).bind (·.lastUsedCounter) = some counter := by
  constructor
  · rintro ⟨found, last, hfound, hlast, hle⟩
    rw [show db.method? (row.id, counter).1 = some old from hold] at hfound
    rw [← Option.some.inj hfound] at hlast
    exact absurd (hlow last hlast) (not_lt.mpr hle)
  · have hfind : db'.method? row.id = some row := by
      unfold MfaTables.method?
      rw [hput, KeyedList.find_put hold, if_pos rfl]
    rw [hfind]
    exact hrow

/-- The last counter that was used of an authenticator. -/
def lastCounter? (db : MfaTables) (methodId : Nat) : Option Int :=
  (db.method? methodId).bind (·.lastUsedCounter)

/-- The update that uses a counter. -/
theorem counter_of_useCounter {methodId : Nat} {counter : Int}
    (h : db.useCounter methodId counter = some db') :
    ¬counterClosed db (methodId, counter) ∧ lastCounter? db' methodId = some counter := by
  obtain ⟨row, hrow, haccepts, rfl⟩ := useCounter_eq_some h
  have hid : row.id = methodId := (KeyedList.find_eq_some hrow).2
  have hlow : ∀ last ∈ row.lastUsedCounter, last < counter := by
    intro last hlast
    simp only [MfaMethod.accepts, Bool.and_eq_true, Option.mem_def.mp hlast, Option.all_some,
      decide_eq_true_eq] at haccepts
    exact haccepts.2
  have hself : db.method? (row.used counter).id = some row := method?_self hrow
  have hput : ¬counterClosed db ((row.used counter).id, counter) ∧
      lastCounter? (db.setMethod (row.used counter)) (row.used counter).id = some counter :=
    counter_of_put (row.used counter) hself hlow rfl rfl
  rw [show (row.used counter).id = methodId from hid] at hput
  exact hput

/-- The confirmation of an enrolment. -/
theorem counter_of_activate {userId : String} {methodId : Nat} {counter : Int}
    {hashes : List String} (hkeyed : MfaKeyed db)
    (h : db.activate userId methodId counter hashes = some db') :
    ¬counterClosed db (methodId, counter) ∧ lastCounter? db' methodId = some counter := by
  obtain ⟨row, hrow, -, hpending, hreplaced⟩ := activate_eq_some h
  have hid : row.id = methodId := (KeyedList.find_eq_some hrow).2
  have hlow : ∀ last ∈ row.lastUsedCounter, last < counter := by
    intro last hlast
    rw [hkeyed.pending row (KeyedList.find_eq_some hrow).1 hpending] at hlast
    cases hlast
  have hself : db.method? (row.activated counter).id = some row := method?_self hrow
  have hput : ¬counterClosed db ((row.activated counter).id, counter) ∧
      lastCounter? db' (row.activated counter).id = some counter := by
    refine counter_of_put (row.activated counter) hself hlow rfl ?_
    rw [replaceRecoveryCodes_eq_some hreplaced]
    rfl
  rw [show (row.activated counter).id = methodId from hid] at hput
  exact hput

/-- Every step that accepts a counter finds it above the last one, and makes it the last. -/
theorem counter_of_counterIn {w w' : MfaWorld} {ev : MfaEvent} {used : Nat × Int}
    (hkeyed : MfaKeyed w.shared) (hstep : (mfa crypto).step w ev w')
    (h : counterIn crypto w ev = some used) :
    ¬counterClosed w.shared used ∧ lastCounter? w'.shared used.1 = some used.2 := by
  unfold counterIn at h
  split at h
  · next i =>
    split at h
    · next input challenge user counter methodId hcall =>
      split at h
      · next hsome =>
        obtain ⟨db', hdb'⟩ := Option.isSome_iff_exists.mp hsome
        have hw' : w'.shared = db' := by
          rw [mfaShared_of_advance hstep hcall]
          show settleMfa w.shared (w.shared.consume _ _ _ _) = db'
          rw [hdb']
          rfl
        rw [hw', ← Option.some.inj h]
        obtain ⟨closed, hclosed, hused⟩ := consume_eq_some hdb'
        obtain ⟨row, -, -, rfl⟩ := closeChallenge_eq_some hclosed
        obtain ⟨counter', methodId', hsame, hused⟩ :=
          hused.resolve_right (by rintro ⟨_, hne, -⟩; cases hne)
        obtain ⟨hcounter, hmethod⟩ := Verification.totp.inj hsame
        rw [← hcounter, ← hmethod] at hused
        have hboth := counter_of_useCounter hused
        exact hboth
      · cases h
    · next input methodId counter hcall =>
      split at h
      · next hsome =>
        obtain ⟨db', hdb'⟩ := Option.isSome_iff_exists.mp hsome
        have hw' : w'.shared = db' := by
          rw [mfaShared_of_advance hstep hcall]
          simp only [MfaCall.advance, FactorPlace.run, hdb']
        rw [hw', ← Option.some.inj h]
        exact counter_of_useCounter hdb'
      · cases h
    · next input methodId counter hcall =>
      split at h
      · next hsome =>
        obtain ⟨db', hdb'⟩ := Option.isSome_iff_exists.mp hsome
        have hw' : w'.shared = db' := by
          rw [mfaShared_of_advance hstep hcall]
          show settleMfa w.shared (w.shared.activate _ _ _ _) = db'
          rw [hdb']
          rfl
        rw [hw', ← Option.some.inj h]
        exact counter_of_activate hkeyed hdb'
      · cases h
    · cases h
  · cases h

/-- The counter that a step accepts is above the last one, and becomes the last one. -/
def CounterGrows (crypto : MfaCrypto) (w : MfaWorld) (ev : MfaEvent) (w' : MfaWorld) : Prop :=
  ∀ methodId counter, counterIn crypto w ev = some (methodId, counter) →
    (∀ last, lastCounter? w.shared methodId = some last → last < counter) ∧
      lastCounter? w'.shared methodId = some counter

theorem counterGrows_step {w w' : MfaWorld} {ev : MfaEvent} (hkeyed : MfaKeyed w.shared)
    (hstep : (mfa crypto).step w ev w') : CounterGrows crypto w ev w' := by
  intro methodId counter h
  obtain ⟨hopen, hlast⟩ := counter_of_counterIn hkeyed hstep h
  refine ⟨fun last hbefore => ?_, hlast⟩
  obtain ⟨row, hrow, hused⟩ := Option.bind_eq_some_iff.mp hbefore
  by_contra hle
  exact hopen ⟨row, last, hrow, hused, not_lt.mp hle⟩

/-! ## Runs -/

/-- Along every run each challenge is authenticated at most once, each recovery code is
accepted at most once, and the counters that are accepted of one authenticator grow, each
of them above its last counter at the time. -/
theorem factors_are_single_use {w : MfaWorld} {run : List (MfaEvent × MfaWorld)}
    (hkeyed : MfaKeyed w.shared) (hrun : Run (mfa crypto).step w run) :
    (happenings authenticatedIn w run).Nodup ∧ (happenings recoveryCodeIn w run).Nodup ∧
      (happenings (counterIn crypto) w run).Pairwise (fun a b => a.1 = b.1 → a.2 < b.2) ∧
      AllSteps (CounterGrows crypto) w run := by
  have hinv : ∀ (w : MfaWorld) (ev : MfaEvent) (w' : MfaWorld), MfaKeyed w.shared →
      (mfa crypto).step w ev w' → MfaKeyed w'.shared :=
    fun _ _ _ hkeyed hstep => mfaKeyed_step hkeyed hstep
  refine ⟨?_, ?_, ?_, ?_⟩
  · have hlogin : ∀ (w : MfaWorld) (ev : MfaEvent) (w' : MfaWorld) (challengeId : Nat),
        MfaKeyed w.shared → (mfa crypto).step w ev w' → authenticatedIn w ev = some challengeId →
        ¬challengeClosed w.shared challengeId ∧ challengeClosed w'.shared challengeId := by
      intro w ev w' challengeId _ hstep h
      obtain ⟨⟨challenge, user, verification⟩, hlogin, hid⟩ := Option.bind_eq_some_iff.mp h
      obtain ⟨now, hconsume⟩ := loginIn_eq_some hstep hlogin
      dsimp only at hid
      split at hid
      · rw [← Option.some.inj hid]
        exact challenge_of_consume hconsume
      · cases hid
    have hkeep : ∀ (w : MfaWorld) (ev : MfaEvent) (w' : MfaWorld) (challengeId : Nat),
        MfaKeyed w.shared → (mfa crypto).step w ev w' →
          challengeClosed w.shared challengeId → challengeClosed w'.shared challengeId :=
      fun _ _ _ _ hkeyed hstep hclosed =>
        challengeClosed_step hkeyed (tablesWrote_step hstep) hclosed
    exact nodup_happenings hinv hkeep
      (fun w ev w' challengeId hkeyed hstep h => (hlogin w ev w' challengeId hkeyed hstep h).1)
      (fun w ev w' challengeId hkeyed hstep h => (hlogin w ev w' challengeId hkeyed hstep h).2)
      hrun hkeyed
  · have hlogin : ∀ (w : MfaWorld) (ev : MfaEvent) (w' : MfaWorld) (recoveryCodeId : Nat),
        MfaKeyed w.shared → (mfa crypto).step w ev w' → recoveryCodeIn w ev = some recoveryCodeId →
        ¬codeClosed w.shared recoveryCodeId ∧ codeClosed w'.shared recoveryCodeId := by
      intro w ev w' recoveryCodeId hkeyed hstep h
      obtain ⟨⟨challenge, user, verification⟩, hlogin, hid⟩ := Option.bind_eq_some_iff.mp h
      obtain ⟨now, hconsume⟩ := loginIn_eq_some hstep hlogin
      cases verification with
      | totp counter methodId => cases hid
      | recovery usedId =>
          rw [← Option.some.inj hid]
          exact code_of_consume hkeyed hconsume
    have hkeep : ∀ (w : MfaWorld) (ev : MfaEvent) (w' : MfaWorld) (recoveryCodeId : Nat),
        MfaKeyed w.shared → (mfa crypto).step w ev w' →
          codeClosed w.shared recoveryCodeId → codeClosed w'.shared recoveryCodeId :=
      fun _ _ _ _ hkeyed hstep hclosed => codeClosed_step hkeyed (tablesWrote_step hstep) hclosed
    exact nodup_happenings hinv hkeep
      (fun w ev w' recoveryCodeId hkeyed hstep h => (hlogin w ev w' recoveryCodeId hkeyed hstep h).1)
      (fun w ev w' recoveryCodeId hkeyed hstep h => (hlogin w ev w' recoveryCodeId hkeyed hstep h).2)
      hrun hkeyed
  · have hkeep : ∀ (w : MfaWorld) (ev : MfaEvent) (w' : MfaWorld) (used : Nat × Int),
        MfaKeyed w.shared → (mfa crypto).step w ev w' →
          counterClosed w.shared used → counterClosed w'.shared used :=
      fun _ _ _ _ hkeyed hstep hclosed => counterClosed_step hkeyed (tablesWrote_step hstep) hclosed
    refine pairwise_happenings hinv hkeep
      (fun _ _ _ _ hkeyed hstep h => (counter_of_counterIn hkeyed hstep h).1) ?_ hrun hkeyed
    intro w ev w' used hkeyed hstep h later hlater
    push Not at hlater
    obtain ⟨hsame, hle⟩ := hlater
    obtain ⟨row, hrow, hlast⟩ :=
      Option.bind_eq_some_iff.mp (counter_of_counterIn hkeyed hstep h).2
    rw [hsame] at hrow
    exact ⟨row, used.2, hrow, hlast, hle⟩
  · exact allSteps_of_step hinv (fun _ _ _ hkeyed hstep => counterGrows_step hkeyed hstep) hrun hkeyed

/-! ## A user that logs in twice -/

/-- The base32 form of the secret `12345678901234567890`. -/
def sampleSecret : String := "GEZDGNBVGY3TQOJQGEZDGNBVGY3TQOJQ"

/-- That secret as `encryptTotpSecret` stores it, under a key of 32 bytes 7. -/
def sampleStored : String :=
  "v2.v1.CQkJCQkJCQkJCQkJ.MuTSP0afGIMl1_HThONIBw.YMDe0Pm-gzfnO_hst6XpjpP1ObdzoLWWKPd18oQ7Sys"

/-- The digests and the decryption, on the inputs below. -/
def sampleCrypto : MfaCrypto where
  hmacSha1 key message :=
    if key = "12345678901234567890".toUTF8.toList then
      if message = counterBytes 0 then
        [204, 147, 207, 24, 80, 141, 148, 147, 76, 100, 182, 93, 139, 167, 102, 127, 183, 205, 228,
         176]
      else if message = counterBytes 1 then
        [117, 164, 138, 25, 212, 203, 225, 0, 100, 78, 138, 193, 57, 126, 234, 116, 122, 45, 51, 171]
      else if message = counterBytes 2 then
        [11, 172, 183, 250, 8, 47, 239, 48, 120, 34, 17, 147, 139, 193, 197, 231, 4, 22, 255, 68]
      else []
    else []
  sha256Hex value :=
    if value = "ABCDEFGHJKLM" then
      "3f63d25fcb898ecfd6c2e2322bfdb11f44fe17dd0dc359e70b7246224bb223e9"
    else ""
  decryptTotpSecret stored :=
    if stored = sampleStored then .ok sampleSecret
    else .error "Encrypted identity secret has an unsupported format."

/-- A user with an authenticator and a recovery code, and two logins that wait for them. -/
def twoLogins : MfaWorld where
  shared :=
    { serial := 4
      users := [{ id := "user", role := .admin }]
      methods :=
        [{ id := 0, userId := "user", status := .active, secretEncrypted := some sampleStored
           createdAt := 0 }]
      codes :=
        [{ id := 1, userId := "user"
           codeHash := "3f63d25fcb898ecfd6c2e2322bfdb11f44fe17dd0dc359e70b7246224bb223e9" }]
      challenges :=
        [{ id := 2, tokenHash := "first", userId := "user", expiresAt := 300000 },
         { id := 3, tokenHash := "second", userId := "user", expiresAt := 300000 }] }
  locals := []

/-- Two logins with one code race, and a third uses the recovery code. -/
def replayedCode : List MfaEvent :=
  let withCode : MfaCall :=
    .authenticate { challengeToken := "first", code := "287082", now := 59000 } .load
  let withRecovery : MfaCall :=
    .authenticate { challengeToken := "second", code := "abcd-efgh-jklm", now := 60000 } .load
  [.spawn withCode, .spawn withCode, .advance 0 .made, .advance 1 .made, .advance 1 .made,
   .advance 0 .made, .spawn withRecovery, .advance 0 .made, .advance 0 .made, .advance 0 .made]

theorem mfaKeyed_twoLogins : MfaKeyed twoLogins.shared := by
  refine ⟨?_, ?_, ?_, ?_, ?_, ?_, ?_⟩
  · simp [KeyedList.Distinct, twoLogins]
  · decide
  · decide
  · simp [KeyedList.Distinct, twoLogins]
  · decide
  · simp [KeyedList.Distinct, twoLogins]
  · decide

theorem factors_are_single_use_replayedCode :
    (happenings authenticatedIn twoLogins
        (trace (mfa sampleCrypto).next twoLogins replayedCode)).Nodup ∧
      (happenings recoveryCodeIn twoLogins
        (trace (mfa sampleCrypto).next twoLogins replayedCode)).Nodup ∧
      (happenings (counterIn sampleCrypto) twoLogins
        (trace (mfa sampleCrypto).next twoLogins replayedCode)).Pairwise
          (fun a b => a.1 = b.1 → a.2 < b.2) ∧
      AllSteps (CounterGrows sampleCrypto) twoLogins
        (trace (mfa sampleCrypto).next twoLogins replayedCode) :=
  factors_are_single_use mfaKeyed_twoLogins (run_trace _ _)

example :
    happenings authenticatedIn twoLogins
      (trace (mfa sampleCrypto).next twoLogins replayedCode) = [2, 3] := by
  decide +kernel

end AvantimePlatform.Identity
