import AvantimePlatform.Identity.MfaCalls

/-!
# What the calls of the second factor write

For each guarded statement and transaction, what it has found when it is made.
`MfaWrote` collects them: what one step of a call may do.  `ChallengesWrote`,
`MethodsWrote` and `CodesWrote` say what it leaves of each table, and the invariants are
proved by cases on them.
-/

namespace AvantimePlatform.Identity

open AvantimePlatform AvantimePlatform.Interleaving AvantimePlatform.Transition

variable {crypto : MfaCrypto} {db db' : MfaTables}

/-! ## The statements -/

theorem closeChallenge_eq_some {challengeId : Nat} {now : Int}
    (h : db.closeChallenge challengeId now = some db') :
    ∃ row, db.challenge? challengeId = some row ∧ row.isConsumable now = true ∧
      db' = db.setChallenge (row.consumed now) := by
  unfold MfaTables.closeChallenge at h
  split at h
  · cases h
  · next row hrow =>
    split at h
    · next hopen => exact ⟨row, hrow, hopen, (Option.some.inj h).symm⟩
    · cases h

theorem useCounter_eq_some {methodId : Nat} {counter : Int}
    (h : db.useCounter methodId counter = some db') :
    ∃ row, db.method? methodId = some row ∧ row.accepts counter = true ∧
      db' = db.setMethod (row.used counter) := by
  unfold MfaTables.useCounter at h
  split at h
  · cases h
  · next row hrow =>
    split at h
    · next haccepts => exact ⟨row, hrow, haccepts, (Option.some.inj h).symm⟩
    · cases h

theorem useRecoveryCode_eq_some {recoveryCodeId : Nat} {userId : String} {now : Int}
    (h : db.useRecoveryCode recoveryCodeId userId now = some db') :
    ∃ row, db.code? recoveryCodeId = some row ∧ row.usedAt = none ∧
      db' = db.setCode (row.used now) := by
  unfold MfaTables.useRecoveryCode at h
  split at h
  · cases h
  · next row hrow =>
    split at h
    · next hfree => exact ⟨row, hrow, hfree.2, (Option.some.inj h).symm⟩
    · cases h

/-- A login that commits has closed its challenge, and used its factor. -/
theorem consume_eq_some {challengeId : Nat} {userId : String} {now : Int}
    {verification : Verification} (h : db.consume challengeId userId now verification = some db') :
    ∃ closed, db.closeChallenge challengeId now = some closed ∧
      ((∃ counter methodId, verification = .totp counter methodId ∧
          closed.useCounter methodId counter = some db') ∨
        ∃ recoveryCodeId, verification = .recovery recoveryCodeId ∧
          closed.useRecoveryCode recoveryCodeId userId now = some db') := by
  cases verification with
  | totp counter methodId =>
      obtain ⟨closed, hclosed, hused⟩ := Option.bind_eq_some_iff.mp h
      exact ⟨closed, hclosed, Or.inl ⟨counter, methodId, rfl, hused⟩⟩
  | recovery recoveryCodeId =>
      obtain ⟨closed, hclosed, hused⟩ := Option.bind_eq_some_iff.mp h
      exact ⟨closed, hclosed, Or.inr ⟨recoveryCodeId, rfl, hused⟩⟩

theorem replaceRecoveryCodes_eq_some {userId : String} {hashes : List String}
    (h : db.replaceRecoveryCodes userId hashes = some db') :
    db' = { db with
      serial := db.serial + hashes.length
      codes := (db.codes.filter fun row => row.userId ≠ userId) ++
        db.recoveryRows userId hashes } := by
  unfold MfaTables.replaceRecoveryCodes at h
  dsimp only at h
  split at h
  · exact (Option.some.inj h).symm
  · cases h

theorem activate_eq_some {userId : String} {methodId : Nat} {counter : Int} {hashes : List String}
    (h : db.activate userId methodId counter hashes = some db') :
    ∃ row, db.method? methodId = some row ∧ row.userId = userId ∧ row.status = .pending ∧
      (db.setMethod (row.activated counter)).replaceRecoveryCodes userId hashes = some db' := by
  unfold MfaTables.activate at h
  split at h
  · cases h
  · next row hrow =>
    split at h
    · next hpending =>
      exact ⟨row, hrow, hpending.1, hpending.2, h⟩
    · cases h

theorem disable_eq_some {userId : String} {methodId : Nat}
    (h : db.disable userId methodId = some db') :
    ∃ row, db.method? methodId = some row ∧
      (db.setMethod row.retired).replaceRecoveryCodes userId [] = some db' := by
  unfold MfaTables.disable at h
  split at h
  · cases h
  · next row hrow => exact ⟨row, hrow, h⟩

/-- The ids of new recovery codes are those that `serial` gives out next. -/
theorem map_id_recoveryRows (userId : String) (hashes : List String) :
    (db.recoveryRows userId hashes).map RecoveryCode.id = List.range' db.serial hashes.length := by
  unfold MfaTables.recoveryRows
  rw [List.map_map]
  exact List.zipIdx_map_snd db.serial hashes

theorem id_of_mem_recoveryRows {userId : String} {hashes : List String} {row : RecoveryCode}
    (h : row ∈ db.recoveryRows userId hashes) :
    db.serial ≤ row.id ∧ row.id < db.serial + hashes.length := by
  have hid : row.id ∈ (db.recoveryRows userId hashes).map RecoveryCode.id := List.mem_map_of_mem h
  rw [map_id_recoveryRows, List.mem_range'_1] at hid
  exact hid

/-! ## One step of a call -/

/-- What one step of a call may write. -/
inductive MfaWrote (crypto : MfaCrypto) (db : MfaTables) :
    MfaAnswer → MfaCall → MfaTables → Prop where
  | nothing (answer : MfaAnswer) (call : MfaCall) : MfaWrote crypto db answer call db
  | counted (input : AuthenticateInput) (challenge : LoginChallenge) :
      MfaWrote crypto db .made (.authenticate input (.countAttempt challenge))
        (db.countAttempt challenge.id)
  | consumed (input : AuthenticateInput) (challenge : LoginChallenge) (user : AuthUser)
      (verification : Verification) {db' : MfaTables}
      (h : db.consume challenge.id user.id input.now verification = some db') :
      MfaWrote crypto db .made (.authenticate input (.consume challenge user verification)) db'
  | counterUsed (input : FactorInput) (methodId : Nat) (counter : Int) {db' : MfaTables}
      (h : db.useCounter methodId counter = some db') :
      MfaWrote crypto db .made (.factor input (.useCounter methodId counter)) db'
  | regenerated (input : FactorInput) (methodId : Nat) (codes : List String) {db' : MfaTables}
      (huse : input.use = .regenerate codes)
      (h : db.replaceRecoveryCodes input.userId (codes.map (hashRecoveryCode crypto)) = some db') :
      MfaWrote crypto db .made (.factor input (.commit methodId)) db'
  | disabled (input : FactorInput) (methodId : Nat) {db' : MfaTables}
      (huse : input.use = .disable) (h : db.disable input.userId methodId = some db') :
      MfaWrote crypto db .made (.factor input (.commit methodId)) db'
  | enrolled (input : BeginInput) :
      MfaWrote crypto db .made (.begin input .enroll)
        (db.enroll input.userId input.secretEncrypted input.now)
  | activated (input : ConfirmInput) (methodId : Nat) (counter : Int) {db' : MfaTables}
      (h : db.activate input.userId methodId counter
        (input.codes.map (hashRecoveryCode crypto)) = some db') :
      MfaWrote crypto db .made (.confirm input (.activate methodId counter)) db'

/-- A transaction leaves its result, or the tables as they were. -/
theorem settleMfa_cases {written : Option MfaTables} {P : MfaTables → Prop} (hsame : P db)
    (hsome : ∀ db', written = some db' → P db') : P (settleMfa db written) := by
  cases written with
  | none => exact hsame
  | some db' => exact hsome db' rfl

theorem mfaWrote_advance (crypto : MfaCrypto) (db : MfaTables) (answer : MfaAnswer)
    (call : MfaCall) : MfaWrote crypto db answer call (call.advance crypto db answer).1 := by
  cases answer with
  | failed => exact MfaWrote.nothing _ _
  | required => exact MfaWrote.nothing _ _
  | made =>
      cases call with
      | authenticate input place =>
          cases place with
          | load =>
              have hsame : (AuthenticatePlace.load.run crypto db input).1 = db := by
                simp only [AuthenticatePlace.run]
                repeat' split
                all_goals rfl
              show MfaWrote crypto db _ _ (AuthenticatePlace.load.run crypto db input).1
              rw [hsame]
              exact MfaWrote.nothing _ _
          | findRecovery challenge user =>
              have hsame : ((AuthenticatePlace.findRecovery challenge user).run crypto db input).1 =
                  db := by
                simp only [AuthenticatePlace.run]
                repeat' split
                all_goals rfl
              show MfaWrote crypto db _ _
                ((AuthenticatePlace.findRecovery challenge user).run crypto db input).1
              rw [hsame]
              exact MfaWrote.nothing _ _
          | countAttempt challenge => exact MfaWrote.counted input challenge
          | consume challenge user verification =>
              exact settleMfa_cases (MfaWrote.nothing _ _) fun db' h =>
                MfaWrote.consumed input challenge user verification h
      | factor input place =>
          cases place with
          | overview => exact MfaWrote.nothing _ _
          | read =>
              have hsame : (FactorPlace.read.run crypto db input).1 = db := by
                simp only [FactorPlace.run]
                repeat' split
                all_goals rfl
              show MfaWrote crypto db _ _ (FactorPlace.read.run crypto db input).1
              rw [hsame]
              exact MfaWrote.nothing _ _
          | useCounter methodId counter =>
              simp only [MfaCall.advance, FactorPlace.run]
              split
              · exact MfaWrote.nothing _ _
              · next db' h => exact MfaWrote.counterUsed input methodId counter h
          | commit methodId =>
              refine settleMfa_cases (MfaWrote.nothing _ _) fun db' h => ?_
              unfold FactorInput.commit at h
              split at h
              · next codes huse => exact MfaWrote.regenerated input methodId codes huse h
              · next huse => exact MfaWrote.disabled input methodId huse h
      | begin input place =>
          cases place with
          | findActive =>
              have hsame : (BeginPlace.findActive.run db input).1 = db := by
                simp only [BeginPlace.run]
                split
                · rfl
                · rfl
              show MfaWrote crypto db _ _ (BeginPlace.findActive.run db input).1
              rw [hsame]
              exact MfaWrote.nothing _ _
          | enroll => exact MfaWrote.enrolled input
      | confirm input place =>
          cases place with
          | read =>
              have hsame : (ConfirmPlace.read.run crypto db input).1 = db := by
                simp only [ConfirmPlace.run]
                repeat' split
                all_goals rfl
              show MfaWrote crypto db _ _ (ConfirmPlace.read.run crypto db input).1
              rw [hsame]
              exact MfaWrote.nothing _ _
          | activate methodId counter =>
              exact settleMfa_cases (MfaWrote.nothing _ _) fun db' h =>
                MfaWrote.activated input methodId counter h

/-- What a step of a call leaves. -/
theorem mfaShared_of_advance {w w' : MfaWorld} {i : Nat} {answer : MfaAnswer} {call : MfaCall}
    (hstep : (mfa crypto).step w (.advance i answer) w') (hcall : w.locals[i]? = some call) :
    w'.shared = (call.advance crypto w.shared answer).1 := by
  obtain ⟨found, hfound, hrest⟩ := Option.bind_eq_some_iff.mp hstep
  rw [hcall] at hfound
  obtain ⟨next, hnext, rfl⟩ := Option.map_eq_some_iff.mp hrest
  rw [← Option.some.inj hfound] at hnext
  rw [← Option.some.inj hnext]

/-! ## The tables after a step -/

/-- What a step leaves of the authenticators. -/
inductive MethodsWrote (db db' : MfaTables) : Prop where
  | same (h : db'.methods = db.methods)
  | counterUsed (row : MfaMethod) (counter : Int) (hrow : db.method? row.id = some row)
      (haccepts : row.accepts counter = true)
      (h : db'.methods = KeyedList.put MfaMethod.id (row.used counter) db.methods)
  | enrolled (userId secretEncrypted : String) (now : Int)
      (h : db'.methods = (db.enroll userId secretEncrypted now).methods)
      (hserial : db'.serial = db.serial + 1)
  | activated (row : MfaMethod) (counter : Int) (hrow : db.method? row.id = some row)
      (hpending : row.status = .pending)
      (h : db'.methods = KeyedList.put MfaMethod.id (row.activated counter) db.methods)
  | disabled (row : MfaMethod) (hrow : db.method? row.id = some row)
      (h : db'.methods = KeyedList.put MfaMethod.id row.retired db.methods)

/-- What a step leaves of the recovery codes. -/
inductive CodesWrote (db db' : MfaTables) : Prop where
  | same (h : db'.codes = db.codes)
  | used (row : RecoveryCode) (now : Int) (hrow : db.code? row.id = some row)
      (hfree : row.usedAt = none)
      (h : db'.codes = KeyedList.put RecoveryCode.id (row.used now) db.codes)
  | replaced (userId : String) (hashes : List String)
      (h : db'.codes = (db.codes.filter fun row => row.userId ≠ userId) ++
        db.recoveryRows userId hashes)
      (hserial : db'.serial = db.serial + hashes.length)

/-- What a step leaves of the challenges. -/
inductive ChallengesWrote (db db' : MfaTables) : Prop where
  | same (h : db'.challenges = db.challenges)
  | created (row : LoginChallenge) (hid : row.id = db.serial) (hfresh : row.attempts = 0)
      (h : db'.challenges = db.challenges ++ [row]) (hserial : db'.serial = db.serial + 1)
  | counted (challengeId : Nat) (h : db'.challenges = (db.countAttempt challengeId).challenges)
  | closed (row : LoginChallenge) (now : Int) (hrow : db.challenge? row.id = some row)
      (hopen : row.isConsumable now = true)
      (h : db'.challenges = KeyedList.put LoginChallenge.id (row.consumed now) db.challenges)

/-- What a step leaves of the three tables, and ids are only given out. -/
structure TablesWrote (db db' : MfaTables) : Prop where
  methods : MethodsWrote db db'
  codes : CodesWrote db db'
  challenges : ChallengesWrote db db'
  serial : db.serial ≤ db'.serial

/-- The row that is found at its id. -/
theorem method?_self {methodId : Nat} {row : MfaMethod} (h : db.method? methodId = some row) :
    db.method? row.id = some row := by
  rw [(KeyedList.find_eq_some h).2]
  exact h

theorem challenge?_self {challengeId : Nat} {row : LoginChallenge}
    (h : db.challenge? challengeId = some row) : db.challenge? row.id = some row := by
  rw [(KeyedList.find_eq_some h).2]
  exact h

theorem code?_self {recoveryCodeId : Nat} {row : RecoveryCode}
    (h : db.code? recoveryCodeId = some row) : db.code? row.id = some row := by
  rw [(KeyedList.find_eq_some h).2]
  exact h

theorem tablesWrote_consume {challengeId : Nat} {userId : String} {now : Int}
    {verification : Verification} (h : db.consume challengeId userId now verification = some db') :
    TablesWrote db db' := by
  obtain ⟨closed, hclosed, hused⟩ := consume_eq_some h
  obtain ⟨row, hrow, hopen, rfl⟩ := closeChallenge_eq_some hclosed
  rcases hused with ⟨counter, methodId, -, hused⟩ | ⟨recoveryCodeId, -, hused⟩
  · obtain ⟨method, hmethod, haccepts, rfl⟩ := useCounter_eq_some hused
    exact ⟨.counterUsed method counter (method?_self hmethod) haccepts rfl, .same rfl,
      .closed row now (challenge?_self hrow) hopen rfl, le_rfl⟩
  · obtain ⟨code, hcode, hfree, rfl⟩ := useRecoveryCode_eq_some hused
    exact ⟨.same rfl, .used code now (code?_self hcode) hfree rfl,
      .closed row now (challenge?_self hrow) hopen rfl, le_rfl⟩

theorem MfaWrote.tables {answer : MfaAnswer} {call : MfaCall}
    (h : MfaWrote crypto db answer call db') : TablesWrote db db' := by
  cases h with
  | nothing => exact ⟨.same rfl, .same rfl, .same rfl, le_rfl⟩
  | counted input challenge => exact ⟨.same rfl, .same rfl, .counted challenge.id rfl, le_rfl⟩
  | consumed input challenge user verification h => exact tablesWrote_consume h
  | counterUsed input methodId counter h =>
      obtain ⟨row, hrow, haccepts, rfl⟩ := useCounter_eq_some h
      exact ⟨.counterUsed row counter (method?_self hrow) haccepts rfl, .same rfl, .same rfl, le_rfl⟩
  | regenerated input methodId codes huse h =>
      have hdb := replaceRecoveryCodes_eq_some h
      rw [hdb]
      exact ⟨.same rfl, .replaced _ _ rfl rfl, .same rfl, Nat.le_add_right _ _⟩
  | disabled input methodId huse h =>
      obtain ⟨row, hrow, hreplaced⟩ := disable_eq_some h
      rw [replaceRecoveryCodes_eq_some hreplaced]
      exact ⟨.disabled row (method?_self hrow) rfl, .replaced _ _ rfl rfl, .same rfl,
        Nat.le_add_right _ _⟩
  | enrolled input =>
      exact ⟨.enrolled _ _ _ rfl rfl, .same rfl, .same rfl, Nat.le_add_right _ _⟩
  | activated input methodId counter h =>
      obtain ⟨row, hrow, -, hpending, hreplaced⟩ := activate_eq_some h
      rw [replaceRecoveryCodes_eq_some hreplaced]
      exact ⟨.activated row counter (method?_self hrow) hpending rfl, .replaced _ _ rfl rfl,
        .same rfl, Nat.le_add_right _ _⟩

/-- What every step of the system leaves of the three tables. -/
theorem tablesWrote_step {w w' : MfaWorld} {ev : MfaEvent} (hstep : (mfa crypto).step w ev w') :
    TablesWrote w.shared w'.shared := by
  rcases Program.step_cases hstep with ⟨e, -, rfl⟩ | ⟨call, -, -, rfl⟩ |
    ⟨i, answer, call, sh, next, rfl, hcall, -, -⟩
  · cases e with
    | users rows => exact ⟨.same rfl, .same rfl, .same rfl, le_rfl⟩
    | providers live => exact ⟨.same rfl, .same rfl, .same rfl, le_rfl⟩
    | login tokenHash userId identityProviderId expiresAt =>
        refine settleMfa_cases (P := fun db' => TablesWrote w.shared db')
          ⟨.same rfl, .same rfl, .same rfl, le_rfl⟩ fun db' h => ?_
        unfold MfaTables.createLoginChallenge at h
        split at h
        · cases h
        · rw [← Option.some.inj h]
          exact ⟨.same rfl, .same rfl, .created _ rfl rfl rfl rfl, Nat.le_add_right _ _⟩
  · exact ⟨.same rfl, .same rfl, .same rfl, le_rfl⟩
  · rw [mfaShared_of_advance hstep hcall]
    exact (mfaWrote_advance crypto w.shared answer call).tables

/-! ## What the database keeps -/

/-- Ids are unique and below the next one, and a pending authenticator was never used. -/
structure MfaKeyed (db : MfaTables) : Prop where
  methods : KeyedList.Distinct MfaMethod.id db.methods
  methodIds : ∀ row ∈ db.methods, row.id < db.serial
  pending : ∀ row ∈ db.methods, row.status = .pending → row.lastUsedCounter = none
  codes : KeyedList.Distinct RecoveryCode.id db.codes
  codeIds : ∀ row ∈ db.codes, row.id < db.serial
  challenges : KeyedList.Distinct LoginChallenge.id db.challenges
  challengeIds : ∀ row ∈ db.challenges, row.id < db.serial

/-- A row that `serial` numbers is new. -/
theorem find_serial {Record : Type} {key : Record → Nat} {rows : List Record}
    (h : ∀ row ∈ rows, key row < db.serial) : KeyedList.find key db.serial rows = none := by
  rw [KeyedList.find_eq_none]
  intro row hrow heq
  have hlt := h row hrow
  omega

theorem MethodsWrote.keyed (hkeyed : MfaKeyed db) (hserial : db.serial ≤ db'.serial)
    (h : MethodsWrote db db') :
    KeyedList.Distinct MfaMethod.id db'.methods ∧ (∀ row ∈ db'.methods, row.id < db'.serial) ∧
      ∀ row ∈ db'.methods, row.status = .pending → row.lastUsedCounter = none := by
  have hids : ∀ row ∈ db.methods, row.id < db'.serial :=
    fun row hrow => lt_of_lt_of_le (hkeyed.methodIds row hrow) hserial
  cases h with
  | same h =>
      rw [h]
      exact ⟨hkeyed.methods, hids, hkeyed.pending⟩
  | counterUsed old counter hold haccepts h =>
      have hmem : old ∈ db.methods := (KeyedList.find_eq_some hold).1
      rw [h]
      refine ⟨KeyedList.distinct_put hkeyed.methods, fun row hrow => ?_, fun row hrow hpending => ?_⟩
      · rcases KeyedList.mem_put hrow with rfl | ⟨hrow, -⟩
        · exact hids old hmem
        · exact hids row hrow
      · rcases KeyedList.mem_put hrow with rfl | ⟨hrow, -⟩
        · simp only [MfaMethod.accepts, Bool.and_eq_true, decide_eq_true_eq] at haccepts
          have hactive : (old.used counter).status = .active := haccepts.1
          rw [hactive] at hpending
          cases hpending
        · exact hkeyed.pending row hrow hpending
  | enrolled userId secretEncrypted now h hserial' =>
      rw [h]
      refine ⟨?_, fun row hrow => ?_, fun row hrow hpending => ?_⟩
      · refine KeyedList.distinct_append_new ?_ ?_
        · exact KeyedList.distinct_updateMany (by intro row; rfl) hkeyed.methods
        · refine find_serial fun row hrow => ?_
          rcases KeyedList.mem_updateMany hrow with ⟨hold, -⟩ | ⟨old, hold, -, rfl⟩
          · exact hkeyed.methodIds row hold
          · exact hkeyed.methodIds old hold
      · rcases List.mem_append.mp hrow with hrow | hnew
        · rcases KeyedList.mem_updateMany hrow with ⟨hold, -⟩ | ⟨old, hold, -, rfl⟩
          · exact hids row hold
          · exact hids old hold
        · rw [List.mem_singleton.mp hnew]
          show db.serial < db'.serial
          omega
      · rcases List.mem_append.mp hrow with hrow | hnew
        · rcases KeyedList.mem_updateMany hrow with ⟨hold, -⟩ | ⟨old, -, -, rfl⟩
          · exact hkeyed.pending row hold hpending
          · cases hpending
        · rw [List.mem_singleton.mp hnew]
          rfl
  | activated old counter hold hwas h =>
      have hmem : old ∈ db.methods := (KeyedList.find_eq_some hold).1
      rw [h]
      refine ⟨KeyedList.distinct_put hkeyed.methods, fun row hrow => ?_, fun row hrow hpending => ?_⟩
      · rcases KeyedList.mem_put hrow with rfl | ⟨hrow, -⟩
        · exact hids old hmem
        · exact hids row hrow
      · rcases KeyedList.mem_put hrow with rfl | ⟨hrow, -⟩
        · cases hpending
        · exact hkeyed.pending row hrow hpending
  | disabled old hold h =>
      have hmem : old ∈ db.methods := (KeyedList.find_eq_some hold).1
      rw [h]
      refine ⟨KeyedList.distinct_put hkeyed.methods, fun row hrow => ?_, fun row hrow hpending => ?_⟩
      · rcases KeyedList.mem_put hrow with rfl | ⟨hrow, -⟩
        · exact hids old hmem
        · exact hids row hrow
      · rcases KeyedList.mem_put hrow with rfl | ⟨hrow, -⟩
        · cases hpending
        · exact hkeyed.pending row hrow hpending

theorem CodesWrote.keyed (hkeyed : MfaKeyed db) (hserial : db.serial ≤ db'.serial)
    (h : CodesWrote db db') :
    KeyedList.Distinct RecoveryCode.id db'.codes ∧ ∀ row ∈ db'.codes, row.id < db'.serial := by
  have hids : ∀ row ∈ db.codes, row.id < db'.serial :=
    fun row hrow => lt_of_lt_of_le (hkeyed.codeIds row hrow) hserial
  cases h with
  | same h =>
      rw [h]
      exact ⟨hkeyed.codes, hids⟩
  | used old now hold hfree h =>
      have hmem : old ∈ db.codes := (KeyedList.find_eq_some hold).1
      rw [h]
      refine ⟨KeyedList.distinct_put hkeyed.codes, fun row hrow => ?_⟩
      rcases KeyedList.mem_put hrow with rfl | ⟨hrow, -⟩
      · exact hids old hmem
      · exact hids row hrow
  | replaced userId hashes h hserial' =>
      rw [h]
      refine ⟨?_, fun row hrow => ?_⟩
      · unfold KeyedList.Distinct
        rw [List.map_append, map_id_recoveryRows, List.nodup_append]
        refine ⟨hkeyed.codes.sublist (List.filter_sublist.map _), List.nodup_range', ?_⟩
        intro a ha b hb
        obtain ⟨row, hrow, rfl⟩ := List.mem_map.mp ha
        have hlt := hkeyed.codeIds row (List.mem_of_mem_filter hrow)
        rw [List.mem_range'_1] at hb
        omega
      · rcases List.mem_append.mp hrow with hrow | hnew
        · exact hids row (List.mem_of_mem_filter hrow)
        · have hlt := (id_of_mem_recoveryRows hnew).2
          omega

theorem ChallengesWrote.keyed (hkeyed : MfaKeyed db) (hserial : db.serial ≤ db'.serial)
    (h : ChallengesWrote db db') :
    KeyedList.Distinct LoginChallenge.id db'.challenges ∧
      ∀ row ∈ db'.challenges, row.id < db'.serial := by
  have hids : ∀ row ∈ db.challenges, row.id < db'.serial :=
    fun row hrow => lt_of_lt_of_le (hkeyed.challengeIds row hrow) hserial
  cases h with
  | same h =>
      rw [h]
      exact ⟨hkeyed.challenges, hids⟩
  | created new hid hfresh h hserial' =>
      rw [h]
      refine ⟨KeyedList.distinct_append_new hkeyed.challenges ?_, fun row hrow => ?_⟩
      · rw [hid]
        exact find_serial hkeyed.challengeIds
      · rcases List.mem_append.mp hrow with hrow | hnew
        · exact hids row hrow
        · rw [List.mem_singleton.mp hnew, hid]
          omega
  | counted challengeId h =>
      rw [h]
      refine ⟨KeyedList.distinct_updateMany (by intro row; rfl) hkeyed.challenges,
        fun row hrow => ?_⟩
      rcases KeyedList.mem_updateMany hrow with ⟨hold, -⟩ | ⟨old, hold, -, rfl⟩
      · exact hids row hold
      · exact hids old hold
  | closed old now hold hopen h =>
      have hmem : old ∈ db.challenges := (KeyedList.find_eq_some hold).1
      rw [h]
      refine ⟨KeyedList.distinct_put hkeyed.challenges, fun row hrow => ?_⟩
      rcases KeyedList.mem_put hrow with rfl | ⟨hrow, -⟩
      · exact hids old hmem
      · exact hids row hrow

theorem TablesWrote.keyed (hkeyed : MfaKeyed db) (h : TablesWrote db db') : MfaKeyed db' where
  methods := (h.methods.keyed hkeyed h.serial).1
  methodIds := (h.methods.keyed hkeyed h.serial).2.1
  pending := (h.methods.keyed hkeyed h.serial).2.2
  codes := (h.codes.keyed hkeyed h.serial).1
  codeIds := (h.codes.keyed hkeyed h.serial).2
  challenges := (h.challenges.keyed hkeyed h.serial).1
  challengeIds := (h.challenges.keyed hkeyed h.serial).2

theorem mfaKeyed_step {w w' : MfaWorld} {ev : MfaEvent} (hkeyed : MfaKeyed w.shared)
    (hstep : (mfa crypto).step w ev w') : MfaKeyed w'.shared :=
  (tablesWrote_step hstep).keyed hkeyed

end AvantimePlatform.Identity
