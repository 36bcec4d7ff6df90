import AvantimePlatform.Lib.Happenings
import AvantimePlatform.Lib.Interleaving
import AvantimePlatform.Lib.KeyedList
import AvantimePlatform.Lib.Text

/-!
# Email verification

`createEmailVerification` and `verifyEmailToken` of `email-verification.ts`, as calls that
interleave at their statements.  The digest is a parameter, and users change as they like.

* `verified_once`: a token is verified at most once, and never after it was used or replaced.
-/

namespace AvantimePlatform.Identity

open AvantimePlatform.Interleaving AvantimePlatform.Transition

/-! ## The tables -/

structure VerifiableUser where
  id : String
  identifierNormalized : String
  active : Bool
  disabled : Bool
  emailVerifiedAt : Option Int
deriving DecidableEq

structure EmailVerificationToken where
  id : String
  tokenHash : String
  userId : String
  redirectTo : Option String
  expiresAt : Int
  usedAt : Option Int
deriving DecidableEq

structure VerificationTables where
  users : List VerifiableUser
  tokens : List EmailVerificationToken

/-- `EMAIL_VERIFICATION_TTL_MS`. -/
def emailVerificationTtlMs : Int := 1800000

def EmailVerificationToken.used (token : EmailVerificationToken) (now : Int) :
    EmailVerificationToken :=
  { token with usedAt := some now }

namespace VerificationTables

variable (db : VerificationTables)

/-- `updateMany` of the tokens of a user that are not used. -/
def useTokens (userId : String) (now : Int) : VerificationTables :=
  { db with
    tokens := KeyedList.updateMany (fun token => token.userId == userId && token.usedAt.isNone)
      (fun token => token.used now) db.tokens }

/-- The transaction of `createEmailVerification`; a hash or an id that is taken undoes it. -/
def issue (userId tokenHash : String) (redirectTo : Option String) (id : String) (now : Int) :
    Option VerificationTables :=
  if db.tokens.any fun token => token.id == id || token.tokenHash == tokenHash then none
  else
    some { db.useTokens userId now with
      tokens := (db.useTokens userId now).tokens ++
        [⟨id, tokenHash, userId, redirectTo, now + emailVerificationTtlMs, none⟩] }

/-- `WHERE "id" = … AND "usedAt" IS NULL AND "expiresAt" > …`. -/
def isOpen (id : String) (now : Int) (token : EmailVerificationToken) : Bool :=
  token.id == id && token.usedAt.isNone && decide (now < token.expiresAt)

/-- The transaction of `verifyEmailToken`; a user that is gone undoes it. -/
def verify (item : EmailVerificationToken) (now : Int) : Option VerificationTables :=
  if db.tokens.countP (isOpen item.id now) = 1 ∧ db.users.any (fun user => user.id == item.userId)
  then
    some (useTokens
      { users := db.users.map fun user =>
          if user.id = item.userId then { user with emailVerifiedAt := some now } else user
        tokens := KeyedList.updateMany (isOpen item.id now) (fun token => token.used now)
          db.tokens }
      item.userId now)
  else none

end VerificationTables

/-! ## The calls -/

/-- The two calls where they begin, and each before its transaction.  `redirectTo` is what
`safeReturnTo` leaves of it. -/
inductive VerificationCall where
  | create (identifier token : String) (redirectTo : Option String) (now : Int)
  | issue (userId tokenHash : String) (redirectTo : Option String) (now : Int)
  | verify (token : String) (now : Int)
  | consume (item : EmailVerificationToken) (now : Int)

variable (digest : String → String)

/-- A step of a call, with the id that a new token gets.  Without a next step the call ends. -/
def VerificationCall.advance (db : VerificationTables) (id : String) :
    VerificationCall → VerificationTables × Option VerificationCall
  | create identifier token redirectTo now =>
    match db.users.find? fun user => user.identifierNormalized == identifier with
    | none => (db, none)
    | some user =>
      if user.active && !user.disabled && user.emailVerifiedAt.isNone then
        (db, some (issue user.id (digest token) redirectTo now))
      else (db, none)
  | issue userId tokenHash redirectTo now =>
    ((db.issue userId tokenHash redirectTo id now).getD db, none)
  | verify token now =>
    if token = "" ∨ 256 < Text.utf16Length token then (db, none)
    else
      match db.tokens.find? fun item => item.tokenHash == digest token with
      | none => (db, none)
      | some item =>
        if item.usedAt.isNone && decide (now < item.expiresAt) &&
            db.users.any fun user => user.id == item.userId && user.active && !user.disabled then
          (db, some (consume item now))
        else (db, none)
  | consume item now => ((db.verify item now).getD db, none)

/-- The calls.  From outside, the users change. -/
def verifications : Program VerificationTables VerificationCall (List VerifiableUser) String where
  env db users := { db with users := users }
  initial call :=
    match call with
    | .create _ _ _ _ => true
    | .verify _ _ => true
    | _ => false
  advance db id call := some (call.advance digest db id)

abbrev VerificationWorld := World VerificationTables VerificationCall

abbrev VerificationEvent := Event (List VerifiableUser) VerificationCall String

/-! ## What happens -/

/-- The token that the step of a call verifies. -/
def VerificationCall.verified (db : VerificationTables) : VerificationCall → Option String
  | consume item now => if (db.verify item now).isSome then some item.id else none
  | _ => none

def verifiedIn (w : VerificationWorld) : VerificationEvent → Option String
  | .advance i _ => (w.locals[i]?).bind fun call => call.verified w.shared
  | _ => none

/-- A token that has been used, or replaced. -/
def VerificationTables.IsClosed (db : VerificationTables) (id : String) : Prop :=
  (∃ token ∈ db.tokens, token.id = id) ∧ ∀ token ∈ db.tokens, token.id = id → token.usedAt ≠ none

def TokenClosed (w : VerificationWorld) (id : String) : Prop := w.shared.IsClosed id

section Proofs

open KeyedList VerificationTables

variable {digest} {db db' : VerificationTables} {w w' : VerificationWorld}
  {event : VerificationEvent} {id userId : String}

/-- Tokens are used in place, and there are more of them in time. -/
structure TokensGrow (db db' : VerificationTables) : Prop where
  stays : ∀ token ∈ db.tokens, ∃ later ∈ db'.tokens, later.id = token.id
  comes : ∀ later ∈ db'.tokens, (∃ token ∈ db.tokens, token.id = later.id ∧
    (token.usedAt ≠ none → later.usedAt ≠ none)) ∨ ∀ token ∈ db.tokens, token.id ≠ later.id

theorem tokensGrow_refl (db : VerificationTables) : TokensGrow db db where
  stays token htoken := ⟨token, htoken, rfl⟩
  comes later hlater := Or.inl ⟨later, hlater, rfl, fun h => h⟩

theorem id_ite_used {p : Bool} {token : EmailVerificationToken} {now : Int} :
    (if p then token.used now else token).id = token.id := by
  split <;> rfl

theorem tokensGrow_updateMany {p : EmailVerificationToken → Bool} {now : Int}
    (h : db'.tokens = updateMany p (fun token => token.used now) db.tokens) :
    TokensGrow db db' where
  stays token htoken := by
    refine ⟨if p token then token.used now else token, ?_, id_ite_used⟩
    rw [h]
    exact List.mem_map_of_mem htoken
  comes later hlater := by
    rw [h] at hlater
    obtain ⟨token, htoken, rfl⟩ := List.mem_map.mp hlater
    refine Or.inl ⟨token, htoken, id_ite_used.symm, fun hused => ?_⟩
    split
    · exact Option.some_ne_none now
    · exact hused

theorem TokensGrow.trans {db'' : VerificationTables} (h : TokensGrow db db')
    (h' : TokensGrow db' db'') : TokensGrow db db'' where
  stays token htoken := by
    obtain ⟨later, hlater, hid⟩ := h.stays token htoken
    obtain ⟨last, hlast, hid'⟩ := h'.stays later hlater
    exact ⟨last, hlast, hid'.trans hid⟩
  comes last hlast := by
    rcases h'.comes last hlast with ⟨later, hlater, hid, hused⟩ | hnew
    · rcases h.comes later hlater with ⟨token, htoken, hid', hused'⟩ | hnew
      · exact Or.inl ⟨token, htoken, hid'.trans hid, fun hold => hused (hused' hold)⟩
      · refine Or.inr fun token htoken hsame => hnew token htoken (hsame.trans hid.symm)
    · refine Or.inr fun token htoken hsame => ?_
      obtain ⟨later, hlater, hid⟩ := h.stays token htoken
      exact hnew later hlater (hid.trans hsame)

/-- What is used stays used. -/
theorem TokensGrow.closed (h : TokensGrow db db') (hclosed : db.IsClosed id) :
    db'.IsClosed id := by
  obtain ⟨⟨token, htoken, hid⟩, hused⟩ := hclosed
  constructor
  · obtain ⟨later, hlater, hsame⟩ := h.stays token htoken
    exact ⟨later, hlater, hsame.trans hid⟩
  · intro later hlater hlaterId
    rcases h.comes later hlater with ⟨earlier, hearlier, hsame, hkeep⟩ | hnew
    · exact hkeep (hused earlier hearlier (hsame.trans hlaterId))
    · exact absurd (hid.trans hlaterId.symm) (hnew token htoken)

theorem tokensGrow_useTokens (db : VerificationTables) (userId : String) (now : Int) :
    TokensGrow db (db.useTokens userId now) := tokensGrow_updateMany rfl

theorem tokensGrow_issue {tokenHash : String} {redirectTo : Option String} {now : Int}
    (h : db.issue userId tokenHash redirectTo id now = some db') :
    TokensGrow db db' := by
  unfold issue at h
  split at h
  · cases h
  · next hfree =>
      have hid : ∀ token ∈ db.tokens, token.id ≠ id := fun token htoken hsame =>
        hfree (List.any_eq_true.mpr ⟨token, htoken, by simp [hsame]⟩)
      rw [← Option.some.inj h]
      have hgrow := tokensGrow_useTokens db userId now
      refine ⟨fun token htoken => ?_, fun later hlater => ?_⟩
      · obtain ⟨later, hlater, hsame⟩ := hgrow.stays token htoken
        exact ⟨later, List.mem_append_left _ hlater, hsame⟩
      · rcases List.mem_append.mp hlater with hold | hnew
        · exact hgrow.comes later hold
        · rw [List.mem_singleton.mp hnew]
          exact Or.inr hid

theorem distinct_of_map {f : EmailVerificationToken → EmailVerificationToken}
    (hf : ∀ token, (f token).id = token.id) {tokens : List EmailVerificationToken}
    (hd : Distinct EmailVerificationToken.id tokens) :
    Distinct EmailVerificationToken.id (tokens.map f) := by
  unfold Distinct at hd ⊢
  rw [List.map_map, show EmailVerificationToken.id ∘ f = EmailVerificationToken.id from funext hf]
  exact hd

theorem distinct_issue {tokenHash : String} {redirectTo : Option String} {now : Int}
    (hd : Distinct EmailVerificationToken.id db.tokens)
    (h : db.issue userId tokenHash redirectTo id now = some db') :
    Distinct EmailVerificationToken.id db'.tokens := by
  unfold issue at h
  split at h
  · cases h
  · next hfree =>
      rw [← Option.some.inj h]
      have hused : Distinct EmailVerificationToken.id (db.useTokens userId now).tokens :=
        distinct_of_map (fun _ => id_ite_used) hd
      refine distinct_append_new hused (find_eq_none.mpr fun later hlater hsame => ?_)
      obtain ⟨token, htoken, rfl⟩ := List.mem_map.mp hlater
      have hid : token.id = id := id_ite_used.symm.trans hsame
      exact hfree (List.any_eq_true.mpr ⟨token, htoken, by simp [hid]⟩)

/-- What a transaction of `verifyEmailToken` does that commits. -/
theorem verify_cases {item : EmailVerificationToken} {now : Int}
    (hd : Distinct EmailVerificationToken.id db.tokens) (h : db.verify item now = some db') :
    TokensGrow db db' ∧ Distinct EmailVerificationToken.id db'.tokens ∧
      (∃ token ∈ db.tokens, token.id = item.id ∧ token.usedAt = none) ∧
      ∀ later ∈ db'.tokens, later.id = item.id → later.usedAt ≠ none := by
  unfold verify at h
  split at h
  · next hfound =>
      obtain ⟨token, htoken, hopen⟩ := List.countP_pos_iff.mp (hfound.1 ▸ Nat.one_pos :
        0 < db.tokens.countP (isOpen item.id now))
      have hparts := hopen
      simp only [isOpen, Bool.and_eq_true, beq_iff_eq, Option.isNone_iff_eq_none] at hparts
      rw [← Option.some.inj h]
      have hmarked : TokensGrow db
          { users := db.users.map fun user =>
              if user.id = item.userId then { user with emailVerifiedAt := some now } else user
            tokens := updateMany (isOpen item.id now) (fun token => token.used now) db.tokens } :=
        tokensGrow_updateMany rfl
      refine ⟨hmarked.trans (tokensGrow_useTokens _ item.userId now),
        distinct_of_map (fun _ => id_ite_used) (distinct_of_map (fun _ => id_ite_used) hd),
        ⟨token, htoken, hparts.1⟩, ?_⟩
      intro last hlast hid
      obtain ⟨later, hlater, rfl⟩ := List.mem_map.mp hlast
      obtain ⟨earlier, hearlier, rfl⟩ := List.mem_map.mp hlater
      have hsame : earlier.id = item.id :=
        (id_ite_used.trans id_ite_used).symm.trans hid
      -- The open token is the only one with its id.
      obtain rfl := eq_of_key hd hearlier htoken (hsame.trans hparts.1.1.symm)
      rw [if_pos hopen]
      split
      · exact Option.some_ne_none now
      · exact Option.some_ne_none now
  · cases h

/-! ## Runs -/

/-- What a step does: what is used stays used, and what is verified is used then. -/
structure VerificationStep (db db' : VerificationTables) (verified : Option String) : Prop where
  grow : TokensGrow db db'
  keyed : Distinct EmailVerificationToken.id db'.tokens
  verified : ∀ id, verified = some id → ¬db.IsClosed id ∧ db'.IsClosed id

theorem verificationStep_refl (hd : Distinct EmailVerificationToken.id db.tokens) :
    VerificationStep db db none where
  grow := tokensGrow_refl db
  keyed := hd
  verified := nofun

theorem verificationStep_issue (hd : Distinct EmailVerificationToken.id db.tokens)
    (userId tokenHash : String) (redirectTo : Option String) (now : Int) :
    VerificationStep db ((db.issue userId tokenHash redirectTo id now).getD db) none := by
  cases hissue : db.issue userId tokenHash redirectTo id now with
  | none => exact verificationStep_refl hd
  | some db' => exact ⟨tokensGrow_issue hissue, distinct_issue hd hissue, nofun⟩

theorem verificationStep_consume (hd : Distinct EmailVerificationToken.id db.tokens)
    (item : EmailVerificationToken) (now : Int) :
    VerificationStep db ((db.verify item now).getD db)
      (if (db.verify item now).isSome then some item.id else none) := by
  cases hverify : db.verify item now with
  | none => exact verificationStep_refl hd
  | some db' =>
      obtain ⟨hgrow, hdistinct, ⟨token, htoken, hid, hunused⟩, hclosed⟩ := verify_cases hd hverify
      refine ⟨hgrow, hdistinct, fun id h => ?_⟩
      obtain rfl := Option.some.inj h
      obtain ⟨later, hlater, hsame⟩ := hgrow.stays token htoken
      exact ⟨fun hused => hused.2 token htoken hid hunused,
        ⟨later, hlater, hsame.trans hid⟩, hclosed⟩

theorem verificationStep_call (hd : Distinct EmailVerificationToken.id db.tokens)
    (call : VerificationCall) :
    VerificationStep db (call.advance digest db id).1 (call.verified db) := by
  cases call with
  | create identifier token redirectTo now =>
      have hsame : (VerificationCall.advance digest db id
          (.create identifier token redirectTo now)).1 = db := by
        unfold VerificationCall.advance
        dsimp only
        split
        · rfl
        · split <;> rfl
      rw [hsame]
      exact verificationStep_refl hd
  | verify token now =>
      have hsame : (VerificationCall.advance digest db id (.verify token now)).1 = db := by
        unfold VerificationCall.advance
        dsimp only
        split
        · rfl
        · split
          · rfl
          · split <;> rfl
      rw [hsame]
      exact verificationStep_refl hd
  | issue userId tokenHash redirectTo now =>
      exact verificationStep_issue hd userId tokenHash redirectTo now
  | consume item now => exact verificationStep_consume hd item now

/-- The ids of the tokens are distinct. -/
def TokensKeyed (w : VerificationWorld) : Prop :=
  Distinct EmailVerificationToken.id w.shared.tokens

theorem verificationStep (hkeyed : TokensKeyed w) (hstep : (verifications digest).step w event w') :
    VerificationStep w.shared w'.shared (verifiedIn w event) := by
  rcases Program.step_cases hstep with ⟨users, rfl, rfl⟩ | ⟨call, rfl, -, rfl⟩ |
    ⟨i, id, call, db', next, rfl, hcall, hadvance, rfl⟩
  · have hsame := verificationStep_refl hkeyed
    exact ⟨⟨hsame.grow.stays, hsame.grow.comes⟩, hsame.keyed, hsame.verified⟩
  · exact verificationStep_refl hkeyed
  · have hdb : db' = (call.advance digest w.shared id).1 :=
      (congrArg Prod.fst (Option.some.inj hadvance)).symm
    rw [verifiedIn, hcall, Option.bind_some, hdb]
    exact verificationStep_call hkeyed call

/-- Along a run no token is verified twice, and none behind a state in which it has been used or
replaced, whatever the calls had read of it before. -/
theorem verified_once {run : List (VerificationEvent × VerificationWorld)} (hkeyed : TokensKeyed w)
    (hrun : Run (verifications digest).step w run) :
    (happenings verifiedIn w run).Nodup ∧ NeverAfterClosed verifiedIn TokenClosed w run := by
  have hinv : ∀ w event w', TokensKeyed w → (verifications digest).step w event w' →
      TokensKeyed w' := fun _ _ _ hw hstep => (verificationStep hw hstep).keyed
  have hkeep : ∀ w event w' id, TokensKeyed w → (verifications digest).step w event w' →
      TokenClosed w id → TokenClosed w' id :=
    fun _ _ _ _ hw hstep hclosed => (verificationStep hw hstep).grow.closed hclosed
  have hopen : ∀ w event w' id, TokensKeyed w → (verifications digest).step w event w' →
      verifiedIn w event = some id → ¬TokenClosed w id :=
    fun _ _ _ id hw hstep h => ((verificationStep hw hstep).verified id h).1
  have hcloses : ∀ w event w' id, TokensKeyed w → (verifications digest).step w event w' →
      verifiedIn w event = some id → TokenClosed w' id :=
    fun _ _ _ id hw hstep h => ((verificationStep hw hstep).verified id h).2
  exact ⟨nodup_happenings hinv hkeep hopen hcloses hrun hkeyed,
    neverAfterClosed_of_step hinv hkeep hopen hrun hkeyed⟩

end Proofs

/-! ## A token that two calls verify -/

def unverifiedUser : VerificationWorld where
  shared := ⟨[⟨"ada", "ada@acme.lv", true, false, none⟩], []⟩
  locals := []

/-- A token is issued, and two calls find it before either consumes it. -/
def verifyTwice : List VerificationEvent :=
  [.spawn (.create "ada@acme.lv" "secret" none 0), .advance 0 "", .advance 0 "token-1",
    .spawn (.verify "secret" 1), .spawn (.verify "secret" 2), .advance 0 "", .advance 1 "",
    .advance 0 "", .advance 0 ""]

theorem verified_once_sample :
    happenings verifiedIn unverifiedUser (trace (verifications id).next unverifiedUser verifyTwice) =
        ["token-1"] ∧
      NeverAfterClosed verifiedIn TokenClosed unverifiedUser
        (trace (verifications id).next unverifiedUser verifyTwice) := by
  have hkeyed : TokensKeyed unverifiedUser := List.nodup_nil
  exact ⟨by decide, (verified_once hkeyed (run_trace unverifiedUser verifyTwice)).2⟩

end AvantimePlatform.Identity
