import AvantimePlatform.Identity.Sessions
import AvantimePlatform.Lib.Interleaving
import AvantimePlatform.Lib.SlidingExpiry

/-!
# When a session is valid

Calls of `resolveSessionToken`, `revokeSessionToken` and `revokeAllUserSessions` at the same
time, on the database and on the memory store.  On the database a resolve reads the row in
one step and writes the activity in a later one, from what it read; in memory it is one
step.  A log that no operation reads has, in order, the sessions that were created, the
revocations that were committed and the resolves that returned a session, each of these with
the number of entries that were there when it read.

A resolve that starts at an instant returns a session only within eight hours of its
creation, if no revocation was committed before its read, and within thirty minutes of its
creation or of another resolve that returned it.  A revoked session stays revoked, and no
idle deadline is past its end (`sessions_valid`).  The activity write may come late and from
an old reading; it moves the idle deadline to thirty minutes after a call that was admitted,
and leaves the revocation alone.
-/

namespace AvantimePlatform.Identity

open AvantimePlatform AvantimePlatform.Interleaving AvantimePlatform.SlidingExpiry
  AvantimePlatform.Transition

/-! ## The log -/

inductive SessionHappening where
  | created (tokenHash : String) (time : Int)
  | revoked (tokenHash : String)
  /-- A resolve that started at an instant and read after `readAt` happenings. -/
  | resolved (tokenHash : String) (startedAt : Int) (readAt : Nat)
deriving DecidableEq

abbrev SessionLog := List SessionHappening

/-- The session was created, or was returned by a resolve that started, at an instant. -/
def UsedAt (log : SessionLog) (tokenHash : String) (time : Int) : Prop :=
  .created tokenHash time ∈ log ∨ ∃ readAt, .resolved tokenHash time readAt ∈ log

/-- What makes a session valid for a call, by what happened before its read. -/
structure ValidFor (before : SessionLog) (tokenHash : String) (startedAt : Int) : Prop where
  within_eight_hours : ∃ time, .created tokenHash time ∈ before ∧ startedAt < time + absoluteTtlMs
  not_revoked : .revoked tokenHash ∉ before
  used_within_half_hour : Covered idleTtlMs (UsedAt before tokenHash) startedAt

/-- Every resolve that returned a session found it valid. -/
def ReturnsOnlyValid (log : SessionLog) : Prop :=
  ∀ tokenHash startedAt readAt, .resolved tokenHash startedAt readAt ∈ log →
    readAt ≤ log.length ∧ ValidFor (log.take readAt) tokenHash startedAt

theorem UsedAt.append {log : SessionLog} {tokenHash : String} {time : Int}
    (h : UsedAt log tokenHash time) (more : SessionLog) : UsedAt (log ++ more) tokenHash time := by
  rcases h with hcreated | ⟨readAt, hresolved⟩
  · exact Or.inl (List.mem_append_left _ hcreated)
  · exact Or.inr ⟨readAt, List.mem_append_left _ hresolved⟩

/-- Revocations leave what was returned as it was. -/
theorem ReturnsOnlyValid.append {log more : SessionLog} (h : ReturnsOnlyValid log)
    (hmore : ∀ tokenHash startedAt readAt, .resolved tokenHash startedAt readAt ∈ more →
      readAt ≤ log.length ∧ ValidFor (log.take readAt) tokenHash startedAt) :
    ReturnsOnlyValid (log ++ more) := by
  intro tokenHash startedAt readAt hresolved
  have hvalid : readAt ≤ log.length ∧ ValidFor (log.take readAt) tokenHash startedAt := by
    rcases List.mem_append.mp hresolved with hold | hnew
    · exact h tokenHash startedAt readAt hold
    · exact hmore tokenHash startedAt readAt hnew
  rw [List.take_append_of_le_length hvalid.1, List.length_append]
  exact ⟨hvalid.1.trans (Nat.le_add_right _ _), hvalid.2⟩

/-! ## One session -/

/-- What holds of a stored session, whichever store it is in.  `usable` says that a resolve
that finds it live returns it. -/
structure SessionKept (log : SessionLog) (now : Int) (tokenHash : String)
    (expiresAt idleExpiresAt : Int) (isRevoked : Bool) (usable : Prop) : Prop where
  created : .created tokenHash (expiresAt - absoluteTtlMs) ∈ log
  started : expiresAt - absoluteTtlMs ≤ now
  idle_le : idleExpiresAt ≤ expiresAt
  kept : usable → Kept idleTtlMs (expiresAt - absoluteTtlMs) (UsedAt log tokenHash) expiresAt
    idleExpiresAt
  revoked : .revoked tokenHash ∈ log → isRevoked = true

/-- What a call that started at an instant found out when it read a live session. -/
structure FoundLive (before : SessionLog) (tokenHash : String) (expiresAt startedAt : Int)
    (usable : Prop) : Prop where
  created : .created tokenHash (expiresAt - absoluteTtlMs) ∈ before
  started : expiresAt - absoluteTtlMs ≤ startedAt
  not_expired : startedAt < expiresAt
  not_revoked : .revoked tokenHash ∉ before
  coveredTo : usable → CoveredTo idleTtlMs (expiresAt - absoluteTtlMs) (UsedAt before tokenHash)
    startedAt

section OneSession

variable {log more : SessionLog} {now startedAt expiresAt idleExpiresAt : Int}
  {tokenHash : String} {isRevoked : Bool} {usable : Prop}

theorem FoundLive.validFor (h : FoundLive log tokenHash expiresAt startedAt usable)
    (husable : usable) : ValidFor log tokenHash startedAt where
  within_eight_hours := ⟨_, h.created, by have := h.not_expired; omega⟩
  not_revoked := h.not_revoked
  used_within_half_hour := h.coveredTo husable startedAt h.started (le_refl _)

/-- A session that passes the check. -/
theorem SessionKept.foundLive
    (h : SessionKept log now tokenHash expiresAt idleExpiresAt isRevoked usable)
    (hstarted : expiresAt - absoluteTtlMs ≤ startedAt) (hrevoked : isRevoked = false)
    (hexpires : startedAt < expiresAt) (hidle : startedAt < idleExpiresAt) :
    FoundLive log tokenHash expiresAt startedAt usable where
  created := h.created
  started := hstarted
  not_expired := hexpires
  not_revoked := by
    intro hlog
    rw [h.revoked hlog] at hrevoked
    cases hrevoked
  coveredTo := fun husable => (h.kept husable).covered_of_lt hidle

/-- A session that stays as it is, or is revoked. -/
theorem SessionKept.append
    (h : SessionKept log now tokenHash expiresAt idleExpiresAt isRevoked usable)
    {isRevoked' : Bool} (hkeep : isRevoked = true → isRevoked' = true)
    (hmore : .revoked tokenHash ∈ more → isRevoked' = true) :
    SessionKept (log ++ more) now tokenHash expiresAt idleExpiresAt isRevoked' usable where
  created := List.mem_append_left _ h.created
  started := h.started
  idle_le := h.idle_le
  kept := fun husable => (h.kept husable).mono fun _ hused => hused.append more
  revoked := by
    intro hlog
    rcases List.mem_append.mp hlog with hold | hnew
    · exact hkeep (h.revoked hold)
    · exact hmore hnew

theorem SessionKept.later
    (h : SessionKept log now tokenHash expiresAt idleExpiresAt isRevoked usable) {now' : Int}
    (hclock : now ≤ now') :
    SessionKept log now' tokenHash expiresAt idleExpiresAt isRevoked usable :=
  { h with started := h.started.trans hclock }

/-- The activity of a call that found the session live and returns it. -/
theorem SessionKept.touch
    (h : SessionKept log now tokenHash expiresAt idleExpiresAt isRevoked usable)
    (hfound : usable → CoveredTo idleTtlMs (expiresAt - absoluteTtlMs) (UsedAt log tokenHash)
      startedAt)
    (hused : usable → UsedAt log tokenHash startedAt) :
    SessionKept log now tokenHash expiresAt (min expiresAt (startedAt + idleTtlMs)) isRevoked
      usable where
  created := h.created
  started := h.started
  idle_le := min_le_left _ _
  kept := fun husable => kept_touch (hfound husable) (hused husable)
  revoked := h.revoked

/-- A session that was just created. -/
theorem sessionKept_created (hcreated : .created tokenHash startedAt ∈ log)
    (hstarted : startedAt ≤ now) (hlog : .revoked tokenHash ∉ log) :
    SessionKept log now tokenHash (startedAt + absoluteTtlMs) (startedAt + idleTtlMs) isRevoked
      usable := by
  have hsame : startedAt + absoluteTtlMs - absoluteTtlMs = startedAt := by omega
  have hless : startedAt + idleTtlMs ≤ startedAt + absoluteTtlMs := by
    have : idleTtlMs ≤ absoluteTtlMs := by decide
    omega
  exact
    { created := by rw [hsame]; exact hcreated
      started := by rw [hsame]; exact hstarted
      idle_le := hless
      kept := by
        intro _
        rw [hsame]
        exact kept_start (Or.inl hcreated) hless
      revoked := fun hrevoked => absurd hrevoked hlog }

end OneSession

/-! ## The database -/

/-- The tables, the clock and the log. -/
structure SessionServer where
  now : Int
  db : SessionDatabase
  log : SessionLog
deriving DecidableEq

/-- Where a call is. -/
inductive SessionCallState where
  | resolve (token : String)
  | read (tokenHash : String) (startedAt : Int)
  | write (row : UserSessionRow) (user : SessionUser) (startedAt : Int) (readAt : Nat)
  | revoke (token : String)
  | revokeAll (userId : String) (exceptSessionId : Option String)
deriving DecidableEq

/-- A query is answered, or it throws. -/
inductive QueryAnswer where
  | answers
  | throws
deriving DecidableEq

/-- The rows that `revokeAllUserSessions` selects; an empty id excepts nothing. -/
def isRevokedWithAll (userId : String) (exceptSessionId : Option String) (row : UserSessionRow) :
    Bool :=
  row.userId == userId &&
    match exceptSessionId with
    | some id => id == "" || row.id != id
    | none => true

namespace SessionServer

variable (sha256 : String → String)

/-- The end of a resolve that found a row live. -/
def returns (s : SessionServer) (row : UserSessionRow) (user : SessionUser) (startedAt : Int)
    (readAt : Nat) : SessionServer :=
  match row.toAppSession user with
  | some _ => { s with log := s.log ++ [.resolved row.tokenHash startedAt readAt] }
  | none => s

/-- A committed revocation. -/
def revoke (s : SessionServer) (p : UserSessionRow → Bool) : SessionServer :=
  { s with
    db := s.db.revoke p s.now
    log := s.log ++ (s.db.unrevoked p).map fun row => .revoked row.tokenHash }

/-- One step of a call. -/
def advance (s : SessionServer) (answer : QueryAnswer) :
    SessionCallState → Option (SessionServer × Option SessionCallState)
  | .resolve token =>
      if hasTokenPrefix token then some (s, some (.read (sha256 token) s.now)) else some (s, none)
  | .read tokenHash startedAt =>
      match answer with
      | .throws => some (s, none)
      | .answers =>
        match s.db.findUnique tokenHash with
        | none => some (s, none)
        | some (row, user) =>
          if row.isLive startedAt then
            if row.needsActivity startedAt then
              some (s, some (.write row user startedAt s.log.length))
            else some (s.returns row user startedAt s.log.length, none)
          else some (s, none)
  | .write row user startedAt readAt =>
      match answer with
      | .throws => some (s, none)
      | .answers =>
          some (({ s with db := s.db.writeActivity row startedAt }).returns row user startedAt readAt,
            none)
  | .revoke token =>
      match answer with
      | .throws => some (s, none)
      | .answers => some (s.revoke fun row => row.tokenHash == sha256 token, none)
  | .revokeAll userId exceptSessionId =>
      match answer with
      | .throws => some (s, none)
      | .answers => some (s.revoke (isRevokedWithAll userId exceptSessionId), none)

/-- The code of the calls; the clock moves by any number of milliseconds. -/
def sessionCalls : Program SessionServer SessionCallState Nat QueryAnswer where
  env s ms := { s with now := s.now + ms }
  initial
    | .resolve _ => true
    | .revoke _ => true
    | .revokeAll _ _ => true
    | _ => false
  advance := advance sha256

/-- Sessions that were just created, of any users, and no call in progress. -/
structure IsInitial (w : World SessionServer SessionCallState) : Prop where
  created : ∀ row ∈ w.shared.db.sessions, ∃ identity id tokenHash time lastActivityAt,
    time ≤ w.shared.now ∧ row = createdRow identity id tokenHash time lastActivityAt
  ids : KeyedList.Distinct UserSessionRow.id w.shared.db.sessions
  hashes : KeyedList.Distinct UserSessionRow.tokenHash w.shared.db.sessions
  log : w.shared.log = w.shared.db.sessions.map fun row =>
    .created row.tokenHash (row.expiresAt - absoluteTtlMs)
  locals : w.locals = []

/-- The claim of a state: what resolves returned was valid, what was revoked is revoked, and
no idle deadline is past its end. -/
structure SessionsValid (s : SessionServer) : Prop where
  returned : ReturnsOnlyValid s.log
  revoked : ∀ row ∈ s.db.sessions, .revoked row.tokenHash ∈ s.log → row.revokedAt.isSome = true
  idle_le : ∀ row ∈ s.db.sessions, row.idleExpiresAt ≤ row.expiresAt

/-! ## The invariant -/

/-- A resolve that finds the row live returns a session. -/
def Usable (db : SessionDatabase) (row : UserSessionRow) : Prop :=
  ∃ user, db.users.find? (fun user => user.id == row.userId) = some user ∧
    (row.toAppSession user).isSome = true

/-- What no call changes of a row. -/
def fixedPart (row : UserSessionRow) : UserSessionRow :=
  { row with lastActivityAt := 0, idleExpiresAt := 0, revokedAt := none }

theorem usable_congr {db : SessionDatabase} {row row' : UserSessionRow}
    (h : fixedPart row = fixedPart row') : Usable db row ↔ Usable db row' := by
  have hsame : ∀ row, Usable db row ↔ Usable db (fixedPart row) := fun _ => Iff.rfl
  rw [hsame row, hsame row', h]

structure Sound (s : SessionServer) : Prop where
  rows : ∀ row ∈ s.db.sessions, SessionKept s.log s.now row.tokenHash row.expiresAt
    row.idleExpiresAt row.revokedAt.isSome (Usable s.db row)
  ids : KeyedList.Distinct UserSessionRow.id s.db.sessions
  hashes : KeyedList.Distinct UserSessionRow.tokenHash s.db.sessions
  returned : ReturnsOnlyValid s.log

/-- What holds where a call is. -/
def Expects (s : SessionServer) : SessionCallState → Prop
  | .read tokenHash startedAt =>
      ∀ row ∈ s.db.sessions.map fixedPart, row.tokenHash = tokenHash →
        row.expiresAt - absoluteTtlMs ≤ startedAt
  | .write row user startedAt readAt =>
      readAt ≤ s.log.length ∧ fixedPart row ∈ s.db.sessions.map fixedPart ∧
        s.db.users.find? (fun user => user.id == row.userId) = some user ∧
        FoundLive (s.log.take readAt) row.tokenHash row.expiresAt startedAt (Usable s.db row)
  | _ => True

/-- A step of a call adds to the log and changes only what a row can change. -/
structure Grows (s s' : SessionServer) : Prop where
  users : s'.db.users = s.db.users
  rows : s'.db.sessions.map fixedPart = s.db.sessions.map fixedPart
  log : ∃ more, s'.log = s.log ++ more

variable {sha256} {s s' : SessionServer} {m : SessionCallState}

theorem Expects.grows (h : s.Expects m) (hgrows : Grows s s') : s'.Expects m := by
  cases m with
  | read tokenHash startedAt =>
      show ∀ row ∈ s'.db.sessions.map fixedPart, _
      rw [hgrows.rows]
      exact h
  | write row user startedAt readAt =>
      obtain ⟨hread, hrow, huser, hfound⟩ := h
      obtain ⟨more, hlog⟩ := hgrows.log
      refine ⟨?_, ?_, ?_, ?_⟩
      · rw [hlog, List.length_append]
        exact hread.trans (Nat.le_add_right _ _)
      · rw [hgrows.rows]
        exact hrow
      · rw [hgrows.users]
        exact huser
      · rw [hlog, List.take_append_of_le_length hread]
        unfold Usable
        rw [hgrows.users]
        exact hfound
  | resolve token => trivial
  | revoke token => trivial
  | revokeAll userId exceptSessionId => trivial

theorem map_fixedPart_updateMany {p : UserSessionRow → Bool} {f : UserSessionRow → UserSessionRow}
    (hf : ∀ row, fixedPart (f row) = fixedPart row) (rows : List UserSessionRow) :
    (KeyedList.updateMany p f rows).map fixedPart = rows.map fixedPart :=
  KeyedList.map_key_updateMany hf rows

/-- Rows with the same fixed parts have the same keys. -/
theorem distinct_of_fixedPart {key : UserSessionRow → String}
    (hkey : ∀ row, key (fixedPart row) = key row) {rows rows' : List UserSessionRow}
    (h : rows'.map fixedPart = rows.map fixedPart) (hd : KeyedList.Distinct key rows) :
    KeyedList.Distinct key rows' := by
  have hkeys : ∀ rows : List UserSessionRow, rows.map key = (rows.map fixedPart).map key := by
    intro rows
    rw [List.map_map]
    exact List.map_congr_left fun row _ => (hkey row).symm
  unfold KeyedList.Distinct
  rw [hkeys rows', h, ← hkeys rows]
  exact hd

theorem Sound.ids_of_grows (hs : s.Sound) (h : Grows s s') :
    KeyedList.Distinct UserSessionRow.id s'.db.sessions :=
  distinct_of_fixedPart (fun _ => rfl) h.rows hs.ids

theorem Sound.hashes_of_grows (hs : s.Sound) (h : Grows s s') :
    KeyedList.Distinct UserSessionRow.tokenHash s'.db.sessions :=
  distinct_of_fixedPart (fun _ => rfl) h.rows hs.hashes

/-! ## The steps -/

/-- What a step of a call has to keep. -/
def Keeps (s s' : SessionServer) (next : Option SessionCallState) : Prop :=
  s'.Sound ∧ (∀ m, next = some m → s'.Expects m) ∧ Grows s s'

theorem Grows.refl (s : SessionServer) : Grows s s := ⟨rfl, rfl, [], by simp⟩

theorem keeps_same (hs : s.Sound) : Keeps s s none := ⟨hs, by simp, Grows.refl s⟩

/-- The tables of a server are those of another one, with more in the log. -/
theorem Sound.append_log (hs : s.Sound) {more : SessionLog}
    (hrevoked : ∀ tokenHash, .revoked tokenHash ∉ more)
    (hreturned : ReturnsOnlyValid (s.log ++ more)) :
    ({ s with log := s.log ++ more } : SessionServer).Sound where
  rows := fun row hrow =>
    (hs.rows row hrow).append (fun h => h) fun hmore => absurd hmore (hrevoked _)
  ids := hs.ids
  hashes := hs.hashes
  returned := hreturned

theorem findUnique_eq_some {db : SessionDatabase} {tokenHash : String} {row : UserSessionRow}
    {user : SessionUser} (h : db.findUnique tokenHash = some (row, user)) :
    row ∈ db.sessions ∧ row.tokenHash = tokenHash ∧
      db.users.find? (fun user => user.id == row.userId) = some user := by
  obtain ⟨found, hfound, hrest⟩ := Option.bind_eq_some_iff.mp h
  obtain ⟨owner, howner, hpair⟩ := Option.map_eq_some_iff.mp hrest
  obtain ⟨rfl, rfl⟩ := Prod.mk.inj hpair
  obtain ⟨hmem, hhash⟩ := KeyedList.find_eq_some hfound
  exact ⟨hmem, hhash, howner⟩

theorem isLive_iff {row : UserSessionRow} {now : Int} :
    row.isLive now = true ↔
      row.revokedAt.isSome = false ∧ now < row.expiresAt ∧ now < row.idleExpiresAt := by
  unfold UserSessionRow.isLive
  rw [Bool.and_eq_true, Bool.and_eq_true, decide_eq_true_eq, decide_eq_true_eq, and_assoc]
  simp

/-- A row that a call reads and finds live. -/
theorem Sound.foundLive (hs : s.Sound) {tokenHash : String} {startedAt : Int}
    (hstarted : s.Expects (.read tokenHash startedAt)) {row : UserSessionRow}
    (hrow : row ∈ s.db.sessions) (hhash : row.tokenHash = tokenHash)
    (hlive : row.isLive startedAt = true) :
    FoundLive s.log row.tokenHash row.expiresAt startedAt (Usable s.db row) := by
  obtain ⟨hrevoked, hexpires, hidle⟩ := isLive_iff.mp hlive
  have hafter : row.expiresAt - absoluteTtlMs ≤ startedAt :=
    hstarted (fixedPart row) (List.mem_map_of_mem hrow) hhash
  exact (hs.rows row hrow).foundLive hafter hrevoked hexpires hidle

/-- The end of a resolve. -/
theorem Sound.returns (hs : s.Sound) {row : UserSessionRow} {user : SessionUser}
    {startedAt : Int} {readAt : Nat} (hread : readAt ≤ s.log.length)
    (huser : s.db.users.find? (fun user => user.id == row.userId) = some user)
    (hfound : FoundLive (s.log.take readAt) row.tokenHash row.expiresAt startedAt
      (Usable s.db row)) :
    (s.returns row user startedAt readAt).Sound ∧ Grows s (s.returns row user startedAt readAt) := by
  unfold SessionServer.returns
  split
  · next session hsession =>
    have husable : Usable s.db row := ⟨user, huser, by rw [hsession]; rfl⟩
    refine ⟨hs.append_log (by simp) (hs.returned.append ?_), rfl, rfl, _, rfl⟩
    intro tokenHash time read hnew
    have hsame : SessionHappening.resolved tokenHash time read =
        .resolved row.tokenHash startedAt readAt := List.mem_singleton.mp hnew
    obtain ⟨rfl, rfl, rfl⟩ := SessionHappening.resolved.inj hsame
    exact ⟨hread, hfound.validFor husable⟩
  · exact ⟨hs, Grows.refl s⟩

theorem keeps_read (hs : s.Sound) {tokenHash : String} {startedAt : Int}
    (hl : s.Expects (.read tokenHash startedAt)) {answer : QueryAnswer}
    {next : Option SessionCallState}
    (h : s.advance sha256 answer (.read tokenHash startedAt) = some (s', next)) :
    Keeps s s' next := by
  cases answer with
  | throws =>
      obtain ⟨rfl, rfl⟩ := Prod.mk.inj (Option.some.inj h)
      exact keeps_same hs
  | answers =>
      simp only [SessionServer.advance] at h
      split at h
      · obtain ⟨rfl, rfl⟩ := Prod.mk.inj (Option.some.inj h)
        exact keeps_same hs
      · next row user hfind =>
        obtain ⟨hrow, hhash, huser⟩ := findUnique_eq_some hfind
        split at h
        · next hlive =>
          have hfound := hs.foundLive hl hrow hhash hlive
          have hall : s.log.take s.log.length = s.log := List.take_length
          split at h
          · obtain ⟨rfl, rfl⟩ := Prod.mk.inj (Option.some.inj h)
            refine ⟨hs, fun m hm => ?_, Grows.refl s⟩
            rw [← Option.some.inj hm]
            refine ⟨le_refl _, List.mem_map_of_mem hrow, huser, ?_⟩
            rw [hall]
            exact hfound
          · obtain ⟨rfl, rfl⟩ := Prod.mk.inj (Option.some.inj h)
            have hfound' : FoundLive (s.log.take s.log.length) row.tokenHash row.expiresAt
                startedAt (Usable s.db row) := by
              rw [hall]
              exact hfound
            obtain ⟨hsound, hgrows⟩ := hs.returns (le_refl _) huser hfound'
            exact ⟨hsound, by simp, hgrows⟩
        · obtain ⟨rfl, rfl⟩ := Prod.mk.inj (Option.some.inj h)
          exact keeps_same hs

/-- The activity write of a call that found the session live and returns it, if it returns
anything. -/
theorem Sound.writeActivity (hs : s.Sound) {read : UserSessionRow} {startedAt : Int}
    (hread : fixedPart read ∈ s.db.sessions.map fixedPart)
    (hcovered : Usable s.db read → CoveredTo idleTtlMs (read.expiresAt - absoluteTtlMs)
      (UsedAt s.log read.tokenHash) startedAt)
    (hused : Usable s.db read → UsedAt s.log read.tokenHash startedAt) :
    ({ s with db := s.db.writeActivity read startedAt } : SessionServer).Sound ∧
      Grows s { s with db := s.db.writeActivity read startedAt } := by
  have hfixed : ∀ row, fixedPart (read.touched startedAt row) = fixedPart row := fun _ => rfl
  obtain ⟨stored, hstored, hsame⟩ := List.mem_map.mp hread
  have hgrows : Grows s { s with db := s.db.writeActivity read startedAt } :=
    ⟨rfl, map_fixedPart_updateMany hfixed _, [], by simp⟩
  refine ⟨?_, hgrows⟩
  exact
    { rows := by
        intro row hrow
        rcases KeyedList.mem_updateMany hrow with ⟨hold, -⟩ | ⟨old, hold, hselected, rfl⟩
        · exact hs.rows row hold
        · -- The row that is written is the one that was read.
          have hid : old.id = read.id := by
            rw [Bool.and_eq_true, beq_iff_eq] at hselected
            exact hselected.1
          have hstoredId : stored.id = read.id := by
            show (fixedPart stored).id = (fixedPart read).id
            rw [hsame]
          have heq : old = stored :=
            KeyedList.eq_of_key hs.ids hold hstored (hid.trans hstoredId.symm)
          rw [← heq] at hsame
          have hexpires : old.expiresAt = read.expiresAt := by
            show (fixedPart old).expiresAt = (fixedPart read).expiresAt
            rw [hsame]
          have hhash : old.tokenHash = read.tokenHash := by
            show (fixedPart old).tokenHash = (fixedPart read).tokenHash
            rw [hsame]
          have husable : Usable s.db old ↔ Usable s.db read := usable_congr hsame
          rw [← husable, ← hexpires, ← hhash] at hcovered
          rw [← husable, ← hhash] at hused
          have htouched := (hs.rows old hold).touch hcovered hused
          rw [hexpires] at htouched
          show SessionKept s.log s.now old.tokenHash old.expiresAt _ _ (Usable s.db old)
          rw [hexpires]
          exact htouched
      ids := hs.ids_of_grows hgrows
      hashes := hs.hashes_of_grows hgrows
      returned := hs.returned }

theorem returns_writeActivity (row : UserSessionRow) (user : SessionUser) (startedAt : Int)
    (readAt : Nat) :
    ({ s with db := s.db.writeActivity row startedAt } : SessionServer).returns row user startedAt
        readAt =
      { s.returns row user startedAt readAt with
        db := (s.returns row user startedAt readAt).db.writeActivity row startedAt } := by
  unfold SessionServer.returns
  split
  · rfl
  · rfl

theorem Grows.trans {s'' : SessionServer} (h : Grows s s') (h' : Grows s' s'') : Grows s s'' := by
  obtain ⟨more, hmore⟩ := h.log
  obtain ⟨more', hmore'⟩ := h'.log
  exact ⟨h'.users.trans h.users, h'.rows.trans h.rows, more ++ more', by
    rw [hmore', hmore, List.append_assoc]⟩

theorem keeps_write (hs : s.Sound) {row : UserSessionRow} {user : SessionUser} {startedAt : Int}
    {readAt : Nat} (hl : s.Expects (.write row user startedAt readAt)) {answer : QueryAnswer}
    {next : Option SessionCallState}
    (h : s.advance sha256 answer (.write row user startedAt readAt) = some (s', next)) :
    Keeps s s' next := by
  cases answer with
  | throws =>
      obtain ⟨rfl, rfl⟩ := Prod.mk.inj (Option.some.inj h)
      exact keeps_same hs
  | answers =>
      obtain ⟨rfl, rfl⟩ := Prod.mk.inj (Option.some.inj h)
      obtain ⟨hread, hrow, huser, hfound⟩ := hl
      obtain ⟨hsound, hgrows⟩ := hs.returns hread huser hfound
      -- First the log, then the row: the write is of a use that the log has.
      rw [returns_writeActivity]
      have hdb : (s.returns row user startedAt readAt).db = s.db := by
        unfold SessionServer.returns
        split
        · rfl
        · rfl
      have hcovered : Usable s.db row → CoveredTo idleTtlMs (row.expiresAt - absoluteTtlMs)
          (UsedAt (s.returns row user startedAt readAt).log row.tokenHash) startedAt := by
        intro husable
        obtain ⟨more, hlog⟩ := hgrows.log
        have hstart := List.take_append_drop readAt s.log
        refine (hfound.coveredTo husable).mono fun use huse => ?_
        have hbefore := huse.append (s.log.drop readAt)
        rw [hstart] at hbefore
        rw [hlog]
        exact hbefore.append more
      have hused : Usable s.db row →
          UsedAt (s.returns row user startedAt readAt).log row.tokenHash startedAt := by
        rintro ⟨owner, howner, hsome⟩
        rw [huser] at howner
        obtain rfl := Option.some.inj howner
        obtain ⟨session, hsession⟩ := Option.isSome_iff_exists.mp hsome
        unfold SessionServer.returns
        rw [hsession]
        exact Or.inr ⟨readAt, List.mem_append_right _ List.mem_cons_self⟩
      rw [← hdb] at hcovered hused
      have hrow' : fixedPart row ∈
          (s.returns row user startedAt readAt).db.sessions.map fixedPart := by
        rw [hdb]
        exact hrow
      obtain ⟨hsound', hgrows'⟩ := hsound.writeActivity hrow' hcovered hused
      exact ⟨hsound', by simp, hgrows.trans hgrows'⟩

/-- A committed revocation. -/
theorem keeps_revoke (hs : s.Sound) (p : UserSessionRow → Bool) : Keeps s (s.revoke p) none := by
  have hfixed : ∀ row : UserSessionRow,
      fixedPart { row with revokedAt := some s.now } = fixedPart row := fun _ => rfl
  have hgrows : Grows s (s.revoke p) := ⟨rfl, map_fixedPart_updateMany hfixed _, _, rfl⟩
  refine ⟨?_, by simp, hgrows⟩
  exact
    { rows := by
        intro row hrow
        rcases KeyedList.mem_updateMany hrow with ⟨hold, hnot⟩ | ⟨old, hold, hselected, rfl⟩
        · refine (hs.rows row hold).append (fun h => h) fun hmore => ?_
          -- A row that is not selected was revoked before, or is not the one in the log.
          obtain ⟨revoked, hrevoked, hsame⟩ := List.mem_map.mp hmore
          obtain ⟨hmem, hp⟩ := List.mem_filter.mp hrevoked
          have heq : revoked = row := KeyedList.eq_of_key hs.hashes hmem hold
            (SessionHappening.revoked.inj hsame)
          rw [heq, hnot] at hp
          cases hp
        · exact (hs.rows old hold).append (fun _ => rfl) fun _ => rfl
      ids := hs.ids_of_grows hgrows
      hashes := hs.hashes_of_grows hgrows
      returned := hs.returned.append (by simp) }

theorem keeps_advance (hs : s.Sound) {l : SessionCallState} (hl : s.Expects l)
    {answer : QueryAnswer} {next : Option SessionCallState}
    (h : s.advance sha256 answer l = some (s', next)) : Keeps s s' next := by
  cases l with
  | resolve token =>
      simp only [SessionServer.advance] at h
      split at h
      · obtain ⟨rfl, rfl⟩ := Prod.mk.inj (Option.some.inj h)
        refine ⟨hs, fun m hm => ?_, Grows.refl s⟩
        rw [← Option.some.inj hm]
        intro row hrow _
        obtain ⟨stored, hstored, rfl⟩ := List.mem_map.mp hrow
        exact (hs.rows stored hstored).started
      · obtain ⟨rfl, rfl⟩ := Prod.mk.inj (Option.some.inj h)
        exact keeps_same hs
  | read tokenHash startedAt => exact keeps_read hs hl h
  | write row user startedAt readAt => exact keeps_write hs hl h
  | revoke token =>
      cases answer with
      | throws =>
          obtain ⟨rfl, rfl⟩ := Prod.mk.inj (Option.some.inj h)
          exact keeps_same hs
      | answers =>
          obtain ⟨rfl, rfl⟩ := Prod.mk.inj (Option.some.inj h)
          exact keeps_revoke hs _
  | revokeAll userId exceptSessionId =>
      cases answer with
      | throws =>
          obtain ⟨rfl, rfl⟩ := Prod.mk.inj (Option.some.inj h)
          exact keeps_same hs
      | answers =>
          obtain ⟨rfl, rfl⟩ := Prod.mk.inj (Option.some.inj h)
          exact keeps_revoke hs _

theorem sound_initial {w : World SessionServer SessionCallState} (h : IsInitial w) :
    w.shared.Sound where
  rows := by
    intro row hrow
    obtain ⟨identity, id, tokenHash, time, lastActivityAt, htime, rfl⟩ := h.created row hrow
    have hcreated : .created tokenHash time ∈ w.shared.log := by
      rw [h.log]
      refine List.mem_map.mpr ⟨_, hrow, ?_⟩
      show SessionHappening.created tokenHash (time + absoluteTtlMs - absoluteTtlMs) = _
      rw [add_sub_cancel_right]
    refine sessionKept_created hcreated htime fun hrevoked => ?_
    rw [h.log] at hrevoked
    obtain ⟨_, _, hsame⟩ := List.mem_map.mp hrevoked
    cases hsame
  ids := h.ids
  hashes := h.hashes
  returned := by
    intro tokenHash startedAt readAt hresolved
    rw [h.log] at hresolved
    obtain ⟨_, _, hsame⟩ := List.mem_map.mp hresolved
    cases hsame

theorem sessionsValid_of_reachable {w : World SessionServer SessionCallState}
    (h : Reachable IsInitial (sessionCalls sha256).step w) : w.shared.SessionsValid := by
  have hinv := Program.reachable_inv (P := sessionCalls sha256) (I := Sound) (L := Expects)
    (fun w hw => ⟨sound_initial hw, by rw [hw.locals]; simp⟩)
    (fun s ms hs => ⟨
      { rows := fun row hrow => (hs.rows row hrow).later (by
          show s.now ≤ s.now + (ms : Int)
          omega)
        ids := hs.ids
        hashes := hs.hashes
        returned := hs.returned },
      fun m hm => hm.grows ⟨rfl, rfl, [], (List.append_nil s.log).symm⟩⟩)
    (fun w l _ _ hl => by
      cases l with
      | resolve token => trivial
      | revoke token => trivial
      | revokeAll userId exceptSessionId => trivial
      | read tokenHash startedAt => cases hl
      | write row user startedAt readAt => cases hl)
    (fun w i answer l s' next hs hall _ _ hmem hadv => by
      obtain ⟨hsound, hnext, hgrows⟩ := keeps_advance hs (hall l hmem) hadv
      exact ⟨hsound, hnext, fun m _ hm => hm.grows hgrows⟩) h.guarded_true
  exact
    { returned := hinv.1.returned
      revoked := fun row hrow => (hinv.1.rows row hrow).revoked
      idle_le := fun row hrow => (hinv.1.rows row hrow).idle_le }

end SessionServer

/-! ## The memory store -/

/-- The map, the clock and the log. -/
structure SessionProcess where
  now : Int
  sessions : MemorySessions
  log : SessionLog
deriving DecidableEq

/-- A call of the memory store: all of it runs without an await. -/
inductive MemorySessionCall where
  | resolve (token : String)
  | revoke (token : String)
  | revokeAll (userId : String) (exceptSessionId : Option String)
deriving DecidableEq

/-- The sessions that `revokeAllUserSessions` selects in memory. -/
def isMemoryRevokedWithAll (userId : String) (exceptSessionId : Option String)
    (row : StoredMemorySession) : Bool :=
  row.identity.userId == userId && some row.id != exceptSessionId

namespace SessionProcess

variable (sha256 : String → String)

/-- A revocation. -/
def revoke (s : SessionProcess) (p : StoredMemorySession → Bool) : SessionProcess :=
  { s with
    sessions := s.sessions.revoke p s.now
    log := s.log ++ (s.sessions.filter p).map fun row => .revoked row.tokenHash }

/-- What a call does. -/
def run (s : SessionProcess) : MemorySessionCall → SessionProcess
  | .resolve token =>
      if hasTokenPrefix token then
        match s.sessions.resolve (sha256 token) s.now with
        | (sessions, some _) =>
            { s with
              sessions := sessions
              log := s.log ++ [.resolved (sha256 token) s.now s.log.length] }
        | (sessions, none) => { s with sessions := sessions }
      else s
  | .revoke token => s.revoke fun row => row.tokenHash == sha256 token
  | .revokeAll userId exceptSessionId => s.revoke (isMemoryRevokedWithAll userId exceptSessionId)

/-- A call, some milliseconds after the last one. -/
def next (s : SessionProcess) (step : Nat × MemorySessionCall) : Option SessionProcess :=
  some (run sha256 { s with now := s.now + step.1 } step.2)

/-- Sessions that were just created, by a clock that is after 1970. -/
structure IsInitial (s : SessionProcess) : Prop where
  after_epoch : 0 < s.now
  created : ∀ row ∈ s.sessions, ∃ identity id tokenHash time deviceLabel, time ≤ s.now ∧
    row = createdMemorySession identity id tokenHash time deviceLabel
  hashes : KeyedList.Distinct StoredMemorySession.tokenHash s.sessions
  log : s.log = s.sessions.map fun row => .created row.tokenHash row.createdAt

structure SessionsValid (s : SessionProcess) : Prop where
  returned : ReturnsOnlyValid s.log
  revoked : ∀ row ∈ s.sessions, .revoked row.tokenHash ∈ s.log → row.isRevoked = true
  idle_le : ∀ row ∈ s.sessions, row.idleExpiresAt ≤ row.expiresAt

structure Sound (s : SessionProcess) : Prop where
  after_epoch : 0 < s.now
  rows : ∀ row ∈ s.sessions, SessionKept s.log s.now row.tokenHash row.expiresAt
    row.idleExpiresAt row.isRevoked True
  hashes : KeyedList.Distinct StoredMemorySession.tokenHash s.sessions
  returned : ReturnsOnlyValid s.log

variable {sha256} {s s' : SessionProcess}

theorem isLive_iff {row : StoredMemorySession} {now : Int} :
    row.isLive now = true ↔ row.isRevoked = false ∧ now < row.expiresAt ∧
      now < row.idleExpiresAt := by
  unfold StoredMemorySession.isLive
  rw [Bool.and_eq_true, Bool.and_eq_true, decide_eq_true_eq, decide_eq_true_eq, and_assoc]
  simp

theorem Sound.later (hs : s.Sound) (ms : Nat) : ({ s with now := s.now + ms } : SessionProcess).Sound where
  after_epoch := by
    have := hs.after_epoch
    show 0 < s.now + (ms : Int)
    omega
  rows := fun row hrow => (hs.rows row hrow).later (by
    show s.now ≤ s.now + (ms : Int)
    omega)
  hashes := hs.hashes
  returned := hs.returned

theorem Sound.erase (hs : s.Sound) (tokenHash : String) :
    ({ s with sessions := KeyedList.erase StoredMemorySession.tokenHash tokenHash s.sessions } :
      SessionProcess).Sound where
  after_epoch := hs.after_epoch
  rows := fun row hrow => hs.rows row (List.mem_of_mem_eraseP hrow)
  hashes := KeyedList.distinct_erase hs.hashes
  returned := hs.returned

/-- A resolve that finds the session live. -/
theorem Sound.touch (hs : s.Sound) {row : StoredMemorySession} (hrow : row ∈ s.sessions)
    (hlive : row.isLive s.now = true) :
    ({ s with
      sessions := KeyedList.put StoredMemorySession.tokenHash (row.touched s.now) s.sessions
      log := s.log ++ [.resolved row.tokenHash s.now s.log.length] } : SessionProcess).Sound := by
  obtain ⟨hrevoked, hexpires, hidle⟩ := isLive_iff.mp hlive
  have hkept := hs.rows row hrow
  have hfound : FoundLive s.log row.tokenHash row.expiresAt s.now True :=
    hkept.foundLive hkept.started hrevoked hexpires hidle
  have hlast : SessionHappening.resolved row.tokenHash s.now s.log.length ∈
      s.log ++ [.resolved row.tokenHash s.now s.log.length] :=
    List.mem_append_right _ List.mem_cons_self
  have happend : ∀ old ∈ s.sessions, SessionKept
      (s.log ++ [.resolved row.tokenHash s.now s.log.length]) s.now old.tokenHash old.expiresAt
      old.idleExpiresAt old.isRevoked True := by
    intro old hold
    exact (hs.rows old hold).append (fun h => h) fun hmore => by simp at hmore
  exact
    { after_epoch := hs.after_epoch
      rows := by
        intro new hnew
        rcases KeyedList.mem_put hnew with rfl | ⟨hold, -⟩
        · refine (happend row hrow).touch (fun _ => ?_) fun _ => Or.inr ⟨_, hlast⟩
          exact (hfound.coveredTo trivial).mono fun use huse => huse.append _
        · exact happend new hold
      hashes := KeyedList.distinct_put hs.hashes
      returned := by
        refine hs.returned.append fun tokenHash startedAt readAt hnew => ?_
        have hsame : SessionHappening.resolved tokenHash startedAt readAt =
            .resolved row.tokenHash s.now s.log.length := List.mem_singleton.mp hnew
        obtain ⟨rfl, rfl, rfl⟩ := SessionHappening.resolved.inj hsame
        rw [List.take_length]
        exact ⟨le_refl _, hfound.validFor trivial⟩ }

theorem Sound.revoke (hs : s.Sound) (p : StoredMemorySession → Bool) : (s.revoke p).Sound where
  after_epoch := hs.after_epoch
  rows := by
    intro row hrow
    rcases KeyedList.mem_updateMany hrow with ⟨hold, hnot⟩ | ⟨old, hold, -, rfl⟩
    · refine (hs.rows row hold).append (fun h => h) fun hmore => ?_
      obtain ⟨revoked, hrevoked, hsame⟩ := List.mem_map.mp hmore
      obtain ⟨hmem, hp⟩ := List.mem_filter.mp hrevoked
      have heq : revoked = row := KeyedList.eq_of_key hs.hashes hmem hold
        (SessionHappening.revoked.inj hsame)
      rw [heq, hnot] at hp
      cases hp
    · -- The clock is after 1970, so that the instant of the revocation is not 0.
      have hnow : s.now ≠ 0 := by
        have := hs.after_epoch
        omega
      have hrevoked : ({ old with revokedAt := some s.now } : StoredMemorySession).isRevoked =
          true := by
        simp [StoredMemorySession.isRevoked, hnow]
      exact (hs.rows old hold).append (fun _ => hrevoked) fun _ => hrevoked
  hashes := by
    have hkey : ∀ row : StoredMemorySession,
        ({ row with revokedAt := some s.now } : StoredMemorySession).tokenHash = row.tokenHash :=
      fun _ => rfl
    exact KeyedList.distinct_updateMany hkey hs.hashes
  returned := hs.returned.append (by simp)

theorem Sound.run (hs : s.Sound) (call : MemorySessionCall) : (s.run sha256 call).Sound := by
  cases call with
  | resolve token =>
      unfold SessionProcess.run MemorySessions.resolve
      dsimp only
      split
      · cases hfind : KeyedList.find StoredMemorySession.tokenHash (sha256 token) s.sessions with
        | none => exact hs.erase _
        | some row =>
            obtain ⟨hrow, hhash⟩ := KeyedList.find_eq_some hfind
            dsimp only
            by_cases hlive : row.isLive s.now = true
            · rw [if_pos hlive, ← hhash]
              exact hs.touch hrow hlive
            · rw [if_neg hlive]
              exact hs.erase _
      · exact hs
  | revoke token => exact hs.revoke _
  | revokeAll userId exceptSessionId => exact hs.revoke _

theorem sound_initial (h : s.IsInitial) : s.Sound where
  after_epoch := h.after_epoch
  rows := by
    intro row hrow
    obtain ⟨identity, id, tokenHash, time, deviceLabel, htime, rfl⟩ := h.created row hrow
    have hcreated : .created tokenHash time ∈ s.log := by
      rw [h.log]
      exact List.mem_map.mpr ⟨_, hrow, rfl⟩
    refine sessionKept_created hcreated htime fun hrevoked => ?_
    rw [h.log] at hrevoked
    obtain ⟨_, _, hsame⟩ := List.mem_map.mp hrevoked
    cases hsame
  hashes := h.hashes
  returned := by
    intro tokenHash startedAt readAt hresolved
    rw [h.log] at hresolved
    obtain ⟨_, _, hsame⟩ := List.mem_map.mp hresolved
    cases hsame

theorem sessionsValid_of_reachable (h : Reachable IsInitial (stepOf (next sha256)) s) :
    s.SessionsValid := by
  have hsound : s.Sound := by
    refine h.invariant Sound (fun s hs => sound_initial hs) fun s step s' hs hstep => ?_
    obtain rfl := Option.some.inj hstep
    exact (hs.later step.1).run step.2
  exact
    { returned := hsound.returned
      revoked := fun row hrow => (hsound.rows row hrow).revoked
      idle_le := fun row hrow => (hsound.rows row hrow).idle_le }

end SessionProcess

/-! ## Both stores -/

/-- In every state that the calls reach, on the database and in memory, every resolve that
returned a session found it valid, what was revoked stays revoked, and no idle deadline is
past its end. -/
theorem sessions_valid (sha256 : String → String) :
    (∀ w, Reachable SessionServer.IsInitial (SessionServer.sessionCalls sha256).step w →
      w.shared.SessionsValid) ∧
    ∀ s, Reachable SessionProcess.IsInitial (stepOf (SessionProcess.next sha256)) s →
      s.SessionsValid :=
  ⟨fun _ h => SessionServer.sessionsValid_of_reachable h,
    fun _ h => SessionProcess.sessionsValid_of_reachable h⟩

/-! ## A session in use -/

/-- An administrator without a company. -/
def administrator : SignedInIdentity where
  userId := "user"
  name := "Admin"
  company := "Avantime"
  companyId := none
  identityProviderId := none
  email := "admin@avantime.example"
  role := .admin
  platformRoles := none
  organizationRole := none
  membershipStatus := none
  membershipVersion := none
  mfaSatisfied := some true
  authenticationAt := none

/-- The administrator's row of `User`. -/
def administratorRow : SessionUser where
  id := "user"
  email := "admin@avantime.example"
  name := "Admin"
  role := .admin
  active := true
  disabledAt := none
  companyName := none
  memberships := []
  platformRoleAssignments := []

/-- A session of the administrator in the database. -/
def signedIn : World SessionServer SessionCallState where
  shared :=
    { now := 1
      db :=
        { users := [administratorRow]
          sessions := [createdRow administrator "session" "ats_token" 1 1] }
      log := [.created "ats_token" 1] }
  locals := []

theorem isInitial_signedIn : SessionServer.IsInitial signedIn where
  created := by
    intro row hrow
    rw [List.mem_singleton.mp hrow]
    exact ⟨administrator, "session", "ats_token", 1, 1, le_refl _, rfl⟩
  ids := List.nodup_singleton _
  hashes := List.nodup_singleton _
  log := by decide
  locals := rfl

/-- The same session in memory. -/
def signedInProcess : SessionProcess where
  now := 1
  sessions := [createdMemorySession administrator "session" "ats_token" 1 "Firefox · Linux"]
  log := [.created "ats_token" 1]

theorem isInitial_signedInProcess : signedInProcess.IsInitial where
  after_epoch := by decide
  created := by
    intro row hrow
    rw [List.mem_singleton.mp hrow]
    exact ⟨administrator, "session", "ats_token", 1, "Firefox · Linux", le_refl _, rfl⟩
  hashes := List.nodup_singleton _
  log := rfl

/-- After two minutes a resolve reads, the session is revoked, and the activity is written. -/
def revokedBeforeWrite : List (Event Nat SessionCallState QueryAnswer) :=
  [.env 120000, .spawn (.resolve "ats_token"), .advance 0 .answers, .advance 0 .answers,
    .spawn (.revoke "ats_token"), .advance 1 .answers, .advance 0 .answers]

/-- The resolve returns the session that it had found valid, on the database and in memory. -/
theorem sessions_valid_twoMinutes :
    ∃ (w : World SessionServer SessionCallState) (s : SessionProcess),
      (.resolved "ats_token" 120001 1 ∈ w.shared.log ∧ .revoked "ats_token" ∈ w.shared.log ∧
        w.shared.SessionsValid) ∧
      .resolved "ats_token" 120001 1 ∈ s.log ∧ s.SessionsValid := by
  obtain ⟨w, hw, hresolved, hrevoked⟩ := exists_reachable_of_exec
    (fun w : World SessionServer SessionCallState =>
      .resolved "ats_token" 120001 1 ∈ w.shared.log ∧ .revoked "ats_token" ∈ w.shared.log)
    (SessionServer.sessionCalls id).next revokedBeforeWrite isInitial_signedIn (by decide)
  obtain ⟨s, hs, hmemory⟩ := exists_reachable_of_exec
    (fun s : SessionProcess => .resolved "ats_token" 120001 1 ∈ s.log)
    (SessionProcess.next id) [(120000, .resolve "ats_token")] isInitial_signedInProcess
    (by decide)
  exact ⟨w, s, ⟨hresolved, hrevoked, (sessions_valid id).1 w hw⟩, hmemory,
    (sessions_valid id).2 s hs⟩

end AvantimePlatform.Identity
