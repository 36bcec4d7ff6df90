import AvantimePlatform.Lib.SortedSet
import AvantimePlatform.Lib.Table

/-!
# Keys that hold sorted sets

A keyspace of sorted sets with integer scores, in which a key may have a deadline.
A key whose deadline has passed is not there any more, and a key is gone with the
last member of its set.  Every command runs at an instant of the server's clock.

`members` is what a key holds at an instant, and each lemma says what it is after
a command.  A log of timed members is kept at a key when the key has all that the log
has after a moving cutoff (`KeepsLog`): dropping what is older and adding what is new
keep it so, and a key that has run out held nothing that still counts.  Nothing here names a component of the platform.
-/

namespace AvantimePlatform

/-- A sorted set and the deadline of its key. -/
structure ExpiringSet where
  members : SortedSet Int String
  expiresAt : Option Int

/-- The deadline has passed. -/
def ExpiringSet.gone (set : ExpiringSet) (now : Int) : Bool :=
  set.expiresAt.any fun deadline => decide (deadline < now)

/-- The keys of a server. -/
abbrev SortedSetKeys := Table String ExpiringSet

namespace SortedSetKeys

/-- What is stored at a key whose deadline has not passed. -/
def live (keys : SortedSetKeys) (now : Int) (key : String) : Option ExpiringSet :=
  (keys.lookup key).filter fun set => !set.gone now

/-- The sorted set at a key. -/
def members (keys : SortedSetKeys) (now : Int) (key : String) : SortedSet Int String :=
  ((keys.live now key).map ExpiringSet.members).getD SortedSet.empty

/-- `ZCARD`. -/
def zcard (keys : SortedSetKeys) (now : Int) (key : String) : Nat :=
  (keys.members now key).zcard

/-- `ZCOUNT key min +inf`. -/
def zcount (keys : SortedSetKeys) (now : Int) (key : String) (min : Int) : Nat :=
  (keys.members now key).zcount min

/-- `ZREMRANGEBYSCORE key -inf max`. -/
def zremRangeByScore (keys : SortedSetKeys) (now : Int) (key : String) (max : Int) :
    SortedSetKeys :=
  match keys.live now key with
  | none => keys.erase key
  | some set =>
    let left := set.members.zremRangeByScore max
    if left.entries = ∅ then keys.erase key else keys.insert key { set with members := left }

/-- `ZADD`.  A key that is created has no deadline. -/
def zadd (keys : SortedSetKeys) (now : Int) (key : String) (score : Int) (member : String) :
    SortedSetKeys :=
  match keys.live now key with
  | none => keys.insert key ⟨SortedSet.empty.zadd score member, none⟩
  | some set => keys.insert key { set with members := set.members.zadd score member }

/-- `PEXPIRE`. -/
def pexpire (keys : SortedSetKeys) (now : Int) (key : String) (milliseconds : Int) :
    SortedSetKeys :=
  match keys.live now key with
  | none => keys
  | some set => keys.insert key { set with expiresAt := some (now + milliseconds) }

variable (keys : SortedSetKeys) {now : Int} {key : String}

theorem live_of_lookup_ne {keys' : SortedSetKeys} {key' : String}
    (h : keys'.lookup key' = keys.lookup key') : keys'.live now key' = keys.live now key' := by
  unfold live
  rw [h]

/-! ## Other keys -/

theorem lookup_zremRangeByScore_ne {key' : String} (h : key' ≠ key) (max : Int) :
    (keys.zremRangeByScore now key max).lookup key' = keys.lookup key' := by
  unfold zremRangeByScore
  split
  · rw [Table.lookup_erase, if_neg h]
  · dsimp only
    split
    · rw [Table.lookup_erase, if_neg h]
    · rw [Table.lookup_insert, if_neg h]

theorem lookup_zadd_ne {key' : String} (h : key' ≠ key) (score : Int) (member : String) :
    (keys.zadd now key score member).lookup key' = keys.lookup key' := by
  unfold zadd
  split
  · rw [Table.lookup_insert, if_neg h]
  · rw [Table.lookup_insert, if_neg h]

theorem lookup_pexpire_ne {key' : String} (h : key' ≠ key) (milliseconds : Int) :
    (keys.pexpire now key milliseconds).lookup key' = keys.lookup key' := by
  unfold pexpire
  split
  · rfl
  · rw [Table.lookup_insert, if_neg h]

/-! ## The key itself -/

theorem members_of_live_none (h : keys.live now key = none) :
    keys.members now key = SortedSet.empty := by
  simp [members, h]

theorem members_of_live {set : ExpiringSet} (h : keys.live now key = some set) :
    keys.members now key = set.members := by
  simp [members, h]

theorem lookup_of_live {set : ExpiringSet} (h : keys.live now key = some set) :
    keys.lookup key = some set :=
  (Option.filter_eq_some_iff.mp h).1

theorem live_of_lookup {set : ExpiringSet} (h : keys.lookup key = some set)
    (hgone : set.gone now = false) : keys.live now key = some set :=
  Option.filter_eq_some_iff.mpr ⟨h, by simp [hgone]⟩

theorem live_of_gone {set : ExpiringSet} (h : keys.lookup key = some set)
    (hgone : set.gone now = true) : keys.live now key = none := by
  unfold live
  rw [h]
  exact Option.filter_eq_none_iff.mpr fun set' hset' => by simp [← Option.some.inj hset', hgone]

theorem live_insert_of_live {set : ExpiringSet} (h : keys.live now key = some set)
    (members : SortedSet Int String) :
    SortedSetKeys.live (keys.insert key { set with members := members }) now key =
      some { set with members := members } := by
  obtain ⟨-, hset⟩ := Option.filter_eq_some_iff.mp h
  have hrunning : set.gone now = false := by simpa using hset
  exact live_of_lookup _ (by rw [Table.lookup_insert, if_pos rfl]) hrunning

theorem live_insert_of_none {set : ExpiringSet} (h : set.expiresAt = none) :
    SortedSetKeys.live (keys.insert key set) now key = some set := by
  refine live_of_lookup _ (by rw [Table.lookup_insert, if_pos rfl]) ?_
  simp [ExpiringSet.gone, h]

theorem live_erase : SortedSetKeys.live (keys.erase key) now key = none := by
  unfold live
  rw [Table.lookup_erase, if_pos rfl]
  rfl

theorem entries_zremRangeByScore (max : Int) :
    ((keys.zremRangeByScore now key max).members now key).entries =
      (keys.members now key).entries.filter (max < ·.1) := by
  unfold zremRangeByScore
  split
  · next h =>
    rw [members_of_live_none _ h, members_of_live_none _ (live_erase keys)]
    simp [SortedSet.empty]
  · next set h =>
    rw [members_of_live _ h]
    dsimp only
    split
    · next hempty =>
      rw [members_of_live_none _ (live_erase keys)]
      exact hempty.symm
    · exact congrArg SortedSet.entries (members_of_live _ (live_insert_of_live keys h _))

theorem entries_zadd (score : Int) (member : String) :
    ((keys.zadd now key score member).members now key).entries =
      insert (score, member) ((keys.members now key).entries.filter (·.2 ≠ member)) := by
  unfold zadd
  split
  · next h =>
    rw [members_of_live_none _ h, members_of_live _ (live_insert_of_none keys rfl)]
    rfl
  · next set h =>
    rw [members_of_live _ h]
    exact congrArg SortedSet.entries (members_of_live _ (live_insert_of_live keys h _))

/-- After `ZADD` the key is there. -/
theorem live_zadd (score : Int) (member : String) :
    ∃ set, (keys.zadd now key score member).live now key = some set := by
  unfold zadd
  split
  · exact ⟨_, live_insert_of_none keys rfl⟩
  · next h => exact ⟨_, live_insert_of_live keys h _⟩

/-! ## A log in a sorted set -/

/-- The key holds what `log` has after the instant `now - width` and after any later one;
nothing in it is of the future, and no deadline comes before what it holds is `width`
old. -/
structure KeepsLog (keys : SortedSetKeys) (width now : Int) (key : String)
    (log : List (Int × String)) : Prop where
  same : ∀ cutoff, now - width ≤ cutoff →
    (keys.members now key).entries.filter (cutoff < ·.1) = log.toFinset.filter (cutoff < ·.1)
  past : ∀ set, keys.lookup key = some set → ∀ entry ∈ set.members.entries, entry.1 ≤ now
  deadline : ∀ set, keys.lookup key = some set → ∀ deadline, set.expiresAt = some deadline →
    ∀ entry ∈ set.members.entries, entry.1 + width ≤ deadline

section KeepsLog

variable {keys : SortedSetKeys} {width now now' : Int} {key : String} {log : List (Int × String)}

theorem keepsLog_empty (width now : Int) (key : String) :
    KeepsLog (∅ : SortedSetKeys) width now key [] where
  same := by
    intro cutoff _
    rfl
  past := by
    intro set h
    simp at h
  deadline := by
    intro set h
    simp at h

/-- A command on another key changes nothing. -/
theorem KeepsLog.of_lookup (h : KeepsLog keys width now key log) {keys' : SortedSetKeys}
    (hkey : keys'.lookup key = keys.lookup key) : KeepsLog keys' width now key log where
  same := by
    intro cutoff hcutoff
    have hmembers : keys'.members now key = keys.members now key := by
      unfold members
      rw [live_of_lookup_ne keys hkey]
    rw [hmembers]
    exact h.same cutoff hcutoff
  past := fun set hset => h.past set (hkey ▸ hset)
  deadline := fun set hset => h.deadline set (hkey ▸ hset)

theorem mem_of_members {set : ExpiringSet} (hset : keys.lookup key = some set)
    {entry : Int × String} (hentry : entry ∈ (keys.members now key).entries) :
    entry ∈ set.members.entries := by
  cases hlive : keys.live now key with
  | none =>
      rw [members_of_live_none keys hlive] at hentry
      exact absurd hentry (Finset.notMem_empty _)
  | some set' =>
      rw [members_of_live keys hlive] at hentry
      have hsame : set = set' := Option.some.inj (hset.symm.trans (lookup_of_live keys hlive))
      rw [hsame]
      exact hentry

/-- What is kept now is kept later, also when the key has run out by then. -/
theorem KeepsLog.later (h : KeepsLog keys width now key log) (hnow : now ≤ now') :
    KeepsLog keys width now' key log where
  same := by
    intro cutoff hcutoff
    have hbefore := h.same cutoff (by omega)
    rw [← hbefore]
    cases hlookup : keys.lookup key with
    | none => simp [members, live, hlookup]
    | some set =>
        by_cases hgone : set.gone now' = true
        · -- The key has run out: what it held is no later than the cutoff.
          obtain ⟨deadline, hdeadline, hpassed⟩ := (Option.any_eq_true _ _).mp hgone
          rw [decide_eq_true_eq] at hpassed
          have hold : ∀ entry ∈ (keys.members now key).entries, ¬cutoff < entry.1 := by
            intro entry hentry
            have hmem := mem_of_members hlookup hentry
            have := h.deadline set hlookup deadline hdeadline entry hmem
            omega
          rw [members_of_live_none keys (live_of_gone keys hlookup hgone),
            Finset.filter_false_of_mem hold]
          rfl
        · have hgone' : set.gone now' = false := by simpa using hgone
          have hrunning : set.gone now = false := by
            unfold ExpiringSet.gone at hgone' ⊢
            cases hdeadline : set.expiresAt with
            | none => rfl
            | some deadline =>
                rw [hdeadline] at hgone'
                simp only [Option.any_some, decide_eq_false_iff_not] at hgone' ⊢
                omega
          rw [members_of_live keys (live_of_lookup keys hlookup hgone'),
            members_of_live keys (live_of_lookup keys hlookup hrunning)]
  past := by
    intro set hset entry hentry
    have := h.past set hset entry hentry
    omega
  deadline := h.deadline

/-- The number of entries after an instant is that of the log, when no member is twice
in the log. -/
theorem KeepsLog.card_after (h : KeepsLog keys width now key log)
    (hnodup : (log.map Prod.snd).Nodup) {cutoff : Int} (hcutoff : now - width ≤ cutoff) :
    ((keys.members now key).entries.filter (cutoff < ·.1)).card =
      log.countP (fun entry => decide (cutoff < entry.1)) := by
  have hlog : log.Nodup := List.Nodup.of_map _ hnodup
  rw [h.same cutoff hcutoff, List.countP_eq_length_filter,
    ← List.toFinset_card_of_nodup (hlog.filter _), List.toFinset_filter]
  simp

/-- What is stored at the key after `ZREMRANGEBYSCORE` is part of what was there. -/
theorem lookup_zremRangeByScore {max : Int} {set : ExpiringSet}
    (h : (keys.zremRangeByScore now key max).lookup key = some set) :
    ∃ old, keys.lookup key = some old ∧ set.expiresAt = old.expiresAt ∧
      set.members.entries ⊆ old.members.entries := by
  unfold SortedSetKeys.zremRangeByScore at h
  split at h
  · simp at h
  · next old hold =>
    dsimp only at h
    split at h
    · simp at h
    · rw [Table.lookup_insert, if_pos rfl] at h
      rw [← Option.some.inj h]
      exact ⟨old, lookup_of_live keys hold, rfl, Finset.filter_subset _ _⟩

/-- Dropping what is older than the width. -/
theorem KeepsLog.zremRangeByScore (h : KeepsLog keys width now key log) {max : Int}
    (hmax : max ≤ now - width) : KeepsLog (keys.zremRangeByScore now key max) width now key log where
  same := by
    intro cutoff hcutoff
    rw [entries_zremRangeByScore, ← h.same cutoff hcutoff, Finset.filter_filter]
    refine Finset.filter_congr fun entry _ => ?_
    omega
  past := by
    intro set hset entry hentry
    obtain ⟨old, hold, -, hsub⟩ := lookup_zremRangeByScore hset
    exact h.past old hold entry (hsub hentry)
  deadline := by
    intro set hset deadline hdeadline entry hentry
    obtain ⟨old, hold, hsame, hsub⟩ := lookup_zremRangeByScore hset
    rw [hsame] at hdeadline
    exact h.deadline old hold deadline hdeadline entry (hsub hentry)

/-- Adding a new member and giving the key at least `width` to live. -/
theorem KeepsLog.zadd (h : KeepsLog keys width now key log) {member : String}
    (hnew : member ∉ log.map Prod.snd) {milliseconds : Int} (hpos : 0 ≤ milliseconds)
    (hwidth : width ≤ milliseconds) :
    KeepsLog ((keys.zadd now key now member).pexpire now key milliseconds) width now key
      (log ++ [(now, member)]) := by
  obtain ⟨set, hset⟩ : ∃ set, (keys.zadd now key now member).live now key = some set :=
    live_zadd keys now member
  have hpexpire : (keys.zadd now key now member).pexpire now key milliseconds =
      (keys.zadd now key now member).insert key
        { set with expiresAt := some (now + milliseconds) } := by
    unfold SortedSetKeys.pexpire
    rw [hset]
  have hentries : set.members.entries =
      insert (now, member) ((keys.members now key).entries.filter (·.2 ≠ member)) := by
    rw [← entries_zadd, members_of_live _ hset]
  have hlookup : ((keys.zadd now key now member).pexpire now key milliseconds).lookup key =
      some { set with expiresAt := some (now + milliseconds) } := by
    rw [hpexpire, Table.lookup_insert, if_pos rfl]
  have hpast : ∀ entry ∈ set.members.entries, entry.1 ≤ now := by
    intro entry hentry
    rw [hentries] at hentry
    rcases Finset.mem_insert.mp hentry with rfl | hold
    · exact le_refl now
    · have hmem := Finset.mem_of_mem_filter entry hold
      cases hlive : keys.live now key with
      | none =>
          rw [members_of_live_none keys hlive] at hmem
          exact absurd hmem (Finset.notMem_empty _)
      | some old => exact h.past old (lookup_of_live keys hlive) entry
                      (mem_of_members (lookup_of_live keys hlive) hmem)
  refine ⟨fun cutoff hcutoff => ?_, fun set' hset' entry hentry => ?_,
    fun set' hset' deadline hdeadline entry hentry => ?_⟩
  · have hgone : ({ set with expiresAt := some (now + milliseconds) } : ExpiringSet).gone now =
        false := by
      simp only [ExpiringSet.gone, Option.any_some, decide_eq_false_iff_not]
      omega
    rw [members_of_live _ (live_of_lookup _ hlookup hgone), hentries]
    have hfresh : (keys.members now key).entries.filter (fun entry => cutoff < entry.1) =
        ((keys.members now key).entries.filter (·.2 ≠ member)).filter (cutoff < ·.1) := by
      rw [Finset.filter_filter]
      refine Finset.filter_congr fun entry hentry => ⟨fun hlt => ⟨?_, hlt⟩, And.right⟩
      intro hmember
      have hlog : entry ∈ log.toFinset.filter (cutoff < ·.1) := by
        rw [← h.same cutoff hcutoff]
        exact Finset.mem_filter.mpr ⟨hentry, hlt⟩
      have hmem := List.mem_toFinset.mp (Finset.mem_of_mem_filter entry hlog)
      exact hnew (hmember ▸ List.mem_map_of_mem hmem)
    rw [Finset.filter_insert, ← hfresh, h.same cutoff hcutoff]
    ext entry
    by_cases hnow : cutoff < now
    · simp only [hnow, if_true, Finset.mem_insert, Finset.mem_filter, List.mem_toFinset,
        List.mem_append, List.mem_singleton]
      grind
    · simp only [hnow, if_false, Finset.mem_filter, List.mem_toFinset, List.mem_append,
        List.mem_singleton]
      grind
  · rw [hlookup] at hset'
    rw [← Option.some.inj hset'] at hentry
    exact hpast entry hentry
  · rw [hlookup] at hset'
    rw [← Option.some.inj hset'] at hentry hdeadline
    have hdue : now + milliseconds = deadline := Option.some.inj hdeadline
    have := hpast entry hentry
    omega

end KeepsLog

end SortedSetKeys

end AvantimePlatform
