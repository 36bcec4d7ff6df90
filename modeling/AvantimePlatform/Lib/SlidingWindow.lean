import AvantimePlatform.Lib.SortedSetKeys

/-!
# Limits in a sliding window

A limiter is asked at an instant whether a call may go on.  A call has a key, and a
fresh member that tells it apart from all others.  What a limiter should do is given by
a rule: from the instants of the calls of the same key that were accepted before.

* `Rule.run_filter`: under a rule, calls on other keys do not matter.
* `Rule.windowHolds`: when a rule accepts a call only with fewer than `limit` accepted
  calls in the last `width`, then no accepted call has more than `limit` calls in the
  window that ends with it.
* `run_eq_of_simulation`: a limiter that keeps enough of the log of the accepted calls
  gives the replies of the rule.

There are two ways to keep it: a list of instants for each key (`keepInstants`), and a
sorted set of members for each key that expires (`keepMembers`).

Nothing here names a component of the platform.
-/

namespace AvantimePlatform.SlidingWindow

universe u v w

/-- A call at an instant of a limiter's clock. -/
structure Call (Request : Type u) where
  time : Int
  member : String
  request : Request

/-- The reply of a limiter and the state it leaves. -/
abbrev Consume (State : Type v) (Request : Type u) :=
  State → Call Request → Except String Bool × State

/-- The call may go on. -/
def isAccepted : Except String Bool → Bool
  | .ok allowed => allowed
  | .error _ => false

section Runs

variable {State : Type v} {Request : Type u} {Key : Type w} [DecidableEq Key]

/-- The replies to a sequence of calls. -/
def run (consume : Consume State Request) :
    State → List (Call Request) → List (Call Request × Except String Bool)
  | _, [] => []
  | s, c :: cs => (c, (consume s c).1) :: run consume (consume s c).2 cs

/-- The calls that are accepted. -/
def accepted (replies : List (Call Request × Except String Bool)) : List (Call Request) :=
  (replies.filter fun reply => isAccepted reply.2).map Prod.fst

/-- The calls of one key. -/
def ofKey (key : Request → Key) (k : Key) (calls : List (Call Request)) : List (Call Request) :=
  calls.filter fun c => key c.request = k

/-- The number of calls with the key of `c` in the window of a width that ends with `c`. -/
def inWindow (key : Request → Key) (width : Int) (c : Call Request)
    (calls : List (Call Request)) : Nat :=
  calls.countP fun d => key d.request = key c.request ∧ c.time - width < d.time ∧ d.time ≤ c.time

/-- No accepted call has more than its limit in the window of its width that ends with
it, itself included. -/
def WindowHolds (key : Request → Key) (width limit : Request → Int)
    (calls : List (Call Request)) : Prop :=
  ∀ c ∈ calls, (inWindow key (width c.request) c calls : Int) ≤ limit c.request

/-- The replies to the calls of a key are what they are without all other calls. -/
def Independent (consume : Consume State Request) (s : State) (key : Request → Key)
    (calls : List (Call Request)) : Prop :=
  ∀ k, (run consume s calls).filter (fun reply => key reply.1.request = k) =
    run consume s (ofKey key k calls)

/-- The clock does not go back, and no two calls have the same member. -/
def InOrder (calls : List (Call Request)) : Prop :=
  calls.Pairwise fun c d => c.time ≤ d.time ∧ c.member ≠ d.member

instance (calls : List (Call Request)) : Decidable (InOrder calls) :=
  inferInstanceAs (Decidable (calls.Pairwise _))

/-- What a limiter should reply, from the instants of the accepted calls of the key. -/
abbrev Rule (Request : Type u) := Request → List Int → Int → Except String Bool

/-- The instants of the calls of a key. -/
def times (key : Request → Key) (k : Key) (log : List (Call Request)) : List Int :=
  (ofKey key k log).map Call.time

/-- A rule as a limiter that remembers every call it has accepted. -/
def Rule.consume (rule : Rule Request) (key : Request → Key) :
    Consume (List (Call Request)) Request := fun log c =>
  let reply := rule c.request (times key (key c.request) log) c.time
  (reply, if isAccepted reply then log ++ [c] else log)

end Runs

/-! ## The instants of one key -/

/-- No window of the width has more than `limit` of the instants. -/
def Bounded (width limit : Int) (instants : List Int) : Prop :=
  ∀ t, 0 < instants.countP (fun s => decide (t - width < s ∧ s ≤ t)) →
    (instants.countP (fun s => decide (t - width < s ∧ s ≤ t)) : Int) ≤ limit

theorem bounded_nil (width limit : Int) : Bounded width limit [] := by
  intro t h
  simp at h

/-- One more instant, which finds fewer than `limit` in the window that ends with it. -/
theorem Bounded.append {width limit : Int} {instants : List Int} (h : Bounded width limit instants)
    {now : Int}
    (hroom : (instants.countP (fun s => decide (now - width < s)) : Int) < limit) :
    Bounded width limit (instants ++ [now]) := by
  intro t
  rw [List.countP_append]
  intro hsome
  by_cases ht : t - width < now ∧ now ≤ t
  · -- What the window that ends at `t` has of the old ones, the one at `now` has too.
    have hless : instants.countP (fun s => decide (t - width < s ∧ s ≤ t)) ≤
        instants.countP (fun s => decide (now - width < s)) := by
      refine List.countP_mono_left fun s _ hs => ?_
      simp only [decide_eq_true_eq] at hs ⊢
      omega
    have hone : [now].countP (fun s => decide (t - width < s ∧ s ≤ t)) ≤ 1 :=
      List.countP_le_length
    omega
  · have hnone : [now].countP (fun s => decide (t - width < s ∧ s ≤ t)) = 0 := by
      simp only [List.countP_singleton, decide_eq_true_eq, ht, if_false]
    rw [hnone] at hsome ⊢
    simpa using h t (by simpa using hsome)

/-! ## Runs under a rule -/

section Rule

variable {Request : Type u} {Key : Type w} [DecidableEq Key] {rule : Rule Request}
  {key : Request → Key}

theorem ofKey_append (k : Key) (log : List (Call Request)) (c : Call Request) :
    ofKey key k (log ++ [c]) =
      ofKey key k log ++ if key c.request = k then [c] else [] := by
  unfold ofKey
  rw [List.filter_append]
  by_cases h : key c.request = k
  · simp [h]
  · simp [h]

theorem times_append (k : Key) (log : List (Call Request)) (c : Call Request) :
    times key k (log ++ [c]) = times key k log ++ if key c.request = k then [c.time] else [] := by
  unfold times
  rw [ofKey_append, List.map_append]
  split
  · rfl
  · rfl

theorem times_of_ofKey_eq {k : Key} {log log' : List (Call Request)}
    (h : ofKey key k log = ofKey key k log') : times key k log = times key k log' :=
  congrArg (List.map Call.time) h

/-- The replies to the calls of a key depend on the accepted calls of that key alone. -/
theorem Rule.run_ofKey (k : Key) (calls : List (Call Request)) {log log' : List (Call Request)}
    (h : ofKey key k log = ofKey key k log') :
    (run (rule.consume key) log calls).filter (fun reply => key reply.1.request = k) =
      run (rule.consume key) log' (ofKey key k calls) := by
  induction calls generalizing log log' with
  | nil => rfl
  | cons c cs ih =>
      by_cases hc : key c.request = k
      · have htimes : times key (key c.request) log = times key (key c.request) log' := by
          rw [hc]
          exact times_of_ofKey_eq h
        have hreply : (rule.consume key log c).1 = (rule.consume key log' c).1 := by
          simp only [Rule.consume, htimes]
        have hnext : ofKey key k (rule.consume key log c).2 =
            ofKey key k (rule.consume key log' c).2 := by
          simp only [Rule.consume, htimes]
          split
          · rw [ofKey_append, ofKey_append, h]
          · exact h
        have hkeep : ofKey key k (c :: cs) = c :: ofKey key k cs := by simp [ofKey, hc]
        rw [hkeep, run, run, List.filter_cons, if_pos (by simpa using hc), hreply, ih hnext]
      · have hnext : ofKey key k (rule.consume key log c).2 = ofKey key k log' := by
          simp only [Rule.consume]
          split
          · rw [ofKey_append, if_neg hc, List.append_nil, h]
          · exact h
        have hdrop : ofKey key k (c :: cs) = ofKey key k cs := by simp [ofKey, hc]
        rw [hdrop, run, List.filter_cons, if_neg (by simpa using hc)]
        exact ih hnext

/-- Calls on other keys do not matter. -/
theorem Rule.run_filter (k : Key) (calls : List (Call Request)) :
    (run (rule.consume key) [] calls).filter (fun reply => key reply.1.request = k) =
      run (rule.consume key) [] (ofKey key k calls) :=
  Rule.run_ofKey k calls rfl

/-- The log at the end of a run has every window within the limits of its key. -/
theorem Rule.bounded_log {width limit : Key → Int} (calls log : List (Call Request))
    (hrule : ∀ c ∈ calls, ∀ instants, isAccepted (rule c.request instants c.time) = true →
      (instants.countP (fun s => decide (c.time - width (key c.request) < s)) : Int) <
        limit (key c.request))
    (hlog : ∀ k, Bounded (width k) (limit k) (times key k log)) :
    ∀ k, Bounded (width k) (limit k)
      (times key k (log ++ accepted (run (rule.consume key) log calls))) := by
  induction calls generalizing log with
  | nil =>
      intro k
      simpa [run, accepted] using hlog k
  | cons c cs ih =>
      have hrule' := fun d hd => hrule d (List.mem_cons_of_mem c hd)
      by_cases hreply : isAccepted (rule.consume key log c).1 = true
      · have hnext : (rule.consume key log c).2 = log ++ [c] := if_pos hreply
        have hacc : accepted (run (rule.consume key) log (c :: cs)) =
            c :: accepted (run (rule.consume key) (log ++ [c]) cs) := by
          simp [run, accepted, hreply, hnext]
        rw [hacc, List.append_cons]
        refine ih (log ++ [c]) hrule' fun k => ?_
        rw [times_append]
        split
        · next hk =>
          subst hk
          exact (hlog (key c.request)).append (hrule c List.mem_cons_self _ hreply)
        · rw [List.append_nil]
          exact hlog k
      · have hnext : (rule.consume key log c).2 = log := if_neg hreply
        have hacc : accepted (run (rule.consume key) log (c :: cs)) =
            accepted (run (rule.consume key) log cs) := by
          simp [run, accepted, hreply, hnext]
        rw [hacc]
        exact ih log hrule' hlog

theorem countP_times (width : Int) (c : Call Request) (calls : List (Call Request)) :
    (times key (key c.request) calls).countP
        (fun s => decide (c.time - width < s ∧ s ≤ c.time)) =
      inWindow key width c calls := by
  unfold times inWindow ofKey
  rw [List.countP_map, List.countP_filter]
  refine List.countP_congr fun d _ => ?_
  simp [and_comm]

/-- Only calls that are made are accepted. -/
theorem accepted_subset {State : Type v} {consume : Consume State Request}
    (calls : List (Call Request)) (s : State) : accepted (run consume s calls) ⊆ calls := by
  induction calls generalizing s with
  | nil => exact List.Subset.refl _
  | cons c cs ih =>
      intro d hd
      by_cases hreply : isAccepted (consume s c).1 = true
      · have hcons : accepted (run consume s (c :: cs)) =
            c :: accepted (run consume (consume s c).2 cs) := by
          simp [run, accepted, hreply]
        rw [hcons] at hd
        rcases List.mem_cons.mp hd with rfl | hrest
        · exact List.mem_cons_self
        · exact List.mem_cons_of_mem c (ih _ hrest)
      · have hskip : accepted (run consume s (c :: cs)) =
            accepted (run consume (consume s c).2 cs) := by
          simp [run, accepted, hreply]
        rw [hskip] at hd
        exact List.mem_cons_of_mem c (ih _ hd)

theorem Rule.exists_of_accepted (calls log : List (Call Request)) :
    ∀ c ∈ accepted (run (rule.consume key) log calls),
      ∃ instants, isAccepted (rule c.request instants c.time) = true := by
  induction calls generalizing log with
  | nil => simp [run, accepted]
  | cons d ds ih =>
      intro c hc
      have hcases : (c = d ∧ isAccepted (rule.consume key log d).1 = true) ∨
          c ∈ accepted (run (rule.consume key) (rule.consume key log d).2 ds) := by
        by_cases hreply : isAccepted (rule.consume key log d).1 = true
        · simpa [run, accepted, hreply] using hc
        · simpa [run, accepted, hreply] using hc
      rcases hcases with ⟨rfl, hreply⟩ | hrest
      · exact ⟨_, hreply⟩
      · exact ih _ c hrest

/-- A rule that accepts a call only with fewer than `limit` accepted calls in the last
`width` keeps every window within the limit, when both are fixed for each key. -/
theorem Rule.windowHolds {width limit : Request → Int} (widthOf limitOf : Key → Int)
    {calls : List (Call Request)}
    (hfixed : ∀ c ∈ calls, width c.request = widthOf (key c.request) ∧
      limit c.request = limitOf (key c.request))
    (hrule : ∀ request instants now, isAccepted (rule request instants now) = true →
      0 < width request ∧
        (instants.countP (fun s => decide (now - width request < s)) : Int) < limit request) :
    WindowHolds key width limit (accepted (run (rule.consume key) [] calls)) := by
  intro c hc
  obtain ⟨before, hreply⟩ := Rule.exists_of_accepted calls [] c hc
  have hpos := (hrule c.request before c.time hreply).1
  have hrule' : ∀ d ∈ calls, ∀ instants, isAccepted (rule d.request instants d.time) = true →
      (instants.countP (fun s => decide (d.time - widthOf (key d.request) < s)) : Int) <
        limitOf (key d.request) := by
    intro d hd instants hreply
    rw [← (hfixed d hd).1, ← (hfixed d hd).2]
    exact (hrule d.request instants d.time hreply).2
  have hlog := Rule.bounded_log calls [] hrule'
    (fun k => bounded_nil (widthOf k) (limitOf k)) (key c.request) c.time
  obtain ⟨hwidthOf, hlimitOf⟩ := hfixed c (accepted_subset calls [] hc)
  rw [List.nil_append, ← hwidthOf, ← hlimitOf, countP_times] at hlog
  refine hlog (List.countP_pos_iff.mpr ⟨c, hc, ?_⟩)
  simp only [decide_eq_true_eq, true_and, le_refl, and_true]
  omega

theorem InOrder.sublist {calls calls' : List (Call Request)} (h : InOrder calls)
    (hsub : List.Sublist calls' calls) : InOrder calls' :=
  List.Pairwise.sublist hsub h

/-- A limiter that follows a rule treats each key by itself. -/
theorem independent_of_rule {State : Type v} {consume : Consume State Request} {s : State}
    {calls : List (Call Request)}
    (h : ∀ calls', List.Sublist calls' calls → run consume s calls' = run (rule.consume key) [] calls') :
    Independent consume s key calls := by
  intro k
  rw [h calls (List.Sublist.refl calls), Rule.run_filter]
  exact (h _ List.filter_sublist).symm

end Rule

/-! ## Limiters that follow a rule -/

section Simulation

variable {State : Type v} {Request : Type u} {Key : Type w} [DecidableEq Key]
  {rule : Rule Request} {key : Request → Key} {consume : Consume State Request}

/-- A limiter whose state stays in a relation to the log of the accepted calls, and that
replies by the rule whenever it is, replies by the rule along every run. -/
theorem run_eq_of_simulation {Keeps : State → List (Call Request) → Int → Prop}
    {Admissible : Call Request → Prop}
    (hstep : ∀ s log now c, Keeps s log now → now ≤ c.time → c.member ∉ log.map Call.member →
      Admissible c → (consume s c).1 = (rule.consume key log c).1 ∧
        Keeps (consume s c).2 (rule.consume key log c).2 c.time)
    (calls : List (Call Request)) {s : State} {log : List (Call Request)} {now : Int}
    (h : Keeps s log now) (horder : InOrder calls) (hadmissible : ∀ c ∈ calls, Admissible c)
    (hnow : ∀ c ∈ calls, now ≤ c.time) (hfresh : ∀ c ∈ calls, c.member ∉ log.map Call.member) :
    run consume s calls = run (rule.consume key) log calls := by
  induction calls generalizing s log now with
  | nil => rfl
  | cons c cs ih =>
      obtain ⟨hlater, horder'⟩ := List.pairwise_cons.mp horder
      obtain ⟨hreply, hkeeps⟩ := hstep s log now c h (hnow c List.mem_cons_self)
        (hfresh c List.mem_cons_self) (hadmissible c List.mem_cons_self)
      have hrest : run consume (consume s c).2 cs =
          run (rule.consume key) (rule.consume key log c).2 cs := by
        refine ih hkeeps horder' (fun d hd => hadmissible d (List.mem_cons_of_mem c hd))
          (fun d hd => (hlater d hd).1) fun d hd => ?_
        have hold := hfresh d (List.mem_cons_of_mem c hd)
        simp only [Rule.consume]
        split
        · rw [List.map_append, List.mem_append]
          rintro (hmem | hmem)
          · exact hold hmem
          · exact (hlater d hd).2 (List.mem_singleton.mp hmem).symm
        · exact hold
      rw [run, run, hreply, hrest]

/-- The same from a state that is in the relation to the empty log at every instant. -/
theorem run_eq_of_start (Keeps : State → List (Call Request) → Int → Prop)
    {Admissible : Call Request → Prop}
    (hstep : ∀ s log now c, Keeps s log now → now ≤ c.time → c.member ∉ log.map Call.member →
      Admissible c → (consume s c).1 = (rule.consume key log c).1 ∧
        Keeps (consume s c).2 (rule.consume key log c).2 c.time)
    {s : State} (hstart : ∀ now, Keeps s [] now) {calls : List (Call Request)}
    (horder : InOrder calls) (hadmissible : ∀ c ∈ calls, Admissible c) :
    run consume s calls = run (rule.consume key) [] calls := by
  cases calls with
  | nil => rfl
  | cons c cs =>
      refine run_eq_of_simulation hstep (c :: cs) (hstart c.time) horder hadmissible ?_ (by simp)
      intro d hd
      rcases List.mem_cons.mp hd with rfl | hmem
      · exact le_refl _
      · exact ((List.pairwise_cons.mp horder).1 d hmem).1

end Simulation

/-! ## A list of instants for each key -/

section Instants

variable {Request : Type u} {key : Request → String} {width : String → Int}

/-- Take the instants at a key that are not older than `width`; unless they are `full`,
store them with the present one. -/
def keepInstants (entries : Table String (List Int)) (key : String) (now width : Int)
    (full : List Int → Bool) : Except String Bool × Table String (List Int) :=
  let retained := ((entries.lookup key).getD []).filter fun instant => now - width < instant
  if full retained then (.ok false, entries)
  else (.ok true, entries.insert key (retained ++ [now]))

/-- At every key there are the instants of the log that are not too old. -/
def KeepsInstants (key : Request → String) (width : String → Int)
    (entries : Table String (List Int)) (log : List (Call Request)) (now : Int) : Prop :=
  ∀ k cutoff, now - width k ≤ cutoff →
    ((entries.lookup k).getD []).filter (fun instant => cutoff < instant) =
      (times key k log).filter fun instant => cutoff < instant

theorem keepsInstants_empty (now : Int) : KeepsInstants key width ∅ [] now := by
  intro k cutoff _
  simp [times, ofKey]

theorem KeepsInstants.later {entries : Table String (List Int)} {log : List (Call Request)}
    {now now' : Int} (h : KeepsInstants key width entries log now) (hnow : now ≤ now') :
    KeepsInstants key width entries log now' :=
  fun k cutoff hcutoff => h k cutoff (by omega)

theorem KeepsInstants.insert {entries : Table String (List Int)} {log : List (Call Request)}
    {c : Call Request} (h : KeepsInstants key width entries log c.time) :
    KeepsInstants key width (entries.insert (key c.request)
      ((times key (key c.request) log).filter
        (fun instant => c.time - width (key c.request) < instant) ++ [c.time]))
      (log ++ [c]) c.time := by
  intro k cutoff hcutoff
  rw [times_append, Table.lookup_insert]
  by_cases hk : k = key c.request
  · subst hk
    have hsame : ((times key (key c.request) log).filter
          fun instant => c.time - width (key c.request) < instant).filter
          (fun instant => cutoff < instant) =
        (times key (key c.request) log).filter fun instant => cutoff < instant := by
      rw [List.filter_filter]
      refine List.filter_congr fun instant _ => ?_
      by_cases hlt : cutoff < instant
      · have : c.time - width (key c.request) < instant := by omega
        simp [hlt, this]
      · simp [hlt]
    rw [if_pos rfl, if_pos rfl, Option.getD_some, List.filter_append, hsame, List.filter_append]
  · have hne : ¬key c.request = k := fun heq => hk heq.symm
    rw [if_neg hk, if_neg hne, List.append_nil]
    exact h k cutoff hcutoff

/-- What a call finds, and what it leaves. -/
theorem KeepsInstants.keep {entries : Table String (List Int)} {log : List (Call Request)}
    {now : Int} (h : KeepsInstants key width entries log now) {c : Call Request}
    (hnow : now ≤ c.time) (full : List Int → Bool) (allowed : Bool)
    (hfull : full ((times key (key c.request) log).filter
      fun instant => c.time - width (key c.request) < instant) = !allowed) :
    (keepInstants entries (key c.request) c.time (width (key c.request)) full).1 = .ok allowed ∧
      KeepsInstants key width
        (keepInstants entries (key c.request) c.time (width (key c.request)) full).2
        (if allowed then log ++ [c] else log) c.time := by
  have hlater := h.later hnow
  have hretained := hlater (key c.request) (c.time - width (key c.request)) (le_refl _)
  simp only [keepInstants, hretained, hfull]
  cases allowed with
  | true => exact ⟨rfl, hlater.insert⟩
  | false => exact ⟨rfl, hlater⟩

end Instants

/-! ## A sorted set of members for each key -/

section Members

variable {Request : Type u} {key : Request → String} {width : String → Int}

/-- Drop the members at a key that are older than `width`; unless what is left is `full`,
add a member and let the key live for `lifetime`. -/
def keepMembers (keys : SortedSetKeys) (key : String) (now width lifetime : Int) (member : String)
    (full : SortedSetKeys → Bool) : Nat × SortedSetKeys :=
  let keys := keys.zremRangeByScore now key (now - width)
  if full keys then (0, keys)
  else (1, (keys.zadd now key now member).pexpire now key lifetime)

/-- The calls of a key as a log of timed members. -/
def timed (key : Request → String) (k : String) (log : List (Call Request)) :
    List (Int × String) :=
  (ofKey key k log).map fun c => (c.time, c.member)

/-- At every key there are the calls of the log that are not too old. -/
structure KeepsMembers (key : Request → String) (width : String → Int) (keys : SortedSetKeys)
    (log : List (Call Request)) (now : Int) : Prop where
  distinct : (log.map Call.member).Nodup
  keeps : ∀ k, keys.KeepsLog (width k) now k (timed key k log)

theorem keepsMembers_empty (now : Int) : KeepsMembers key width ∅ [] now where
  distinct := List.nodup_nil
  keeps := fun k => SortedSetKeys.keepsLog_empty (width k) now k

theorem KeepsMembers.later {keys : SortedSetKeys} {log : List (Call Request)} {now now' : Int}
    (h : KeepsMembers key width keys log now) (hnow : now ≤ now') :
    KeepsMembers key width keys log now' :=
  ⟨h.distinct, fun k => (h.keeps k).later hnow⟩

theorem timed_append (k : String) (log : List (Call Request)) (c : Call Request) :
    timed key k (log ++ [c]) =
      timed key k log ++ if key c.request = k then [(c.time, c.member)] else [] := by
  unfold timed
  rw [ofKey_append, List.map_append]
  split
  · rfl
  · rfl

theorem map_snd_timed (k : String) (log : List (Call Request)) :
    (timed key k log).map Prod.snd = (ofKey key k log).map Call.member := by
  simp [timed]

theorem countP_timed (k : String) (log : List (Call Request)) (p : Int → Bool) :
    (timed key k log).countP (fun entry => p entry.1) = (times key k log).countP p := by
  unfold timed times
  rw [List.countP_map, List.countP_map]
  rfl

/-- How many members a key has after an instant. -/
theorem KeepsMembers.card_after {keys : SortedSetKeys} {log : List (Call Request)} {now : Int}
    (h : KeepsMembers key width keys log now) {k : String} {cutoff : Int}
    (hcutoff : now - width k ≤ cutoff) :
    ((keys.members now k).entries.filter (cutoff < ·.1)).card =
      (times key k log).countP fun instant => cutoff < instant := by
  have hnodup : ((timed key k log).map Prod.snd).Nodup := by
    rw [map_snd_timed]
    exact h.distinct.sublist (List.filter_sublist.map Call.member)
  rw [(h.keeps k).card_after hnodup hcutoff]
  exact countP_timed k log fun instant => decide (cutoff < instant)

/-- What a call finds, and what it leaves. -/
theorem KeepsMembers.keep {keys : SortedSetKeys} {log : List (Call Request)} {now : Int}
    (h : KeepsMembers key width keys log now) {c : Call Request} (hnow : now ≤ c.time)
    (hnew : c.member ∉ log.map Call.member) {lifetime : Int} (hpos : 0 ≤ lifetime)
    (hlifetime : width (key c.request) ≤ lifetime) (full : SortedSetKeys → Bool) (allowed : Bool)
    (hfull : full (keys.zremRangeByScore c.time (key c.request)
      (c.time - width (key c.request))) = !allowed) :
    (keepMembers keys (key c.request) c.time (width (key c.request)) lifetime c.member full).1 =
        (if allowed then 1 else 0) ∧
      KeepsMembers key width
        (keepMembers keys (key c.request) c.time (width (key c.request)) lifetime c.member full).2
        (if allowed then log ++ [c] else log) c.time := by
  have hlater := h.later hnow
  have hpruned : KeepsMembers key width
      (keys.zremRangeByScore c.time (key c.request) (c.time - width (key c.request))) log
      c.time := by
    refine ⟨h.distinct, fun k => ?_⟩
    by_cases hk : k = key c.request
    · subst hk
      exact (hlater.keeps (key c.request)).zremRangeByScore (le_refl _)
    · exact (hlater.keeps k).of_lookup (SortedSetKeys.lookup_zremRangeByScore_ne keys hk _)
  simp only [keepMembers, hfull]
  cases allowed with
  | false => exact ⟨rfl, hpruned⟩
  | true =>
      refine ⟨rfl, ?_, fun k => ?_⟩
      · rw [if_pos rfl, List.map_append, List.nodup_append]
        refine ⟨h.distinct, by simp, fun a ha b hb hab => hnew ?_⟩
        have hb' : b = c.member := by simpa using hb
        rw [← hb', ← hab]
        exact ha
      · rw [if_pos rfl, timed_append]
        by_cases hk : k = key c.request
        · subst hk
          rw [if_pos rfl]
          refine (hpruned.keeps (key c.request)).zadd ?_ hpos hlifetime
          rw [map_snd_timed]
          intro hmem
          exact hnew ((List.filter_sublist.map Call.member).subset hmem)
        · have hne : ¬key c.request = k := fun heq => hk heq.symm
          rw [if_neg hne, List.append_nil]
          refine (hpruned.keeps k).of_lookup ?_
          show (SortedSetKeys.pexpire _ _ _ _).lookup k = _
          rw [SortedSetKeys.lookup_pexpire_ne _ hk, SortedSetKeys.lookup_zadd_ne _ hk]

/-- `ZCARD` after the old members are dropped. -/
theorem KeepsMembers.zcard {keys : SortedSetKeys} {log : List (Call Request)} {now : Int}
    (h : KeepsMembers key width keys log now) {c : Call Request} (hnow : now ≤ c.time) :
    (keys.zremRangeByScore c.time (key c.request) (c.time - width (key c.request))).zcard c.time
        (key c.request) =
      (times key (key c.request) log).countP
        fun instant => c.time - width (key c.request) < instant := by
  unfold SortedSetKeys.zcard SortedSet.zcard
  rw [SortedSetKeys.entries_zremRangeByScore]
  exact (h.later hnow).card_after (le_refl _)

/-- `ZCOUNT` after the old members are dropped. -/
theorem KeepsMembers.zcount {keys : SortedSetKeys} {log : List (Call Request)} {now : Int}
    (h : KeepsMembers key width keys log now) {c : Call Request} (hnow : now ≤ c.time) {min : Int}
    (hmin : c.time - width (key c.request) < min) :
    (keys.zremRangeByScore c.time (key c.request) (c.time - width (key c.request))).zcount c.time
        (key c.request) min =
      (times key (key c.request) log).countP fun instant => min ≤ instant := by
  have hcutoff : c.time - width (key c.request) ≤ min - 1 := by omega
  have hcard := (h.later hnow).card_after hcutoff
  unfold SortedSetKeys.zcount SortedSet.zcount
  rw [SortedSetKeys.entries_zremRangeByScore, Finset.filter_filter]
  have hentries : ∀ entry ∈ (keys.members c.time (key c.request)).entries,
      (c.time - width (key c.request) < entry.1 ∧ min ≤ entry.1) ↔ min - 1 < entry.1 := by
    intro entry _
    omega
  have hinstants : ∀ instant : Int, (min ≤ instant) ↔ min - 1 < instant := by
    intro instant
    omega
  rw [Finset.filter_congr hentries, hcard]
  simp only [hinstants]

end Members

end AvantimePlatform.SlidingWindow
