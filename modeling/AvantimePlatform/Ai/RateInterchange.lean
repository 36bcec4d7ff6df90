import AvantimePlatform.Ai.RateLimit
import AvantimePlatform.Lib.Transition

/-!
# The two AI rate limiters side by side

One caller makes the same calls, with the same clock and the same limits, on a memory
and on a Redis limiter.  The script counts the calls that are exactly a minute or ten
seconds old, the map does not.  So the two decide alike as long as no call for which the
map has room finds a window that these calls fill (`agree_iff`).
-/

namespace AvantimePlatform.Ai

open AvantimePlatform AvantimePlatform.Documents AvantimePlatform.SlidingWindow
  AvantimePlatform.Transition

/-- The two limiters, the clock they share and the members that have been drawn. -/
structure BothAiLimiters where
  now : Int
  drawn : List String
  memory : MemoryAiRateLimiter
  redis : RedisAiRateLimiter

namespace BothAiLimiters

variable {sha256 : String → String}

def start (now : Int) : BothAiLimiters := ⟨now, [], {}, {}⟩

/-- The limits of a request are positive. -/
def PositiveLimits (request : AiRateLimitRequest) : Prop :=
  0 < request.minuteLimit ∧ 0 < request.dailyLimit ∧ 0 < request.burstLimit

instance (request : AiRateLimitRequest) : Decidable (PositiveLimits request) :=
  inferInstanceAs (Decidable (_ ∧ _))

/-- One call on both.  The clock does not go back, and the member is a new one. -/
def next (sha256 : String → String) (s : BothAiLimiters) (c : Call AiRateLimitRequest) :
    Option BothAiLimiters :=
  if s.now ≤ c.time ∧ c.member ∉ s.drawn ∧ PositiveLimits c.request then
    some
      { now := c.time
        drawn := c.member :: s.drawn
        memory := (MemoryAiRateLimiter.consume sha256 s.memory c).2
        redis := (RedisAiRateLimiter.consume sha256 s.redis c).2 }
  else none

abbrev step (sha256 : String → String) :
    BothAiLimiters → Call AiRateLimitRequest → BothAiLimiters → Prop :=
  stepOf (next sha256)

/-- Both limiters accept the call, or neither does. -/
def DecideAlike (sha256 : String → String) (s : BothAiLimiters) (c : Call AiRateLimitRequest)
    (_ : BothAiLimiters) : Prop :=
  isAccepted (MemoryAiRateLimiter.consume sha256 s.memory c).1 =
    isAccepted (RedisAiRateLimiter.consume sha256 s.redis c).1

/-- The instants that the map has for the key of a request. -/
def stored (sha256 : String → String) (s : BothAiLimiters) (request : AiRateLimitRequest) :
    List Int :=
  (s.memory.entries.lookup (stableLimitKey sha256 request)).getD []

/-- If the map has room for the call, then there is room also when the calls that are
exactly a minute or ten seconds old are counted, and the limits are safe integers. -/
def ClearOfTheEdge (sha256 : String → String) (s : BothAiLimiters)
    (c : Call AiRateLimitRequest) : Prop :=
  memoryRoom c.request (s.stored sha256 c.request) c.time = true →
    checkLimits c.request = .ok () ∧
      countFrom (s.stored sha256 c.request) (c.time - minuteMs) < c.request.minuteLimit ∧
      countFrom (s.stored sha256 c.request) (c.time - burstMs) < c.request.burstLimit

instance (s : BothAiLimiters) (c : Call AiRateLimitRequest) :
    Decidable (s.ClearOfTheEdge sha256 c) :=
  inferInstanceAs (Decidable (_ → _))

/-! ## The invariant -/

/-- Both limiters keep one log. -/
def Alike (sha256 : String → String) (s : BothAiLimiters) : Prop :=
  ∃ log, KeepsInstants (stableLimitKey sha256) (fun _ => dayMs) s.memory.entries log s.now ∧
    KeepsMembers (redisLimitKey sha256) (fun _ => dayMs) s.redis.keys log s.now ∧
    ∀ d ∈ log, d.member ∈ s.drawn

theorem alike_start (now : Int) : Alike sha256 (start now) :=
  ⟨[], keepsInstants_empty now, keepsMembers_empty now, by simp⟩

section OneCall

variable {s s' : BothAiLimiters} {c : Call AiRateLimitRequest}
  {log : List (Call AiRateLimitRequest)}

theorem countAfter_stored
    (h : KeepsInstants (stableLimitKey sha256) (fun _ => dayMs) s.memory.entries log s.now)
    (hnow : s.now ≤ c.time) {width : Int} (hwidth : width ≤ dayMs) :
    countAfter (s.stored sha256 c.request) (c.time - width) =
      countAfter (times (stableLimitKey sha256) (stableLimitKey sha256 c.request) log)
        (c.time - width) := by
  have hsame := h (stableLimitKey sha256 c.request) (c.time - width) (by dsimp only; omega)
  unfold countAfter stored
  rw [List.countP_eq_length_filter, hsame, ← List.countP_eq_length_filter]

theorem countFrom_eq_countAfter (instants : List Int) (start : Int) :
    countFrom instants start = countAfter instants (start - 1) := by
  unfold countFrom countAfter
  congr 1
  refine List.countP_congr fun instant _ => ?_
  simp only [decide_eq_true_eq]
  omega

theorem countFrom_stored
    (h : KeepsInstants (stableLimitKey sha256) (fun _ => dayMs) s.memory.entries log s.now)
    (hnow : s.now ≤ c.time) {width : Int} (hwidth : width < dayMs) :
    countFrom (s.stored sha256 c.request) (c.time - width) =
      countFrom (times (stableLimitKey sha256) (stableLimitKey sha256 c.request) log)
        (c.time - width) := by
  have hone : c.time - width - 1 = c.time - (width + 1) := by omega
  rw [countFrom_eq_countAfter, countFrom_eq_countAfter, hone]
  exact countAfter_stored h hnow (by omega)

theorem memoryRoom_stored
    (h : KeepsInstants (stableLimitKey sha256) (fun _ => dayMs) s.memory.entries log s.now)
    (hnow : s.now ≤ c.time) :
    memoryRoom c.request (s.stored sha256 c.request) c.time =
      memoryRoom c.request
        (times (stableLimitKey sha256) (stableLimitKey sha256 c.request) log) c.time := by
  unfold memoryRoom
  rw [countAfter_stored h hnow (by decide), countAfter_stored h hnow (by decide),
    countAfter_stored h hnow (by decide)]

/-- With positive limits and room on the map, the script has room when it has room in
its two windows. -/
theorem redisRule_of_memoryRoom {request : AiRateLimitRequest} {instants : List Int} {now : Int}
    (h : memoryRoom request instants now = true) :
    isAccepted (redisRule request instants now) = true ↔
      checkLimits request = .ok () ∧
        countFrom instants (now - minuteMs) < request.minuteLimit ∧
        countFrom instants (now - burstMs) < request.burstLimit := by
  have hday : countAfter instants (now - dayMs) < request.dailyLimit := by
    simp only [memoryRoom, Bool.and_eq_true, decide_eq_true_eq] at h
    exact h.1.2
  unfold redisRule
  cases hlimits : checkLimits request with
  | error e => simp [isAccepted]
  | ok u => simp [isAccepted, redisRoom, hday]

/-- The two rules decide alike when the call is clear of the edge, and only then. -/
theorem rules_alike_iff {request : AiRateLimitRequest} {instants : List Int} {now : Int} :
    isAccepted (memoryRule request instants now) = isAccepted (redisRule request instants now) ↔
      (memoryRoom request instants now = true →
        checkLimits request = .ok () ∧
          countFrom instants (now - minuteMs) < request.minuteLimit ∧
          countFrom instants (now - burstMs) < request.burstLimit) := by
  have hmemory : isAccepted (memoryRule request instants now) =
      memoryRoom request instants now := rfl
  rw [hmemory]
  cases hroom : memoryRoom request instants now with
  | true =>
      rw [← redisRule_of_memoryRoom hroom]
      exact ⟨fun h _ => h.symm, fun h => (h rfl).symm⟩
  | false =>
      have hrefused : isAccepted (redisRule request instants now) = false := by
        rw [Bool.eq_false_iff]
        intro haccepted
        rw [memoryRoom_of_redisRule haccepted] at hroom
        cases hroom
      rw [hrefused]
      exact ⟨fun _ h => absurd h (by decide), fun _ => rfl⟩

/-- What a step is. -/
theorem step_eq (h : step sha256 s c s') :
    (s.now ≤ c.time ∧ c.member ∉ s.drawn) ∧
      s' = { now := c.time
             drawn := c.member :: s.drawn
             memory := (MemoryAiRateLimiter.consume sha256 s.memory c).2
             redis := (RedisAiRateLimiter.consume sha256 s.redis c).2 } := by
  simp only [step, stepOf, next] at h
  split at h
  · next hcall => exact ⟨⟨hcall.1, hcall.2.1⟩, (Option.some.inj h).symm⟩
  · cases h

theorem notMem_log (hdrawn : ∀ d ∈ log, d.member ∈ s.drawn) (hnew : c.member ∉ s.drawn) :
    c.member ∉ log.map Call.member := by
  intro hmem
  obtain ⟨d, hd, hsame⟩ := List.mem_map.mp hmem
  exact hnew (hsame ▸ hdrawn d hd)

theorem decideAlike_iff (h : Alike sha256 s) (hstep : step sha256 s c s') :
    DecideAlike sha256 s c s' ↔ s.ClearOfTheEdge sha256 c := by
  obtain ⟨log, hmemory, hredis, hdrawn⟩ := h
  obtain ⟨⟨hnow, hnew⟩, -⟩ := step_eq hstep
  have hnew' := notMem_log hdrawn hnew
  unfold DecideAlike ClearOfTheEdge
  rw [(MemoryAiRateLimiter.consume_eq hmemory hnow).1,
    (RedisAiRateLimiter.consume_eq hredis hnow hnew').1, redisRule_consume,
    memoryRoom_stored hmemory hnow, countFrom_stored hmemory hnow (by decide),
    countFrom_stored hmemory hnow (by decide)]
  exact rules_alike_iff

/-- A call on which the two decide alike leaves them with one log. -/
theorem alike_of_step (h : Alike sha256 s) (hstep : step sha256 s c s')
    (hdecide : DecideAlike sha256 s c s') : Alike sha256 s' := by
  obtain ⟨log, hmemory, hredis, hdrawn⟩ := h
  obtain ⟨⟨hnow, hnew⟩, rfl⟩ := step_eq hstep
  have hnew' := notMem_log hdrawn hnew
  obtain ⟨hreply, hkeeps⟩ := MemoryAiRateLimiter.consume_eq hmemory hnow
  obtain ⟨hreply', hkeeps'⟩ := RedisAiRateLimiter.consume_eq hredis hnow hnew'
  rw [redisRule_consume] at hreply' hkeeps'
  have hsame : isAccepted (memoryRule.consume (stableLimitKey sha256) log c).1 =
      isAccepted (redisRule.consume (stableLimitKey sha256) log c).1 := by
    rw [← hreply, ← hreply']
    exact hdecide
  have hlog : (redisRule.consume (stableLimitKey sha256) log c).2 =
      (memoryRule.consume (stableLimitKey sha256) log c).2 := by
    show (if isAccepted (redisRule.consume (stableLimitKey sha256) log c).1 then _ else _) =
      if isAccepted (memoryRule.consume (stableLimitKey sha256) log c).1 then _ else _
    rw [hsame]
  rw [hlog] at hkeeps'
  refine ⟨_, hkeeps, hkeeps', fun d hd => ?_⟩
  have hcases : d ∈ log ∨ d = c := by
    simp only [Rule.consume] at hd
    split at hd
    · simpa using hd
    · exact Or.inl hd
  rcases hcases with hold | rfl
  · exact List.mem_cons_of_mem _ (hdrawn d hold)
  · exact List.mem_cons_self

end OneCall

/-! ## Whole sequences of calls -/

theorem alike_of_reachable {now : Int} {s : BothAiLimiters}
    (h : Reachable (· = start now) (Guarded (ClearOfTheEdge sha256) (step sha256)) s) :
    Alike sha256 s := by
  refine h.invariant (Alike sha256) (fun s₀ hs => ?_) fun s c s' halike hstep => ?_
  · rw [hs]
    exact alike_start now
  · exact alike_of_step halike hstep.2 ((decideAlike_iff halike hstep.2).mpr hstep.1)

/-- Along a sequence of calls the two limiters accept the same calls exactly when every
call is clear of the edge. -/
theorem agree_iff (sha256 : String → String) (now : Int)
    (run : List (Call AiRateLimitRequest × BothAiLimiters))
    (h : Run (step sha256) (start now) run) :
    AllSteps (DecideAlike sha256) (start now) run ↔
      StepsMeet (ClearOfTheEdge sha256) (start now) run := by
  have hstart : Reachable (· = start now) (Guarded (ClearOfTheEdge sha256) (step sha256))
      (start now) := Reachable.start rfl
  refine allSteps_iff_stepsMeet_of_guarded (fun s c s' hs hstep hok => ?_)
    (fun s c s' hs hstep hbad hsame => ?_) h hstart
  · exact (decideAlike_iff (alike_of_reachable hs) hstep).mpr hok
  · exact hbad ((decideAlike_iff (alike_of_reachable hs) hstep).mp hsame)

/-- A request with a burst limit of one. -/
def oneAtATime : AiRateLimitRequest := ⟨⟨"company", "user"⟩, "openai", .ragAnswer, 60, 1000, 1⟩

/-- Two calls that are more than ten seconds apart. -/
def apart : List (Call AiRateLimitRequest) := [⟨0, "a", oneAtATime⟩, ⟨10001, "b", oneAtATime⟩]

theorem agree_apart :
    AllSteps (DecideAlike id) (start 0) (trace (next id) (start 0) apart) :=
  (agree_iff id 0 _ (run_trace _ _)).mpr (by decide)

/-- A call exactly ten seconds after the first one. -/
def tenSecondsLater : Call AiRateLimitRequest := ⟨10000, "b", oneAtATime⟩

/-- The memory limiter accepts it, the Redis limiter does not. -/
theorem tenSecondsLater_differs :
    ∃ s, Reachable (· = start 0) (step id) s ∧ (next id s tenSecondsLater).isSome = true ∧
      isAccepted (MemoryAiRateLimiter.consume id s.memory tenSecondsLater).1 ≠
        isAccepted (RedisAiRateLimiter.consume id s.redis tenSecondsLater).1 :=
  exists_reachable_of_exec _ (next id) [⟨0, "a", oneAtATime⟩] rfl (by decide)

end BothAiLimiters

end AvantimePlatform.Ai
