import AvantimePlatform.Ai.CostControl
import AvantimePlatform.Lib.Checked
import AvantimePlatform.Lib.SlidingWindow

/-!
# The AI rate limiters

The rate limiting half of `ai-control.ts`: the request and its key, and the two limiters,
one over a map of timestamps and one over the keys of a Redis server.  The digest is a
parameter.  A call carries the millisecond of the limiter's clock and the member that
`crypto.randomUUID()` draws.

The map counts a minute and a burst from after the instant a minute or ten seconds ago,
the script from that instant on.  So each has its own rule, `memoryRule` and `redisRule`.
-/

namespace AvantimePlatform.Ai

open AvantimePlatform AvantimePlatform.Documents AvantimePlatform.SlidingWindow

structure AiRateLimitRequest where
  tenant : DocumentTenantContext
  provider : String
  requestType : AiRequestType
  minuteLimit : Int
  dailyLimit : Int
  burstLimit : Int
deriving DecidableEq

/-- The widths of the three windows, in milliseconds. -/
def dayMs : Int := 86400000

def minuteMs : Int := 60000

def burstMs : Int := 10000

variable (sha256 : String → String)

def stableLimitKey (request : AiRateLimitRequest) : String :=
  sha256 (String.intercalate "\x00" [request.tenant.companyId, request.tenant.userId,
    request.provider, request.requestType.text])

/-- The map of `MemoryAiRateLimiter`. -/
structure MemoryAiRateLimiter where
  entries : Table String (List Int) := ∅

def MemoryAiRateLimiter.consume : Consume MemoryAiRateLimiter AiRateLimitRequest :=
  fun limiter c =>
    let now := c.time
    let (reply, entries) :=
      keepInstants limiter.entries (stableLimitKey sha256 c.request) now dayMs fun retained =>
        let minuteCount := (retained.filter fun timestamp => now - minuteMs < timestamp).length
        let burstCount := (retained.filter fun timestamp => now - burstMs < timestamp).length
        decide (c.request.minuteLimit ≤ minuteCount) ||
          decide (c.request.dailyLimit ≤ retained.length) ||
          decide (c.request.burstLimit ≤ burstCount)
    (reply, ⟨entries⟩)

/-- `distributedRateLimitScript`, at the millisecond of the server's clock. -/
def distributedRateLimitScript (keys : SortedSetKeys) (nowMs : Int) (key : String)
    (minuteLimit dailyLimit burstLimit : Int) (member : String) : Nat × SortedSetKeys :=
  keepMembers keys key nowMs dayMs 86460000 member fun keys =>
    let minuteCount := keys.zcount nowMs key (nowMs - minuteMs)
    let dayCount := keys.zcard nowMs key
    let burstCount := keys.zcount nowMs key (nowMs - burstMs)
    decide (minuteLimit ≤ minuteCount) || decide (dailyLimit ≤ dayCount) ||
      decide (burstLimit ≤ burstCount)

/-- `Number.isSafeInteger(value) && value > 0`, of an integer. -/
def isPositiveLimit (value : Int) : Bool := decide (0 < value ∧ value ≤ maxSafeInteger)

/-- The loop over the three limits. -/
def checkLimits (request : AiRateLimitRequest) : Except String Unit :=
  [("minuteLimit", request.minuteLimit), ("dailyLimit", request.dailyLimit),
    ("burstLimit", request.burstLimit)].forM fun (name, value) =>
      Checked.require (isPositiveLimit value = true) (name ++ " must be a positive safe integer.")

/-- The key of a request in the keyspace. -/
def redisLimitKey (request : AiRateLimitRequest) : String :=
  "avantime:ai-rate:" ++ stableLimitKey sha256 request

/-- The keys that `RedisAiRateLimiter` reads and writes. -/
structure RedisAiRateLimiter where
  keys : SortedSetKeys := ∅

def RedisAiRateLimiter.consume : Consume RedisAiRateLimiter AiRateLimitRequest :=
  fun limiter c =>
    match checkLimits c.request with
    | .error e => (.error e, limiter)
    | .ok () =>
      let (result, keys) :=
        distributedRateLimitScript limiter.keys c.time (redisLimitKey sha256 c.request)
          c.request.minuteLimit c.request.dailyLimit c.request.burstLimit c.member
      (.ok (result == 1), ⟨keys⟩)

/-! ## The two rules -/

/-- The accepted calls after an instant. -/
def countAfter (instants : List Int) (start : Int) : Int :=
  instants.countP fun instant => start < instant

/-- The accepted calls from an instant on. -/
def countFrom (instants : List Int) (start : Int) : Int :=
  instants.countP fun instant => start ≤ instant

/-- There is room in the three windows, as the map counts them. -/
def memoryRoom (request : AiRateLimitRequest) (instants : List Int) (now : Int) : Bool :=
  decide (countAfter instants (now - minuteMs) < request.minuteLimit) &&
    decide (countAfter instants (now - dayMs) < request.dailyLimit) &&
    decide (countAfter instants (now - burstMs) < request.burstLimit)

/-- There is room in the three windows, as the script counts them. -/
def redisRoom (request : AiRateLimitRequest) (instants : List Int) (now : Int) : Bool :=
  decide (countFrom instants (now - minuteMs) < request.minuteLimit) &&
    decide (countAfter instants (now - dayMs) < request.dailyLimit) &&
    decide (countFrom instants (now - burstMs) < request.burstLimit)

def memoryRule : Rule AiRateLimitRequest := fun request instants now =>
  .ok (memoryRoom request instants now)

def redisRule : Rule AiRateLimitRequest := fun request instants now =>
  match checkLimits request with
  | .error e => .error e
  | .ok () => .ok (redisRoom request instants now)

theorem countAfter_le_countFrom (instants : List Int) (start : Int) :
    countAfter instants start ≤ countFrom instants start := by
  unfold countAfter countFrom
  have hle : instants.countP (fun instant => decide (start < instant)) ≤
      instants.countP (fun instant => decide (start ≤ instant)) := by
    refine List.countP_mono_left fun instant _ h => ?_
    simp only [decide_eq_true_eq] at h ⊢
    omega
  omega

/-- The script never finds more room than the map. -/
theorem memoryRoom_of_redisRoom {request : AiRateLimitRequest} {instants : List Int} {now : Int}
    (h : redisRoom request instants now = true) : memoryRoom request instants now = true := by
  simp only [redisRoom, memoryRoom, Bool.and_eq_true, decide_eq_true_eq] at h ⊢
  have hminute := countAfter_le_countFrom instants (now - minuteMs)
  have hburst := countAfter_le_countFrom instants (now - burstMs)
  omega

/-- A window is full when there is no room in it. -/
theorem full_eq_not_room (minute daily burst minuteLimit dailyLimit burstLimit : Int) :
    (decide (minuteLimit ≤ minute) || decide (dailyLimit ≤ daily) || decide (burstLimit ≤ burst)) =
      !(decide (minute < minuteLimit) && decide (daily < dailyLimit) &&
        decide (burst < burstLimit)) := by
  simp only [← not_lt, decide_not, Bool.not_and]

theorem memoryRoom_of_memoryRule {request : AiRateLimitRequest} {instants : List Int} {now : Int}
    (h : isAccepted (memoryRule request instants now) = true) :
    memoryRoom request instants now = true := h

theorem memoryRoom_of_redisRule {request : AiRateLimitRequest} {instants : List Int} {now : Int}
    (h : isAccepted (redisRule request instants now) = true) :
    memoryRoom request instants now = true := by
  unfold redisRule at h
  split at h
  · cases h
  · exact memoryRoom_of_redisRoom h

variable {sha256} {log : List (Call AiRateLimitRequest)} {now : Int} {c : Call AiRateLimitRequest}

/-- What is newer than a minute or ten seconds is newer than a day. -/
theorem length_retained (instants : List Int) {width : Int} (h : width ≤ dayMs) :
    (((instants.filter fun instant => c.time - dayMs < instant).filter
      fun instant => c.time - width < instant).length : Int) =
        countAfter instants (c.time - width) := by
  unfold countAfter
  rw [List.filter_filter, ← List.countP_eq_length_filter]
  congr 1
  refine List.countP_congr fun instant _ => ?_
  simp only [Bool.and_eq_true, decide_eq_true_eq]
  omega

theorem MemoryAiRateLimiter.consume_eq {limiter : MemoryAiRateLimiter}
    (h : KeepsInstants (stableLimitKey sha256) (fun _ => dayMs) limiter.entries log now)
    (hnow : now ≤ c.time) :
    (consume sha256 limiter c).1 = (memoryRule.consume (stableLimitKey sha256) log c).1 ∧
      KeepsInstants (stableLimitKey sha256) (fun _ => dayMs) (consume sha256 limiter c).2.entries
        (memoryRule.consume (stableLimitKey sha256) log c).2 c.time := by
  unfold consume Rule.consume memoryRule
  dsimp only
  refine h.keep hnow _ _ ?_
  rw [length_retained _ (by decide), length_retained _ (by decide),
    ← List.countP_eq_length_filter, full_eq_not_room]
  rfl

theorem RedisAiRateLimiter.consume_eq {limiter : RedisAiRateLimiter}
    (h : KeepsMembers (redisLimitKey sha256) (fun _ => dayMs) limiter.keys log now)
    (hnow : now ≤ c.time) (hnew : c.member ∉ log.map Call.member) :
    (consume sha256 limiter c).1 = (redisRule.consume (redisLimitKey sha256) log c).1 ∧
      KeepsMembers (redisLimitKey sha256) (fun _ => dayMs) (consume sha256 limiter c).2.keys
        (redisRule.consume (redisLimitKey sha256) log c).2 c.time := by
  unfold consume Rule.consume redisRule distributedRateLimitScript
  cases hvalid : checkLimits c.request with
  | error e => exact ⟨rfl, h.later hnow⟩
  | ok u =>
      have hminute : minuteMs < dayMs := by decide
      have hburst : burstMs < dayMs := by decide
      have hday := h.zcard hnow
      have hminutes := h.zcount hnow (show c.time - dayMs < c.time - minuteMs by omega)
      have hbursts := h.zcount hnow (show c.time - dayMs < c.time - burstMs by omega)
      obtain ⟨hresult, hkeeps⟩ := h.keep hnow hnew (show (0 : Int) ≤ 86460000 by decide)
        (show dayMs ≤ 86460000 by decide)
        (fun keys =>
          decide (c.request.minuteLimit ≤
            keys.zcount c.time (redisLimitKey sha256 c.request) (c.time - minuteMs)) ||
          decide (c.request.dailyLimit ≤ keys.zcard c.time (redisLimitKey sha256 c.request)) ||
          decide (c.request.burstLimit ≤
            keys.zcount c.time (redisLimitKey sha256 c.request) (c.time - burstMs)))
        (redisRoom c.request
          (times (redisLimitKey sha256) (redisLimitKey sha256 c.request) log) c.time)
        (by rw [hday, hminutes, hbursts, full_eq_not_room]; rfl)
      refine ⟨?_, hkeeps⟩
      dsimp only
      rw [hresult]
      cases redisRoom c.request
        (times (redisLimitKey sha256) (redisLimitKey sha256 c.request) log) c.time with
      | true => rfl
      | false => rfl

/-! ## Both limiters -/

/-- Every key has one limit of each kind. -/
def AiLimitsFixed (sha256 : String → String) (minute daily burst : String → Int)
    (calls : List (Call AiRateLimitRequest)) : Prop :=
  ∀ c ∈ calls, c.request.minuteLimit = minute (stableLimitKey sha256 c.request) ∧
    c.request.dailyLimit = daily (stableLimitKey sha256 c.request) ∧
    c.request.burstLimit = burst (stableLimitKey sha256 c.request)

/-- Every accepted call has room in its three windows. -/
structure AiWindowsHold (sha256 : String → String) (accepted : List (Call AiRateLimitRequest)) :
    Prop where
  burst : WindowHolds (stableLimitKey sha256) (fun _ => burstMs) AiRateLimitRequest.burstLimit
    accepted
  minute : WindowHolds (stableLimitKey sha256) (fun _ => minuteMs) AiRateLimitRequest.minuteLimit
    accepted
  daily : WindowHolds (stableLimitKey sha256) (fun _ => dayMs) AiRateLimitRequest.dailyLimit
    accepted

variable {calls : List (Call AiRateLimitRequest)} {minute daily burst : String → Int}

/-- What a rule keeps that never accepts without room in the three windows. -/
theorem aiWindowsHold_of_rule {rule : Rule AiRateLimitRequest}
    (hrule : ∀ request instants now, isAccepted (rule request instants now) = true →
      memoryRoom request instants now = true)
    (hfixed : AiLimitsFixed sha256 minute daily burst calls) :
    AiWindowsHold sha256
      (accepted (run (rule.consume (stableLimitKey sha256)) [] calls)) := by
  have hroom : ∀ request instants now, isAccepted (rule request instants now) = true →
      countAfter instants (now - minuteMs) < request.minuteLimit ∧
        countAfter instants (now - dayMs) < request.dailyLimit ∧
        countAfter instants (now - burstMs) < request.burstLimit := by
    intro request instants now h
    have hroom := hrule request instants now h
    simp only [memoryRoom, Bool.and_eq_true, decide_eq_true_eq] at hroom
    exact ⟨hroom.1.1, hroom.1.2, hroom.2⟩
  refine ⟨?_, ?_, ?_⟩
  · refine Rule.windowHolds (fun _ => burstMs) burst (fun c hc => ⟨rfl, (hfixed c hc).2.2⟩) fun request instants now h => ⟨by decide, ?_⟩
    exact (hroom request instants now h).2.2
  · refine Rule.windowHolds (fun _ => minuteMs) minute (fun c hc => ⟨rfl, (hfixed c hc).1⟩) fun request instants now h => ⟨by decide, ?_⟩
    exact (hroom request instants now h).1
  · refine Rule.windowHolds (fun _ => dayMs) daily (fun c hc => ⟨rfl, (hfixed c hc).2.1⟩) fun request instants now h => ⟨by decide, ?_⟩
    exact (hroom request instants now h).2.1

theorem MemoryAiRateLimiter.run_eq (horder : InOrder calls) :
    run (consume sha256) {} calls = run (memoryRule.consume (stableLimitKey sha256)) [] calls := by
  refine run_eq_of_start
    (fun limiter log now => KeepsInstants (stableLimitKey sha256) (fun _ => dayMs)
      limiter.entries log now)
    (fun limiter log now c h hnow _ _ => ?_) keepsInstants_empty horder (fun _ _ => trivial)
  exact consume_eq h hnow

theorem redisLimitKey_eq_iff {r r' : AiRateLimitRequest} :
    redisLimitKey sha256 r = redisLimitKey sha256 r' ↔
      stableLimitKey sha256 r = stableLimitKey sha256 r' := by
  unfold redisLimitKey
  exact ⟨fun h => by simpa using h, fun h => by rw [h]⟩

theorem times_redisLimitKey (r : AiRateLimitRequest) (log : List (Call AiRateLimitRequest)) :
    times (redisLimitKey sha256) (redisLimitKey sha256 r) log =
      times (stableLimitKey sha256) (stableLimitKey sha256 r) log := by
  unfold times ofKey
  simp only [redisLimitKey_eq_iff]

theorem redisRule_consume (rule : Rule AiRateLimitRequest) :
    rule.consume (redisLimitKey sha256) = rule.consume (stableLimitKey sha256) := by
  funext log c
  unfold Rule.consume
  rw [times_redisLimitKey]

theorem RedisAiRateLimiter.run_eq (horder : InOrder calls) :
    run (consume sha256) {} calls = run (redisRule.consume (stableLimitKey sha256)) [] calls := by
  rw [← redisRule_consume]
  refine run_eq_of_start
    (fun limiter log now => KeepsMembers (redisLimitKey sha256) (fun _ => dayMs)
      limiter.keys log now)
    (fun limiter log now c h hnow hnew _ => ?_) keepsMembers_empty horder (fun _ _ => trivial)
  exact consume_eq h hnow hnew

end AvantimePlatform.Ai
