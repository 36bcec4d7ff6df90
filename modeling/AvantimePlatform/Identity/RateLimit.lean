import AvantimePlatform.Documents.Identifiers
import AvantimePlatform.Lib.Checked
import AvantimePlatform.Lib.SlidingWindow

/-!
# The identity rate limiters

`identity-rate-limit.ts`: the request, its check and its key, and the two limiters, one
over a map of timestamps and one over the keys of a Redis server.  The digest is a
parameter.  A call carries the millisecond of the limiter's clock and the member that
`crypto.randomUUID()` draws.

Both reply by `identityRule`, which counts the accepted calls of the key in the window
that ends with the call.
-/

namespace AvantimePlatform.Identity

open AvantimePlatform AvantimePlatform.Documents AvantimePlatform.SlidingWindow

inductive IdentityRateLimitScope where
  | loginIdentifier | loginIp | passwordResetIdentifier | passwordResetIp
  | emailVerificationIdentifier | emailVerificationIp | mfaChallenge | mfaEnrollment | invitation
deriving DecidableEq

/-- The text of a scope in a key. -/
def IdentityRateLimitScope.text : IdentityRateLimitScope → String
  | .loginIdentifier => "login-identifier"
  | .loginIp => "login-ip"
  | .passwordResetIdentifier => "password-reset-identifier"
  | .passwordResetIp => "password-reset-ip"
  | .emailVerificationIdentifier => "email-verification-identifier"
  | .emailVerificationIp => "email-verification-ip"
  | .mfaChallenge => "mfa-challenge"
  | .mfaEnrollment => "mfa-enrollment"
  | .invitation => "invitation"

structure IdentityRateLimitRequest where
  scope : IdentityRateLimitScope
  subject : String
  limit : Int
  windowSeconds : Int
deriving DecidableEq

/-- The width of the request's window, in milliseconds. -/
def IdentityRateLimitRequest.windowMs (request : IdentityRateLimitRequest) : Int :=
  request.windowSeconds * 1000

/-- `Number.isSafeInteger` of an integer. -/
def isSafeInteger (value : Int) : Bool := decide (value.natAbs ≤ maxSafeInteger)

def validateRequest (request : IdentityRateLimitRequest) : Except String Unit :=
  Checked.require (isSafeInteger request.limit = true ∧ 1 ≤ request.limit ∧
      isSafeInteger request.windowSeconds = true ∧ 1 ≤ request.windowSeconds ∧
      request.windowSeconds ≤ 86400)
    "Identity rate limit configuration is invalid."

variable (sha256 : String → String)

def keyFor (request : IdentityRateLimitRequest) : String :=
  "avantime:identity-rate:" ++ request.scope.text ++ ":" ++ sha256 request.subject

/-- The map of `MemoryIdentityRateLimiter`. -/
structure MemoryIdentityRateLimiter where
  entries : Table String (List Int) := ∅

def MemoryIdentityRateLimiter.consume :
    Consume MemoryIdentityRateLimiter IdentityRateLimitRequest := fun limiter c =>
  match validateRequest c.request with
  | .error e => (.error e, limiter)
  | .ok () =>
    let (reply, entries) :=
      keepInstants limiter.entries (keyFor sha256 c.request) c.time c.request.windowMs
        fun retained => decide (c.request.limit ≤ retained.length)
    (reply, ⟨entries⟩)

/-- `redisIdentityLimitScript`, at the millisecond of the server's clock. -/
def redisIdentityLimitScript (keys : SortedSetKeys) (nowMs : Int) (key : String)
    (windowMs limit : Int) (member : String) : Nat × SortedSetKeys :=
  keepMembers keys key nowMs windowMs (windowMs + 1000) member
    fun keys => decide (limit ≤ keys.zcard nowMs key)

/-- The keys that `RedisIdentityRateLimiter` reads and writes. -/
structure RedisIdentityRateLimiter where
  keys : SortedSetKeys := ∅

def RedisIdentityRateLimiter.consume :
    Consume RedisIdentityRateLimiter IdentityRateLimitRequest := fun limiter c =>
  match validateRequest c.request with
  | .error e => (.error e, limiter)
  | .ok () =>
    let (result, keys) :=
      redisIdentityLimitScript limiter.keys c.time (keyFor sha256 c.request) c.request.windowMs
        c.request.limit c.member
    (.ok (result == 1), ⟨keys⟩)

/-! ## The rule that both follow -/

/-- A valid request is accepted with fewer than `limit` accepted calls in the window. -/
def identityRule : Rule IdentityRateLimitRequest := fun request instants now =>
  match validateRequest request with
  | .error e => .error e
  | .ok () =>
    .ok (decide ((instants.countP (fun instant => now - request.windowMs < instant) : Int) <
      request.limit))

variable {sha256} {window : String → Int} {log : List (Call IdentityRateLimitRequest)} {now : Int}
  {c : Call IdentityRateLimitRequest}

theorem validateRequest_eq_ok {request : IdentityRateLimitRequest} {u : Unit}
    (h : validateRequest request = .ok u) : 1 ≤ request.limit ∧ 1 ≤ request.windowSeconds := by
  have hchecks := Checked.require_eq_ok.mp h
  exact ⟨hchecks.2.1, hchecks.2.2.2.1⟩

theorem identityRule_room {request : IdentityRateLimitRequest} {instants : List Int}
    (h : isAccepted (identityRule request instants now) = true) :
    0 < request.windowMs ∧
      (instants.countP (fun instant => now - request.windowMs < instant) : Int) <
        request.limit := by
  unfold identityRule at h
  split at h
  · cases h
  · next hvalid =>
    have hpos := (validateRequest_eq_ok hvalid).2
    refine ⟨?_, of_decide_eq_true h⟩
    unfold IdentityRateLimitRequest.windowMs
    omega

theorem MemoryIdentityRateLimiter.consume_eq {limiter : MemoryIdentityRateLimiter}
    (h : KeepsInstants (keyFor sha256) window limiter.entries log now) (hnow : now ≤ c.time)
    (hwindow : c.request.windowMs = window (keyFor sha256 c.request)) :
    (consume sha256 limiter c).1 = (identityRule.consume (keyFor sha256) log c).1 ∧
      KeepsInstants (keyFor sha256) window (consume sha256 limiter c).2.entries
        (identityRule.consume (keyFor sha256) log c).2 c.time := by
  unfold consume Rule.consume identityRule
  cases hvalid : validateRequest c.request with
  | error e => exact ⟨rfl, h.later hnow⟩
  | ok u =>
      dsimp only
      rw [hwindow]
      refine h.keep hnow _ _ ?_
      rw [← List.countP_eq_length_filter]
      simp only [← not_lt, decide_not]

theorem RedisIdentityRateLimiter.consume_eq {limiter : RedisIdentityRateLimiter}
    (h : KeepsMembers (keyFor sha256) window limiter.keys log now) (hnow : now ≤ c.time)
    (hnew : c.member ∉ log.map Call.member)
    (hwindow : c.request.windowMs = window (keyFor sha256 c.request)) :
    (consume sha256 limiter c).1 = (identityRule.consume (keyFor sha256) log c).1 ∧
      KeepsMembers (keyFor sha256) window (consume sha256 limiter c).2.keys
        (identityRule.consume (keyFor sha256) log c).2 c.time := by
  unfold consume Rule.consume identityRule redisIdentityLimitScript
  cases hvalid : validateRequest c.request with
  | error e => exact ⟨rfl, h.later hnow⟩
  | ok u =>
      have hpos := (validateRequest_eq_ok hvalid).2
      have hwidth : 0 < c.request.windowMs := by
        unfold IdentityRateLimitRequest.windowMs
        omega
      dsimp only
      rw [hwindow] at hwidth ⊢
      have hcard := h.zcard hnow
      obtain ⟨hresult, hkeeps⟩ := h.keep hnow hnew
        (show 0 ≤ window (keyFor sha256 c.request) + 1000 by omega) (by omega)
        (fun keys => decide (c.request.limit ≤ keys.zcard c.time (keyFor sha256 c.request)))
        (decide (((times (keyFor sha256) (keyFor sha256 c.request) log).countP
          (fun instant => c.time - window (keyFor sha256 c.request) < instant) : Int) <
            c.request.limit))
        (by simp only [hcard, ← not_lt, decide_not])
      refine ⟨?_, hkeeps⟩
      rw [hresult]
      split
      · next hroom => rw [hroom]; rfl
      · next hfull => rw [Bool.eq_false_iff.mpr hfull]; rfl

/-! ## Both limiters -/

/-- Every key has one limit and one window. -/
def IdentityLimitsFixed (sha256 : String → String) (limit window : String → Int)
    (calls : List (Call IdentityRateLimitRequest)) : Prop :=
  ∀ c ∈ calls, c.request.windowMs = window (keyFor sha256 c.request) ∧
    c.request.limit = limit (keyFor sha256 c.request)

variable {limit : String → Int} {calls : List (Call IdentityRateLimitRequest)}

theorem MemoryIdentityRateLimiter.run_eq (horder : InOrder calls)
    (hfixed : IdentityLimitsFixed sha256 limit window calls) :
    run (consume sha256) {} calls = run (identityRule.consume (keyFor sha256)) [] calls := by
  refine run_eq_of_start
    (fun limiter log now => KeepsInstants (keyFor sha256) window limiter.entries log now)
    (fun limiter log now c h hnow _ hc => ?_) keepsInstants_empty horder hfixed
  exact consume_eq h hnow hc.1

theorem RedisIdentityRateLimiter.run_eq (horder : InOrder calls)
    (hfixed : IdentityLimitsFixed sha256 limit window calls) :
    run (consume sha256) {} calls = run (identityRule.consume (keyFor sha256)) [] calls := by
  refine run_eq_of_start
    (fun limiter log now => KeepsMembers (keyFor sha256) window limiter.keys log now)
    (fun limiter log now c h hnow hnew hc => ?_) keepsMembers_empty horder hfixed
  exact consume_eq h hnow hnew hc.1

/-- What the rule keeps, for the replies of any limiter that follows it. -/
theorem identityRule_windowHolds (hfixed : IdentityLimitsFixed sha256 limit window calls) :
    WindowHolds (keyFor sha256) IdentityRateLimitRequest.windowMs IdentityRateLimitRequest.limit
      (accepted (run (identityRule.consume (keyFor sha256)) [] calls)) :=
  Rule.windowHolds window limit hfixed fun _ _ _ => identityRule_room

end AvantimePlatform.Identity
