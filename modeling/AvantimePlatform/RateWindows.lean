import AvantimePlatform.Ai.RateLimit
import AvantimePlatform.Identity.RateLimit

/-!
# Rate limits in every window

The four limiters, run over any sequence of calls whose clock does not go back.  No
accepted call has more accepted calls of its key than the limit in the window that ends
with it, the replies to the calls of a key are those of the calls of that key alone, and
the two identity limiters give the same replies.
-/

namespace AvantimePlatform

open SlidingWindow

/-- What a limiter keeps: the windows of its accepted calls, and each key by itself. -/
def KeepsWindows {State Request : Type} (consume : Consume State Request) (start : State)
    (key : Request → String) (windows : List (Call Request) → Prop)
    (calls : List (Call Request)) : Prop :=
  windows (accepted (run consume start calls)) ∧ Independent consume start key calls

section Identity

open AvantimePlatform.Identity

variable {sha256 : String → String} {limit window : String → Int}
  {calls : List (Call IdentityRateLimitRequest)}

theorem identityLimits_keepWindows {State : Type} {start : State}
    {consume : Consume State IdentityRateLimitRequest}
    (hrun : ∀ calls', List.Sublist calls' calls →
      run consume start calls' = run (identityRule.consume (keyFor sha256)) [] calls')
    (hfixed : IdentityLimitsFixed sha256 limit window calls) :
    KeepsWindows consume start (keyFor sha256)
      (WindowHolds (keyFor sha256) IdentityRateLimitRequest.windowMs
        IdentityRateLimitRequest.limit) calls := by
  refine ⟨?_, independent_of_rule hrun⟩
  rw [hrun calls (List.Sublist.refl calls)]
  exact identityRule_windowHolds hfixed

end Identity

section Ai

open AvantimePlatform.Ai

variable {sha256 : String → String} {minute daily burst : String → Int}
  {calls : List (Call AiRateLimitRequest)}

theorem aiLimits_keepWindows {State : Type} {start : State}
    {consume : Consume State AiRateLimitRequest} {rule : Rule AiRateLimitRequest}
    (hrule : ∀ request instants now, isAccepted (rule request instants now) = true →
      memoryRoom request instants now = true)
    (hrun : ∀ calls', List.Sublist calls' calls →
      run consume start calls' = run (rule.consume (stableLimitKey sha256)) [] calls')
    (hfixed : AiLimitsFixed sha256 minute daily burst calls) :
    KeepsWindows consume start (stableLimitKey sha256) (AiWindowsHold sha256) calls := by
  refine ⟨?_, independent_of_rule hrun⟩
  rw [hrun calls (List.Sublist.refl calls)]
  exact aiWindowsHold_of_rule hrule hfixed

end Ai

open Identity Ai in
/-- Rate limits hold in every sliding window, for each key by itself, and the two
identity limiters reply alike. -/
theorem rate_limits_hold (sha256 : String → String) :
    (∀ (limit window : String → Int) (calls : List (Call IdentityRateLimitRequest)),
      InOrder calls → IdentityLimitsFixed sha256 limit window calls →
      KeepsWindows (MemoryIdentityRateLimiter.consume sha256) {} (keyFor sha256)
        (WindowHolds (keyFor sha256) IdentityRateLimitRequest.windowMs
          IdentityRateLimitRequest.limit) calls ∧
      KeepsWindows (RedisIdentityRateLimiter.consume sha256) {} (keyFor sha256)
        (WindowHolds (keyFor sha256) IdentityRateLimitRequest.windowMs
          IdentityRateLimitRequest.limit) calls ∧
      run (MemoryIdentityRateLimiter.consume sha256) {} calls =
        run (RedisIdentityRateLimiter.consume sha256) {} calls) ∧
    (∀ (minute daily burst : String → Int) (calls : List (Call AiRateLimitRequest)),
      InOrder calls → AiLimitsFixed sha256 minute daily burst calls →
      KeepsWindows (MemoryAiRateLimiter.consume sha256) {} (stableLimitKey sha256)
        (AiWindowsHold sha256) calls ∧
      KeepsWindows (RedisAiRateLimiter.consume sha256) {} (stableLimitKey sha256)
        (AiWindowsHold sha256) calls) := by
  constructor
  · intro limit window calls horder hfixed
    have hsub : ∀ calls', List.Sublist calls' calls →
        IdentityLimitsFixed sha256 limit window calls' :=
      fun calls' hsub c hc => hfixed c (hsub.subset hc)
    refine ⟨identityLimits_keepWindows (fun calls' h => ?_) hfixed,
      identityLimits_keepWindows (fun calls' h => ?_) hfixed, ?_⟩
    · exact MemoryIdentityRateLimiter.run_eq (horder.sublist h) (hsub calls' h)
    · exact RedisIdentityRateLimiter.run_eq (horder.sublist h) (hsub calls' h)
    · rw [MemoryIdentityRateLimiter.run_eq horder hfixed,
        RedisIdentityRateLimiter.run_eq horder hfixed]
  · intro minute daily burst calls horder hfixed
    constructor
    · refine aiLimits_keepWindows (fun _ _ _ => memoryRoom_of_memoryRule) (fun calls' h => ?_) hfixed
      exact MemoryAiRateLimiter.run_eq (horder.sublist h)
    · refine aiLimits_keepWindows (fun _ _ _ => memoryRoom_of_redisRule)
        (fun calls' h => ?_) hfixed
      exact RedisAiRateLimiter.run_eq (horder.sublist h)

open Identity in
/-- Three logins from one address within a minute, of which two may go on. -/
def threeLogins : List (Call IdentityRateLimitRequest) :=
  let request : IdentityRateLimitRequest := ⟨.loginIp, "192.0.2.1", 2, 60⟩
  [⟨0, "a", request⟩, ⟨1000, "b", request⟩, ⟨2000, "c", request⟩]

open Ai in
/-- Two answers for one user within ten seconds, of which one may go on. -/
def twoAnswers : List (Call AiRateLimitRequest) :=
  let request : AiRateLimitRequest := ⟨⟨"company", "user"⟩, "openai", .ragAnswer, 5, 20, 1⟩
  [⟨0, "a", request⟩, ⟨9000, "b", request⟩]

open Identity Ai in
theorem rate_limits_hold_calls :
    WindowHolds (keyFor id) IdentityRateLimitRequest.windowMs IdentityRateLimitRequest.limit
      (accepted (run (RedisIdentityRateLimiter.consume id) {} threeLogins)) ∧
    AiWindowsHold id (accepted (run (RedisAiRateLimiter.consume id) {} twoAnswers)) :=
  ⟨((rate_limits_hold id).1 (fun _ => 2) (fun _ => 60000) threeLogins (by decide)
      (by simp [IdentityLimitsFixed, threeLogins, IdentityRateLimitRequest.windowMs])).2.1.1,
    ((rate_limits_hold id).2 (fun _ => 5) (fun _ => 20) (fun _ => 1) twoAnswers (by decide)
      (by simp [AiLimitsFixed, twoAnswers])).2.1⟩

end AvantimePlatform
