import AvantimePlatform.Jira.Provider
import AvantimePlatform.Lib.Transition

/-!
# Posting a comment once

The attempts to post the comment of one `ADD_COMMENT` operation, one after the other.  Each
attempt lists the comments on the issue and posts its own when none of them ends with the
reference of the operation.  Between any two requests others may comment on the issue, an
answer may be lost after its request has taken effect, and an attempt may be given up.

The list is one page of a hundred comments, the oldest first, and an answer that cannot be
read counts as an empty one.  `SeesEarlierPost` is the condition that neither hides the
comment of an earlier attempt.
-/

namespace AvantimePlatform.Jira

open AvantimePlatform AvantimePlatform.Checked AvantimePlatform.Transition

/-- What the attempts of an operation have in common. -/
structure CommentTarget where
  issueId : String
  issueKey : String
  requestReference : String
  idempotencyKey : String

/-- The tenant, and the attempt that is under way. -/
structure CommentAttempts where
  tenant : JiraTenant
  place : Option CloudCommentPlace := none

/-- What can happen. -/
inductive AttemptEvent where
  /-- A worker calls `addComment` for the operation, whose comment has this body. -/
  | attempt (body : String)
  /-- The request of the attempt under way is answered. -/
  | answer (answer : ProviderAnswer)
  /-- The attempt is given up. -/
  | crash
  /-- Others do something at the tenant. -/
  | others (others : CloudOthers)

section System

variable (runtime : ProviderRuntime) (target : CommentTarget)

/-- One step.  There is one attempt at a time. -/
def CommentAttempts.next (s : CommentAttempts) : AttemptEvent → Option CommentAttempts
  | .attempt body =>
    match s.place with
    | some _ => none
    | none =>
      match projectJiraComment runtime target.issueId target.issueKey target.requestReference body
        target.idempotencyKey with
      | .ok payload => some { s with place := some (.list payload) }
      | .error _ => some s
  | .answer answer =>
    s.place.map fun place =>
      match cloudComment s.tenant answer place with
      | (tenant, .inl place) => { tenant := tenant, place := some place }
      | (tenant, .inr _) => { tenant := tenant }
  | .crash => some { s with place := none }
  | .others others => some { s with tenant := cloudOthers s.tenant others }

/-- The comment is on the issue and carries the marker of the operation. -/
def CommentTarget.isCarriedBy (comment : JiraComment) : Bool :=
  comment.issueKey = target.issueKey &&
    match plainText runtime target.requestReference 100 "REQUEST_REFERENCE" with
    | .ok reference => comment.endsWith ("Avantime reference: " ++ reference ++ "/" ++
        ("avantime-comment-" ++ digestStart runtime target.idempotencyKey 32))
    | .error _ => false

/-- How many comments carry the marker. -/
def CommentAttempts.carriers (s : CommentAttempts) : Nat :=
  s.tenant.comments.countP (target.isCarriedBy runtime)

/-- The comments of others do not carry the marker. -/
def OthersUnmarked (_ : CommentAttempts) : AttemptEvent → Prop
  | .others (.comment comment) => target.isCarriedBy runtime comment = false
  | _ => True

def AttemptEvent.answer? : AttemptEvent → Option ProviderAnswer
  | .answer reply => some reply
  | _ => none

/-- The attempt under way is about to list the comments. -/
def CommentAttempts.isListing (s : CommentAttempts) : Bool :=
  match s.place with
  | some (.list _) => true
  | _ => false

/-- Where the comments are listed after an earlier attempt has posted, the answer can be read
and the comment is on the page. -/
def SeesEarlierPost (s : CommentAttempts) (event : AttemptEvent) : Prop :=
  ∀ answer ∈ event.answer?, s.isListing = true → 0 < s.carriers runtime target →
    answer.isReadable = true ∧
      ∃ comment ∈ s.tenant.page target.issueKey, target.isCarriedBy runtime comment = true

instance (s : CommentAttempts) (event : AttemptEvent) :
    Decidable (SeesEarlierPost runtime target s event) :=
  inferInstanceAs (Decidable (∀ answer ∈ event.answer?, _ → _ → _ ∧ _))

end System

section Invariant

variable {runtime : ProviderRuntime} {target : CommentTarget} {s s' : CommentAttempts}

/-- The payload is one of the operation's. -/
def CommentTarget.IsPayload (runtime : ProviderRuntime) (target : CommentTarget)
    (payload : JiraCommentPayload) : Prop :=
  payload.issueKey = target.issueKey ∧
    ∀ comment : JiraComment, comment.issueKey = target.issueKey →
      target.isCarriedBy runtime comment = comment.endsWith payload.reference

theorem isPayload_of_project {body : String} {payload : JiraCommentPayload}
    (h : projectJiraComment runtime target.issueId target.issueKey target.requestReference body
      target.idempotencyKey = .ok payload) : target.IsPayload runtime payload := by
  unfold projectJiraComment at h
  obtain ⟨-, h⟩ := seq_eq_ok.mp h
  obtain ⟨-, h⟩ := seq_eq_ok.mp h
  obtain ⟨text, -, h⟩ := bind_eq_ok.mp h
  obtain ⟨reference, hreference, h⟩ := bind_eq_ok.mp h
  have hpayload := Except.ok.inj h
  subst hpayload
  refine ⟨rfl, fun comment hkey => ?_⟩
  unfold CommentTarget.isCarriedBy
  rw [hreference, hkey, decide_eq_true rfl, Bool.true_and]
  rfl

def CloudCommentPlace.payload : CloudCommentPlace → JiraCommentPayload
  | .list payload => payload
  | .post payload => payload

/-- What the steps keep: at most one comment carries the marker, and none does while an attempt
is about to post. -/
structure PostedOnce (runtime : ProviderRuntime) (target : CommentTarget) (s : CommentAttempts) :
    Prop where
  once : s.carriers runtime target ≤ 1
  payload : ∀ place ∈ s.place, target.IsPayload runtime place.payload
  fresh : ∀ payload, s.place = some (.post payload) → s.carriers runtime target = 0

/-- With no attempt under way the number of comments is all there is to it. -/
theorem postedOnce_idle (honce : s.carriers runtime target ≤ 1) (hidle : s.place = none) :
    PostedOnce runtime target s where
  once := honce
  payload := by
    rw [hidle]
    nofun
  fresh := by
    rw [hidle]
    nofun

/-- The comment of an attempt carries the marker. -/
theorem isCarriedBy_comment {payload : JiraCommentPayload} (h : target.IsPayload runtime payload)
    (id : String) : target.isCarriedBy runtime (payload.comment id) = true := by
  rw [h.2 (payload.comment id) h.1]
  exact endsWith_reference payload id

theorem carriers_addComment (runtime : ProviderRuntime) (target : CommentTarget)
    (tenant : JiraTenant) (place : Option CloudCommentPlace) (comment : JiraComment) :
    ({ tenant := tenant.addComment comment, place := place } : CommentAttempts).carriers runtime target =
      ({ tenant := tenant, place := place } : CommentAttempts).carriers runtime target +
        if target.isCarriedBy runtime comment = true then 1 else 0 := by
  unfold CommentAttempts.carriers JiraTenant.addComment
  rw [List.countP_append, List.countP_singleton]

/-- A comment on the page of the issue is on the issue. -/
theorem issueKey_of_mem_page {tenant : JiraTenant} {issueKey : String} {comment : JiraComment}
    (h : comment ∈ tenant.page issueKey) : comment.issueKey = issueKey := by
  have hmem := List.mem_filter.mp (List.mem_of_mem_take h)
  simp only [Bool.and_eq_true, decide_eq_true_eq] at hmem
  exact hmem.2.1

/-- An answer to the attempt under way. -/
theorem postedOnce_answer {answer : ProviderAnswer} {place : CloudCommentPlace}
    (h : PostedOnce runtime target s) (hplace : s.place = some place)
    (hsees : SeesEarlierPost runtime target s (.answer answer))
    (hstep : CommentAttempts.next runtime target s (.answer answer) = some s') :
    PostedOnce runtime target s' := by
  have hpayload := h.payload place hplace
  simp only [CommentAttempts.next, hplace, Option.map_some, Option.some.injEq] at hstep
  rcases hcloud : cloudComment s.tenant answer place with ⟨tenant, next⟩
  rw [hcloud] at hstep
  rcases cloudComment_cases hcloud with ⟨result, rfl, rfl⟩ | ⟨payload, rfl, rfl, rfl, hunseen⟩ |
    ⟨payload, id, result, rfl, rfl, rfl⟩
  · subst hstep
    exact postedOnce_idle h.once rfl
  · subst hstep
    refine ⟨h.once, ?_, ?_⟩
    · intro place' hplace'
      cases hplace'
      exact hpayload
    · intro payload' _
      show s.carriers runtime target = 0
      by_contra hcarried
      have hlisting : s.isListing = true := by
        unfold CommentAttempts.isListing
        rw [hplace]
      obtain ⟨hread, comment, hcomment, hcarries⟩ :=
        hsees answer rfl hlisting (Nat.pos_of_ne_zero hcarried)
      rcases hunseen with hunreadable | hunseen
      · exact Bool.false_ne_true (hunreadable.symm.trans hread)
      · have hkey : payload.issueKey = target.issueKey := hpayload.1
        rw [hkey] at hunseen
        rw [hpayload.2 comment (issueKey_of_mem_page hcomment)] at hcarries
        exact Bool.false_ne_true ((hunseen comment hcomment).symm.trans hcarries)
  · subst hstep
    have hzero : s.carriers runtime target = 0 := h.fresh payload hplace
    have hcarries : target.isCarriedBy runtime (payload.comment id) = true :=
      isCarriedBy_comment hpayload id
    have hcount := carriers_addComment runtime target s.tenant none (payload.comment id)
    refine postedOnce_idle ?_ rfl
    rw [hcount, if_pos hcarries]
    have hsame : ({ tenant := s.tenant, place := none } : CommentAttempts).carriers runtime target =
        s.carriers runtime target := rfl
    omega

/-- What others do, when they do not use the marker. -/
theorem postedOnce_others {others : CloudOthers} (h : PostedOnce runtime target s)
    (hunmarked : OthersUnmarked runtime target s (.others others)) :
    PostedOnce runtime target { s with tenant := cloudOthers s.tenant others } := by
  have hcarriers : ({ s with tenant := cloudOthers s.tenant others } : CommentAttempts).carriers
      runtime target = s.carriers runtime target := by
    cases others with
    | issue issue => rfl
    | comment comment =>
        have hnot : ¬target.isCarriedBy runtime comment = true := by
          rw [show target.isCarriedBy runtime comment = false from hunmarked]
          exact Bool.false_ne_true
        have hcount := carriers_addComment runtime target s.tenant s.place comment
        rw [if_neg hnot] at hcount
        exact hcount
  refine ⟨?_, h.payload, ?_⟩
  · rw [hcarriers]
    exact h.once
  · intro payload hplace
    rw [hcarriers]
    exact h.fresh payload hplace

/-- Every step that sees an earlier post keeps the invariant. -/
theorem postedOnce_step {event : AttemptEvent} (h : PostedOnce runtime target s)
    (hunmarked : OthersUnmarked runtime target s event)
    (hsees : SeesEarlierPost runtime target s event)
    (hstep : stepOf (CommentAttempts.next runtime target) s event s') :
    PostedOnce runtime target s' := by
  cases event with
  | attempt body =>
      simp only [stepOf, CommentAttempts.next] at hstep
      split at hstep
      · cases hstep
      split at hstep
      · next payload hpayload =>
        cases hstep
        refine ⟨h.once, ?_, ?_⟩
        · intro place hplace
          cases hplace
          exact isPayload_of_project hpayload
        · intro payload' hplace
          cases hplace
      · cases hstep
        exact h
  | answer answer =>
      cases hplace : s.place with
      | none => simp [stepOf, CommentAttempts.next, hplace] at hstep
      | some place => exact postedOnce_answer h hplace hsees hstep
  | crash =>
      cases hstep
      exact postedOnce_idle h.once rfl
  | others others =>
      cases hstep
      exact postedOnce_others h hunmarked

/-- However often the comment of an operation is attempted, and whatever others write in
between, one comment at most carries its marker, when every listing sees the post of an
earlier attempt. -/
theorem comment_posted_at_most_once (runtime : ProviderRuntime) (target : CommentTarget)
    {s : CommentAttempts} {run : List (AttemptEvent × CommentAttempts)}
    (hidle : s.place = none) (hnone : s.carriers runtime target = 0)
    (hrun : Run (Guarded (OthersUnmarked runtime target)
      (stepOf (CommentAttempts.next runtime target))) s run)
    (hsees : StepsMeet (SeesEarlierPost runtime target) s run) :
    AlwaysHolds (fun s' => s'.carriers runtime target ≤ 1) s run := by
  have hstart : PostedOnce runtime target s := by
    refine ⟨by omega, ?_, ?_⟩
    · rw [hidle]
      nofun
    · rw [hidle]
      nofun
  have hgood : ∀ s', Reachable (· = s) (Guarded (SeesEarlierPost runtime target)
      (Guarded (OthersUnmarked runtime target) (stepOf (CommentAttempts.next runtime target)))) s' →
      s'.carriers runtime target ≤ 1 := by
    intro s' hreachable
    have hinv := hreachable.invariant (PostedOnce runtime target)
      (fun s₀ (h₀ : s₀ = s) => h₀ ▸ hstart)
      (fun _ _ _ h hstep => postedOnce_step h hstep.2.1 hstep.1 hstep.2.2)
    exact hinv.once
  exact alwaysHolds_of_stepsMeet hgood hrun (.start rfl) hsees

end Invariant

/-! ## A long thread -/

section LongThread

/-- The target of a customer's comment. -/
def longTarget : CommentTarget where
  issueId := "10001"
  issueKey := "AV-1"
  requestReference := "AV-5F3C"
  idempotencyKey := "jira:add-comment:7b0c"

def longRuntime : ProviderRuntime where
  normalize text := text
  sha256 _ := "7914ab3a34a0d99c11a684de56fda6f876bec7f482543a30342c91157d4e8b2a"
  isLetterOrNumber := Char.isAlphanum
  issueUrl key := "https://avantime.atlassian.net/browse/" ++ key

def otherComment : JiraComment where
  id := "1"
  issueKey := "AV-1"
  body := "Done."
  isPublic := true

/-- An issue with this many public comments. -/
def threadOf (length : Nat) : CommentAttempts where
  tenant := { comments := List.replicate length otherComment }

/-- The post of the first attempt times out after it has taken effect, and a second attempt
follows. -/
def timedOutPost : List AttemptEvent :=
  [.attempt "Thanks", .answer (.respond "" ""),
   .answer (.fail (.provider "JIRA_NETWORK_FAILURE" true) (some ("2", ""))),
   .attempt "Thanks", .answer (.respond "" ""), .answer (.respond "3" "")]

theorem othersUnmarked_timedOutPost :
    ∀ event ∈ timedOutPost, ∀ s, OthersUnmarked longRuntime longTarget s event := by
  intro event hevent s
  simp only [timedOutPost, List.mem_cons, List.not_mem_nil, or_false] at hevent
  rcases hevent with rfl | rfl | rfl | rfl | rfl | rfl <;> trivial

theorem comment_posted_at_most_once_shortThread :
    AlwaysHolds (fun s' => s'.carriers longRuntime longTarget ≤ 1) (threadOf 3)
      (trace (CommentAttempts.next longRuntime longTarget) (threadOf 3) timedOutPost) := by
  apply comment_posted_at_most_once
  · rfl
  · decide +kernel
  · exact run_guarded_trace _ othersUnmarked_timedOutPost
  · decide +kernel

/-- Behind a hundred public comments the second attempt does not see the post of the first
one, and the comment is on the issue twice. -/
theorem comment_posted_twice :
    ∃ s', Reachable (fun s => s = threadOf 100) (Guarded (OthersUnmarked longRuntime longTarget)
        (stepOf (CommentAttempts.next longRuntime longTarget))) s' ∧
      (threadOf 100).carriers longRuntime longTarget = 0 ∧
      s'.carriers longRuntime longTarget = 2 := by
  have hnone : (threadOf 100).carriers longRuntime longTarget = 0 := by decide +kernel
  have hunmarked : ∀ event ∈ timedOutPost, OthersUnmarked longRuntime longTarget (threadOf 100) event :=
    fun event hevent => othersUnmarked_timedOutPost event hevent _
  have htwice : ∃ s', Reachable (fun s => s = threadOf 100)
      (Guarded (fun _ event => OthersUnmarked longRuntime longTarget (threadOf 100) event)
        (stepOf (CommentAttempts.next longRuntime longTarget))) s' ∧
      s'.carriers longRuntime longTarget = 2 :=
    exists_guarded_of_exec (fun s : CommentAttempts => s.carriers longRuntime longTarget = 2) _ timedOutPost rfl
      hunmarked (by decide +kernel)
  obtain ⟨s', hreachable, hcarriers⟩ := htwice
  exact ⟨s', hreachable, hnone, hcarriers⟩

end LongThread

end AvantimePlatform.Jira
