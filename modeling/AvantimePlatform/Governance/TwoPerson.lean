import AvantimePlatform.Governance.Approvals

/-!
# Two-person approval

The safety of approvals over every interleaving of the five operations, for every
executor.  `Wrote` lists what a step of a call can do to the tables; everything else
is read off it.

The invariant `Sound` ties the status of a request to its decisions: while a request
can still be executed, and once it has been, no decision rejects it.  A decision that
rejects is stored together with the update that leaves `REQUESTED`, and that update
finds no row which another decision has moved on.
-/

namespace AvantimePlatform.Governance

open AvantimePlatform AvantimePlatform.Checked AvantimePlatform.Interleaving
  AvantimePlatform.Transition

variable {Resources Caller Captured Answer Env : Type} {digest : CanonicalApproval → String}
  {executor : Executor Resources Caller Captured Answer}
  {db db' : Tables Resources Caller Captured}

/-! ## What a step of a call does -/

/-- What the checks of an execution establish. -/
structure ExecutionAdmitted (input : ExecuteInput Caller) (currentResourceVersion : Option Int)
    (request : GovernanceApprovalRequest) (decisions : List GovernanceApprovalDecision) :
    Prop where
  actionType : request.actionType = input.expectedActionType
  company : request.scope = .organization → request.companyId = input.session.companyId
  requester : request.requesterId = input.session.userId
  notExpired : input.now < request.expiresAt
  approvers : (governanceApprovalPolicies request.actionType).minimumApprovals ≤
    (validApprovers decisions request.requesterId).card
  version : request.expectedVersion ≠ none → request.expectedVersion = currentResourceVersion

theorem executionAdmitted_of_checks {input : ExecuteInput Caller} {version : Option Int}
    {request : GovernanceApprovalRequest} {decisions : List GovernanceApprovalDecision}
    (h : executeChecks digest input version request decisions = .ok ()) :
    ExecutionAdmitted input version request decisions := by
  simp only [executeChecks, bind_eq_ok, require_eq_ok, getGovernanceApprovalPolicy,
    Option.mem_def, Option.some.injEq, exists_eq_left'] at h
  obtain ⟨-, haction, -, hcompany, -, hrequester, -, -, -, hexpires, -, happrovers, -, hversion,
    -⟩ := h
  exact ⟨haction, hcompany, hrequester, hexpires, happrovers, hversion⟩

/-- The tables that an execution leaves when it commits. -/
def Tables.executed (db : Tables Resources Caller Captured) (input : ExecuteInput Caller)
    (captured : Captured) (request : GovernanceApprovalRequest) (resources : Resources) :
    Tables Resources Caller Captured :=
  { db.updateRequests (·.isClaimable request.id) (·.claim input.now input.executionKey) with
    resources := resources
    effects := { input := input, captured := captured, request := request.approvedRequest,
                 row := request } :: db.effects }

/-- What a step of a call writes. -/
inductive Wrote (digest : CanonicalApproval → String)
    (executor : Executor Resources Caller Captured Answer)
    (db : Tables Resources Caller Captured) :
    ApprovalInput Answer → ApprovalCall Caller Captured →
      Tables Resources Caller Captured → Prop where
  | nothing (input : ApprovalInput Answer) (call : ApprovalCall Caller Captured) :
      Wrote digest executor db input call db
  | requested (id : String) (answer : Answer) (input : RequestInput) (fingerprint : String)
      (expiresAt : Int)
      (hnew : db.request? id = none) :
      Wrote digest executor db (.proceed id answer) (.request input)
        { db with requests := db.requests ++ [requestedApproval id input fingerprint expiresAt] }
  | expired (input : ApprovalInput Answer) (call : ApprovalCall Caller Captured)
      (p : GovernanceApprovalRequest → Bool)
      (hopen : ∀ row, p row = true → row.status = .requested ∨ row.status = .approved) :
      Wrote digest executor db input call
        (db.updateRequests p fun row => { row with status := .expired })
  | decided (id : String) (answer : Answer) (input : DecideInput)
      (request : GovernanceApprovalRequest) (made : List GovernanceApprovalDecision)
      (status : GovernanceApprovalStatus)
      (hstatus : input.approved = false → status = .rejected)
      (hcount : db.requests.countP (·.isUndecided request.id) = 1) :
      Wrote digest executor db (.proceed id answer) (.decide input (.commit request made))
        { db.updateRequests (·.isUndecided request.id) fun row => { row with status := status } with
          decisions := db.decisions ++ [decisionOf input request] }
  | cancelled (id : String) (answer : Answer) (input : CancelInput) :
      Wrote digest executor db (.proceed id answer) (.cancel input true)
        (db.updateRequests (·.isCancellable input) fun row =>
          { row with status := .cancelled, cancelledAt := some input.now })
  | executed (id : String) (answer : Answer) (input : ExecuteInput Caller) (captured : Captured)
      (request : GovernanceApprovalRequest) (made : List GovernanceApprovalDecision)
      (resources : Resources)
      (hadmitted : ExecutionAdmitted input (executor.currentResourceVersion captured) request made)
      (hcount : db.requests.countP (·.isClaimable request.id) = 1)
      (hresources : executor.execute input captured answer request.approvedRequest db.resources =
        some resources)
      (hcommit : executeCommit digest executor db input captured request made answer =
        .ok (db.executed input captured request resources)) :
      Wrote digest executor db (.proceed id answer) (.execute input (.commit captured request made))
        (db.executed input captured request resources)

theorem wrote_request {id : String} {answer : Answer} {input : RequestInput}
    {row : GovernanceApprovalRequest}
    (h : requestGovernanceApproval digest db input id = .ok (db', row)) :
    Wrote digest executor db (.proceed id answer) (.request input) db' := by
  simp only [requestGovernanceApproval, getGovernanceApprovalPolicy, bind_eq_ok, require_eq_ok,
    Tables.admitsRequest, Bool.and_eq_true, Option.isNone_iff_eq_none] at h
  obtain ⟨-, -, fingerprint, -, -, ⟨hnew, -⟩, hdb⟩ := h
  obtain ⟨rfl, -⟩ := Prod.mk.inj (Except.ok.inj hdb)
  exact Wrote.requested id answer input fingerprint _ hnew

theorem wrote_decide {id : String} {answer : Answer} {input : DecideInput}
    {request : GovernanceApprovalRequest} {made : List GovernanceApprovalDecision}
    (h : decideGovernanceApproval db input request made = .ok db') :
    Wrote digest executor db (.proceed id answer) (.decide input (.commit request made)) db' := by
  simp only [decideGovernanceApproval, getGovernanceApprovalPolicy, bind_eq_ok, require_eq_ok] at h
  obtain ⟨-, -, -, -, -, hcount, hdb⟩ := h
  obtain rfl := Except.ok.inj hdb
  refine Wrote.decided id answer input request made _ (fun hrejects => ?_) hcount
  simp [decidedStatus, hrejects]

/-- What an execution that commits has checked, and what it leaves. -/
theorem executed_of_commit {answer : Answer} {input : ExecuteInput Caller}
    {captured : Captured} {request : GovernanceApprovalRequest}
    {made : List GovernanceApprovalDecision}
    (h : executeCommit digest executor db input captured request made answer = .ok db') :
    ∃ resources,
      ExecutionAdmitted input (executor.currentResourceVersion captured) request made ∧
        db.requests.countP (·.isClaimable request.id) = 1 ∧
        executor.execute input captured answer request.approvedRequest db.resources =
          some resources ∧
        db' = db.executed input captured request resources := by
  simp only [executeCommit, claimApproval, bind_eq_ok, require_eq_ok] at h
  obtain ⟨⟨⟩, hchecks, claimed, ⟨-, hcount, -, -, hclaimed⟩, h⟩ := h
  split at h
  · cases h
  · next resources hresources =>
    obtain rfl := Except.ok.inj hclaimed
    exact ⟨resources, executionAdmitted_of_checks hchecks, hcount, hresources,
      (Except.ok.inj h).symm⟩

theorem wrote_execute {id : String} {answer : Answer} {input : ExecuteInput Caller}
    {captured : Captured} {request : GovernanceApprovalRequest}
    {made : List GovernanceApprovalDecision}
    (h : executeCommit digest executor db input captured request made answer = .ok db') :
    Wrote digest executor db (.proceed id answer) (.execute input (.commit captured request made))
      db' := by
  obtain ⟨resources, hadmitted, hcount, hresources, rfl⟩ := executed_of_commit h
  exact Wrote.executed id answer input captured request made resources hadmitted hcount hresources h

theorem wrote_expire {input : ApprovalInput Answer} {call : ApprovalCall Caller Captured}
    (id : String) {status : GovernanceApprovalStatus}
    (hopen : status = .requested ∨ status = .approved) :
    Wrote digest executor db input call (db.expire id status) := by
  refine Wrote.expired input call _ fun row hrow => ?_
  simp only [Bool.and_eq_true, decide_eq_true_eq] at hrow
  rw [hrow.2]
  exact hopen

theorem wrote_expireStale {input : ApprovalInput Answer} {call : ApprovalCall Caller Captured}
    (stale : List String) (now : Int) :
    Wrote digest executor db input call (expireStaleGovernanceApprovals db stale now) := by
  refine Wrote.expired input call _ fun row hrow => ?_
  simp only [GovernanceApprovalRequest.isStale, Bool.and_eq_true, Bool.or_eq_true,
    decide_eq_true_eq] at hrow
  exact hrow.2.1

/-- Every step of a call writes one of these. -/
theorem wrote_advance (db : Tables Resources Caller Captured) (input : ApprovalInput Answer)
    (call : ApprovalCall Caller Captured) :
    Wrote digest executor db input call (call.advance digest executor db input).1 := by
  cases input with
  | failure => exact Wrote.nothing _ _
  | proceed id answer =>
      cases call with
      | request input =>
          simp only [ApprovalCall.advance]
          split
          · next db' row h => exact wrote_request h
          · exact Wrote.nothing _ _
      | decide input place =>
          cases place with
          | candidate =>
              simp only [ApprovalCall.advance, DecidePlace.run]
              split
              · split
                · split
                  · exact Wrote.nothing _ _
                  · exact Wrote.nothing _ _
                · exact Wrote.nothing _ _
              · exact Wrote.nothing _ _
          | expire => exact wrote_expire _ (Or.inl rfl)
          | read => exact Wrote.nothing _ _
          | decisions row => exact Wrote.nothing _ _
          | commit row made =>
              simp only [ApprovalCall.advance, DecidePlace.run]
              split
              · next db' h => exact wrote_decide h
              · exact Wrote.nothing _ _
      | cancel input read =>
          cases read with
          | false =>
              simp only [ApprovalCall.advance]
              split
              · exact Wrote.nothing _ _
              · exact Wrote.nothing _ _
          | true =>
              simp only [ApprovalCall.advance, cancelGovernanceApproval]
              split
              · next db' h =>
                simp only [bind_eq_ok, require_eq_ok] at h
                obtain ⟨-, -, h⟩ := h
                obtain rfl := Except.ok.inj h
                exact Wrote.cancelled id answer input
              · exact Wrote.nothing _ _
      | expireStale now stale =>
          cases stale with
          | none => exact Wrote.nothing _ _
          | some stale => exact wrote_expireStale stale now
      | execute input place =>
          cases place with
          | capture => exact Wrote.nothing _ _
          | candidate captured =>
              simp only [ApprovalCall.advance, ExecutePlace.run]
              split
              · split
                · split
                  · exact Wrote.nothing _ _
                  · exact Wrote.nothing _ _
                · exact Wrote.nothing _ _
              · exact Wrote.nothing _ _
          | expire => exact wrote_expire _ (Or.inr rfl)
          | read captured => exact Wrote.nothing _ _
          | decisions captured row => exact Wrote.nothing _ _
          | commit captured row made =>
              simp only [ApprovalCall.advance, ExecutePlace.run]
              split
              · next db' h => exact wrote_execute h
              · exact Wrote.nothing _ _

/-! ## What no step changes -/

/-- What a step leaves of a row: all that the fingerprint covers, and a final status. -/
structure Keeps (row row' : GovernanceApprovalRequest) : Prop where
  payload : row'.payload = row.payload
  final : row.status.IsFinal → row'.status = row.status

theorem Keeps.refl (row : GovernanceApprovalRequest) : Keeps row row :=
  ⟨rfl, fun _ => rfl⟩

/-- The requests and decisions of the tables are still there. -/
structure Grows (db db' : Tables Resources Caller Captured) : Prop where
  requests : ∀ id row, db.request? id = some row →
    ∃ row', db'.request? id = some row' ∧ Keeps row row'
  decisions : ∀ decision ∈ db.decisions, decision ∈ db'.decisions

/-- The columns that an update of the status leaves alone. -/
theorem request?_updateRequests {p : GovernanceApprovalRequest → Bool}
    {f : GovernanceApprovalRequest → GovernanceApprovalRequest} (hid : ∀ row, (f row).id = row.id)
    (db : Tables Resources Caller Captured) (id : String) :
    (db.updateRequests p f).request? id =
      (db.request? id).map fun row => if p row then f row else row :=
  KeyedList.find_updateMany hid db.requests

theorem request?_append {row : GovernanceApprovalRequest} (hnew : db.request? row.id = none)
    (id : String) :
    ({ db with requests := db.requests ++ [row] } : Tables Resources Caller Captured).request? id =
      if id = row.id then some row else db.request? id :=
  KeyedList.find_append_new hnew

/-- An update of rows that are not final keeps what no step changes. -/
theorem keeps_update {p : GovernanceApprovalRequest → Bool}
    {f : GovernanceApprovalRequest → GovernanceApprovalRequest}
    (hid : ∀ row, (f row).id = row.id) (hpayload : ∀ row, (f row).payload = row.payload)
    (hopen : ∀ row, p row = true → row.status = .requested ∨ row.status = .approved)
    {id : String} {row : GovernanceApprovalRequest} (h : db.request? id = some row) :
    ∃ row', (db.updateRequests p f).request? id = some row' ∧ Keeps row row' := by
  rw [request?_updateRequests hid, h]
  refine ⟨_, rfl, ?_⟩
  show Keeps row (if p row then f row else row)
  split
  · next hp =>
    refine ⟨hpayload row, fun hfinal => ?_⟩
    rcases hopen row hp with hstatus | hstatus
    · exact absurd hstatus hfinal.1
    · exact absurd hstatus hfinal.2
  · exact Keeps.refl row

theorem status_of_isUndecided {row : GovernanceApprovalRequest} {id : String}
    (h : row.isUndecided id = true) : row.status = .requested := by
  simp only [GovernanceApprovalRequest.isUndecided, Bool.and_eq_true, decide_eq_true_eq] at h
  exact h.2

theorem status_of_isCancellable {row : GovernanceApprovalRequest} {input : CancelInput}
    (h : row.isCancellable input = true) : row.status = .requested := by
  simp only [GovernanceApprovalRequest.isCancellable, Bool.and_eq_true, decide_eq_true_eq] at h
  exact h.2

theorem status_of_isClaimable {row : GovernanceApprovalRequest} {id : String}
    (h : row.isClaimable id = true) :
    row.id = id ∧ row.status = .approved ∧ row.executionKey = none := by
  simpa [GovernanceApprovalRequest.isClaimable, and_assoc] using h

theorem Wrote.grows {input : ApprovalInput Answer} {call : ApprovalCall Caller Captured}
    (h : Wrote digest executor db input call db') : Grows db db' := by
  cases h with
  | nothing => exact ⟨fun id row hrow => ⟨row, hrow, Keeps.refl row⟩, fun _ hd => hd⟩
  | requested id answer input fingerprint expiresAt hnew =>
      refine ⟨fun id' row hrow => ⟨row, ?_, Keeps.refl row⟩, fun _ hd => hd⟩
      have hne : id' ≠ id := by
        rintro rfl
        rw [hnew] at hrow
        cases hrow
      have hid : db.request? (requestedApproval id input fingerprint expiresAt).id = none := hnew
      rw [request?_append hid id', if_neg]
      · exact hrow
      · exact hne
  | expired input call p hopen =>
      exact ⟨fun id row hrow => keeps_update (by intro row; rfl) (by intro row; rfl) hopen hrow,
        fun _ hd => hd⟩
  | decided id answer input request made status hstatus hcount =>
      refine ⟨fun id row hrow => ?_, fun _ hd => List.mem_append_left _ hd⟩
      exact keeps_update (by intro row; rfl) (by intro row; rfl)
        (fun row hp => Or.inl (status_of_isUndecided hp)) hrow
  | cancelled id answer input =>
      exact ⟨fun id row hrow => keeps_update (by intro row; rfl) (by intro row; rfl)
        (fun row hp => Or.inl (status_of_isCancellable hp)) hrow, fun _ hd => hd⟩
  | executed id answer input captured request made resources hadmitted hcount hresources =>
      refine ⟨fun id row hrow => ?_, fun _ hd => hd⟩
      exact keeps_update (by intro row; rfl) (by intro row; rfl)
        (fun row hp => Or.inr (status_of_isClaimable hp).2.1) hrow

/-! ## The invariant -/

/-- The request may still be executed, or has been. -/
def GovernanceApprovalStatus.IsLive (status : GovernanceApprovalStatus) : Prop :=
  status = .requested ∨ status = .approved ∨ status = .executed

/-- The status of a request agrees with its decisions, and what was executed was
executed once. -/
structure Sound (db : Tables Resources Caller Captured) : Prop where
  ids : KeyedList.Distinct GovernanceApprovalRequest.id db.requests
  known : ∀ decision ∈ db.decisions, ∃ row, db.request? decision.requestId = some row
  unrejected : ∀ id row, db.request? id = some row → row.status.IsLive →
    ∀ decision ∈ db.decisions, decision.requestId = id → decision.approved = true
  once : (db.effects.map fun effect => effect.request.id).Nodup
  executed : ∀ effect ∈ db.effects, ∃ row,
    db.request? effect.request.id = some row ∧ row.status = .executed

theorem request?_updateRequests_eq_some {p : GovernanceApprovalRequest → Bool}
    {f : GovernanceApprovalRequest → GovernanceApprovalRequest} (hid : ∀ row, (f row).id = row.id)
    {id : String} {row' : GovernanceApprovalRequest}
    (h : (db.updateRequests p f).request? id = some row') :
    ∃ row, db.request? id = some row ∧ row' = if p row then f row else row := by
  rw [request?_updateRequests hid] at h
  obtain ⟨row, hrow, hrow'⟩ := Option.map_eq_some_iff.mp h
  exact ⟨row, hrow, hrow'.symm⟩

/-- The row that a guarded update with count one has found. -/
theorem Sound.found (h : Sound db) {p : GovernanceApprovalRequest → Bool}
    (hcount : db.requests.countP p = 1) :
    ∃ row, db.request? row.id = some row ∧ p row = true := by
  obtain ⟨row, hmem, hp⟩ := List.countP_pos_iff.mp (by omega : 0 < db.requests.countP p)
  exact ⟨row, KeyedList.find_of_mem h.ids hmem, hp⟩

/-- An effect's request is found executed in tables that have grown. -/
theorem Sound.executed_of_grows (h : Sound db) (hgrows : Grows db db')
    {effect : Effect Caller Captured} (heffect : effect ∈ db.effects) :
    ∃ row, db'.request? effect.request.id = some row ∧ row.status = .executed := by
  obtain ⟨row, hrow, hstatus⟩ := h.executed effect heffect
  obtain ⟨row', hrow', hkeeps⟩ := hgrows.requests _ row hrow
  have hfinal : row.status.IsFinal := by
    rw [hstatus]
    decide
  exact ⟨row', hrow', (hkeeps.final hfinal).trans hstatus⟩

theorem Sound.known_of_grows (h : Sound db) (hgrows : Grows db db')
    {decision : GovernanceApprovalDecision} (hdecision : decision ∈ db.decisions) :
    ∃ row, db'.request? decision.requestId = some row := by
  obtain ⟨row, hrow⟩ := h.known decision hdecision
  obtain ⟨row', hrow', -⟩ := hgrows.requests _ row hrow
  exact ⟨row', hrow'⟩

/-- An update that makes no request live which was not keeps the invariant. -/
theorem Sound.update (h : Sound db) {p : GovernanceApprovalRequest → Bool}
    {f : GovernanceApprovalRequest → GovernanceApprovalRequest} (hid : ∀ row, (f row).id = row.id)
    (hlive : ∀ row, p row = true → (f row).status.IsLive → row.status.IsLive)
    (hgrows : Grows db (db.updateRequests p f)) : Sound (db.updateRequests p f) where
  ids := KeyedList.distinct_updateMany hid h.ids
  known := fun decision hdecision => h.known_of_grows hgrows hdecision
  unrejected := by
    intro id row' hrow' hrowlive decision hdecision hdid
    obtain ⟨row, hrow, rfl⟩ := request?_updateRequests_eq_some hid hrow'
    refine h.unrejected id row hrow ?_ decision hdecision hdid
    split at hrowlive
    · next hp => exact hlive row hp hrowlive
    · exact hrowlive
  once := h.once
  executed := fun effect heffect => h.executed_of_grows hgrows heffect

theorem Sound.wrote {input : ApprovalInput Answer} {call : ApprovalCall Caller Captured}
    (h : Sound db) (hwrote : Wrote digest executor db input call db') : Sound db' := by
  have hgrows := hwrote.grows
  cases hwrote with
  | nothing => exact h
  | requested id answer input fingerprint expiresAt hnew =>
      have hid : db.request? (requestedApproval id input fingerprint expiresAt).id = none := hnew
      refine ⟨KeyedList.distinct_append_new h.ids hid,
        fun decision hdecision => h.known_of_grows hgrows hdecision, ?_, h.once,
        fun effect heffect => h.executed_of_grows hgrows heffect⟩
      intro id' row hrow hlive decision hdecision hdid
      rw [request?_append hid id'] at hrow
      split at hrow
      · next hsame =>
        -- The new request has no decisions yet.
        obtain ⟨old, hold⟩ := h.known decision hdecision
        rw [hdid, hsame, hid] at hold
        cases hold
      · exact h.unrejected id' row hrow hlive decision hdecision hdid
  | expired input call p hopen =>
      refine h.update (by intro row; rfl) (fun row hp hlive => ?_) hgrows
      rcases hopen row hp with hstatus | hstatus
      · exact Or.inl hstatus
      · exact Or.inr (Or.inl hstatus)
  | cancelled id answer input =>
      refine h.update (by intro row; rfl) (fun row hp hlive => ?_) hgrows
      exact Or.inl (status_of_isCancellable hp)
  | decided id answer input request made status hstatus hcount =>
      obtain ⟨found, hfound, hundecided⟩ := h.found hcount
      have hfoundid : found.id = request.id := by
        simp only [GovernanceApprovalRequest.isUndecided, Bool.and_eq_true,
          decide_eq_true_eq] at hundecided
        exact hundecided.1
      rw [hfoundid] at hfound
      refine ⟨KeyedList.distinct_updateMany (by intro row; rfl) h.ids, ?_, ?_, h.once,
        fun effect heffect => h.executed_of_grows hgrows heffect⟩
      · intro decision hdecision
        rcases List.mem_append.mp hdecision with hold | hnew
        · exact h.known_of_grows hgrows hold
        · rw [List.mem_singleton.mp hnew]
          obtain ⟨row', hrow', -⟩ := hgrows.requests _ found hfound
          exact ⟨row', hrow'⟩
      · intro id' row' hrow' hlive decision hdecision hdid
        obtain ⟨row, hrow, rfl⟩ :=
          request?_updateRequests_eq_some (by intro row; rfl) hrow'
        rcases List.mem_append.mp hdecision with hold | hnew
        · refine h.unrejected id' row hrow ?_ decision hold hdid
          split at hlive
          · next hp => exact Or.inl (status_of_isUndecided hp)
          · exact hlive
        · -- The row of the new decision is the one that its update has found.
          rw [List.mem_singleton.mp hnew] at hdid ⊢
          have hsame : row = found := by
            rw [← hdid] at hrow
            exact Option.some.inj (hrow.symm.trans hfound)
          rw [hsame, if_pos hundecided] at hlive
          by_contra hrejects
          have hrejected : status = .rejected := hstatus (by simpa [decisionOf] using hrejects)
          rw [hrejected] at hlive
          exact absurd hlive (by simp [GovernanceApprovalStatus.IsLive])
  | executed id answer input captured request made resources hadmitted hcount hresources =>
      obtain ⟨found, hfound, hclaimable⟩ := h.found hcount
      obtain ⟨hfoundid, happroved, -⟩ := status_of_isClaimable hclaimable
      rw [hfoundid] at hfound
      refine ⟨KeyedList.distinct_updateMany (by intro row; rfl) h.ids,
        fun decision hdecision => h.known_of_grows hgrows hdecision, ?_, ?_, ?_⟩
      · intro id' row' hrow' hlive decision hdecision hdid
        obtain ⟨row, hrow, rfl⟩ :=
          request?_updateRequests_eq_some (by intro row; rfl) hrow'
        refine h.unrejected id' row hrow ?_ decision hdecision hdid
        split at hlive
        · next hp => exact Or.inr (Or.inl (status_of_isClaimable hp).2.1)
        · exact hlive
      · -- What was executed before is not claimable any more.
        refine List.nodup_cons.mpr ⟨fun hmem => ?_, h.once⟩
        obtain ⟨effect, heffect, heq⟩ := List.mem_map.mp hmem
        obtain ⟨row, hrow, hexecuted⟩ := h.executed effect heffect
        have hsame : row = found := by
          rw [heq] at hrow
          exact Option.some.inj (hrow.symm.trans hfound)
        rw [hsame, happroved] at hexecuted
        cases hexecuted
      · intro effect heffect
        rcases List.mem_cons.mp heffect with rfl | hold
        · have hclaimed : (db.updateRequests (·.isClaimable request.id)
              (·.claim input.now input.executionKey)).request? request.id =
                some (found.claim input.now input.executionKey) := by
            rw [request?_updateRequests (by intro row; rfl), hfound, Option.map_some,
              if_pos hclaimable]
          exact ⟨_, hclaimed, rfl⟩
        · exact h.executed_of_grows hgrows hold

/-! ## The calls in progress -/

/-- The request that an execution has read is the one it was called for, and its payload
is still the stored one. -/
def Seen (db : Tables Resources Caller Captured) (input : ExecuteInput Caller)
    (request : GovernanceApprovalRequest) : Prop :=
  request.id = input.requestId ∧
    ∃ row, db.request? request.id = some row ∧ row.payload = request.payload

/-- What a call relies on at its place. -/
def CallSound (db : Tables Resources Caller Captured) : ApprovalCall Caller Captured → Prop
  | .execute input (.decisions _ request) => Seen db input request
  | .execute input (.commit _ request made) =>
    Seen db input request ∧ ∀ decision ∈ made, decision ∈ db.decisionsOf request.id
  | _ => True

theorem mem_decisionsOf {decision : GovernanceApprovalDecision} {id : String} :
    decision ∈ db.decisionsOf id ↔ decision ∈ db.decisions ∧ decision.requestId = id := by
  simp [Tables.decisionsOf]

theorem Seen.grows {input : ExecuteInput Caller} {request : GovernanceApprovalRequest}
    (h : Seen db input request) (hgrows : Grows db db') : Seen db' input request := by
  obtain ⟨hid, row, hrow, hpayload⟩ := h
  obtain ⟨row', hrow', hkeeps⟩ := hgrows.requests _ row hrow
  exact ⟨hid, row', hrow', hkeeps.payload.trans hpayload⟩

theorem callSound_grows {call : ApprovalCall Caller Captured} (h : CallSound db call)
    (hgrows : Grows db db') : CallSound db' call := by
  cases call with
  | execute input place =>
      cases place with
      | decisions captured request => exact Seen.grows h hgrows
      | commit captured request made =>
          refine ⟨h.1.grows hgrows, fun decision hdecision => ?_⟩
          obtain ⟨hmem, hid⟩ := mem_decisionsOf.mp (h.2 decision hdecision)
          exact mem_decisionsOf.mpr ⟨hgrows.decisions decision hmem, hid⟩
      | capture => trivial
      | candidate captured => trivial
      | expire => trivial
      | read captured => trivial
  | request input => trivial
  | decide input place => trivial
  | cancel input read => trivial
  | expireStale now stale => trivial

/-- A step of a decision leaves it a decision. -/
theorem decide_next {input : DecideInput} {place : DecidePlace}
    {next : ApprovalCall Caller Captured} (h : (place.run db input).2 = some next) :
    ∃ place', next = .decide input place' := by
  cases place with
  | candidate =>
      simp only [DecidePlace.run] at h
      split at h
      · split at h
        · split at h
          · exact ⟨_, (Option.some.inj h).symm⟩
          · exact ⟨_, (Option.some.inj h).symm⟩
        · exact ⟨_, (Option.some.inj h).symm⟩
      · cases h
  | expire => cases h
  | read =>
      obtain ⟨row, -, rfl⟩ := Option.map_eq_some_iff.mp h
      exact ⟨_, rfl⟩
  | decisions row => exact ⟨_, (Option.some.inj h).symm⟩
  | commit row made =>
      simp only [DecidePlace.run] at h
      split at h
      · cases h
      · cases h

/-- An execution is left at a place that it can rely on. -/
theorem callSound_execute {input : ExecuteInput Caller} {place : ExecutePlace Captured}
    {answer : Answer} {next : ApprovalCall Caller Captured}
    (h : CallSound db (.execute input place))
    (hnext : (place.run digest executor db input answer).2 = some next) : CallSound db next := by
  cases place with
  | capture =>
      obtain ⟨captured, -, rfl⟩ := Option.map_eq_some_iff.mp hnext
      trivial
  | candidate captured =>
      simp only [ExecutePlace.run] at hnext
      split at hnext
      · split at hnext
        · split at hnext
          · exact (Option.some.inj hnext) ▸ trivial
          · exact (Option.some.inj hnext) ▸ trivial
        · exact (Option.some.inj hnext) ▸ trivial
      · cases hnext
  | expire => cases hnext
  | read captured =>
      obtain ⟨row, hrow, rfl⟩ := Option.map_eq_some_iff.mp hnext
      have hid : row.id = input.requestId := (KeyedList.find_eq_some hrow).2
      exact ⟨hid, row, hid ▸ hrow, rfl⟩
  | decisions captured request =>
      obtain rfl := Option.some.inj hnext
      exact ⟨h, fun _ hdecision => hdecision⟩
  | commit captured request made =>
      simp only [ExecutePlace.run] at hnext
      split at hnext
      · cases hnext
      · cases hnext

/-- A call is left at a place that it can rely on. -/
theorem callSound_advance {input : ApprovalInput Answer}
    {call next : ApprovalCall Caller Captured} (h : CallSound db call)
    (hnext : (call.advance digest executor db input).2 = some next) :
    CallSound (call.advance digest executor db input).1 next := by
  refine callSound_grows ?_ (wrote_advance db input call).grows
  cases input with
  | failure => cases hnext
  | proceed id answer =>
      cases call with
      | request input =>
          simp only [ApprovalCall.advance] at hnext
          split at hnext
          · cases hnext
          · cases hnext
      | decide input place =>
          obtain ⟨place', rfl⟩ := decide_next hnext
          trivial
      | cancel input read =>
          cases read with
          | false =>
              simp only [ApprovalCall.advance] at hnext
              split at hnext
              · exact (Option.some.inj hnext) ▸ trivial
              · cases hnext
          | true =>
              simp only [ApprovalCall.advance] at hnext
              split at hnext
              · cases hnext
              · cases hnext
      | expireStale now stale =>
          cases stale with
          | none => exact (Option.some.inj hnext) ▸ trivial
          | some stale => cases hnext
      | execute input place => exact callSound_execute h hnext

/-! ## What a call carries along -/

/-- What the caller of an execution has read. -/
def ExecutePlace.captured? : ExecutePlace Captured → Option Captured
  | .capture => none
  | .candidate captured => some captured
  | .expire => none
  | .read captured => some captured
  | .decisions captured _ => some captured
  | .commit captured _ _ => some captured

/-- The call that a step leaves has the input it began with, and its capture is that of
the call before or is made now. -/
inductive Continues (executor : Executor Resources Caller Captured Answer)
    (db : Tables Resources Caller Captured) :
    ApprovalCall Caller Captured → ApprovalCall Caller Captured → Prop where
  | decide (input : DecideInput) (place place' : DecidePlace) :
      Continues executor db (.decide input place) (.decide input place')
  | cancel (input : CancelInput) (read read' : Bool) :
      Continues executor db (.cancel input read) (.cancel input read')
  | expireStale (now : Int) (stale stale' : Option (List String)) :
      Continues executor db (.expireStale now stale) (.expireStale now stale')
  | execute (input : ExecuteInput Caller) (place place' : ExecutePlace Captured)
      (hcaptured : ∀ captured, place'.captured? = some captured →
        place.captured? = some captured ∨ executor.capture input db.resources = some captured) :
      Continues executor db (.execute input place) (.execute input place')

theorem continues_execute {input : ExecuteInput Caller} {place : ExecutePlace Captured}
    {answer : Answer} {next : ApprovalCall Caller Captured}
    (h : (place.run digest executor db input answer).2 = some next) :
    Continues executor db (.execute input place) next := by
  cases place with
  | capture =>
      obtain ⟨captured, hcapture, rfl⟩ := Option.map_eq_some_iff.mp h
      refine Continues.execute input _ _ fun captured' hcaptured => Or.inr ?_
      rw [← Option.some.inj hcaptured]
      exact hcapture
  | candidate captured =>
      simp only [ExecutePlace.run] at h
      split at h
      · split at h
        · split at h
          · obtain rfl := Option.some.inj h
            exact Continues.execute input _ _ fun captured' hcaptured => by cases hcaptured
          · obtain rfl := Option.some.inj h
            exact Continues.execute input _ _ fun captured' hcaptured => Or.inl hcaptured
        · obtain rfl := Option.some.inj h
          exact Continues.execute input _ _ fun captured' hcaptured => Or.inl hcaptured
      · cases h
  | expire => cases h
  | read captured =>
      obtain ⟨row, -, rfl⟩ := Option.map_eq_some_iff.mp h
      exact Continues.execute input _ _ fun captured' hcaptured => Or.inl hcaptured
  | decisions captured request =>
      obtain rfl := Option.some.inj h
      exact Continues.execute input _ _ fun captured' hcaptured => Or.inl hcaptured
  | commit captured request made =>
      simp only [ExecutePlace.run] at h
      split at h
      · cases h
      · cases h

theorem continues_advance {input : ApprovalInput Answer} {call next : ApprovalCall Caller Captured}
    (h : (call.advance digest executor db input).2 = some next) :
    Continues executor db call next := by
  cases input with
  | failure => cases h
  | proceed id answer =>
      cases call with
      | request input =>
          simp only [ApprovalCall.advance] at h
          split at h
          · cases h
          · cases h
      | decide input place =>
          obtain ⟨place', rfl⟩ := decide_next h
          exact Continues.decide input _ _
      | cancel input read =>
          cases read with
          | false =>
              simp only [ApprovalCall.advance] at h
              split at h
              · obtain rfl := Option.some.inj h
                exact Continues.cancel input _ _
              · cases h
          | true =>
              simp only [ApprovalCall.advance] at h
              split at h
              · cases h
              · cases h
      | expireStale now stale =>
          cases stale with
          | none =>
              obtain rfl := Option.some.inj h
              exact Continues.expireStale now _ _
          | some stale => cases h
      | execute input place => exact continues_execute h

/-! ## An execution that commits -/

/-- Why an effect may commit, in the tables before it: `row` is the request as it is
stored. -/
structure Justified (executor : Executor Resources Caller Captured Answer)
    (db : Tables Resources Caller Captured) (effect : Effect Caller Captured)
    (row : GovernanceApprovalRequest) : Prop where
  stored : db.request? effect.input.requestId = some row
  approved : row.status = .approved
  unclaimed : row.executionKey = none
  requester : effect.input.session.userId = row.requesterId
  action : effect.input.expectedActionType = row.actionType
  company : row.scope = .organization → row.companyId = effect.input.session.companyId
  notExpired : effect.input.now < row.expiresAt
  approvers : (governanceApprovalPolicies row.actionType).minimumApprovals ≤
    (validApprovers (db.decisionsOf row.id) row.requesterId).card
  unrejected : ∀ decision ∈ db.decisionsOf row.id, decision.approved = true
  version : row.expectedVersion ≠ none →
    row.expectedVersion = executor.currentResourceVersion effect.captured
  request : effect.request = row.approvedRequest

/-- More decisions count for more users. -/
theorem validApprovers_mono {made made' : List GovernanceApprovalDecision} (requesterId : String)
    (h : ∀ decision ∈ made, decision ∈ made') :
    validApprovers made requesterId ⊆ validApprovers made' requesterId := by
  intro user huser
  simp only [validApprovers, List.mem_toFinset, List.mem_map, List.mem_filter] at huser ⊢
  obtain ⟨decision, ⟨hmem, hvalid⟩, huser⟩ := huser
  exact ⟨decision, ⟨h decision hmem, hvalid⟩, huser⟩

theorem justified_of_commit (hsound : Sound db) {input : ExecuteInput Caller} {captured : Captured}
    {request : GovernanceApprovalRequest} {made : List GovernanceApprovalDecision}
    (hcall : CallSound db (.execute input (.commit captured request made)))
    (hadmitted : ExecutionAdmitted input (executor.currentResourceVersion captured) request made)
    (hcount : db.requests.countP (·.isClaimable request.id) = 1) :
    ∃ row, Justified executor db
      { input := input, captured := captured, request := request.approvedRequest, row := request }
      row := by
  obtain ⟨⟨hid, stored, hstored, hpayload⟩, hmade⟩ := hcall
  obtain ⟨found, hfound, hclaimable⟩ := hsound.found hcount
  obtain ⟨hfoundid, happroved, hunclaimed⟩ := status_of_isClaimable hclaimable
  rw [hfoundid] at hfound
  obtain rfl : stored = found := Option.some.inj (hstored.symm.trans hfound)
  have haction : stored.actionType = request.actionType :=
    congrArg FingerprintInput.actionType hpayload
  have hscope : stored.scope = request.scope := congrArg FingerprintInput.scope hpayload
  have hcompany : stored.companyId = request.companyId :=
    congrArg FingerprintInput.companyId hpayload
  have hresource : stored.resourceId = request.resourceId :=
    congrArg FingerprintInput.resourceId hpayload
  have hversion : stored.expectedVersion = request.expectedVersion :=
    congrArg FingerprintInput.expectedVersion hpayload
  have hparameters : stored.safeParameters = request.safeParameters :=
    congrArg FingerprintInput.safeParameters hpayload
  have hrequester : stored.requesterId = request.requesterId :=
    congrArg FingerprintInput.requesterId hpayload
  have hexpires : stored.expiresAt = request.expiresAt :=
    congrArg FingerprintInput.expiresAt hpayload
  refine ⟨stored, ?_⟩
  exact
    { stored := hid ▸ hfound
      approved := happroved
      unclaimed := hunclaimed
      requester := by rw [hrequester, hadmitted.requester]
      action := by rw [haction, hadmitted.actionType]
      company := by
        rw [hscope, hcompany]
        exact hadmitted.company
      notExpired := by
        rw [hexpires]
        exact hadmitted.notExpired
      approvers := by
        rw [haction, hrequester, hfoundid]
        exact hadmitted.approvers.trans (Finset.card_le_card (validApprovers_mono _ hmade))
      unrejected := by
        intro decision hdecision
        obtain ⟨hmem, hdid⟩ := mem_decisionsOf.mp hdecision
        rw [hfoundid] at hdid
        exact hsound.unrejected _ stored hfound (Or.inr (Or.inl happroved)) decision hmem hdid
      version := by
        rw [hversion]
        exact hadmitted.version
      request := by
        simp only [GovernanceApprovalRequest.approvedRequest, ApprovedRequest.mk.injEq]
        exact ⟨hfoundid.symm, hcompany.symm, hresource.symm, hparameters.symm⟩ }

/-- The request of a justified effect, as the execution leaves it. -/
theorem Justified.executed {input : ExecuteInput Caller} {captured : Captured}
    {request row : GovernanceApprovalRequest}
    (h : Justified executor db
      { input := input, captured := captured, request := request.approvedRequest, row := request }
      row)
    (resources : Resources) :
    db.request? request.id = some row ∧
      (db.executed input captured request resources).request? request.id =
        some (row.claim input.now input.executionKey) := by
  have hid : request.id = row.id := congrArg ApprovedRequest.id h.request
  have hasked : row.id = input.requestId := (KeyedList.find_eq_some h.stored).2
  have hstored : db.request? request.id = some row := by
    rw [hid, hasked]
    exact h.stored
  have hclaimable : row.isClaimable request.id = true := by
    simp [GovernanceApprovalRequest.isClaimable, hid, h.approved, h.unclaimed]
  refine ⟨hstored, ?_⟩
  show (db.updateRequests _ _).request? request.id = _
  rw [request?_updateRequests (by intro row; rfl), hstored, Option.map_some, if_pos hclaimable]

/-! ## Runs -/

section Runs

variable {environment : Resources → Env → Resources}

/-- No approval has been requested yet, and no call is in progress. -/
def IsInitial (w : World (Tables Resources Caller Captured) (ApprovalCall Caller Captured)) :
    Prop :=
  w.shared.requests = [] ∧ w.shared.decisions = [] ∧ w.shared.effects = [] ∧ w.locals = []

/-- The tables and the calls over them are as they should be. -/
def WorldSound (w : World (Tables Resources Caller Captured) (ApprovalCall Caller Captured)) :
    Prop :=
  Sound w.shared ∧ ∀ call ∈ w.locals, CallSound w.shared call

theorem worldSound_of_isInitial
    {w : World (Tables Resources Caller Captured) (ApprovalCall Caller Captured)}
    (h : IsInitial w) : WorldSound w := by
  obtain ⟨hrequests, hdecisions, heffects, hlocals⟩ := h
  refine ⟨⟨?_, ?_, ?_, ?_, ?_⟩, ?_⟩
  · simp [KeyedList.Distinct, hrequests]
  · simp [hdecisions]
  · simp [hdecisions]
  · simp [heffects]
  · simp [heffects]
  · simp [hlocals]

theorem sound_environment (h : Sound db) (e : Env) :
    Sound ((approvals digest executor environment).env db e) :=
  ⟨h.ids, h.known, h.unrejected, h.once, h.executed⟩

theorem grows_resources (db : Tables Resources Caller Captured) (resources : Resources) :
    Grows db { db with resources := resources } :=
  ⟨fun _ row hrow => ⟨row, hrow, Keeps.refl row⟩, fun _ hdecision => hdecision⟩

theorem callSound_of_isInitial {call : ApprovalCall Caller Captured}
    (h : call.isInitial = true) : CallSound db call := by
  cases call with
  | execute input place =>
      cases place with
      | capture => trivial
      | candidate captured => cases h
      | expire => cases h
      | read captured => cases h
      | decisions captured request => cases h
      | commit captured request made => cases h
  | request input => trivial
  | decide input place => trivial
  | cancel input read => trivial
  | expireStale now stale => trivial

theorem worldSound_step
    {w w' : World (Tables Resources Caller Captured) (ApprovalCall Caller Captured)}
    {ev : Event Env (ApprovalCall Caller Captured) (ApprovalInput Answer)} (h : WorldSound w)
    (hstep : (approvals digest executor environment).step w ev w') : WorldSound w' := by
  refine @Program.step_inv _ _ _ _ (approvals digest executor environment) w w'
    (fun _ _ => True) Sound CallSound ?_ ?_ ?_ ev h.1 h.2 trivial hstep
  · intro db e hsound
    exact ⟨sound_environment hsound e, fun call hcall =>
      callSound_grows hcall (grows_resources db _)⟩
  · intro w call _ _ hinitial
    exact callSound_of_isInitial hinitial
  · intro w i input call db' next hsound hcalls _ _ hmem hadvance
    obtain ⟨rfl, rfl⟩ := Prod.mk.inj (Option.some.inj hadvance)
    have hwrote : Wrote digest executor w.shared input call _ := wrote_advance w.shared input call
    refine ⟨hsound.wrote hwrote, fun m hm => ?_, fun m _ hm => callSound_grows hm hwrote.grows⟩
    exact callSound_advance (hcalls call hmem) hm

/-- The callback of an execution is called, and throws. -/
def Throws (digest : CanonicalApproval → String)
    (executor : Executor Resources Caller Captured Answer)
    (db : Tables Resources Caller Captured) (input : ExecuteInput Caller) (captured : Captured)
    (request : GovernanceApprovalRequest) (made : List GovernanceApprovalDecision)
    (answer : Answer) : Prop :=
  executeChecks digest input (executor.currentResourceVersion captured) request made = .ok () ∧
    (∃ claimed, claimApproval db input request.id = .ok claimed) ∧
    executor.execute input captured answer request.approvedRequest db.resources = none

/-- The safety of one step. -/
structure StepSafe (digest : CanonicalApproval → String)
    (executor : Executor Resources Caller Captured Answer)
    (w : World (Tables Resources Caller Captured) (ApprovalCall Caller Captured))
    (ev : Event Env (ApprovalCall Caller Captured) (ApprovalInput Answer))
    (w' : World (Tables Resources Caller Captured) (ApprovalCall Caller Captured)) : Prop where
  /-- A step commits at most one effect, and only one that is justified. -/
  effects : w'.shared.effects = w.shared.effects ∨ ∃ effect row,
    w'.shared.effects = effect :: w.shared.effects ∧ Justified executor w.shared effect row
  /-- A call changes the resources only together with an effect. -/
  resources : ∀ i input, ev = .advance i input → w'.shared.effects = w.shared.effects →
    w'.shared.resources = w.shared.resources
  /-- A request is stored as it was asked for, and its payload does not change. -/
  requested : ∀ id row', w'.shared.request? id = some row' →
    (∃ row, w.shared.request? id = some row ∧ row'.payload = row.payload) ∨
      ∃ i answer input fingerprint expiresAt, ev = .advance i (.proceed id answer) ∧
        w.locals[i]? = some (.request input) ∧
        row' = requestedApproval id input fingerprint expiresAt
  /-- A final status is never left. -/
  final : ∀ id row, w.shared.request? id = some row → row.status.IsFinal →
    ∃ row', w'.shared.request? id = some row' ∧ row'.status = row.status
  /-- An executor that throws leaves the tables as they were, and the request approved. -/
  thrown : ∀ i id answer input captured request made, ev = .advance i (.proceed id answer) →
    w.locals[i]? = some (.execute input (.commit captured request made)) →
    Throws digest executor w.shared input captured request made answer →
    w'.shared = w.shared ∧ ∃ row, w'.shared.request? request.id = some row ∧
      row.status = .approved ∧ row.executionKey = none

theorem stepSafe_environment
    (w : World (Tables Resources Caller Captured) (ApprovalCall Caller Captured)) (e : Env) :
    StepSafe digest executor w (.env e)
      { w with shared := (approvals digest executor environment).env w.shared e } where
  effects := Or.inl rfl
  resources := by
    intro i input hev
    cases hev
  requested := fun _ row hrow => Or.inl ⟨row, hrow, rfl⟩
  final := fun _ row hrow _ => ⟨row, hrow, rfl⟩
  thrown := by
    intro i id answer input captured request made hev
    cases hev

theorem stepSafe_spawn
    (w : World (Tables Resources Caller Captured) (ApprovalCall Caller Captured))
    (call : ApprovalCall Caller Captured) :
    StepSafe digest executor w (.spawn call : Event Env _ (ApprovalInput Answer))
      { w with locals := w.locals ++ [call] } where
  effects := Or.inl rfl
  resources := by
    intro i input hev
    cases hev
  requested := fun _ row hrow => Or.inl ⟨row, hrow, rfl⟩
  final := fun _ row hrow _ => ⟨row, hrow, rfl⟩
  thrown := by
    intro i id answer input captured request made hev
    cases hev

/-- An execution whose executor throws is rolled back. -/
theorem executeCommit_of_throws {input : ExecuteInput Caller} {captured : Captured}
    {request : GovernanceApprovalRequest} {made : List GovernanceApprovalDecision} {answer : Answer}
    (h : Throws digest executor db input captured request made answer) :
    executeCommit digest executor db input captured request made answer =
      .error "EXECUTOR_THREW" := by
  obtain ⟨hchecks, ⟨claimed, hclaimed⟩, hthrows⟩ := h
  simp only [executeCommit, hchecks, hclaimed, hthrows]
  rfl

/-- The row that a claim has found is approved, and no one has executed it. -/
theorem Sound.claimable (h : Sound db) {input : ExecuteInput Caller} {id : String}
    (hclaimed : claimApproval db input id = .ok db') :
    ∃ row, db.request? id = some row ∧ row.status = .approved ∧ row.executionKey = none := by
  simp only [claimApproval, bind_eq_ok, require_eq_ok] at hclaimed
  obtain ⟨-, hcount, -⟩ := hclaimed
  obtain ⟨row, hrow, hclaimable⟩ := h.found hcount
  obtain ⟨hid, happroved, hunclaimed⟩ := status_of_isClaimable hclaimable
  exact ⟨row, hid ▸ hrow, happroved, hunclaimed⟩

/-- A row that a step leaves has the payload it had, or is a new request. -/
theorem Wrote.payload {input : ApprovalInput Answer} {call : ApprovalCall Caller Captured}
    (h : Wrote digest executor db input call db') {id : String} {row' : GovernanceApprovalRequest}
    (hrow' : db'.request? id = some row') :
    (∃ row, db.request? id = some row ∧ row'.payload = row.payload) ∨
      ∃ answer requestInput fingerprint expiresAt, input = .proceed id answer ∧
        call = .request requestInput ∧
        row' = requestedApproval id requestInput fingerprint expiresAt := by
  have hold : ∀ row, db.request? id = some row →
      ∃ row, db.request? id = some row ∧ row'.payload = row.payload := by
    intro row hrow
    obtain ⟨row'', hrow'', hkeeps⟩ := h.grows.requests id row hrow
    rw [hrow'] at hrow''
    exact ⟨row, hrow, (Option.some.inj hrow'') ▸ hkeeps.payload⟩
  cases h with
  | nothing => exact Or.inl ⟨row', hrow', rfl⟩
  | requested id' answer requestInput fingerprint expiresAt hnew =>
      have hid : db.request? (requestedApproval id' requestInput fingerprint expiresAt).id = none :=
        hnew
      rw [request?_append hid id] at hrow'
      split at hrow'
      · next hsame =>
        have hsame : id = id' := hsame
        rw [hsame]
        exact Or.inr ⟨answer, requestInput, fingerprint, expiresAt, rfl, rfl,
          (Option.some.inj hrow').symm⟩
      · exact Or.inl ⟨row', hrow', rfl⟩
  | expired input call p hopen =>
      obtain ⟨row, hrow, -⟩ := request?_updateRequests_eq_some (by intro row; rfl) hrow'
      exact Or.inl (hold row hrow)
  | decided id' answer input request made status hstatus hcount =>
      obtain ⟨row, hrow, -⟩ := request?_updateRequests_eq_some (by intro row; rfl) hrow'
      exact Or.inl (hold row hrow)
  | cancelled id' answer input =>
      obtain ⟨row, hrow, -⟩ := request?_updateRequests_eq_some (by intro row; rfl) hrow'
      exact Or.inl (hold row hrow)
  | executed id' answer input captured request made resources hadmitted hcount hresources =>
      obtain ⟨row, hrow, -⟩ := request?_updateRequests_eq_some (by intro row; rfl) hrow'
      exact Or.inl (hold row hrow)

/-- Only an execution changes the resources, and it commits a justified effect. -/
theorem Wrote.effects (hsound : Sound db) {input : ApprovalInput Answer}
    {call : ApprovalCall Caller Captured} (hcall : CallSound db call)
    (h : Wrote digest executor db input call db') :
    (db'.effects = db.effects ∧ db'.resources = db.resources) ∨
      ∃ effect row, db'.effects = effect :: db.effects ∧ Justified executor db effect row := by
  cases h with
  | nothing => exact Or.inl ⟨rfl, rfl⟩
  | requested id answer input fingerprint expiresAt hnew => exact Or.inl ⟨rfl, rfl⟩
  | expired input call p hopen => exact Or.inl ⟨rfl, rfl⟩
  | decided id answer input request made status hstatus hcount => exact Or.inl ⟨rfl, rfl⟩
  | cancelled id answer input => exact Or.inl ⟨rfl, rfl⟩
  | executed id answer input captured request made resources hadmitted hcount hresources =>
      obtain ⟨row, hjustified⟩ := justified_of_commit hsound hcall hadmitted hcount
      exact Or.inr ⟨_, row, rfl, hjustified⟩

theorem stepSafe_advance
    {w : World (Tables Resources Caller Captured) (ApprovalCall Caller Captured)} (h : WorldSound w)
    {i : Nat} {input : ApprovalInput Answer} {call : ApprovalCall Caller Captured}
    (hcall : w.locals[i]? = some call) (locals : List (ApprovalCall Caller Captured)) :
    StepSafe digest executor w (.advance i input : Event Env _ _)
      { shared := (call.advance digest executor w.shared input).1, locals := locals } := by
  have hcallSound : CallSound w.shared call := h.2 call (List.mem_of_getElem? hcall)
  have hwrote : Wrote digest executor w.shared input call _ := wrote_advance w.shared input call
  have heffects := hwrote.effects h.1 hcallSound
  exact
    { effects := by
        rcases heffects with ⟨hsame, -⟩ | hnew
        · exact Or.inl hsame
        · exact Or.inr hnew
      resources := by
        intro j input' _ hsame
        rcases heffects with ⟨-, hresources⟩ | ⟨effect, row, hnew, -⟩
        · exact hresources
        · have hlength := congrArg List.length (hnew.symm.trans hsame)
          simp at hlength
      requested := by
        intro id row' hrow'
        rcases hwrote.payload hrow' with hold | ⟨answer, requestInput, fingerprint, expiresAt, rfl,
          rfl, hrow⟩
        · exact Or.inl hold
        · exact Or.inr ⟨i, answer, requestInput, fingerprint, expiresAt, rfl, hcall, hrow⟩
      final := by
        intro id row hrow hfinal
        obtain ⟨row', hrow', hkeeps⟩ := hwrote.grows.requests id row hrow
        exact ⟨row', hrow', hkeeps.final hfinal⟩
      thrown := by
        intro j id answer executeInput captured request made hev hlocal hthrows
        obtain ⟨rfl, rfl⟩ : i = j ∧ input = .proceed id answer := by simpa using hev
        obtain rfl := Option.some.inj (hcall.symm.trans hlocal)
        have hrolledBack : (ApprovalCall.advance digest executor w.shared (.proceed id answer)
            (.execute executeInput (.commit captured request made))).1 = w.shared := by
          simp only [ApprovalCall.advance, ExecutePlace.run, executeCommit_of_throws hthrows]
        obtain ⟨claimed, hclaimed⟩ := hthrows.2.1
        refine ⟨hrolledBack, ?_⟩
        show ∃ row, Tables.request? (ApprovalCall.advance digest executor w.shared _ _).1 _ =
          some row ∧ _
        rw [hrolledBack]
        exact h.1.claimable hclaimed }

theorem stepSafe_step
    {w w' : World (Tables Resources Caller Captured) (ApprovalCall Caller Captured)}
    {ev : Event Env (ApprovalCall Caller Captured) (ApprovalInput Answer)} (h : WorldSound w)
    (hstep : (approvals digest executor environment).step w ev w') :
    StepSafe digest executor w ev w' := by
  rcases Program.step_cases hstep with ⟨e, rfl, rfl⟩ | ⟨call, rfl, -, rfl⟩ |
    ⟨i, input, call, db', next, rfl, hcall, hadvance, rfl⟩
  · exact stepSafe_environment w e
  · exact stepSafe_spawn w call
  · obtain ⟨rfl, rfl⟩ := Prod.mk.inj (Option.some.inj hadvance)
    exact stepSafe_advance h hcall _

/-- Along every run each request has at most one effect, and every step is safe. -/
theorem two_person_approval_safety
    {w : World (Tables Resources Caller Captured) (ApprovalCall Caller Captured)}
    (hw : IsInitial w)
    {run : List (Event Env (ApprovalCall Caller Captured) (ApprovalInput Answer) ×
      World (Tables Resources Caller Captured) (ApprovalCall Caller Captured))}
    (hrun : Run (approvals digest executor environment).step w run) :
    AlwaysHolds (fun w => (w.shared.effects.map fun effect => effect.request.id).Nodup) w run ∧
      AllSteps (StepSafe digest executor) w run := by
  have hsound : WorldSound w := worldSound_of_isInitial hw
  have hinv : ∀ s ev s', WorldSound s → (approvals digest executor environment).step s ev s' →
      WorldSound s' := fun _ _ _ h hstep => worldSound_step h hstep
  exact ⟨alwaysHolds_of_inv hinv (fun s h => h.1.once) hrun hsound,
    allSteps_of_step hinv (fun _ _ _ h hstep => stepSafe_step h hstep) hrun hsound⟩

end Runs

/-! ## A request, its approval and its execution -/

section Example

/-- An executor that counts. -/
def counter : Executor Nat Unit Unit Unit where
  capture := fun _ _ => some ()
  currentResourceVersion := fun _ => some 1
  execute := fun _ _ _ _ n => some (n + 1)

/-- Counters that nothing else changes. -/
abbrev counters : Program (Tables Nat Unit Unit) (ApprovalCall Unit Unit) Unit
    (ApprovalInput Unit) :=
  approvals (fun canonical => canonical.requesterId) counter fun n _ => n

/-- A session that has just signed in with a second factor. -/
def sessionOf (userId : String) : AppSession where
  userId := userId
  companyId := some "company"
  mfaSatisfied := true
  authenticationAt := 1000

/-- A request to publish an article. -/
def publication : RequestInput where
  session := sessionOf "requester"
  actionType := .knowledgeVisibilityPublic
  scope := .organization
  companyId := some "company"
  resourceId := some "article"
  expectedVersion := some 1
  safeParameters :=
    { entries := [("articleId", .string "article"), ("articleVersion", .version 1)]
      nodup := by decide }
  confirmation := "PUBLISH ORGANIZATION KNOWLEDGE"
  now := 2000

/-- A request is made and approved, and its execution is at its last statement. -/
def approvedUntilCommit (request : RequestInput) (approverId : String)
    (execution : ExecuteInput Caller) (answer : Answer) :
    List (Event Env (ApprovalCall Caller Captured) (ApprovalInput Answer)) :=
  let decision : DecideInput :=
    { session := sessionOf approverId, requestId := execution.requestId, approved := true
      approverAuthorized := true, now := request.now }
  let step : Event Env (ApprovalCall Caller Captured) (ApprovalInput Answer) :=
    .advance 0 (.proceed execution.requestId answer)
  [.spawn (.request request), step, .spawn (.decide decision .candidate), step, step, step, step,
    .spawn (.execute execution .capture), step, step, step, step]

/-- The execution of the request to publish. -/
def publicationExecution : ExecuteInput Unit where
  session := sessionOf "requester"
  requestId := "approval"
  executionKey := "key"
  executionAuthorized := true
  expectedActionType := .knowledgeVisibilityPublic
  now := 2000
  caller := ()

/-- The request is made, another user approves it, and the requester executes it. -/
def approvedOnce : List (Event Unit (ApprovalCall Unit Unit) (ApprovalInput Unit)) :=
  approvedUntilCommit publication "approver" publicationExecution () ++
    [.advance 0 (.proceed "approval" ())]

/-- Nothing has been requested. -/
def noApprovals : World (Tables Nat Unit Unit) (ApprovalCall Unit Unit) where
  shared := { resources := 0 }
  locals := []

example : (exec counters.next noApprovals approvedOnce).map (fun w => w.shared.resources) =
    some 1 := by
  decide

theorem two_person_approval_safety_approvedOnce :
    AlwaysHolds (fun w => (w.shared.effects.map fun effect => effect.request.id).Nodup)
        noApprovals (trace counters.next noApprovals approvedOnce) ∧
      AllSteps (StepSafe (fun canonical => canonical.requesterId) counter) noApprovals
        (trace counters.next noApprovals approvedOnce) :=
  two_person_approval_safety ⟨rfl, rfl, rfl, rfl⟩ (run_trace _ _)

end Example

end AvantimePlatform.Governance
