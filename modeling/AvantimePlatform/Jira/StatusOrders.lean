import AvantimePlatform.Jira.StatusEvents
import AvantimePlatform.Lib.LatchedRegister

/-!
# The order of status events

A request is a register for what Jira says about its status: the writes are the status
events, stamped with `jiraUpdatedAt`, and `RESOLVED` and `CLOSED` are final.
`view_processStatus` says that a transaction that works off a status event is the write of
it.

So two orders of the same events can leave a request with different statuses.
`status_orders_agree_iff` says for which requests and events they cannot.
-/

namespace AvantimePlatform.Jira

open AvantimePlatform AvantimePlatform.Checked AvantimePlatform.LatchedRegister

/-- The portal status of a request and the name of its status in Jira. -/
abbrev StatusView := Register (PortalRequestStatus × Option String) Int

/-- What Jira has said about the status of a request. -/
def SupportRequest.view (row : SupportRequest) : StatusView :=
  ⟨(row.status, row.jiraStatusName), row.jiraUpdatedAt⟩

/-- The status is `RESOLVED` or `CLOSED`. -/
def IsFinalView (value : PortalRequestStatus × Option String) : Prop := value.1.IsTerminal

instance : DecidablePred IsFinalView := fun value => inferInstanceAs (Decidable value.1.IsTerminal)

/-- The write that the payload of an event stands for, where it is a status that can be
resolved, with a date. -/
def statusWriteOf (mapping : Option JiraOrganizationMapping) :
    Option NormalizedJiraInboundPayload → Option (Write (PortalRequestStatus × Option String) Int)
  | some (.status _ statusName (some jiraUpdatedAt)) =>
    match resolveJiraStatus statusName (mapping.bind (·.statusMapping)) with
    | .portal status => some ⟨(status, some statusName), jiraUpdatedAt⟩
    | _ => none
  | _ => none

/-- The write that an event stands for. -/
def JiraInboundEventRecord.statusWrite (record : JiraInboundEventRecord)
    (mapping : Option JiraOrganizationMapping) :
    Option (Write (PortalRequestStatus × Option String) Int) :=
  statusWriteOf mapping record.normalizedPayload

/-! ## One event -/

section Event

variable {db db' : Database} {record : JiraInboundEventRecord} {row : SupportRequest}
  {mapping : Option JiraOrganizationMapping} {statusId statusName : String}
  {incomingAt now : Int} {mapped : PortalRequestStatus} {outcome : InboundOutcome}

/-- What the transaction of a status event does when nothing else happens between its reads
and its commit. -/
def processStatusAlone (db : Database) (record : JiraInboundEventRecord) (now : Int) :
    Except String (Database × InboundOutcome) :=
  match record.normalizedPayload with
  | some (.status statusId statusName jiraUpdatedAt) =>
    processStatus db record statusId statusName jiraUpdatedAt (db.request? record.requestId)
      (db.mappingOf? record.companyId) now
  | _ => .error "JIRA_INBOUND_PAYLOAD_INVALID"

theorem view_applyStatus (status : Option PortalRequestStatus) :
    (row.applyStatus status statusId statusName incomingAt now).view =
      .taken ⟨(status.getD row.status, some statusName), incomingAt⟩ := rfl

/-- The request takes an event with this status and date. -/
def SupportRequest.Accepts (row : SupportRequest) (mapped : PortalRequestStatus) (incomingAt : Int) :
    Prop :=
  (∀ t ∈ row.jiraUpdatedAt, t < incomingAt) ∧ (row.status.IsTerminal → mapped.IsTerminal)

instance (row : SupportRequest) (mapped : PortalRequestStatus) (incomingAt : Int) :
    Decidable (row.Accepts mapped incomingAt) :=
  inferInstanceAs (Decidable (_ ∧ _))

theorem decision_of_accepts (h : row.Accepts mapped incomingAt) :
    statusTransitionDecision row.status row.jiraUpdatedAt mapped incomingAt =
      if row.status = mapped then .unchanged else .apply := by
  have hstale : ¬∃ current ∈ row.jiraUpdatedAt, incomingAt ≤ current := by
    rintro ⟨current, hcurrent, hle⟩
    have hlt := h.1 current hcurrent
    omega
  have hconflict : ¬(row.status.IsTerminal ∧ ¬mapped.IsTerminal) := fun hc => hc.2 (h.2 hc.1)
  rw [statusTransitionDecision, if_neg hstale, if_neg hconflict]

theorem decision_of_not_accepts (h : ¬row.Accepts mapped incomingAt) :
    statusTransitionDecision row.status row.jiraUpdatedAt mapped incomingAt = .stale ∨
      statusTransitionDecision row.status row.jiraUpdatedAt mapped incomingAt = .terminalConflict := by
  unfold statusTransitionDecision
  by_cases hstale : ∃ current ∈ row.jiraUpdatedAt, incomingAt ≤ current
  · exact Or.inl (if_pos hstale)
  · rw [if_neg hstale]
    have hfresh : ∀ t ∈ row.jiraUpdatedAt, t < incomingAt := by
      intro t ht
      by_contra hnot
      exact hstale ⟨t, ht, not_lt.mp hnot⟩
    have hconflict : row.status.IsTerminal ∧ ¬mapped.IsTerminal := by
      by_contra hnot
      exact h ⟨hfresh, fun hrow => not_not.mp fun hmapped => hnot ⟨hrow, hmapped⟩⟩
    exact Or.inr (if_pos hconflict)

/-- An event that the request takes is written, and every other one is ignored. -/
theorem processStatus_of_target (htarget : row.isTargetOf record = true)
    (hmapped : resolveJiraStatus statusName (mapping.bind (·.statusMapping)) = .portal mapped) :
    processStatus db record statusId statusName (some incomingAt) (some row) mapping now =
      if row.Accepts mapped incomingAt then
        updateStatus db record row (if row.status = mapped then none else some mapped) statusId
          statusName incomingAt now
      else finishEvent db record .ignored now := by
  have hnot : ¬row.isTargetOf record = false := by simp [htarget]
  simp only [processStatus, if_neg hnot, hmapped]
  by_cases haccepts : row.Accepts mapped incomingAt
  · rw [if_pos haccepts, decision_of_accepts haccepts]
    by_cases hsame : row.status = mapped
    · simp only [if_pos hsame]
    · simp only [if_neg hsame]
  · rw [if_neg haccepts]
    rcases decision_of_not_accepts haccepts with hstale | hconflict
    · simp only [hstale]
    · simp only [hconflict]

/-- What taking an event or not makes of the view. -/
theorem view_receive (row : SupportRequest) (mapped : PortalRequestStatus) (name : Option String)
    (incomingAt : Int) :
    row.view.receive IsFinalView ⟨(mapped, name), incomingAt⟩ =
      if row.Accepts mapped incomingAt then .taken ⟨(mapped, name), incomingAt⟩ else row.view := by
  rfl

theorem companyId_of_isTargetOf (h : row.isTargetOf record = true) :
    row.companyId = record.companyId := by
  simp only [SupportRequest.isTargetOf, Bool.and_eq_true, decide_eq_true_eq] at h
  exact h.1.1

/-- The update of a request that was read alone finds its row. -/
theorem fencePasses_of_fresh (hkeyed : KeyedList.Distinct SupportRequest.id db.requests)
    (hrow : row ∈ db.requests) (htarget : row.isTargetOf record = true)
    (hfresh : ∀ t ∈ row.jiraUpdatedAt, t < incomingAt) : FencePasses db record row incomingAt := by
  have hcompany := companyId_of_isTargetOf htarget
  have hfenced : row.isFencedBy row record incomingAt = true := by
    have hall : row.jiraUpdatedAt.all (· < incomingAt) = true := by
      cases hdate : row.jiraUpdatedAt with
      | none => rfl
      | some t => simpa using hfresh t hdate
    simp [SupportRequest.isFencedBy, hcompany, hall]
  have hone : db.requests.countP (·.isFencedBy row record incomingAt) ≤ 1 := by
    refine KeyedList.countP_le_one (k := row.id) hkeyed fun other _ hother => ?_
    simp only [SupportRequest.isFencedBy, Bool.and_eq_true, decide_eq_true_eq] at hother
    exact hother.1.1
  have hpos : 0 < db.requests.countP (·.isFencedBy row record incomingAt) :=
    List.countP_pos_iff.mpr ⟨row, hrow, hfenced⟩
  show _ = 1
  omega

theorem statusWrite_eq_some {w : Write (PortalRequestStatus × Option String) Int}
    (h : record.statusWrite mapping = some w) :
    ∃ statusId statusName mapped incomingAt,
      record.normalizedPayload = some (.status statusId statusName (some incomingAt)) ∧
      resolveJiraStatus statusName (mapping.bind (·.statusMapping)) = .portal mapped ∧
      w = ⟨(mapped, some statusName), incomingAt⟩ := by
  unfold JiraInboundEventRecord.statusWrite statusWriteOf at h
  split at h
  · next statusId statusName incomingAt hpayload =>
    split at h
    · next mapped hmapped =>
      exact ⟨statusId, statusName, mapped, incomingAt, hpayload, hmapped, (Option.some.inj h).symm⟩
    · cases h
  · cases h

/-- The tables with the request of the events. -/
structure HasRequest (db : Database) (requestId : String) (row : SupportRequest) : Prop where
  keyed : KeyedList.Distinct SupportRequest.id db.requests
  found : db.request? requestId = some row

theorem isTargetOf_of_commit
    (hfound : db.request? record.requestId = some row)
    (h : processStatusAlone db record now = .ok (db', outcome)) : row.isTargetOf record = true := by
  unfold processStatusAlone at h
  split at h
  · unfold processStatus at h
    rw [hfound] at h
    dsimp only at h
    split at h
    · cases h
    · next htarget => exact Bool.not_eq_false _ ▸ htarget
  · cases h

/-- A transaction that works off a status event is the write of it. -/
theorem view_processStatus {w : Write (PortalRequestStatus × Option String) Int}
    (hdb : HasRequest db record.requestId row)
    (hwrite : record.statusWrite (db.mappingOf? row.companyId) = some w)
    (h : processStatusAlone db record now = .ok (db', outcome)) :
    ∃ row', HasRequest db' record.requestId row' ∧ row'.companyId = row.companyId ∧
      row'.isTargetOf = row.isTargetOf ∧ row'.view = row.view.receive IsFinalView w ∧ db'.mappings = db.mappings := by
  have htarget := isTargetOf_of_commit hdb.found h
  rw [companyId_of_isTargetOf htarget] at hwrite
  obtain ⟨statusId, statusName, mapped, incomingAt, hpayload, hmapped, rfl⟩ :=
    statusWrite_eq_some hwrite
  simp only [processStatusAlone, hpayload, hdb.found, processStatus_of_target htarget hmapped] at h
  rw [view_receive]
  by_cases haccepts : row.Accepts mapped incomingAt
  · have hmem : row ∈ db.requests := (KeyedList.find_eq_some hdb.found).1
    have hid : row.id = record.requestId := (KeyedList.find_eq_some hdb.found).2
    have hfence := fencePasses_of_fresh hdb.keyed hmem htarget haccepts.1
    rw [if_pos haccepts, updateStatus, if_pos hfence] at h
    obtain ⟨-, rfl, -⟩ := finishEvent_eq_ok.mp h
    have hfenced : row.isFencedBy row record incomingAt = true := by
      obtain ⟨other, hother, hfenced⟩ := fenced_row hdb.keyed hfence
      rw [hid, hdb.found] at hother
      obtain rfl := Option.some.inj hother
      exact hfenced
    refine ⟨row.applyStatus (if row.status = mapped then none else some mapped) statusId statusName
      incomingAt now, ⟨?_, ?_⟩, rfl, rfl, ?_, rfl⟩
    · exact KeyedList.distinct_updateMany (by intro row; rfl) hdb.keyed
    · show (db.updateRequests _ _).request? record.requestId = _
      rw [db.request?_updateRequests (by intro row; rfl), hdb.found, Option.map_some, if_pos hfenced]
    · rw [if_pos haccepts, view_applyStatus]
      by_cases hsame : row.status = mapped
      · rw [if_pos hsame, Option.getD_none, hsame]
      · rw [if_neg hsame, Option.getD_some]
  · rw [if_neg haccepts] at h
    obtain ⟨-, rfl, -⟩ := finishEvent_eq_ok.mp h
    rw [if_neg haccepts]
    exact ⟨row, ⟨hdb.keyed, hdb.found⟩, rfl, rfl, rfl, rfl⟩

/-- The end of an event leaves the leases of the others. -/
theorem leaseHeld_finish {other : JiraInboundEventRecord} (hne : other.id ≠ record.id) :
    LeaseHeld (db.finish record outcome now) other ↔ LeaseHeld db other := by
  have hcount : (db.finish record outcome now).inboundEvents.countP (·.isHeldAs other) =
      db.inboundEvents.countP (·.isHeldAs other) := by
    show (KeyedList.updateMany _ _ _).countP _ = _
    unfold KeyedList.updateMany
    rw [List.countP_map]
    refine List.countP_congr fun event _ => ?_
    rw [Function.comp_apply]
    by_cases hheld : event.isHeldAs record = true
    · have hid : event.id = record.id := by
        simp only [JiraInboundEventRecord.isHeldAs, Bool.and_eq_true, decide_eq_true_eq] at hheld
        exact hheld.1.1
      have hother : event.id ≠ other.id := fun h => hne (h.symm.trans hid)
      rw [if_pos hheld]
      simp [JiraInboundEventRecord.isHeldAs, hother]
    · rw [if_neg hheld]
  show _ = 1 ↔ _ = 1
  rw [hcount]

theorem finishEvent_commits (hheld : LeaseHeld db record) (outcome : InboundOutcome) (now : Int) :
    ∃ db' outcome', finishEvent db record outcome now = .ok (db', outcome') ∧
      ∀ other : JiraInboundEventRecord, other.id ≠ record.id → LeaseHeld db other → LeaseHeld db' other :=
  ⟨_, _, finishEvent_eq_ok.mpr ⟨hheld, rfl, rfl⟩, fun _ hne hother => (leaseHeld_finish hne).mpr hother⟩

/-- An event whose lease is held is worked off, and the leases of the others stay. -/
theorem processStatusAlone_commits {w : Write (PortalRequestStatus × Option String) Int}
    (hdb : HasRequest db record.requestId row) (htarget : row.isTargetOf record = true)
    (hwrite : record.statusWrite (db.mappingOf? row.companyId) = some w)
    (hheld : LeaseHeld db record) (now : Int) :
    ∃ db' outcome, processStatusAlone db record now = .ok (db', outcome) ∧
      ∀ other : JiraInboundEventRecord, other.id ≠ record.id → LeaseHeld db other → LeaseHeld db' other := by
  rw [companyId_of_isTargetOf htarget] at hwrite
  obtain ⟨statusId, statusName, mapped, incomingAt, hpayload, hmapped, rfl⟩ :=
    statusWrite_eq_some hwrite
  simp only [processStatusAlone, hpayload, hdb.found, processStatus_of_target htarget hmapped]
  by_cases haccepts : row.Accepts mapped incomingAt
  · have hfence := fencePasses_of_fresh hdb.keyed (KeyedList.find_eq_some hdb.found).1 htarget
      haccepts.1
    rw [if_pos haccepts, updateStatus, if_pos hfence]
    have hheld' : LeaseHeld (db.updateRequests (·.isFencedBy row record incomingAt)
        (·.applyStatus (if row.status = mapped then none else some mapped) statusId statusName
          incomingAt now)) record := hheld
    obtain ⟨db', outcome, hcommit, hothers⟩ := finishEvent_commits hheld' .completed now
    exact ⟨db', outcome, hcommit, fun other hne hother => hothers other hne hother⟩
  · rw [if_neg haccepts]
    exact finishEvent_commits hheld .ignored now

end Event

/-! ## One event after the other -/

/-- The records are worked off one at a time and to the end, in this order.  Meanwhile the
requests and the mappings stay as they are; claims, and whatever else happens to the events,
may come in between. -/
inductive WorkedOff (requestId : String) : Database → List JiraInboundEventRecord → Database → Prop where
  | done (db : Database) : WorkedOff requestId db [] db
  | meanwhile {db db₁ db' : Database} {order : List JiraInboundEventRecord}
      (hrequests : db₁.requests = db.requests) (hmappings : db₁.mappings = db.mappings)
      (rest : WorkedOff requestId db₁ order db') : WorkedOff requestId db order db'
  | event {db db₁ db' : Database} {record : JiraInboundEventRecord}
      {order : List JiraInboundEventRecord} {now : Int} {outcome : InboundOutcome}
      (hrecord : record.requestId = requestId)
      (hcommit : processStatusAlone db record now = .ok (db₁, outcome))
      (rest : WorkedOff requestId db₁ order db') : WorkedOff requestId db (record :: order) db'

/-- The same events, in another order and with other leases. -/
def SameEvents (order events : List JiraInboundEventRecord) : Prop :=
  (order.map (·.normalizedPayload)).Perm (events.map (·.normalizedPayload))

/-- What Jira has said about the status of a request, by its id. -/
def Database.view? (db : Database) (requestId : String) : Option StatusView :=
  (db.request? requestId).map (·.view)

section Orders

variable {db db' : Database} {requestId : String} {row : SupportRequest}
  {order events : List JiraInboundEventRecord}

theorem hasRequest_congr {db₁ : Database} (hrequests : db₁.requests = db.requests)
    (h : HasRequest db requestId row) : HasRequest db₁ requestId row := by
  refine ⟨?_, ?_⟩
  · rw [hrequests]
    exact h.keyed
  · rw [← h.found, Database.request?, hrequests]
    rfl

theorem mappingOf?_congr {db₁ : Database} (hmappings : db₁.mappings = db.mappings)
    (companyId : String) : db₁.mappingOf? companyId = db.mappingOf? companyId := by
  rw [Database.mappingOf?, hmappings]
  rfl

/-- The events are the writes of the request's view, in their order. -/
theorem view_of_workedOff (h : WorkedOff requestId db order db') (hdb : HasRequest db requestId row)
    (hresolved : ∀ record ∈ order, (record.statusWrite (db.mappingOf? row.companyId)).isSome = true) :
    db'.view? requestId =
      some ((order.filterMap (·.statusWrite (db.mappingOf? row.companyId))).foldl
        (Register.receive IsFinalView) row.view) := by
  induction h generalizing row with
  | done db => rw [Database.view?, hdb.found]; rfl
  | meanwhile hrequests hmappings rest ih =>
      have hsame := mappingOf?_congr hmappings row.companyId
      rw [← hsame]
      exact ih (hasRequest_congr hrequests hdb) (hsame ▸ hresolved)
  | @event db db₁ db' record order now outcome hrecord hcommit rest ih =>
      obtain ⟨w, hw⟩ := Option.isSome_iff_exists.mp (hresolved record List.mem_cons_self)
      subst hrecord
      obtain ⟨row', hdb', hcompany, -, hview, hmappings⟩ := view_processStatus hdb hw hcommit
      have hsame : db₁.mappingOf? row'.companyId = db.mappingOf? row.companyId := by
        rw [hcompany]
        exact mappingOf?_congr hmappings row.companyId
      have hcons : (record :: order).filterMap (·.statusWrite (db.mappingOf? row.companyId)) =
          w :: order.filterMap (·.statusWrite (db.mappingOf? row.companyId)) :=
        List.filterMap_cons_some hw
      rw [hcons, List.foldl_cons, ← hview, ← hsame]
      refine ih hdb' fun other hother => ?_
      rw [hsame]
      exact hresolved other (List.mem_cons_of_mem record hother)

/-- Events whose leases are held can be worked off in any order. -/
theorem exists_workedOff (hdb : HasRequest db requestId row)
    (hrequest : ∀ record ∈ order, record.requestId = requestId ∧ row.isTargetOf record = true)
    (hheld : ∀ record ∈ order, LeaseHeld db record) (hids : (order.map (·.id)).Nodup)
    (hresolved : ∀ record ∈ order, (record.statusWrite (db.mappingOf? row.companyId)).isSome = true) :
    ∃ db', WorkedOff requestId db order db' := by
  induction order generalizing db row with
  | nil => exact ⟨db, .done db⟩
  | cons record order ih =>
      obtain ⟨w, hw⟩ := Option.isSome_iff_exists.mp (hresolved record List.mem_cons_self)
      obtain ⟨hrecord, htarget⟩ := hrequest record List.mem_cons_self
      subst hrecord
      obtain ⟨db₁, outcome, hcommit, hothers⟩ := processStatusAlone_commits hdb htarget hw
        (hheld record List.mem_cons_self) 0
      obtain ⟨row', hdb', hcompany, htargets, -, hmappings⟩ := view_processStatus hdb hw hcommit
      rw [List.map_cons, List.nodup_cons] at hids
      have hsame : db₁.mappingOf? row'.companyId = db.mappingOf? row.companyId := by
        rw [hcompany]
        exact mappingOf?_congr hmappings row.companyId
      have hmem : ∀ other ∈ order, other ∈ record :: order := fun _ h => List.mem_cons_of_mem record h
      obtain ⟨db', hrest⟩ := ih hdb'
        (fun other hother => by rw [htargets]; exact hrequest other (hmem other hother))
        (fun other hother => hothers other
          (fun hid => hids.1 (hid ▸ List.mem_map_of_mem hother)) (hheld other (hmem other hother)))
        hids.2
        (fun other hother => by rw [hsame]; exact hresolved other (hmem other hother))
      exact ⟨db', .event rfl hcommit hrest⟩

/-- Events in another order are writes in another order. -/
theorem perm_writes (mapping : Option JiraOrganizationMapping) (h : SameEvents order events) :
    (order.filterMap (·.statusWrite mapping)).Perm (events.filterMap (·.statusWrite mapping)) := by
  have hwrite : ∀ records : List JiraInboundEventRecord,
      records.filterMap (·.statusWrite mapping) =
        (records.map (·.normalizedPayload)).filterMap (statusWriteOf mapping) := by
    intro records
    rw [List.filterMap_map]
    rfl
  rw [hwrite, hwrite]
  exact h.filterMap (statusWriteOf mapping)

theorem isSome_of_sameEvents {mapping : Option JiraOrganizationMapping} (h : SameEvents order events)
    (hresolved : ∀ record ∈ events, (record.statusWrite mapping).isSome = true) :
    ∀ record ∈ order, (record.statusWrite mapping).isSome = true := by
  intro record hrecord
  obtain ⟨other, hother, hpayload⟩ := List.mem_map.mp (h.subset (List.mem_map_of_mem hrecord))
  have hsame : record.statusWrite mapping = other.statusWrite mapping := by
    unfold JiraInboundEventRecord.statusWrite
    rw [hpayload]
  rw [hsame]
  exact hresolved other hother

/-- Writes in another order are the writes of the events in another order. -/
theorem exists_order {mapping : Option JiraOrganizationMapping}
    {ws : List (Write (PortalRequestStatus × Option String) Int)}
    (hresolved : ∀ record ∈ events, (record.statusWrite mapping).isSome = true)
    (h : ws.Perm (events.filterMap (·.statusWrite mapping))) :
    ∃ order : List JiraInboundEventRecord, order.Perm events ∧
      order.filterMap (·.statusWrite mapping) = ws := by
  have hevents : List.Forall₂ (fun w record => record.statusWrite mapping = some w)
      (events.filterMap (·.statusWrite mapping)) events := by
    clear h
    induction events with
    | nil => exact .nil
    | cons record events ih =>
        obtain ⟨w, hw⟩ := Option.isSome_iff_exists.mp (hresolved record List.mem_cons_self)
        have hcons : (record :: events).filterMap (·.statusWrite mapping) =
            w :: events.filterMap (·.statusWrite mapping) := List.filterMap_cons_some hw
        rw [hcons]
        exact .cons hw (ih fun other hother => hresolved other (List.mem_cons_of_mem record hother))
  obtain ⟨order, horder, hperm⟩ := List.perm_comp_forall₂ h hevents
  refine ⟨order, hperm, ?_⟩
  clear h hperm hevents
  induction horder with
  | nil => rfl
  | cons hw _ ih =>
      rw [← ih]
      exact List.filterMap_cons_some hw

end Orders

/-- Status events with distinct dates leave a request the same in every order exactly when
the request is `RESOLVED` or `CLOSED`, none of the events that are newer than it says so, or the
newest of them does. -/
theorem status_orders_agree_iff {db : Database} {requestId : String} {row : SupportRequest}
    {events : List JiraInboundEventRecord} (hdb : HasRequest db requestId row)
    (hrequest : ∀ record ∈ events, record.requestId = requestId ∧ row.isTargetOf record = true)
    (hheld : ∀ record ∈ events, LeaseHeld db record) (hids : (events.map (·.id)).Nodup)
    (hresolved : ∀ record ∈ events, (record.statusWrite (db.mappingOf? row.companyId)).isSome = true)
    (hdates : ((events.filterMap (·.statusWrite (db.mappingOf? row.companyId))).map
      (·.stamp)).Nodup) :
    Register.OrderFree IsFinalView row.view
        (events.filterMap (·.statusWrite (db.mappingOf? row.companyId))) ↔
      ∀ order order' db₁ db₂, SameEvents order events → SameEvents order' events →
        WorkedOff requestId db order db₁ → WorkedOff requestId db order' db₂ →
        db₁.view? requestId = db₂.view? requestId := by
  rw [orderFree_iff hdates]
  constructor
  · intro hagree order order' db₁ db₂ hsame hsame' hwork hwork'
    rw [view_of_workedOff hwork hdb (isSome_of_sameEvents hsame hresolved),
      view_of_workedOff hwork' hdb (isSome_of_sameEvents hsame' hresolved),
      hagree _ _ (perm_writes _ hsame) (perm_writes _ hsame')]
  · intro hagree o o' ho ho'
    have hwork : ∀ ws : List (Write _ _), ws.Perm (events.filterMap (·.statusWrite (db.mappingOf? row.companyId))) →
        ∃ order db', SameEvents order events ∧ WorkedOff requestId db order db' ∧
          db'.view? requestId = some (ws.foldl (Register.receive IsFinalView) row.view) := by
      intro ws hws
      obtain ⟨order, hperm, rfl⟩ := exists_order hresolved hws
      have hresolved' := fun record hrecord => hresolved record (hperm.subset hrecord)
      obtain ⟨db', hdb'⟩ := exists_workedOff hdb
        (fun record hrecord => hrequest record (hperm.subset hrecord))
        (fun record hrecord => hheld record (hperm.subset hrecord))
        ((hperm.map _).nodup_iff.mpr hids) hresolved'
      exact ⟨order, db', hperm.map _, hdb', view_of_workedOff hdb' hdb hresolved'⟩
    obtain ⟨order, db₁, hsame, hdb₁, hview⟩ := hwork o ho
    obtain ⟨order', db₂, hsame', hdb₂, hview'⟩ := hwork o' ho'
    have hviews := hagree order order' db₁ db₂ hsame hsame' hdb₁ hdb₂
    rw [hview, hview'] at hviews
    exact Option.some.inj hviews

/-! ## A request resolved and taken up again -/

section TakenUpAgain

/-- A status event of a request, held by a worker. -/
def heldEvent (id statusName : String) (jiraUpdatedAt : Int) : JiraInboundEventRecord where
  id := id
  eventFingerprint := id
  jiraIssueId := "10001"
  jiraIssueKey := "SUP-1"
  requestId := "request"
  companyId := "company"
  normalizedPayload := some (.status "3" statusName (some jiraUpdatedAt))
  occurredAt := jiraUpdatedAt
  createdAt := jiraUpdatedAt
  status := .processing
  attempts := 1
  nextAttemptAt := jiraUpdatedAt
  leaseToken := some "token"
  leaseUntil := some 60000
  correlationId := "correlation"

/-- The issue is resolved and then taken up again. -/
def takenUpAgain : List JiraInboundEventRecord :=
  [heldEvent "resolved" "Resolved" 1000, heldEvent "taken up" "In Progress" 2000]

def takenUpAgainTables : Database where
  requests := [openRequest]
  inboundEvents := takenUpAgain

theorem status_orders_agree_iff_takenUpAgain :
    Register.OrderFree IsFinalView openRequest.view
        (takenUpAgain.filterMap (·.statusWrite (takenUpAgainTables.mappingOf? openRequest.companyId))) ↔
      ∀ order order' db₁ db₂, SameEvents order takenUpAgain → SameEvents order' takenUpAgain →
        WorkedOff "request" takenUpAgainTables order db₁ →
        WorkedOff "request" takenUpAgainTables order' db₂ →
        db₁.view? "request" = db₂.view? "request" := by
  apply status_orders_agree_iff
  · exact ⟨by simp [KeyedList.Distinct, takenUpAgainTables], by decide⟩
  · decide
  · decide
  · decide
  · decide
  · decide

/-- In the order of their dates the request stays `RESOLVED`; in the other order it is left
`IN_PROGRESS`. -/
theorem status_orders_disagree :
    ∃ db₁ db₂, WorkedOff "request" takenUpAgainTables takenUpAgain db₁ ∧
      WorkedOff "request" takenUpAgainTables takenUpAgain.reverse db₂ ∧
      (db₁.view? "request").map (·.value.1) = some .resolved ∧
      (db₂.view? "request").map (·.value.1) = some .inProgress := by
  have hdb : HasRequest takenUpAgainTables "request" openRequest :=
    ⟨by simp [KeyedList.Distinct, takenUpAgainTables], by decide⟩
  have hresolved : ∀ order : List JiraInboundEventRecord, order.Perm takenUpAgain →
      ∀ record ∈ order, (record.statusWrite
        (takenUpAgainTables.mappingOf? openRequest.companyId)).isSome = true := by
    intro order hperm record hrecord
    have hall : ∀ record ∈ takenUpAgain, (record.statusWrite
        (takenUpAgainTables.mappingOf? openRequest.companyId)).isSome = true := by decide
    exact hall record (hperm.subset hrecord)
  obtain ⟨db₁, hwork₁⟩ : ∃ db₁, WorkedOff "request" takenUpAgainTables takenUpAgain db₁ :=
    exists_workedOff hdb (by decide) (by decide) (by decide) (hresolved _ (.refl _))
  obtain ⟨db₂, hwork₂⟩ : ∃ db₂, WorkedOff "request" takenUpAgainTables takenUpAgain.reverse db₂ :=
    exists_workedOff hdb (by decide) (by decide) (by decide) (hresolved _ (List.reverse_perm _))
  refine ⟨db₁, db₂, hwork₁, hwork₂, ?_, ?_⟩
  · rw [view_of_workedOff hwork₁ hdb (hresolved _ (.refl _))]
    decide
  · rw [view_of_workedOff hwork₂ hdb (hresolved _ (List.reverse_perm _))]
    decide

end TakenUpAgain

end AvantimePlatform.Jira
