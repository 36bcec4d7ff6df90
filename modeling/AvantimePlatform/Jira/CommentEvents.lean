import AvantimePlatform.Jira.StatusEvents

/-!
# Comment events

The events for one public comment of Jira, worked off by any number of workers.  The
unique `jiraCommentId` lets one transaction create the message and sends the others
back to their retry.  The update of a message is not guarded: it writes whatever the
event carries, if the row that the transaction has read is older.

`UpdatesInOrder` is the condition that a message is never older than the event that is
written over it.  Along a run that meets it the dates grow and the message ends as the
newest event has it; `comment_converges_iff` has both directions.
-/

namespace AvantimePlatform.Jira

open AvantimePlatform AvantimePlatform.Checked AvantimePlatform.Interleaving
  AvantimePlatform.Transition

/-- The event carries this version of the public comment `commentId`, which no
automation has written. -/
def JiraInboundEventRecord.Carries (event : JiraInboundEventRecord)
    (commentId body authorName : String) (updatedAt : Int) : Prop :=
  event.normalizedPayload = some (.comment commentId body authorName true false (some updatedAt))

/-- `COMPLETED` or `IGNORED`. -/
def JiraInboundEventRecord.IsProcessed (event : JiraInboundEventRecord) : Prop :=
  event.status = .completed ∨ event.status = .ignored

/-! ## What `processComment` commits -/

/-- What `processComment` commits: the message is a customer's own, or it is as new as
the event, or it gets the version of the event, or it is created. -/
inductive CommentCommit (db : Database) (record : JiraInboundEventRecord)
    (commentId body authorName : String) (updatedAt : Int) (request : SupportRequest) (id : String)
    (now : Int) : Option RequestMessage → Database → Prop where
  | foreign (existing : RequestMessage) (hlease : LeaseHeld db record)
      (hauthor : existing.authorType ≠ .jira) :
      CommentCommit db record commentId body authorName updatedAt request id now (some existing)
        (db.finish record .ignored now)
  | outdated (existing : RequestMessage) (stored : Int) (hlease : LeaseHeld db record)
      (hstored : existing.jiraCommentUpdatedAt = some stored) (hle : updatedAt ≤ stored) :
      CommentCommit db record commentId body authorName updatedAt request id now (some existing)
        (db.finish record .ignored now)
  | updated (existing : RequestMessage) (hlease : LeaseHeld db record)
      (hrequest : existing.requestId = request.id) (hauthor : existing.authorType = .jira)
      (hfresh : ¬∃ stored ∈ existing.jiraCommentUpdatedAt, updatedAt ≤ stored)
      (hrow : (db.message? existing.id).isNone = false) :
      CommentCommit db record commentId body authorName updatedAt request id now (some existing)
        ((db.updateMessages (·.id = existing.id)
          (·.applyComment body authorName updatedAt)).finish record .completed now)
  | created (hlease : LeaseHeld db record) (hid : db.message? id = none)
      (hcomment : db.comment? commentId = none) :
      CommentCommit db record commentId body authorName updatedAt request id now none
        ({ db with messages := db.messages ++
          [importedComment id request.id commentId body authorName updatedAt] }.finish record
            .completed now)

theorem commentCommit_of_processComment {db db' : Database} {record : JiraInboundEventRecord}
    {commentId body authorName : String} {updatedAt : Int} {request : SupportRequest}
    {existing : Option RequestMessage} {id : String} {now : Int} {outcome : InboundOutcome}
    (h : processComment db record commentId body authorName updatedAt request existing id now =
      .ok (db', outcome)) :
    CommentCommit db record commentId body authorName updatedAt request id now existing db' := by
  unfold processComment at h
  split at h
  · next existing =>
    split at h
    · cases h
    next hrequest =>
    split at h
    · next hauthor =>
      obtain ⟨hlease, rfl, -⟩ := finishEvent_eq_ok.mp h
      exact .foreign existing hlease hauthor
    next hauthor =>
    split at h
    · next hstored =>
      obtain ⟨stored, hstored, hle⟩ := hstored
      obtain ⟨hlease, rfl, -⟩ := finishEvent_eq_ok.mp h
      exact .outdated existing stored hlease hstored hle
    next hfresh =>
    split at h
    · cases h
    next hrow =>
    obtain ⟨hlease, rfl, -⟩ := finishEvent_eq_ok.mp h
    have hlease' : LeaseHeld db record := hlease
    exact .updated existing hlease' (not_not.mp hrequest) (not_not.mp hauthor) hfresh
      (Bool.eq_false_iff.mpr hrow)
  · unfold createMessage at h
    split at h
    · next hadmits =>
      obtain ⟨hlease, rfl, -⟩ := finishEvent_eq_ok.mp h
      have hlease' : LeaseHeld db record := hlease
      simp only [Database.admitsMessage, importedComment, Bool.and_eq_true, Option.isNone_iff_eq_none,
        Option.all_some] at hadmits
      exact .created hlease' hadmits.1 hadmits.2
    · cases h

/-! ## The invariant -/

variable {commentId : String}

/-- The messages and the events of the comment `commentId` fit together. -/
structure CommentInv (commentId : String) (db : Database) : Prop where
  messageIds : KeyedList.Distinct RequestMessage.id db.messages
  eventIds : KeyedList.Distinct JiraInboundEventRecord.id db.inboundEvents
  /-- The unique key of `jiraCommentId`. -/
  unique : ∀ m ∈ db.messages, ∀ m' ∈ db.messages, m.jiraCommentId = some commentId →
    m'.jiraCommentId = some commentId → m = m'
  /-- The events are for a public comment that no automation has written. -/
  events : ∀ event ∈ db.inboundEvents, ∀ body authorName isPublic automation updatedAt,
    event.normalizedPayload = some (.comment commentId body authorName isPublic automation updatedAt) →
    isPublic = true ∧ automation = false
  /-- No two of them have the same date. -/
  dates : ∀ event ∈ db.inboundEvents, ∀ event' ∈ db.inboundEvents,
    ∀ body body' authorName authorName' updatedAt, event.Carries commentId body authorName updatedAt →
    event'.Carries commentId body' authorName' updatedAt → event = event'
  /-- The message is as one of the events has it. -/
  message : ∀ m ∈ db.messages, m.jiraCommentId = some commentId → m.authorType = .jira ∧
    ∃ event ∈ db.inboundEvents, ∃ authorName updatedAt,
      event.Carries commentId m.body authorName updatedAt ∧ m.jiraCommentUpdatedAt = some updatedAt
  /-- No event that has been worked off is newer than the message. -/
  processed : ∀ event ∈ db.inboundEvents, ∀ body authorName updatedAt,
    event.Carries commentId body authorName updatedAt → event.IsProcessed →
    ∃ m ∈ db.messages, m.jiraCommentId = some commentId ∧
      ∃ stored, m.jiraCommentUpdatedAt = some stored ∧ updatedAt ≤ stored

/-- Nothing is lost between the two states: the events keep their payload, the messages
their keys, and the message of the comment gets no earlier date. -/
structure Grows (commentId : String) (db db' : Database) : Prop where
  events : ∀ event ∈ db.inboundEvents, ∃ event' ∈ db'.inboundEvents, event'.id = event.id ∧
    event'.normalizedPayload = event.normalizedPayload
  messages : ∀ m ∈ db.messages, ∃ m' ∈ db'.messages, m'.id = m.id ∧
    m'.jiraCommentId = m.jiraCommentId ∧ m'.authorType = m.authorType ∧
    (m.jiraCommentId = some commentId → ∀ t ∈ m.jiraCommentUpdatedAt,
      ∃ t' ∈ m'.jiraCommentUpdatedAt, t ≤ t')

/-- What every step keeps. -/
def Kept (commentId : String) (db db' : Database) : Prop :=
  CommentInv commentId db' ∧ Grows commentId db db'

section Kept

variable {db db' db'' : Database}

theorem Grows.refl (commentId : String) (db : Database) : Grows commentId db db where
  events event hevent := ⟨event, hevent, rfl, rfl⟩
  messages m hm := ⟨m, hm, rfl, rfl, rfl, fun _ t ht => ⟨t, ht, le_refl t⟩⟩

theorem Grows.trans (h : Grows commentId db db') (h' : Grows commentId db' db'') :
    Grows commentId db db'' where
  events event hevent := by
    obtain ⟨event', hevent', hid, hpayload⟩ := h.events event hevent
    obtain ⟨event'', hevent'', hid', hpayload'⟩ := h'.events event' hevent'
    exact ⟨event'', hevent'', hid'.trans hid, hpayload'.trans hpayload⟩
  messages m hm := by
    obtain ⟨m', hm', hid, hcomment, hauthor, hdate⟩ := h.messages m hm
    obtain ⟨m'', hm'', hid', hcomment', hauthor', hdate'⟩ := h'.messages m' hm'
    refine ⟨m'', hm'', hid'.trans hid, hcomment'.trans hcomment, hauthor'.trans hauthor, ?_⟩
    intro hc t ht
    obtain ⟨t', ht', hle⟩ := hdate hc t ht
    obtain ⟨t'', ht'', hle'⟩ := hdate' (hcomment.trans hc) t' ht'
    exact ⟨t'', ht'', hle.trans hle'⟩

theorem Kept.refl (h : CommentInv commentId db) : Kept commentId db db := ⟨h, Grows.refl commentId db⟩

theorem Kept.trans (h : Kept commentId db db') (h' : Kept commentId db' db'') :
    Kept commentId db db'' :=
  ⟨h'.1, h.2.trans h'.2⟩

/-- A step that leaves both tables keeps everything. -/
theorem kept_of_eq (h : CommentInv commentId db) (hmessages : db'.messages = db.messages)
    (hevents : db'.inboundEvents = db.inboundEvents) : Kept commentId db db' := by
  obtain ⟨requests, messages, inboundEvents, operations, mappings⟩ := db'
  obtain rfl : messages = db.messages := hmessages
  obtain rfl : inboundEvents = db.inboundEvents := hevents
  exact ⟨⟨h.messageIds, h.eventIds, h.unique, h.events, h.dates, h.message, h.processed⟩,
    ⟨(Grows.refl commentId db).events, (Grows.refl commentId db).messages⟩⟩

/-- An update of events keeps everything, if those that it makes processed are no newer
than the message. -/
theorem kept_updateInboundEvents (h : CommentInv commentId db) {p : JiraInboundEventRecord → Bool}
    {f : JiraInboundEventRecord → JiraInboundEventRecord} (hid : ∀ event, (f event).id = event.id)
    (hpayload : ∀ event, (f event).normalizedPayload = event.normalizedPayload)
    (hprocessed : ∀ event ∈ db.inboundEvents, p event = true → (f event).IsProcessed →
      ∀ body authorName updatedAt, event.Carries commentId body authorName updatedAt →
      ∃ m ∈ db.messages, m.jiraCommentId = some commentId ∧
        ∃ stored, m.jiraCommentUpdatedAt = some stored ∧ updatedAt ≤ stored) :
    Kept commentId db (db.updateInboundEvents p f) := by
  -- Each event of the new table comes from one of the old with the same id and payload.
  have horigin : ∀ event' ∈ (db.updateInboundEvents p f).inboundEvents,
      ∃ event ∈ db.inboundEvents, event' = (if p event then f event else event) ∧
        event'.normalizedPayload = event.normalizedPayload := by
    intro event' hevent'
    obtain ⟨event, hevent, rfl⟩ := List.mem_map.mp hevent'
    refine ⟨event, hevent, rfl, ?_⟩
    split
    · exact hpayload event
    · rfl
  refine ⟨⟨h.messageIds, KeyedList.distinct_updateMany hid h.eventIds, h.unique, ?_, ?_, ?_, ?_⟩,
    ?_, (Grows.refl commentId db).messages⟩
  · intro event' hevent' body authorName isPublic automation updatedAt hcomment
    obtain ⟨event, hevent, -, hsame⟩ := horigin event' hevent'
    exact h.events event hevent body authorName isPublic automation updatedAt (hsame ▸ hcomment)
  · intro event₁ hevent₁ event₂ hevent₂ body body' authorName authorName' updatedAt hcarries₁ hcarries₂
    obtain ⟨old₁, hold₁, rfl, hsame₁⟩ := horigin event₁ hevent₁
    obtain ⟨old₂, hold₂, rfl, hsame₂⟩ := horigin event₂ hevent₂
    have hold : old₁ = old₂ := by
      refine h.dates old₁ hold₁ old₂ hold₂ body body' authorName authorName' updatedAt ?_ ?_
      · exact hsame₁.symm.trans hcarries₁
      · exact hsame₂.symm.trans hcarries₂
    rw [hold]
  · intro m hm hc
    obtain ⟨hauthor, event, hevent, authorName, updatedAt, hcarries, hdate⟩ := h.message m hm hc
    refine ⟨hauthor, _, List.mem_map_of_mem hevent, authorName, updatedAt, ?_, hdate⟩
    unfold JiraInboundEventRecord.Carries
    split
    · exact (hpayload event).trans hcarries
    · exact hcarries
  · intro event' hevent' body authorName updatedAt hcarries hdone
    obtain ⟨event, hevent, rfl, hsame⟩ := horigin event' hevent'
    have hold : event.Carries commentId body authorName updatedAt := hsame.symm.trans hcarries
    by_cases hp : p event = true
    · rw [if_pos hp] at hdone
      exact hprocessed event hevent hp hdone body authorName updatedAt hold
    · rw [if_neg hp] at hdone
      exact h.processed event hevent body authorName updatedAt hold hdone
  · intro event hevent
    refine ⟨_, List.mem_map_of_mem hevent, ?_, ?_⟩
    · split
      · exact hid event
      · rfl
    · split
      · exact hpayload event
      · rfl

/-- A record that a worker holds is a row of the table, as far as its payload goes. -/
def IsKnown (db : Database) (record : JiraInboundEventRecord) : Prop :=
  ∃ event ∈ db.inboundEvents, event.id = record.id ∧
    event.normalizedPayload = record.normalizedPayload

theorem IsKnown.grows {record : JiraInboundEventRecord} (h : IsKnown db record)
    (hgrows : Grows commentId db db') : IsKnown db' record := by
  obtain ⟨event, hevent, hid, hpayload⟩ := h
  obtain ⟨event', hevent', hid', hpayload'⟩ := hgrows.events event hevent
  exact ⟨event', hevent', hid'.trans hid, hpayload'.trans hpayload⟩

/-- The row that a worker holds has the payload of its record. -/
theorem payload_of_isHeldAs (h : CommentInv commentId db) {record event : JiraInboundEventRecord}
    (hknown : IsKnown db record) (hevent : event ∈ db.inboundEvents)
    (hheld : event.isHeldAs record = true) :
    event.normalizedPayload = record.normalizedPayload := by
  obtain ⟨row, hrow, hid, hpayload⟩ := hknown
  have hidEvent : event.id = record.id := by
    simp only [JiraInboundEventRecord.isHeldAs, Bool.and_eq_true, decide_eq_true_eq] at hheld
    exact hheld.1.1
  have hsame : event = row := by
    have hfind := KeyedList.find_of_mem h.eventIds hevent
    have hfind' := KeyedList.find_of_mem h.eventIds hrow
    rw [hidEvent, ← hid, hfind'] at hfind
    exact (Option.some.inj hfind).symm
  rw [hsame, hpayload]

/-- `finishEvent` keeps everything, if the event is for another comment or no newer than
the message. -/
theorem kept_finish (h : CommentInv commentId db) {record : JiraInboundEventRecord}
    (hknown : IsKnown db record) (outcome : InboundOutcome) (now : Int)
    (hdone : ∀ body authorName updatedAt, record.Carries commentId body authorName updatedAt →
      ∃ m ∈ db.messages, m.jiraCommentId = some commentId ∧
        ∃ stored, m.jiraCommentUpdatedAt = some stored ∧ updatedAt ≤ stored) :
    Kept commentId db (db.finish record outcome now) := by
  refine kept_updateInboundEvents h (by intro event; rfl) (by intro event; rfl) ?_
  intro event hevent hheld _ body authorName updatedAt hcarries
  have hpayload := payload_of_isHeldAs h hknown hevent hheld
  exact hdone body authorName updatedAt (hpayload.symm.trans hcarries)

/-- The update of a message that is not newer than the event. -/
theorem kept_updateMessage (h : CommentInv commentId db) {id body authorName : String}
    {updatedAt : Int} (hupdate : ∀ m ∈ db.messages, m.id = id → m.jiraCommentId = some commentId →
      (∃ event ∈ db.inboundEvents, event.Carries commentId body authorName updatedAt) ∧
        ∀ t ∈ m.jiraCommentUpdatedAt, t ≤ updatedAt) :
    Kept commentId db (db.updateMessages (·.id = id) (·.applyComment body authorName updatedAt)) := by
  have hkeys : ∀ m : RequestMessage, (if decide (m.id = id) = true then
      m.applyComment body authorName updatedAt else m).jiraCommentId = m.jiraCommentId := by
    intro m
    split <;> rfl
  refine ⟨⟨KeyedList.distinct_updateMany (by intro m; rfl) h.messageIds, h.eventIds, ?_, h.events,
    h.dates, ?_, ?_⟩, (Grows.refl commentId db).events, ?_⟩
  · intro m hm m' hm' hc hc'
    obtain ⟨old, hold, rfl⟩ := List.mem_map.mp hm
    obtain ⟨old', hold', rfl⟩ := List.mem_map.mp hm'
    have hsame : old = old' :=
      h.unique old hold old' hold' ((hkeys old).symm.trans hc) ((hkeys old').symm.trans hc')
    rw [hsame]
  · intro m hm hc
    obtain ⟨old, hold, rfl⟩ := List.mem_map.mp hm
    have hc' : old.jiraCommentId = some commentId := (hkeys old).symm.trans hc
    dsimp only
    split
    · next hid =>
      obtain ⟨⟨event, hevent, hcarries⟩, -⟩ := hupdate old hold (by simpa using hid) hc'
      exact ⟨(h.message old hold hc').1, event, hevent, authorName, updatedAt, hcarries, rfl⟩
    · exact h.message old hold hc'
  · intro event hevent body' authorName' updatedAt' hcarries hdone
    obtain ⟨m, hm, hc, stored, hstored, hle⟩ :=
      h.processed event hevent body' authorName' updatedAt' hcarries hdone
    refine ⟨_, List.mem_map_of_mem hm, (hkeys m).trans hc, ?_⟩
    split
    · next hid =>
      have hstoredLe := (hupdate m hm (by simpa using hid) hc).2 stored hstored
      exact ⟨updatedAt, rfl, hle.trans hstoredLe⟩
    · exact ⟨stored, hstored, hle⟩
  · intro m hm
    refine ⟨_, List.mem_map_of_mem hm, ?_, hkeys m, ?_, ?_⟩
    · split <;> rfl
    · split <;> rfl
    · intro hc t ht
      split
      · next hid => exact ⟨updatedAt, rfl, (hupdate m hm (by simpa using hid) hc).2 t ht⟩
      · exact ⟨t, ht, le_refl t⟩

/-- The insert of a message whose keys are free. -/
theorem kept_createMessage (h : CommentInv commentId db) {message : RequestMessage}
    (hid : db.message? message.id = none)
    (hcomment : ∀ id, message.jiraCommentId = some id → db.comment? id = none)
    (hmessage : message.jiraCommentId = some commentId → message.authorType = .jira ∧
      ∃ event ∈ db.inboundEvents, ∃ authorName updatedAt,
        event.Carries commentId message.body authorName updatedAt ∧
          message.jiraCommentUpdatedAt = some updatedAt) :
    Kept commentId db { db with messages := db.messages ++ [message] } := by
  have hnew : message.jiraCommentId = some commentId →
      ∀ m ∈ db.messages, m.jiraCommentId ≠ some commentId := by
    intro hc
    exact KeyedList.find_eq_none.mp (hcomment commentId hc)
  refine ⟨⟨KeyedList.distinct_append_new h.messageIds hid, h.eventIds, ?_, h.events, h.dates, ?_, ?_⟩,
    (Grows.refl commentId db).events, ?_⟩
  · intro m hm m' hm' hc hc'
    rcases List.mem_append.mp hm with hold | hlast
    · rcases List.mem_append.mp hm' with hold' | hlast'
      · exact h.unique m hold m' hold' hc hc'
      · rw [List.mem_singleton.mp hlast'] at hc'
        exact absurd hc (hnew hc' m hold)
    · rw [List.mem_singleton.mp hlast] at hc ⊢
      rcases List.mem_append.mp hm' with hold' | hlast'
      · exact absurd hc' (hnew hc m' hold')
      · exact (List.mem_singleton.mp hlast').symm
  · intro m hm hc
    rcases List.mem_append.mp hm with hold | hlast
    · exact h.message m hold hc
    · rw [List.mem_singleton.mp hlast] at hc ⊢
      exact hmessage hc
  · intro event hevent body authorName updatedAt hcarries hdone
    obtain ⟨m, hm, hc, hstored⟩ := h.processed event hevent body authorName updatedAt hcarries hdone
    exact ⟨m, List.mem_append_left _ hm, hc, hstored⟩
  · intro m hm
    exact ⟨m, List.mem_append_left _ hm, rfl, rfl, rfl, fun _ t ht => ⟨t, ht, le_refl t⟩⟩

end Kept

/-! ## What the calls have seen -/

/-- The message that a call has read is still there, with the same keys; the message of
the comment is no older than it was. -/
def SeenMessage (commentId : String) (db : Database) (batch : InboundBatch)
    (existing : RequestMessage) : Prop :=
  (∀ id body authorName isPublic automation updatedAt, batch.record.normalizedPayload =
    some (.comment id body authorName isPublic automation updatedAt) →
      existing.jiraCommentId = some id) ∧
  ∃ m ∈ db.messages, m.id = existing.id ∧ m.jiraCommentId = existing.jiraCommentId ∧
    m.authorType = existing.authorType ∧
    (existing.jiraCommentId = some commentId → ∀ t ∈ existing.jiraCommentUpdatedAt,
      ∃ t' ∈ m.jiraCommentUpdatedAt, t ≤ t')

/-- What holds of a call in progress. -/
def SeenBy (commentId : String) (db : Database) : InboundCall → Prop
  | .claim _ _ => True
  | .record batch place => (∀ record ∈ batch.record :: batch.rest, IsKnown db record) ∧
    ∀ request existing, place = .writeComment request (some existing) →
      SeenMessage commentId db batch existing

section Calls

variable {db db' : Database} {batch : InboundBatch}

theorem SeenMessage.grows {existing : RequestMessage}
    (h : SeenMessage commentId db batch existing) (hgrows : Grows commentId db db') :
    SeenMessage commentId db' batch existing := by
  obtain ⟨hid, m, hm, hmid, hcomment, hauthor, hdate⟩ := h
  obtain ⟨m', hm', hmid', hcomment', hauthor', hdate'⟩ := hgrows.messages m hm
  refine ⟨hid, m', hm', hmid'.trans hmid, hcomment'.trans hcomment, hauthor'.trans hauthor, ?_⟩
  intro hc t ht
  obtain ⟨t₁, ht₁, hle⟩ := hdate hc t ht
  obtain ⟨t₂, ht₂, hle'⟩ := hdate' (hcomment.trans hc) t₁ ht₁
  exact ⟨t₂, ht₂, hle.trans hle'⟩

theorem SeenBy.grows {call : InboundCall} (h : SeenBy commentId db call)
    (hgrows : Grows commentId db db') : SeenBy commentId db' call := by
  cases call with
  | claim input now => trivial
  | record batch place =>
      refine ⟨fun record hrecord => (h.1 record hrecord).grows hgrows, ?_⟩
      intro request existing hplace
      exact (h.2 request existing hplace).grows hgrows

/-- A place that is no write of a comment. -/
theorem seenBy_place (h : ∀ record ∈ batch.record :: batch.rest, IsKnown db record)
    {place : InboundPlace} (hplace : ∀ request existing, place ≠ .writeComment request (some existing)) :
    SeenBy commentId db (.record batch place) :=
  ⟨h, fun request existing heq => absurd heq (hplace request existing)⟩

theorem seenBy_nextRecord {now : Int} {tally : InboundTally}
    {records : List JiraInboundEventRecord} (h : ∀ record ∈ records, IsKnown db record) :
    ∀ next, nextRecord now tally records = some next → SeenBy commentId db next := by
  intro next hnext
  cases records with
  | nil => cases hnext
  | cons record rest =>
      obtain rfl := Option.some.inj hnext
      refine seenBy_place h fun request existing heq => ?_
      split at heq <;> cases heq

/-- What a step of a call comes to. -/
def StepKept (commentId : String) (db : Database) (result : Database × Option InboundCall) : Prop :=
  Kept commentId db result.1 ∧ ∀ next, result.2 = some next → SeenBy commentId result.1 next

theorem stepKept_read (h : CommentInv commentId db) {next : Option InboundCall}
    (hnext : ∀ call, next = some call → SeenBy commentId db call) :
    StepKept commentId db (db, next) :=
  ⟨Kept.refl h, hnext⟩

theorem stepKept_next (h : ∀ record ∈ batch.record :: batch.rest, IsKnown db record)
    (hkept : Kept commentId db db') (tally : InboundTally) :
    StepKept commentId db (db', batch.next tally) := by
  refine ⟨hkept, seenBy_nextRecord fun record hrecord => ?_⟩
  exact (h record (List.mem_cons_of_mem _ hrecord)).grows hkept.2

/-- The end of a transaction, when what it commits keeps everything. -/
theorem stepKept_finished (h : CommentInv commentId db)
    (hknown : ∀ record ∈ batch.record :: batch.rest, IsKnown db record)
    {result : Except String (Database × InboundOutcome)}
    (hcommit : ∀ db' outcome, result = .ok (db', outcome) → Kept commentId db db') :
    StepKept commentId db (batch.finished db result) := by
  cases result with
  | error message =>
      refine stepKept_read h fun call hcall => ?_
      obtain rfl := Option.some.inj hcall
      exact seenBy_place hknown fun request existing heq => by cases heq
  | ok committed =>
      obtain ⟨db', outcome⟩ := committed
      cases outcome with
      | completed => exact stepKept_next hknown (hcommit db' _ rfl) _
      | ignored => exact stepKept_next hknown (hcommit db' _ rfl) _

/-- `failEvent` keeps everything: it makes no event processed. -/
theorem kept_failEvent (h : CommentInv commentId db) {record : JiraInboundEventRecord}
    {message : String} {now : Int} {dead : Bool}
    (hfail : failEvent db record message now = .ok (db', dead)) : Kept commentId db db' := by
  unfold failEvent at hfail
  obtain ⟨nextAttemptAt, -, hfail⟩ := bind_eq_ok.mp hfail
  obtain ⟨_, -, hfail⟩ := bind_eq_ok.mp hfail
  obtain ⟨rfl, -⟩ := Prod.mk.inj (Except.ok.inj hfail)
  refine kept_updateInboundEvents h (by intro event; rfl) (by intro event; rfl) ?_
  intro event _ _ hdone
  have hstatus : (if isDeadLettered record (inboundFailureCode message) then
      JiraInboundEventStatus.deadLetter else .failed) = .completed ∨
      (if isDeadLettered record (inboundFailureCode message) then
        JiraInboundEventStatus.deadLetter else .failed) = .ignored := hdone
  split at hstatus <;> simp at hstatus

/-- The claim keeps everything, and the records it returns are rows of the table. -/
theorem kept_claim (h : CommentInv commentId db) {input : ClaimInput} {now : Int}
    {leaseToken : String} {locked : List String} {records : List JiraInboundEventRecord}
    (hclaim : claimJiraInboundEvents db input now leaseToken locked = .ok (db', records)) :
    Kept commentId db db' ∧ ∀ record ∈ records, IsKnown db' record := by
  unfold claimJiraInboundEvents at hclaim
  obtain ⟨_, -, hclaim⟩ := bind_eq_ok.mp hclaim
  obtain ⟨_, -, hclaim⟩ := bind_eq_ok.mp hclaim
  obtain ⟨_, -, hclaim⟩ := bind_eq_ok.mp hclaim
  obtain ⟨_, -, hclaim⟩ := bind_eq_ok.mp hclaim
  obtain ⟨rfl, rfl⟩ := Prod.mk.inj (Except.ok.inj hclaim)
  have hexhausted : Kept commentId db (db.updateInboundEvents (·.isExhausted now) (·.exhaust)) := by
    refine kept_updateInboundEvents h (by intro event; rfl) (by intro event; rfl) ?_
    intro event _ _ hdone
    have hstatus : JiraInboundEventStatus.deadLetter = .completed ∨
        JiraInboundEventStatus.deadLetter = .ignored := hdone
    simp at hstatus
  refine ⟨hexhausted.trans (kept_updateInboundEvents hexhausted.1 (by intro event; rfl)
    (by intro event; rfl) ?_), fun record hrecord => ?_⟩
  · intro event _ _ hdone
    have hstatus : JiraInboundEventStatus.processing = .completed ∨
        JiraInboundEventStatus.processing = .ignored := hdone
    simp at hstatus
  · exact ⟨record, (List.mem_filter.mp hrecord).1, rfl, rfl⟩

/-- A payload that is no comment carries no version of one. -/
theorem not_carries {record : JiraInboundEventRecord} {payload : NormalizedJiraInboundPayload}
    (hpayload : record.normalizedPayload = some payload)
    (hother : ∀ body authorName updatedAt,
      payload ≠ .comment commentId body authorName true false (some updatedAt)) :
    ∀ body authorName updatedAt, ¬record.Carries commentId body authorName updatedAt :=
  fun body authorName updatedAt hcarries =>
    hother body authorName updatedAt (Option.some.inj (hpayload.symm.trans hcarries))

/-! ## One step of a call -/

/-- The next statement of the call writes its version over the message it has read, and
the write will be committed. -/
def UpdatesComment (db : Database) (call : InboundCall) (commentId : String)
    (existing : RequestMessage) (updatedAt : Int) : Prop :=
  ∃ batch request body authorName isPublic automation,
    call = .record batch (.writeComment request (some existing)) ∧
    batch.record.normalizedPayload =
      some (.comment commentId body authorName isPublic automation (some updatedAt)) ∧
    existing.requestId = request.id ∧ existing.authorType = .jira ∧
    (¬∃ stored ∈ existing.jiraCommentUpdatedAt, updatedAt ≤ stored) ∧
    (db.message? existing.id).isNone = false ∧ LeaseHeld db batch.record

/-- A step does not write over a newer version of the comment. -/
def WritesNewer (commentId : String) (db : Database) : InboundInput → InboundCall → Prop
  | .proceed _ _, call => ∀ existing updatedAt, UpdatesComment db call commentId existing updatedAt →
      ∀ m, db.comment? commentId = some m → ∀ t ∈ m.jiraCommentUpdatedAt, t ≤ updatedAt
  | _, _ => True

theorem comment?_of_mem (h : CommentInv commentId db) {m : RequestMessage} (hm : m ∈ db.messages)
    (hc : m.jiraCommentId = some commentId) : db.comment? commentId = some m := by
  unfold Database.comment?
  cases hfind : KeyedList.find RequestMessage.jiraCommentId (some commentId) db.messages with
  | none => exact absurd hc (KeyedList.find_eq_none.mp hfind m hm)
  | some m' =>
      obtain ⟨hm', hc'⟩ := KeyedList.find_eq_some hfind
      rw [h.unique m' hm' m hm hc' hc]

theorem message_of_id (h : CommentInv commentId db) {m m' : RequestMessage} (hm : m ∈ db.messages)
    (hm' : m' ∈ db.messages) (hid : m.id = m'.id) : m = m' := by
  have hfind := KeyedList.find_of_mem h.messageIds hm
  rw [hid, KeyedList.find_of_mem h.messageIds hm'] at hfind
  exact (Option.some.inj hfind).symm

/-- The record of a call is an event that carries its version, when it is for the comment. -/
theorem carries_of_isKnown (h : CommentInv commentId db) {record : JiraInboundEventRecord}
    (hknown : IsKnown db record) {body authorName : String} {isPublic automation : Bool}
    {updatedAt : Int} (hpayload : record.normalizedPayload =
      some (.comment commentId body authorName isPublic automation (some updatedAt))) :
    ∃ event ∈ db.inboundEvents, event.Carries commentId body authorName updatedAt := by
  obtain ⟨event, hevent, -, hsame⟩ := hknown
  have hevents := h.events event hevent body authorName isPublic automation (some updatedAt)
    (hsame.trans hpayload)
  refine ⟨event, hevent, ?_⟩
  unfold JiraInboundEventRecord.Carries
  rw [hsame, hpayload, hevents.1, hevents.2]

/-- The writes of `processComment` keep everything, when the message they write over is
not newer. -/
theorem kept_comment (h : CommentInv commentId db) (hknown : IsKnown db batch.record)
    {request : SupportRequest} {existing : Option RequestMessage} {uuid id body authorName : String}
    {isPublic automation : Bool} {updatedAt : Int} (hpayload : batch.record.normalizedPayload =
      some (.comment id body authorName isPublic automation (some updatedAt)))
    (hseen : ∀ m, existing = some m → SeenMessage commentId db batch m)
    (hnewer : ∀ m, existing = some m →
      UpdatesComment db (.record batch (.writeComment request existing)) commentId m updatedAt →
      ∀ m', db.comment? commentId = some m' → ∀ t ∈ m'.jiraCommentUpdatedAt, t ≤ updatedAt)
    (hcommit : CommentCommit db batch.record id body authorName updatedAt request uuid batch.now
      existing db') : Kept commentId db db' := by
  have hcarries : ∀ body' authorName' updatedAt',
      batch.record.Carries commentId body' authorName' updatedAt' →
      id = commentId ∧ updatedAt' = updatedAt := by
    intro body' authorName' updatedAt' hcarries
    have hsame := Option.some.inj (hpayload.symm.trans hcarries)
    injection hsame with hid _ _ _ _ hdate
    exact ⟨hid, (Option.some.inj hdate).symm⟩
  cases hcommit with
  | foreign existing hlease hauthor =>
      refine kept_finish h hknown _ _ fun body' authorName' updatedAt' hc => ?_
      obtain ⟨hexisting, m, hm, -, hcomment, hsame, -⟩ := hseen existing rfl
      have hmc : m.jiraCommentId = some commentId := by
        rw [hcomment, hexisting id body authorName isPublic automation (some updatedAt) hpayload,
          (hcarries _ _ _ hc).1]
      exact absurd (hsame.symm.trans (h.message m hm hmc).1) hauthor
  | outdated existing stored hlease hstored hle =>
      refine kept_finish h hknown _ _ fun body' authorName' updatedAt' hc => ?_
      obtain ⟨rfl, rfl⟩ := hcarries _ _ _ hc
      obtain ⟨hexisting, m, hm, -, hcomment, -, hdate⟩ := hseen existing rfl
      have hec := hexisting id body authorName isPublic automation (some updatedAt') hpayload
      obtain ⟨t, ht, hstoredLe⟩ := hdate hec stored hstored
      exact ⟨m, hm, hcomment.trans hec, t, ht, hle.trans hstoredLe⟩
  | updated existing hlease hrequest hauthor hfresh hrow =>
      obtain ⟨hexisting, m, hm, hmid, hcomment, -, -⟩ := hseen existing rfl
      have hec := hexisting id body authorName isPublic automation (some updatedAt) hpayload
      have hupdate : Kept commentId db (db.updateMessages (·.id = existing.id)
          (·.applyComment body authorName updatedAt)) := by
        refine kept_updateMessage h fun m' hm' hid' hc' => ?_
        obtain rfl : m' = m := message_of_id h hm' hm (hid'.trans hmid.symm)
        obtain rfl : id = commentId := by
          rw [hcomment, hec] at hc'
          exact Option.some.inj hc'
        exact ⟨carries_of_isKnown h hknown hpayload, hnewer existing rfl ⟨batch, request, body,
          authorName, isPublic, automation, rfl, hpayload, hrequest, hauthor, hfresh, hrow, hlease⟩
          m' (comment?_of_mem h hm' hc')⟩
      refine hupdate.trans (kept_finish hupdate.1 (hknown.grows hupdate.2) _ _
        fun body' authorName' updatedAt' hc => ?_)
      obtain ⟨rfl, rfl⟩ := hcarries _ _ _ hc
      refine ⟨_, List.mem_map_of_mem hm, ?_, updatedAt', ?_, le_refl _⟩
      · split
        · exact hcomment.trans hec
        · exact hcomment.trans hec
      · rw [if_pos (by simpa using hmid)]
        rfl
  | created hlease hid hcomment =>
      have hcreate : Kept commentId db { db with messages := db.messages ++
          [importedComment uuid request.id id body authorName updatedAt] } := by
        refine kept_createMessage h hid ?_ fun hc => ?_
        · intro id' hid'
          obtain rfl : id = id' := Option.some.inj hid'
          exact hcomment
        · obtain rfl : id = commentId := Option.some.inj hc
          obtain ⟨event, hevent, hversion⟩ := carries_of_isKnown h hknown hpayload
          exact ⟨rfl, event, hevent, authorName, updatedAt, hversion, rfl⟩
      refine hcreate.trans (kept_finish hcreate.1 (hknown.grows hcreate.2) _ _
        fun body' authorName' updatedAt' hc => ?_)
      obtain ⟨rfl, rfl⟩ := hcarries _ _ _ hc
      exact ⟨_, List.mem_append_right _ (List.mem_singleton_self _), rfl, updatedAt', rfl, le_refl _⟩

/-- One step of a call keeps everything, when it does not write over a newer version. -/
theorem stepKept_advance (h : CommentInv commentId db) {input : InboundInput} {call : InboundCall}
    (hseen : SeenBy commentId db call) (hnewer : WritesNewer commentId db input call) :
    StepKept commentId db (call.advance db input) := by
  cases call with
  | claim claimInput now =>
      cases input with
      | proceed uuid locked =>
          unfold InboundCall.advance
          dsimp only
          split
          · next db' records hclaim =>
            obtain ⟨hkept, hknown⟩ := kept_claim h hclaim
            exact ⟨hkept, seenBy_nextRecord hknown⟩
          · exact stepKept_read h fun _ hnext => by cases hnext
      | failure => exact stepKept_read h fun _ hnext => by cases hnext
      | crash => exact stepKept_read h fun _ hnext => by cases hnext
  | record batch place =>
      obtain ⟨hknown, hplace⟩ := hseen
      have hrecord : IsKnown db batch.record := hknown _ List.mem_cons_self
      have hother : ∀ {place : InboundPlace}, (∀ request existing,
          place ≠ .writeComment request (some existing)) →
          StepKept commentId db (db, some (.record batch place)) := by
        intro place hne
        refine stepKept_read h fun call hcall => ?_
        obtain rfl := Option.some.inj hcall
        exact seenBy_place hknown hne
      have hend : StepKept commentId db (db, none) := stepKept_read h fun _ hnext => by cases hnext
      cases input with
      | failure =>
          show StepKept commentId db (db, batch.broken place)
          cases place with
          | fail message => exact hend
          | _ => exact hother fun request existing heq => by cases heq
      | crash => exact hend
      | proceed uuid locked =>
          show StepKept commentId db (batch.run db uuid place)
          cases place with
          | readRequest =>
              unfold InboundBatch.run
              dsimp only
              split
              · exact hother fun request existing heq => by cases heq
              · exact hother fun request existing heq => by cases heq
              · exact hother fun request existing heq => by cases heq
              · exact hend
          | readMapping request => exact hother fun request existing heq => by cases heq
          | writeStatus request mapping =>
              unfold InboundBatch.run
              dsimp only
              split
              · next statusId statusName jiraUpdatedAt hpayload =>
                have hno : ∀ body authorName updatedAt,
                    ¬batch.record.Carries commentId body authorName updatedAt :=
                  not_carries hpayload (by intro body authorName updatedAt heq; cases heq)
                refine stepKept_finished h hknown fun db' outcome hcommit => ?_
                cases statusCommit_of_processStatus hcommit with
                | ignored hlease =>
                    exact kept_finish h hrecord _ _ fun _ _ _ hc => absurd hc (hno _ _ _)
                | updated hlease row incomingAt status hrow hdate htarget hdecided hfence =>
                    have hrequests : Kept commentId db
                        (db.updateRequests (·.isFencedBy row batch.record incomingAt)
                          (·.applyStatus status statusId statusName incomingAt batch.now)) :=
                      kept_of_eq h rfl rfl
                    exact hrequests.trans (kept_finish hrequests.1 (hrecord.grows hrequests.2) _ _
                      fun _ _ _ hc => absurd hc (hno _ _ _))
              · exact hend
          | readMessage request =>
              unfold InboundBatch.run
              dsimp only
              split
              · next id body authorName isPublic automation jiraUpdatedAt request hpayload =>
                split
                · exact hother fun request existing heq => by cases heq
                split
                · next hprivate =>
                  refine stepKept_finished h hknown fun db' outcome hcommit => ?_
                  obtain ⟨-, rfl, -⟩ := finishEvent_eq_ok.mp hcommit
                  refine kept_finish h hrecord _ _ fun _ _ _ hc => ?_
                  have hsame := Option.some.inj (hpayload.symm.trans hc)
                  injection hsame with _ _ _ hpublic hautomation _
                  rw [hpublic, hautomation] at hprivate
                  simp at hprivate
                split
                · exact hother fun request existing heq => by cases heq
                · refine stepKept_read h fun call hcall => ?_
                  obtain rfl := Option.some.inj hcall
                  refine ⟨hknown, fun request' existing heq => ?_⟩
                  injection heq with _ hexisting
                  obtain ⟨hm, hmc⟩ := KeyedList.find_eq_some hexisting
                  refine ⟨fun id' body' authorName' isPublic' automation' updatedAt' hpayload' => ?_,
                    existing, hm, rfl, rfl, rfl, fun _ t ht => ⟨t, ht, le_refl t⟩⟩
                  have hsame := Option.some.inj (hpayload.symm.trans hpayload')
                  injection hsame with hid
                  rw [hmc, hid]
              · exact hother fun request existing heq => by cases heq
              · exact hend
          | writeComment request existing =>
              unfold InboundBatch.run
              dsimp only
              split
              · next id body authorName isPublic automation updatedAt hpayload =>
                refine stepKept_finished h hknown fun db' outcome hcommit => ?_
                refine kept_comment h hrecord hpayload ?_ ?_ (commentCommit_of_processComment hcommit)
                · intro m hm
                  exact hplace request m (by rw [hm])
                · intro m hm hupdates
                  exact hnewer m updatedAt hupdates
              · exact hend
          | writeDeleted request =>
              unfold InboundBatch.run
              dsimp only
              split
              · next jiraUpdatedAt hpayload =>
                have hno : ∀ body authorName updatedAt,
                    ¬batch.record.Carries commentId body authorName updatedAt :=
                  not_carries hpayload (by intro body authorName updatedAt heq; cases heq)
                refine stepKept_finished h hknown fun db' outcome hcommit => ?_
                obtain ⟨-, row, -, rfl⟩ := processDeleted_eq_ok hcommit
                have hrequests : Kept commentId db
                    (db.updateRequests (·.id = row.id) (·.issueDeleted batch.now)) :=
                  kept_of_eq h rfl rfl
                exact hrequests.trans (kept_finish hrequests.1 (hrecord.grows hrequests.2) _ _
                  fun _ _ _ hc => absurd hc (hno _ _ _))
              · exact hend
          | fail message =>
              show StepKept commentId db (batch.failed db (failEvent db batch.record message batch.now))
              cases hfail : failEvent db batch.record message batch.now with
              | error error => exact hend
              | ok committed =>
                  obtain ⟨db', dead⟩ := committed
                  have hkept := kept_failEvent h hfail
                  cases dead with
                  | true => exact stepKept_next hknown hkept _
                  | false => exact stepKept_next hknown hkept _

end Calls

/-! ## One step of the system -/

/-- The events of the comment that arrive are for a public comment that no automation has
written, and their dates are new. -/
def SameComment (commentId : String) (w : World Database InboundCall) :
    Event InboundEnv InboundCall InboundInput → Prop
  | .env (.ingest event) => ∀ body authorName isPublic automation updatedAt,
      event.normalizedPayload =
        some (.comment commentId body authorName isPublic automation updatedAt) →
      isPublic = true ∧ automation = false ∧ ∀ other ∈ w.shared.inboundEvents,
        ∀ body' authorName' updatedAt', other.Carries commentId body' authorName' updatedAt' →
          some updatedAt' ≠ updatedAt
  | _ => True

/-- No step writes over a newer version of the comment. -/
def UpdatesInOrder (commentId : String) (w : World Database InboundCall) :
    Event InboundEnv InboundCall InboundInput → Prop
  | .advance i input => ∀ call ∈ w.locals[i]?, WritesNewer commentId w.shared input call
  | _ => True

section Step

variable {w w' : World Database InboundCall} {ev : Event InboundEnv InboundCall InboundInput}

theorem kept_ingest {db : Database} (h : CommentInv commentId db) {event : JiraInboundEventRecord}
    (hid : db.inboundEvent? event.id = none) (hstatus : event.status = .pending)
    (hsame : ∀ body authorName isPublic automation updatedAt, event.normalizedPayload =
      some (.comment commentId body authorName isPublic automation updatedAt) →
      isPublic = true ∧ automation = false ∧ ∀ other ∈ db.inboundEvents,
        ∀ body' authorName' updatedAt', other.Carries commentId body' authorName' updatedAt' →
          some updatedAt' ≠ updatedAt) :
    Kept commentId db { db with inboundEvents := db.inboundEvents ++ [event] } := by
  have hold : ∀ e ∈ db.inboundEvents, e ∈ db.inboundEvents ++ [event] :=
    fun e he => List.mem_append_left _ he
  refine ⟨⟨h.messageIds, KeyedList.distinct_append_new h.eventIds hid, h.unique, ?_, ?_, ?_, ?_⟩,
    fun e he => ⟨e, hold e he, rfl, rfl⟩, (Grows.refl commentId db).messages⟩
  · intro e he body authorName isPublic automation updatedAt hpayload
    rcases List.mem_append.mp he with hmem | hlast
    · exact h.events e hmem body authorName isPublic automation updatedAt hpayload
    · rw [List.mem_singleton.mp hlast] at hpayload
      obtain ⟨hpublic, hautomation, -⟩ := hsame _ _ _ _ _ hpayload
      exact ⟨hpublic, hautomation⟩
  · intro e he e' he' body body' authorName authorName' updatedAt hc hc'
    rcases List.mem_append.mp he with hmem | hlast
    · rcases List.mem_append.mp he' with hmem' | hlast'
      · exact h.dates e hmem e' hmem' body body' authorName authorName' updatedAt hc hc'
      · rw [List.mem_singleton.mp hlast'] at hc'
        exact absurd rfl ((hsame _ _ _ _ _ hc').2.2 e hmem _ _ _ hc)
    · rw [List.mem_singleton.mp hlast] at hc ⊢
      rcases List.mem_append.mp he' with hmem' | hlast'
      · exact absurd rfl ((hsame _ _ _ _ _ hc).2.2 e' hmem' _ _ _ hc')
      · exact (List.mem_singleton.mp hlast').symm
  · intro m hm hc
    obtain ⟨hauthor, e, he, hversion⟩ := h.message m hm hc
    exact ⟨hauthor, e, hold e he, hversion⟩
  · intro e he body authorName updatedAt hc hdone
    rcases List.mem_append.mp he with hmem | hlast
    · exact h.processed e hmem body authorName updatedAt hc hdone
    · rw [List.mem_singleton.mp hlast] at hdone
      unfold JiraInboundEventRecord.IsProcessed at hdone
      rw [hstatus] at hdone
      simp at hdone

/-- What happens meanwhile keeps everything. -/
theorem kept_env {db : Database} (h : CommentInv commentId db) (e : InboundEnv)
    (hsame : SameComment commentId { shared := db, locals := [] } (.env e)) :
    Kept commentId db (e.apply db) := by
  have hunprocessed : ∀ {p : JiraInboundEventRecord → Bool}
      {f : JiraInboundEventRecord → JiraInboundEventRecord},
      (∀ event, (f event).id = event.id) →
      (∀ event, (f event).normalizedPayload = event.normalizedPayload) →
      (∀ event, ¬(f event).IsProcessed) → Kept commentId db (db.updateInboundEvents p f) := by
    intro p f hid hpayload hnot
    exact kept_updateInboundEvents h hid hpayload fun event _ _ hdone => absurd hdone (hnot event)
  cases e with
  | updateRequestStatus publicId status => exact kept_of_eq h rfl rfl
  | setMapping mapping => exact kept_of_eq h rfl rfl
  | ingest event =>
      unfold InboundEnv.apply
      dsimp only
      split
      · next hnew =>
        exact kept_ingest h (Option.isNone_iff_eq_none.mp hnew.1) hnew.2 hsame
      · exact Kept.refl h
  | retryJiraInboundEvent id now =>
      unfold InboundEnv.apply
      dsimp only
      split
      · exact hunprocessed (by intro event; rfl) (by intro event; rfl)
          (by intro event; simp [JiraInboundEventRecord.IsProcessed])
      · exact Kept.refl h
  | moveJiraInboundEventToDeadLetter id =>
      unfold InboundEnv.apply
      dsimp only
      split
      · exact hunprocessed (by intro event; rfl) (by intro event; rfl)
          (by intro event; simp [JiraInboundEventRecord.IsProcessed])
      · exact Kept.refl h

/-- The invariant of the system. -/
def CommentsFit (commentId : String) (w : World Database InboundCall) : Prop :=
  CommentInv commentId w.shared ∧ ∀ call ∈ w.locals, SeenBy commentId w.shared call

/-- One step that does not write over a newer version keeps everything. -/
theorem comments_step (h : CommentsFit commentId w) (hsame : SameComment commentId w ev)
    (horder : UpdatesInOrder commentId w ev) (hstep : inbound.step w ev w') :
    CommentsFit commentId w' ∧ Grows commentId w.shared w'.shared := by
  rcases Program.step_cases hstep with ⟨e, rfl, rfl⟩ | ⟨l, rfl, hl, rfl⟩ |
    ⟨i, input, call, sh, next, rfl, hcall, hadvance, rfl⟩
  · have hkept : Kept commentId w.shared (e.apply w.shared) := kept_env h.1 e hsame
    exact ⟨⟨hkept.1, fun call hcall => (h.2 call hcall).grows hkept.2⟩, hkept.2⟩
  · refine ⟨⟨h.1, fun call hcall => ?_⟩, Grows.refl commentId w.shared⟩
    rcases List.mem_append.mp hcall with hmem | hlast
    · exact h.2 call hmem
    · rw [List.mem_singleton.mp hlast]
      cases l with
      | claim input now => trivial
      | record batch place => cases hl
  · have hresult : call.advance w.shared input = (sh, next) := Option.some.inj hadvance
    have hkept := stepKept_advance h.1 (h.2 call (List.mem_of_getElem? hcall)) (horder call hcall)
    rw [hresult] at hkept
    refine ⟨⟨hkept.1.1, fun other hother => ?_⟩, hkept.1.2⟩
    rcases mem_replaceLocal hother with hnext | hmem
    · exact hkept.2 other hnext
    · exact (h.2 other hmem).grows hkept.1.2

/-- The date of the message does not go back. -/
def CommentDateGrows (commentId : String) (w : World Database InboundCall)
    (_ : Event InboundEnv InboundCall InboundInput) (w' : World Database InboundCall) : Prop :=
  ∀ m, w.shared.comment? commentId = some m → ∀ t ∈ m.jiraCommentUpdatedAt,
    ∃ m', w'.shared.comment? commentId = some m' ∧ ∃ t' ∈ m'.jiraCommentUpdatedAt, t ≤ t'

theorem commentDateGrows_of_grows (h : CommentInv commentId w'.shared)
    (hgrows : Grows commentId w.shared w'.shared) : CommentDateGrows commentId w ev w' := by
  intro m hm t ht
  obtain ⟨hmem, hc⟩ := KeyedList.find_eq_some hm
  obtain ⟨m', hm', -, hcomment, -, hdate⟩ := hgrows.messages m hmem
  exact ⟨m', comment?_of_mem h hm' (hcomment.trans hc), hdate hc t ht⟩

/-- A write over a newer version takes the date of the message back. -/
theorem not_commentDateGrows (h : CommentsFit commentId w) (hstep : inbound.step w ev w')
    (horder : ¬UpdatesInOrder commentId w ev) : ¬CommentDateGrows commentId w ev w' := by
  rcases Program.step_cases hstep with ⟨e, rfl, rfl⟩ | ⟨l, rfl, hl, rfl⟩ |
    ⟨i, input, call, sh, next, rfl, hcall, hadvance, rfl⟩
  · exact absurd trivial horder
  · exact absurd trivial horder
  intro hgrows
  refine horder fun call' hcall' => ?_
  obtain rfl : call = call' := Option.some.inj (hcall.symm.trans hcall')
  cases input with
  | failure => trivial
  | crash => trivial
  | proceed uuid locked =>
      intro existing updatedAt hupdates m hm t ht
      obtain ⟨batch, request, body, authorName, isPublic, automation, rfl, hpayload, hrequest, hauthor,
        hfresh, hrow, hlease⟩ := hupdates
      -- The message that is written over is the one of the comment.
      obtain ⟨hmem, hc⟩ := KeyedList.find_eq_some hm
      obtain ⟨hexisting, row, hrowMem, hrowId, hrowComment, -, -⟩ :=
        (h.2 _ (List.mem_of_getElem? hcall)).2 request existing rfl
      have hec := hexisting commentId body authorName isPublic automation (some updatedAt) hpayload
      obtain rfl : row = m := h.1.unique row hrowMem m hmem (hrowComment.trans hec) hc
      have hcommit : processComment w.shared batch.record commentId body authorName updatedAt request
          (some existing) uuid batch.now = .ok ((w.shared.updateMessages (·.id = existing.id)
            (·.applyComment body authorName updatedAt)).finish batch.record .completed batch.now,
              .completed) := by
        unfold processComment
        dsimp only
        rw [if_neg (not_not.mpr hrequest), if_neg (not_not.mpr hauthor), if_neg hfresh,
          if_neg (Bool.eq_false_iff.mp hrow)]
        exact finishEvent_eq_ok.mpr ⟨hlease, rfl, rfl⟩
      have hsh : (w.shared.updateMessages (·.id = existing.id)
          (·.applyComment body authorName updatedAt)).finish batch.record .completed batch.now = sh := by
        have hresult := congrArg Prod.fst (Option.some.inj hadvance)
        refine Eq.trans ?_ hresult
        show _ = (batch.run w.shared uuid (.writeComment request (some existing))).1
        unfold InboundBatch.run
        simp only [hpayload, hcommit, InboundBatch.finished]
      have hafter : sh.comment? commentId = some (row.applyComment body authorName updatedAt) := by
        rw [← hsh]
        have hfind := Database.comment?_updateMessages w.shared (p := (·.id = existing.id))
          (f := (·.applyComment body authorName updatedAt)) (by intro m; rfl) commentId
        rw [hm] at hfind
        show (w.shared.updateMessages _ _).comment? commentId = _
        rw [hfind]
        exact congrArg some (if_pos (by simpa using hrowId))
      obtain ⟨m', hm', t', ht', hle⟩ := hgrows row hm t ht
      obtain rfl : row.applyComment body authorName updatedAt = m' :=
        Option.some.inj (hafter.symm.trans hm')
      have hdate : updatedAt = t' := Option.some.inj ht'
      omega

end Step

/-! ## Runs -/

/-- No call is in progress, and no event of the comment has been worked off. -/
structure CommentsStarted (commentId : String) (w : World Database InboundCall) : Prop where
  quiescent : w.Quiescent
  messageIds : KeyedList.Distinct RequestMessage.id w.shared.messages
  eventIds : KeyedList.Distinct JiraInboundEventRecord.id w.shared.inboundEvents
  absent : w.shared.comment? commentId = none
  events : ∀ event ∈ w.shared.inboundEvents, ∀ body authorName isPublic automation updatedAt,
    event.normalizedPayload = some (.comment commentId body authorName isPublic automation updatedAt) →
    isPublic = true ∧ automation = false
  dates : ∀ event ∈ w.shared.inboundEvents, ∀ event' ∈ w.shared.inboundEvents,
    ∀ body body' authorName authorName' updatedAt, event.Carries commentId body authorName updatedAt →
    event'.Carries commentId body' authorName' updatedAt → event = event'
  unprocessed : ∀ event ∈ w.shared.inboundEvents, ∀ body authorName updatedAt,
    event.Carries commentId body authorName updatedAt → ¬event.IsProcessed

theorem commentsFit_of_started {w : World Database InboundCall} (h : CommentsStarted commentId w) :
    CommentsFit commentId w := by
  have habsent : ∀ m ∈ w.shared.messages, m.jiraCommentId ≠ some commentId :=
    KeyedList.find_eq_none.mp h.absent
  refine ⟨⟨h.messageIds, h.eventIds, ?_, h.events, h.dates, ?_, ?_⟩, fun call hcall => ?_⟩
  · intro m hm m' _ hc _
    exact absurd hc (habsent m hm)
  · intro m hm hc
    exact absurd hc (habsent m hm)
  · intro event hevent body authorName updatedAt hc hdone
    exact absurd hdone (h.unprocessed event hevent body authorName updatedAt hc)
  · have hnil : w.locals = [] := h.quiescent
    rw [hnil] at hcall
    exact absurd hcall List.not_mem_nil

/-- The workers on the events of one comment. -/
def commentStep (commentId : String) : World Database InboundCall →
    Event InboundEnv InboundCall InboundInput → World Database InboundCall → Prop :=
  Guarded (SameComment commentId) inbound.step

theorem commentsFit_of_reachable {w : World Database InboundCall}
    (h : Reachable (CommentsStarted commentId)
      (Guarded (UpdatesInOrder commentId) (commentStep commentId)) w) : CommentsFit commentId w :=
  h.invariant (CommentsFit commentId) (fun _ => commentsFit_of_started)
    fun _ _ _ hfit hstep => (comments_step hfit hstep.2.1 hstep.1 hstep.2.2).1

/-- Once the events of the comment are all worked off, there is one message for it, and
it is as the newest of them has it. -/
def Converged (commentId : String) (w : World Database InboundCall) : Prop :=
  (∃ event ∈ w.shared.inboundEvents, ∃ body authorName updatedAt,
    event.Carries commentId body authorName updatedAt) →
  (∀ event ∈ w.shared.inboundEvents, ∀ body authorName updatedAt,
    event.Carries commentId body authorName updatedAt → event.IsProcessed) →
  w.shared.messages.countP (·.jiraCommentId = some commentId) = 1 ∧
    ∃ m, w.shared.comment? commentId = some m ∧
      ∃ event ∈ w.shared.inboundEvents, ∃ authorName updatedAt,
        event.Carries commentId m.body authorName updatedAt ∧
        m.jiraCommentUpdatedAt = some updatedAt ∧
        ∀ other ∈ w.shared.inboundEvents, ∀ body' authorName' updatedAt',
          other.Carries commentId body' authorName' updatedAt' → updatedAt' ≤ updatedAt

theorem countP_eq_one {db : Database} (h : CommentInv commentId db) {m : RequestMessage}
    (hm : m ∈ db.messages) (hc : m.jiraCommentId = some commentId) :
    db.messages.countP (·.jiraCommentId = some commentId) = 1 := by
  have hids : (db.messages.map RequestMessage.id).Nodup := h.messageIds
  have hnodup : db.messages.Nodup := List.Nodup.of_map _ hids
  have hfilter : db.messages.filter (·.jiraCommentId = some commentId) = [m] := by
    have hsub : ∀ x ∈ db.messages.filter (·.jiraCommentId = some commentId), x = m := by
      intro x hx
      obtain ⟨hxm, hxc⟩ := List.mem_filter.mp hx
      exact h.unique x hxm m hm (by simpa using hxc) hc
    have hmem : m ∈ db.messages.filter (·.jiraCommentId = some commentId) :=
      List.mem_filter.mpr ⟨hm, by simpa using hc⟩
    have hreplicate := List.eq_replicate_of_mem hsub
    have hlength : (db.messages.filter (·.jiraCommentId = some commentId)).length ≤ 1 := by
      have hfiltered := hnodup.filter (·.jiraCommentId = some commentId)
      rw [hreplicate] at hfiltered
      exact List.nodup_replicate.mp hfiltered
    have hpos := List.length_pos_of_mem hmem
    rw [hreplicate, show (db.messages.filter (·.jiraCommentId = some commentId)).length = 1 by omega]
    rfl
  rw [List.countP_eq_length_filter, hfilter]
  rfl

theorem converged_of_commentInv {w : World Database InboundCall}
    (h : CommentInv commentId w.shared) : Converged commentId w := by
  intro ⟨event, hevent, body, authorName, updatedAt, hcarries⟩ hall
  obtain ⟨m, hm, hc, -⟩ := h.processed event hevent body authorName updatedAt hcarries
    (hall event hevent body authorName updatedAt hcarries)
  obtain ⟨-, newest, hnewest, newestAuthor, newestAt, hversion, hdate⟩ := h.message m hm hc
  refine ⟨countP_eq_one h hm hc, m, comment?_of_mem h hm hc, newest, hnewest, newestAuthor, newestAt,
    hversion, hdate, fun other hother body' authorName' updatedAt' hcarries' => ?_⟩
  obtain ⟨m', hm', hc', stored, hstored, hle⟩ := h.processed other hother body' authorName' updatedAt'
    hcarries' (hall other hother body' authorName' updatedAt' hcarries')
  obtain rfl : m' = m := h.unique m' hm' m hm hc' hc
  have hsame : newestAt = stored := Option.some.inj (hdate.symm.trans hstored)
  omega

/-- The date of the message never goes back and the message converges to the newest
event, along exactly the runs that never write over a newer version of it. -/
theorem comment_converges_iff {w : World Database InboundCall} (hw : CommentsStarted commentId w)
    {run : List (Event InboundEnv InboundCall InboundInput × World Database InboundCall)}
    (hrun : Run (commentStep commentId) w run) :
    (AllSteps (CommentDateGrows commentId) w run ∧ AlwaysHolds (Converged commentId) w run) ↔
      StepsMeet (UpdatesInOrder commentId) w run := by
  have hgrow : AllSteps (CommentDateGrows commentId) w run ↔
      StepsMeet (UpdatesInOrder commentId) w run := by
    have hstart : Reachable (CommentsStarted commentId)
        (Guarded (UpdatesInOrder commentId) (commentStep commentId)) w := Reachable.start hw
    refine allSteps_iff_stepsMeet_of_guarded ?_ ?_ hrun hstart
    · intro s ev s' hs hstep hok
      obtain ⟨hfit, hgrows⟩ := comments_step (commentsFit_of_reachable hs) hstep.1 hok hstep.2
      exact commentDateGrows_of_grows hfit.1 hgrows
    · intro s ev s' hs hstep hok
      exact not_commentDateGrows (commentsFit_of_reachable hs) hstep.2 hok
  refine ⟨fun h => hgrow.mp h.1, fun h => ⟨hgrow.mpr h, ?_⟩⟩
  exact alwaysHolds_of_stepsMeet (fun s hs => converged_of_commentInv (commentsFit_of_reachable hs).1)
    hrun (Reachable.start hw) h

/-! ## A newer version that is lost -/

/-- Three versions of one comment are waiting. -/
def threeVersions : World Database InboundCall where
  shared :=
    { requests := [openRequest],
      inboundEvents := [eventOf "first" (.comment "comment" "one" "Jira" true false (some 1)) 1000,
        eventOf "second" (.comment "comment" "two" "Jira" true false (some 2)) 2000,
        eventOf "third" (.comment "comment" "three" "Jira" true false (some 3)) 3000] }
  locals := []

/-- One worker imports the first version; two more claim an event each and read the
message.  The worker with the third version writes it. -/
def newestFirst : List (Event InboundEnv InboundCall InboundInput) :=
  [.spawn (.claim { batchSize := 1, leaseMs := 60000 } 4000), .advance 0 (.proceed "token-1" []),
   .advance 0 (.proceed "" []), .advance 0 (.proceed "" []), .advance 0 (.proceed "message" []),
   .spawn (.claim { batchSize := 1, leaseMs := 60000 } 4000), .advance 0 (.proceed "token-2" []),
   .spawn (.claim { batchSize := 1, leaseMs := 60000 } 4000), .advance 1 (.proceed "token-3" []),
   .advance 0 (.proceed "" []), .advance 0 (.proceed "" []), .advance 1 (.proceed "" []),
   .advance 1 (.proceed "" []), .advance 1 (.proceed "" [])]

theorem commentsStarted_threeVersions : CommentsStarted "comment" threeVersions where
  quiescent := rfl
  messageIds := List.nodup_nil
  eventIds := by
    unfold KeyedList.Distinct
    decide
  absent := rfl
  events := by
    intro event hevent body authorName isPublic automation updatedAt hpayload
    simp only [threeVersions, List.mem_cons, List.not_mem_nil, or_false] at hevent
    rcases hevent with rfl | rfl | rfl <;> simp_all [eventOf]
  dates := by
    intro event hevent event' hevent' body body' authorName authorName' updatedAt hc hc'
    simp only [threeVersions, List.mem_cons, List.not_mem_nil, or_false] at hevent hevent'
    simp only [JiraInboundEventRecord.Carries] at hc hc'
    rcases hevent with rfl | rfl | rfl <;> rcases hevent' with rfl | rfl | rfl <;>
      first | rfl | (simp [eventOf] at hc hc'; omega)
  unprocessed := by
    intro event hevent body authorName updatedAt _ hdone
    simp only [threeVersions, List.mem_cons, List.not_mem_nil, or_false] at hevent
    rcases hevent with rfl | rfl | rfl <;> simp [eventOf, JiraInboundEventRecord.IsProcessed] at hdone

/-- No event of the comment arrives. -/
theorem sameComment_newestFirst : ∀ ev ∈ newestFirst, ∀ w, SameComment "comment" w ev := by
  intro ev hev w
  simp only [newestFirst, List.mem_cons, List.not_mem_nil, or_false] at hev
  rcases hev with rfl | rfl | rfl | rfl | rfl | rfl | rfl | rfl | rfl | rfl | rfl | rfl | rfl | rfl <;>
    trivial

theorem comment_converges_iff_threeVersions :
    (AllSteps (CommentDateGrows "comment") threeVersions
        (trace inbound.next threeVersions newestFirst) ∧
      AlwaysHolds (Converged "comment") threeVersions
        (trace inbound.next threeVersions newestFirst)) ↔
      StepsMeet (UpdatesInOrder "comment") threeVersions
        (trace inbound.next threeVersions newestFirst) :=
  comment_converges_iff commentsStarted_threeVersions (run_guarded_trace _ sameComment_newestFirst)

/-- The worker with the second version writes it over the third: the date goes back, all
three events are worked off, and the message stays as the second one has it. -/
theorem newer_version_lost :
    ∃ s s', Steps (commentStep "comment") threeVersions s ∧
      commentStep "comment" s (.advance 0 (.proceed "" [])) s' ∧
      ¬CommentDateGrows "comment" s (.advance 0 (.proceed "" [])) s' ∧ ¬Converged "comment" s' := by
  obtain ⟨s, s', hsteps, hstep, hbefore, hafter, hevents⟩ := exists_step_of_exec
    (fun s s' : World Database InboundCall =>
      (s.shared.comment? "comment").map (·.jiraCommentUpdatedAt) = some (some 3) ∧
        (s'.shared.comment? "comment").map (·.jiraCommentUpdatedAt) = some (some 2) ∧
        s'.shared.inboundEvents.map (fun event => (event.normalizedPayload, event.status)) =
          [(some (.comment "comment" "one" "Jira" true false (some 1)), .completed),
           (some (.comment "comment" "two" "Jira" true false (some 2)), .completed),
           (some (.comment "comment" "three" "Jira" true false (some 3)), .completed)])
    inbound.next (s := threeVersions) newestFirst (.advance 0 (.proceed "" []))
    sameComment_newestFirst (by decide)
  obtain ⟨m, hm, hthird⟩ := Option.map_eq_some_iff.mp hbefore
  obtain ⟨m', hm', hsecond⟩ := Option.map_eq_some_iff.mp hafter
  refine ⟨s, s', hsteps, ⟨trivial, hstep⟩, fun hgrows => ?_, fun hconverged => ?_⟩
  · obtain ⟨m'', hm'', t, ht, hle⟩ := hgrows m hm 3 hthird
    obtain rfl : m' = m'' := Option.some.inj (hm'.symm.trans hm'')
    have hdate : 2 = t := Option.some.inj (hsecond.symm.trans ht)
    omega
  · have hmem : ∀ entry ∈ s'.shared.inboundEvents.map
        (fun event => (event.normalizedPayload, event.status)), entry.2 = .completed := by
      rw [hevents]
      decide
    have hthirdMem : (some (.comment "comment" "three" "Jira" true false (some 3)),
        JiraInboundEventStatus.completed) ∈ s'.shared.inboundEvents.map
          (fun event => (event.normalizedPayload, event.status)) := by
      rw [hevents]
      decide
    obtain ⟨third, hthirdEvent, hpayload⟩ := List.mem_map.mp hthirdMem
    have hcarries : third.Carries "comment" "three" "Jira" 3 := congrArg Prod.fst hpayload
    obtain ⟨-, m'', hm'', event, hevent, authorName, updatedAt, -, hdate, hnewest⟩ :=
      hconverged ⟨third, hthirdEvent, "three", "Jira", 3, hcarries⟩
        fun event hevent _ _ _ _ => Or.inl (hmem _ (List.mem_map_of_mem hevent))
    obtain rfl : m' = m'' := Option.some.inj (hm'.symm.trans hm'')
    have hle := hnewest third hthirdEvent "three" "Jira" 3 hcarries
    have hsame : 2 = updatedAt := Option.some.inj (hsecond.symm.trans hdate)
    omega

end AvantimePlatform.Jira
