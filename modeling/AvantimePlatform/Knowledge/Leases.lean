import AvantimePlatform.Knowledge.IndexEvents

/-!
# The lease protocol of the index events

The workers of `processKnowledgeIndexBatch` as workers over a queue of leased records
(`indexWorkers`), and `knowledge_obeys`: they obey its protocol.

A failure may put the article of its event in quarantine, which fires the trigger on the
article.  That stores no event, since the version has one (`Tracked`), so a step adds an
event only when an article changes.
-/

namespace AvantimePlatform.Knowledge

open AvantimePlatform AvantimePlatform.Checked AvantimePlatform.Interleaving
  AvantimePlatform.LeaseQueue

/-! ## What a step does to the table -/

/-- The outcome that the loop tries to record with the token of its event.  A claim has
given it one. -/
def IndexBatch.attempt (batch : IndexBatch) (answer : Except String Unit) :
    Attempt String String :=
  { key := batch.record.id, token := batch.record.leaseToken.getD "", answer }

/-- The outcome that the next statement of the loop tries to record. -/
def IndexBatch.tried (batch : IndexBatch) (db : Database) (now : Int) :
    Place → Option (Attempt String String)
  | .complete =>
    some (batch.attempt ((fun _ => ()) <$> completeKnowledgeIndexEvent db batch.record now))
  | .fail => some (batch.attempt ((fun _ => ()) <$> failKnowledgeIndexEvent db batch.record now))
  | _ => none

/-- The outcome that a step of a call tries to record. -/
def Call.tried (db : Database) (input : Input) : Call → Option (Attempt String String)
  | .event batch place =>
    match input with
    | .proceed now _ _ => batch.tried db now place
    | _ => none
  | _ => none

/-- The claim that a step of a call makes. -/
def Call.claimed (db : Database) (input : Input) : Call → Option (String × List String)
  | .claim batchInput =>
    match input with
    | .proceed now uuid locked =>
      match claimKnowledgeIndexBatch db batchInput now uuid locked with
      | .ok (_, records) => some (uuid, records.map (·.id))
      | .error _ => none
    | _ => none
  | _ => none

/-- The workers over the index events. -/
def indexWorkers : Workers Database Call Env Input KnowledgeIndexEvent String String where
  toView := eventView
  program := knowledge
  rows := Database.events
  envAct _ := .other
  envAct_outcome _ := rfl
  claimed := Call.claimed
  tried := Call.tried
  lost := "KNOWLEDGE_INDEX_LEASE_LOST"

/-! ## The events that calls hold -/

/-- An event as a claim returns it. -/
structure Claimed (record : KnowledgeIndexEvent) : Prop where
  token : record.leaseToken.isSome = true
  attempts_pos : 1 ≤ record.attempts
  attempts_le : record.attempts ≤ record.maxAttempts
  maxAttempts_le : record.maxAttempts ≤ 20

/-- What a call in progress holds. -/
def Call.WellFormed : Call → Prop
  | .event batch _ => ∀ record ∈ batch.record :: batch.rest, Claimed record
  | _ => True

theorem wellFormed_nextEvent {tally : IndexTally} {strays : List Removal}
    {records : List KnowledgeIndexEvent} (h : ∀ record ∈ records, Claimed record) {call : Call}
    (hcall : nextEvent tally strays records = some call) : call.WellFormed := by
  cases records with
  | nil =>
      unfold nextEvent at hcall
      by_cases hstrays : strays = []
      · rw [if_pos hstrays] at hcall
        cases hcall
      · rw [if_neg hstrays] at hcall
        rw [← Option.some.inj hcall]
        trivial
  | cons record rest =>
      cases hcall
      exact h

variable {db db' : Database} {record : KnowledgeIndexEvent} {now : Int}

/-- The claim returns claimed events. -/
theorem claimed_of_claim (hdb : indexWorkers.WellFormed db) (htracked : Tracked db)
    {input : BatchInput} {uuid : String} {locked : List String}
    {records : List KnowledgeIndexEvent}
    (h : claimKnowledgeIndexBatch db input now uuid locked = .ok (db', records)) :
    ∀ record ∈ records, Claimed record := by
  obtain ⟨articleId, hrecords, -⟩ := claimKnowledgeIndexBatch_eq_ok htracked h
  intro record hrecord
  rw [hrecords] at hrecord
  obtain ⟨-, row, hrow, hcandidate, rfl⟩ := ClaimRules.mem_run_snd hdb.distinct hrecord
  have hleft : row.attempts < row.maxAttempts :=
    (eventClaimRules now articleId uuid (now + input.leaseMs)).candidate_left row hcandidate
  have hlimit : row.maxAttempts ≤ 20 := (hdb.bounds row hrow).le_limit
  exact ⟨rfl, Nat.succ_le_succ (Nat.zero_le _), hleft, hlimit⟩

/-! ## The steps -/

theorem isHeldAs_iff {token : String} (htoken : record.leaseToken = some token)
    (event : KnowledgeIndexEvent) :
    event.isHeldAs record = true ↔ eventView.HeldAs record.id token event := by
  have hphase : event.status = .processing ↔ event.phase = .processing := by
    unfold KnowledgeIndexEvent.phase
    cases event.status <;> simp
  unfold KnowledgeIndexEvent.isHeldAs
  rw [Bool.and_eq_true, Bool.and_eq_true, decide_eq_true_eq, decide_eq_true_eq,
    decide_eq_true_eq, hphase, htoken, and_assoc]
  exact Iff.rfl

theorem leaseHeld_iff_holds (hdb : indexWorkers.WellFormed db) {token : String}
    (htoken : record.leaseToken = some token) :
    LeaseHeld db record ↔ indexWorkers.Holds db record.id token :=
  View.countP_eq_one_iff hdb.distinct fun event => isHeldAs_iff htoken event

/-- An event is completed under its lease, and not without. -/
theorem complete_callStep (hdb : indexWorkers.WellFormed db) {token : String}
    (htoken : record.leaseToken = some token) (now : Int) :
    (∃ db', completeKnowledgeIndexEvent db record now = .ok db' ∧
      indexWorkers.CallStep db db' (some { key := record.id, token, answer := .ok () }) none) ∨
    (completeKnowledgeIndexEvent db record now = .error "KNOWLEDGE_INDEX_LEASE_LOST" ∧
      indexWorkers.CallStep db db
        (some { key := record.id, token, answer := .error "KNOWLEDGE_INDEX_LEASE_LOST" })
        none) := by
  unfold completeKnowledgeIndexEvent
  by_cases hheld : LeaseHeld db record
  · rw [if_pos hheld]
    refine Or.inl ⟨_, rfl, .recorded ((leaseHeld_iff_holds hdb htoken).mp hheld) ?_⟩
    exact View.moves_settle (fun event => isHeldAs_iff htoken event) (fun _ => ⟨rfl, rfl⟩)
      (fun _ => rfl) (fun _ => rfl)
  · rw [if_neg hheld]
    exact Or.inr ⟨rfl, .stale (mt (leaseHeld_iff_holds hdb htoken).mpr hheld) rfl⟩

/-- No failure of a claimed event throws for its attempts. -/
theorem exists_nextAttemptAfter (h : Claimed record) (now : Int) :
    ∃ nextAttemptAt, nextAttemptAfter record now = .ok nextAttemptAt := by
  unfold nextAttemptAfter
  by_cases hexhausted : record.maxAttempts ≤ record.attempts
  · rw [if_pos hexhausted]
    exact ⟨now, rfl⟩
  · rw [if_neg hexhausted]
    have hle := h.maxAttempts_le
    have hrange : 1 ≤ record.attempts ∧ record.attempts ≤ 20 := ⟨h.attempts_pos, by omega⟩
    unfold knowledgeIndexBackoffMs
    rw [if_pos hrange]
    exact ⟨_, rfl⟩

/-- An event fails under its lease, and not without. -/
theorem fail_callStep (hdb : indexWorkers.WellFormed db) (htracked : Tracked db)
    (hrecord : Claimed record) {token : String} (htoken : record.leaseToken = some token)
    (now : Int) :
    (∃ db', failKnowledgeIndexEvent db record now = .ok db' ∧
      indexWorkers.CallStep db db' (some { key := record.id, token, answer := .ok () }) none) ∨
    (failKnowledgeIndexEvent db record now = .error "KNOWLEDGE_INDEX_LEASE_LOST" ∧
      indexWorkers.CallStep db db
        (some { key := record.id, token, answer := .error "KNOWLEDGE_INDEX_LEASE_LOST" })
        none) := by
  obtain ⟨nextAttemptAt, hnext⟩ := exists_nextAttemptAfter hrecord now
  unfold failKnowledgeIndexEvent
  rw [hnext]
  by_cases hheld : LeaseHeld db record
  · have hcheck : (require (LeaseHeld db record) "KNOWLEDGE_INDEX_LEASE_LOST" :
        Except String Unit) = .ok () := require_eq_ok.mpr hheld
    rw [hcheck]
    change (∃ db', failHeld db record nextAttemptAt now = .ok db' ∧ _) ∨ _
    rw [failHeld_eq htracked]
    refine Or.inl ⟨_, rfl, .recorded ((leaseHeld_iff_holds hdb htoken).mp hheld) ?_⟩
    exact View.moves_settle (fun event => isHeldAs_iff htoken event) (fun _ => ⟨rfl, rfl⟩)
      (fun _ => rfl) (fun _ => rfl)
  · have hcheck : (require (LeaseHeld db record) "KNOWLEDGE_INDEX_LEASE_LOST" :
        Except String Unit) = .error "KNOWLEDGE_INDEX_LEASE_LOST" := if_neg hheld
    refine Or.inr ⟨?_, .stale (mt (leaseHeld_iff_holds hdb htoken).mpr hheld) rfl⟩
    rw [hcheck]
    rfl

theorem events_remove (db : Database) (removal : Removal) : (db.remove removal).events = db.events := by
  unfold Database.remove
  split <;> rfl

theorem tracked_remove (hdb : Tracked db) (removal : Removal) : Tracked (db.remove removal) := by
  have harticles : (db.remove removal).articles = db.articles := by
    unfold Database.remove
    split <;> rfl
  have hevents := events_remove db removal
  refine ⟨?_, ?_, ?_, ?_⟩
  · rw [harticles]
    exact hdb.articles
  · rw [hevents]
    exact hdb.named
  · rw [harticles, hevents]
    exact hdb.current
  · rw [harticles, hevents]
    exact hdb.past

/-- A step of the loop that stays with its event, changes no event and tries to record
nothing. -/
theorem callStep_of_goto {batch : IndexBatch} {place : Place} {call' : Option Call}
    (hrecords : ∀ record ∈ batch.record :: batch.rest, Claimed record) (hdb' : Tracked db')
    (hevents : db'.events = db.events) (hcall' : call' = some (.event batch place)) :
    indexWorkers.CallStep db db' none none ∧ Tracked db' ∧
      ∀ next, call' = some next → next.WellFormed := by
  refine ⟨.unchanged hevents, hdb', fun next hnext => ?_⟩
  rw [hcall'] at hnext
  cases hnext
  exact hrecords

/-- A step that ends the call and changes nothing. -/
theorem callStep_of_end (hdb : Tracked db) :
    indexWorkers.CallStep db db none none ∧ Tracked db ∧
      ∀ next, (none : Option Call) = some next → next.WellFormed :=
  ⟨.unchanged rfl, hdb, fun next hnext => by cases hnext⟩

/-- The next statement of the loop is a step of a worker. -/
theorem callStep_of_run (hdb : indexWorkers.WellFormed db) (htracked : Tracked db)
    {batch : IndexBatch} (hrecords : ∀ record ∈ batch.record :: batch.rest, Claimed record)
    {place : Place} {call' : Option Call} (h : batch.run db now place = some (db', call')) :
    indexWorkers.CallStep db db' (batch.tried db now place) none ∧ Tracked db' ∧
      ∀ next, call' = some next → next.WellFormed := by
  have hrecord : Claimed batch.record := hrecords batch.record List.mem_cons_self
  have hnextEvent : ∀ tally next, batch.next tally = some next → next.WellFormed :=
    fun tally next hnext =>
      wellFormed_nextEvent (fun r hr => hrecords r (List.mem_cons_of_mem _ hr)) hnext
  obtain ⟨token, htoken⟩ := Option.isSome_iff_exists.mp hrecord.token
  cases place with
  | readArticle =>
      obtain ⟨rfl, rfl⟩ := Prod.mk.inj (Option.some.inj h)
      exact callStep_of_goto hrecords htracked rfl rfl
  | invalidate article =>
      obtain ⟨rfl, rfl⟩ := Prod.mk.inj (Option.some.inj h)
      exact callStep_of_goto hrecords htracked rfl rfl
  | remove removals =>
      cases removals with
      | nil =>
          obtain ⟨rfl, rfl⟩ := Prod.mk.inj (Option.some.inj h)
          exact callStep_of_goto hrecords htracked rfl rfl
      | cons removal rest => cases h
  | embed article => cases h
  | upsertSearch article embedding =>
      obtain ⟨rfl, rfl⟩ := Prod.mk.inj (Option.some.inj h)
      have hkept : Tracked (db.upsertSearch article) :=
        ⟨htracked.articles, htracked.named, htracked.current, htracked.past⟩
      exact callStep_of_goto hrecords hkept rfl rfl
  | upsertVector article embedding =>
      unfold IndexBatch.run at h
      dsimp only at h
      cases hupsert : db.upsertVector article embedding with
      | ok upserted =>
          rw [hupsert] at h
          obtain ⟨rfl, rfl⟩ := Prod.mk.inj (Option.some.inj h)
          unfold Database.upsertVector at hupsert
          obtain ⟨-, hupsert⟩ := seq_eq_ok.mp hupsert
          rw [← Except.ok.inj hupsert]
          have hkept : Tracked { db with
              vectorIndex := upsertFenced VectorRow.toIndexedFields (article.vectorRow embedding)
                db.vectorIndex } :=
            ⟨htracked.articles, htracked.named, htracked.current, htracked.past⟩
          exact callStep_of_goto hrecords hkept rfl rfl
      | error message =>
          rw [hupsert] at h
          obtain ⟨rfl, rfl⟩ := Prod.mk.inj (Option.some.inj h)
          exact callStep_of_goto hrecords htracked rfl rfl
  | put article =>
      obtain ⟨rfl, rfl⟩ := Prod.mk.inj (Option.some.inj h)
      exact callStep_of_goto hrecords htracked rfl rfl
  | complete =>
      unfold IndexBatch.run at h
      unfold IndexBatch.tried IndexBatch.attempt
      dsimp only at h ⊢
      rw [htoken]
      rcases complete_callStep hdb htoken now with ⟨completed, heq, hstep⟩ | ⟨heq, hstep⟩
      · have hkept := tracked_of_complete htracked heq
        rw [heq] at h ⊢
        obtain ⟨rfl, rfl⟩ := Prod.mk.inj (Option.some.inj h)
        exact ⟨hstep, hkept, hnextEvent _⟩
      · rw [heq] at h ⊢
        obtain ⟨rfl, rfl⟩ := Prod.mk.inj (Option.some.inj h)
        refine ⟨hstep, htracked, fun next hnext => ?_⟩
        cases hnext
        exact hrecords
  | fail =>
      unfold IndexBatch.run at h
      unfold IndexBatch.tried IndexBatch.attempt
      dsimp only at h ⊢
      rw [htoken]
      rcases fail_callStep hdb htracked hrecord htoken now with
        ⟨failed, heq, hstep⟩ | ⟨heq, hstep⟩
      · have hkept := tracked_of_fail htracked heq
        rw [heq] at h ⊢
        obtain ⟨rfl, rfl⟩ := Prod.mk.inj (Option.some.inj h)
        exact ⟨hstep, hkept, hnextEvent _⟩
      · rw [heq] at h ⊢
        obtain ⟨rfl, rfl⟩ := Prod.mk.inj (Option.some.inj h)
        exact ⟨hstep, htracked, fun next hnext => by cases hnext⟩

/-- Every step of a call is a step of a worker. -/
theorem callStep_of_advance (hdb : indexWorkers.WellFormed db) (htracked : Tracked db)
    {input : Input} {call : Call} (hcall : call.WellFormed) {call' : Option Call}
    (h : call.advance db input = some (db', call')) :
    indexWorkers.CallStep db db' (call.tried db input) (call.claimed db input) ∧ Tracked db' ∧
      ∀ next, call' = some next → next.WellFormed := by
  cases call with
  | claim batchInput =>
      cases input with
      | proceed now uuid locked =>
          unfold Call.advance at h
          unfold Call.tried Call.claimed
          dsimp only at h ⊢
          cases hclaim : claimKnowledgeIndexBatch db batchInput now uuid locked with
          | ok result =>
              obtain ⟨claimedDb, records⟩ := result
              rw [hclaim] at h
              obtain ⟨rfl, rfl⟩ := Prod.mk.inj (Option.some.inj h)
              have hclaimed := claimed_of_claim hdb htracked hclaim
              have hkept := tracked_of_claim htracked hclaim
              obtain ⟨articleId, hrecords, rfl⟩ := claimKnowledgeIndexBatch_eq_ok htracked hclaim
              have hmoves := ClaimRules.moves (eventClaimRules now articleId uuid
                (now + batchInput.leaseMs)) locked batchInput.batchSize hdb.distinct
              change eventView.Moves db.events (.claim uuid ((ClaimRules.run _ locked
                batchInput.batchSize db.events).2.map (·.id))) _ at hmoves
              rw [show indexWorkers.rows db = db.events from rfl, ← hrecords] at hmoves
              exact ⟨.claimed hmoves, hkept, fun next hnext => wellFormed_nextEvent hclaimed hnext⟩
          | error message =>
              rw [hclaim] at h
              obtain ⟨rfl, rfl⟩ := Prod.mk.inj (Option.some.inj h)
              exact callStep_of_end htracked
      | failure =>
          obtain ⟨rfl, rfl⟩ := Prod.mk.inj (Option.some.inj h)
          exact callStep_of_end htracked
      | crash =>
          obtain ⟨rfl, rfl⟩ := Prod.mk.inj (Option.some.inj h)
          exact callStep_of_end htracked
      | removed i => cases h
      | removalFailed i => cases h
      | late i => cases h
      | embedded embedding => cases h
  | event batch place =>
      have hrecords : ∀ record ∈ batch.record :: batch.rest, Claimed record := hcall
      cases input with
      | proceed now uuid locked => exact callStep_of_run hdb htracked hrecords h
      | removed i =>
          cases place with
          | remove removals =>
              obtain ⟨removal, -, hrest⟩ := Option.map_eq_some_iff.mp h
              obtain ⟨rfl, rfl⟩ := Prod.mk.inj hrest
              exact callStep_of_goto hrecords (tracked_remove htracked removal)
                (events_remove db removal) rfl
          | _ => cases h
      | removalFailed i =>
          cases place with
          | remove removals =>
              obtain ⟨removal, -, hrest⟩ := Option.map_eq_some_iff.mp h
              obtain ⟨rfl, rfl⟩ := Prod.mk.inj hrest
              exact ⟨.unchanged rfl, htracked, fun next hnext => by cases hnext; exact hrecords⟩
          | _ => cases h
      | late i =>
          obtain ⟨removal, -, hrest⟩ := Option.map_eq_some_iff.mp h
          obtain ⟨rfl, rfl⟩ := Prod.mk.inj hrest
          exact ⟨.unchanged (events_remove db removal), tracked_remove htracked removal,
            fun next hnext => by cases hnext; exact hrecords⟩
      | embedded embedding =>
          cases place with
          | embed article =>
              obtain ⟨rfl, rfl⟩ := Prod.mk.inj (Option.some.inj h)
              exact callStep_of_goto hrecords htracked rfl rfl
          | _ => cases h
      | failure =>
          obtain ⟨rfl, rfl⟩ := Prod.mk.inj (Option.some.inj h)
          refine ⟨.unchanged rfl, htracked, fun next hnext => ?_⟩
          unfold IndexBatch.broken at hnext
          split at hnext
          · cases hnext
          · cases hnext
            exact hrecords
      | crash =>
          obtain ⟨rfl, rfl⟩ := Prod.mk.inj (Option.some.inj h)
          exact callStep_of_end htracked
  | ended strays =>
      cases input with
      | late i =>
          obtain ⟨removal, -, hrest⟩ := Option.map_eq_some_iff.mp h
          obtain ⟨rfl, rfl⟩ := Prod.mk.inj hrest
          refine ⟨.unchanged (events_remove db removal), tracked_remove htracked removal,
            fun next hnext => wellFormed_nextEvent (fun record hrecord => ?_) hnext⟩
          cases hrecord
      | crash =>
          obtain ⟨rfl, rfl⟩ := Prod.mk.inj (Option.some.inj h)
          exact callStep_of_end htracked
      | proceed now uuid locked => cases h
      | removed i => cases h
      | removalFailed i => cases h
      | embedded embedding => cases h
      | failure => cases h

theorem enqueued_moves {article : Article} {suffix : String} {events : List KnowledgeIndexEvent}
    {events' : List KnowledgeIndexEvent} (h : Enqueued article suffix now events events') :
    eventView.Moves events .other events' := by
  cases h with
  | conflict _ _ _ => exact View.Moves.refl fun _ _ => trivial
  | inserted _ hids _ _ =>
      have hbounds : eventView.WithinBounds (indexEvent article suffix now) :=
        ⟨Nat.zero_le 5, show 1 ≤ 5 by omega, show 5 ≤ 20 by omega⟩
      exact .insert _ hids rfl hbounds

/-- A change of an article adds its event to the queue. -/
theorem changed_moves (h : Changed db now db') : eventView.Moves db.events .other db'.events := by
  cases h with
  | same => exact View.Moves.refl fun _ _ => trivial
  | created _ _ _ hevents => exact enqueued_moves hevents
  | bumped _ _ _ _ _ _ hevents => exact enqueued_moves hevents
  | deleted _ _ hevents => exact enqueued_moves hevents

/-- No call is in progress, and each article has the event that its trigger stored. -/
def knowledgeStart (w : World Database Call) : Prop :=
  w.Quiescent ∧ indexWorkers.Unclaimed w.shared ∧ Tracked w.shared

/-- The workers over the index events obey the lease protocol. -/
theorem knowledge_obeys :
    indexWorkers.queue.Obeys knowledgeStart
      (fun w ev => ∀ e, ev = .env e → e.change.HasNewId w.shared) knowledge.step :=
  Workers.obeys (fun (db : Database) (e : Env) => e.change.HasNewId db) Tracked Call.WellFormed
    (fun _ (hw : knowledgeStart _) => ⟨hw.1, hw.2.1, hw.2.2⟩)
    (fun call hcall => by
      cases call with
      | claim input => exact trivial
      | event batch place => cases hcall
      | ended strays => cases hcall)
    (fun db e _ htracked hfresh => by
      show eventView.Moves db.events .other (e.apply db).events ∧ Tracked (e.apply db)
      unfold Env.apply
      cases hrun : e.change.run db e.now with
      | error message => exact ⟨View.Moves.refl fun _ _ => trivial, htracked⟩
      | ok db' =>
          have hchanged := changed_of_run htracked hfresh hrun
          exact ⟨changed_moves hchanged, tracked_of_changed htracked hchanged⟩)
    (fun _ _ _ _ _ hdb htracked hcall hadv => callStep_of_advance hdb htracked hcall hadv)

end AvantimePlatform.Knowledge
