import AvantimePlatform.Queue.EmbeddingSideBySide

/-!
# The embedding queues answer alike exactly when the calls are comparable

Each call is `Judged`: a comparable one gets one reply and leaves the queues alike, and a
call that gets one reply and leaves the same jobs is comparable.  So along every sequence
of calls the queues agree exactly as long as the calls are comparable.
-/

namespace AvantimePlatform.Queue

open AvantimePlatform.Documents AvantimePlatform.Checked AvantimePlatform.Transition
open LocalDocumentProcessingQueue (findJob setJob isClaimOwner leaseRuns isClaimable nextClaimable
  toPublicJob)

namespace BothEmbeddingQueues

variable {bindable : Int → Bool} {s s' : BothEmbeddingQueues}

/-! ## One call -/

/-- Both queues give the reply. -/
def SameReply (bindable : Int → Bool) (s : BothEmbeddingQueues) (operation : EmbeddingOperation) :
    Prop :=
  (s.onDisk.perform s.now operation).1 = (s.onPostgres.perform bindable s.now operation).1

/-- A comparable call gets one reply and keeps the invariant; a call that gets one reply
and leaves the same jobs is comparable. -/
structure Judged (bindable : Int → Bool) (s : BothEmbeddingQueues)
    (operation : EmbeddingOperation) : Prop where
  agrees : s.Comparable bindable operation →
    SameReply bindable s operation ∧ Alike (s.both bindable operation)
  comparable : SameReply bindable s operation → (s.both bindable operation).HoldSame →
    s.Comparable bindable operation

theorem Alike.addIssued (h : Alike s) (ids : List String) :
    Alike { s with issued := ids ++ s.issued } :=
  ⟨h.clock, h.same, h.sound, h.distinct, fun row hrow =>
    List.mem_append_right _ (h.named row hrow)⟩

/-- A comparable call that changes nothing. -/
theorem Alike.judged_unchanged (h : Alike s) {operation : EmbeddingOperation}
    (reply : EmbeddingReply) (hdisk : s.onDisk.perform s.now operation = (reply, s.onDisk))
    (hpostgres : s.onPostgres.perform bindable s.now operation = (reply, s.onPostgres))
    (hcomparable : s.Comparable bindable operation) : Judged bindable s operation where
  agrees := by
    intro _
    refine ⟨by rw [SameReply, hdisk, hpostgres], ?_⟩
    have hboth : s.both bindable operation =
        { s with issued := newIds operation ++ s.issued } := by
      simp only [both, hdisk, hpostgres]
    rw [hboth]
    exact h.addIssued _
  comparable := fun _ _ => hcomparable

/-- A call that gets two replies. -/
theorem judged_of_replies_ne {operation : EmbeddingOperation}
    (hreply : ¬SameReply bindable s operation) (hcomparable : ¬s.Comparable bindable operation) :
    Judged bindable s operation where
  agrees := fun h => absurd h hcomparable
  comparable := fun h => absurd h hreply

theorem isLate_of_row {row : DocumentEmbeddingJobRow} {jobId workerId : String}
    {fencingToken : Nat} (h : Alike s) (hrow : s.onPostgres.findRow jobId = some row)
    (howned : LocalEmbeddingJobQueue.ownedJob s.onDisk.jobs jobId workerId fencingToken =
      .ok row.toStored) :
    (s.IsLate jobId workerId fencingToken ↔ leaseRuns row.toStored s.now = false) ∧
      (s.IsHeld jobId workerId fencingToken ↔ leaseRuns row.toStored s.now = true) := by
  have hfind := h.find_of_row hrow
  have howner : isClaimOwner row.toStored workerId fencingToken = true := by
    by_contra hno
    simp [LocalEmbeddingJobQueue.ownedJob, hfind, hno] at howned
  unfold IsLate IsHeld
  rw [hfind]
  simp [howner]

theorem not_owned {jobId workerId e : String} {fencingToken : Nat}
    (howned : LocalEmbeddingJobQueue.ownedJob s.onDisk.jobs jobId workerId fencingToken = .error e) :
    ¬s.IsLate jobId workerId fencingToken ∧ ¬s.IsHeld jobId workerId fencingToken := by
  have hno : ∀ job, findJob jobId s.onDisk.jobs = some job →
      isClaimOwner job workerId fencingToken = true → False := by
    intro job hjob howner
    simp [LocalEmbeddingJobQueue.ownedJob, hjob, howner] at howned
  constructor
  · rintro ⟨job, hjob, howner, -⟩
    exact hno job hjob howner
  · rintro ⟨job, hjob, howner, -⟩
    exact hno job hjob howner

theorem Alike.assertLease (h : Alike s) (jobId workerId : String) (fencingToken : Nat) :
    Judged bindable s (.assertLease jobId workerId fencingToken) := by
  have hdisk : s.onDisk.perform s.now (.assertLease jobId workerId fencingToken) =
      (.of (fun _ => .accepted) (s.onDisk.assertLease s.now jobId workerId fencingToken),
        s.onDisk) := rfl
  have hreplies : EmbeddingReply.of (fun _ => .accepted)
        (s.onPostgres.assertLease s.now jobId workerId fencingToken) =
      .of (fun _ => .accepted) (s.onDisk.assertLease s.now jobId workerId fencingToken) := by
    unfold LocalEmbeddingJobQueue.assertLease PostgreSQLEmbeddingJobQueue.assertLease
    rw [h.read]
    cases h.finds jobId workerId fencingToken PostgreSQLEmbeddingJobQueue.leaseMessage with
    | held row _ hargs howned hruns hheld =>
        rw [hargs, hheld]
        simp [bind, Except.bind, howned, LocalEmbeddingJobQueue.assertRuns, require, hruns]
        rfl
    | late row _ hargs howned hruns hheld =>
        rw [hargs, hheld]
        simp [bind, Except.bind, howned, LocalEmbeddingJobQueue.assertRuns, require, hruns,
          EmbeddingReply.of]
    | unowned e howned hheld =>
        rw [hheld]
        cases assertEmbeddingLeaseArguments jobId workerId fencingToken with
        | error e => rfl
        | ok u => simp [bind, Except.bind, howned, EmbeddingReply.of]
  refine h.judged_unchanged _ hdisk ?_ trivial
  show (EmbeddingReply.of _ _, _) = _
  rw [hreplies]

/-- Drop the job with an id, in both queues. -/
theorem Alike.erase (h : Alike s) (jobId : String) :
    Alike { s with
      onDisk := ⟨KeyedList.erase StoredDocumentProcessingJob.id jobId s.onDisk.jobs⟩
      onPostgres := { s.onPostgres with
        rows := KeyedList.erase DocumentEmbeddingJobRow.id jobId s.onPostgres.rows } } where
  clock := h.clock
  same := by
    show KeyedList.erase _ jobId s.onDisk.jobs = (KeyedList.erase _ jobId _).map _
    rw [h.same]
    unfold KeyedList.erase
    rw [List.eraseP_map]
    rfl
  sound := fun job hjob => h.sound job (List.mem_of_mem_eraseP hjob)
  distinct := KeyedList.distinct_erase h.distinct
  named := fun row hrow => h.named row (List.mem_of_mem_eraseP hrow)

theorem Alike.acknowledge (h : Alike s) (jobId workerId : String) (fencingToken : Nat) :
    Judged bindable s (.acknowledge jobId workerId fencingToken) := by
  cases h.finds jobId workerId fencingToken PostgreSQLEmbeddingJobQueue.leaseMessage with
  | held row hrow hargs howned hruns hheld =>
      have hlate := (isLate_of_row h hrow howned).1
      have hdisk : s.onDisk.perform s.now (.acknowledge jobId workerId fencingToken) =
          (.accepted, ⟨KeyedList.erase StoredDocumentProcessingJob.id jobId s.onDisk.jobs⟩) := by
        simp [LocalEmbeddingJobQueue.perform, LocalEmbeddingJobQueue.acknowledge, hargs, h.read,
          h.find_of_row hrow, howned, bind, Except.bind, pure, Except.pure, Functor.map, Except.map,
          LocalEmbeddingJobQueue.reply]
      have hpostgres : s.onPostgres.perform bindable s.now
          (.acknowledge jobId workerId fencingToken) =
          (.accepted, { s.onPostgres with
            rows := KeyedList.erase DocumentEmbeddingJobRow.id jobId s.onPostgres.rows }) := by
        simp [PostgreSQLEmbeddingJobQueue.perform, PostgreSQLEmbeddingJobQueue.acknowledge, hargs,
          hheld, bind, Except.bind, pure, Except.pure, PostgreSQLEmbeddingJobQueue.reply]
      refine ⟨fun _ => ⟨by rw [SameReply, hdisk, hpostgres], ?_⟩, fun _ _ _ => ⟨?_, ?_⟩⟩
      · have herased := h.erase jobId
        simpa only [both, hdisk, hpostgres, newIds, List.nil_append] using herased
      · exact ⟨_, h.find_of_row hrow⟩
      · rw [hlate, hruns]
        decide
  | late row hrow hargs howned hruns hheld =>
      have hlate := (isLate_of_row h hrow howned).1
      refine judged_of_replies_ne ?_ fun hcomparable => ?_
      · simp [SameReply, LocalEmbeddingJobQueue.perform, LocalEmbeddingJobQueue.acknowledge,
          PostgreSQLEmbeddingJobQueue.perform, PostgreSQLEmbeddingJobQueue.acknowledge, hargs,
          h.read, h.find_of_row hrow, howned, hheld, bind, Except.bind, pure, Except.pure,
          Functor.map, Except.map, LocalEmbeddingJobQueue.reply,
          PostgreSQLEmbeddingJobQueue.reply]
      · exact (hcomparable hargs).2 (hlate.mpr hruns)
  | unowned e howned hheld =>
      cases hargs : assertEmbeddingLeaseArguments jobId workerId fencingToken with
      | error e =>
          refine h.judged_unchanged .rejected ?_ ?_ fun hok => ?_
          · simp [LocalEmbeddingJobQueue.perform, LocalEmbeddingJobQueue.acknowledge, hargs, bind,
              Except.bind, Functor.map, Except.map, LocalEmbeddingJobQueue.reply]
          · simp [PostgreSQLEmbeddingJobQueue.perform, PostgreSQLEmbeddingJobQueue.acknowledge,
              hargs, bind, Except.bind, PostgreSQLEmbeddingJobQueue.reply]
          · rw [hargs] at hok
            cases hok
      | ok u =>
          have hpostgres : s.onPostgres.perform bindable s.now
              (.acknowledge jobId workerId fencingToken) = (.rejected, s.onPostgres) := by
            simp [PostgreSQLEmbeddingJobQueue.perform, PostgreSQLEmbeddingJobQueue.acknowledge,
              hargs, hheld, bind, Except.bind, PostgreSQLEmbeddingJobQueue.reply]
          cases hfind : findJob jobId s.onDisk.jobs with
          | none =>
              -- The job is gone: accepted here, refused there.
              refine judged_of_replies_ne ?_ fun hcomparable => ?_
              · rw [SameReply, hpostgres]
                simp [LocalEmbeddingJobQueue.perform, LocalEmbeddingJobQueue.acknowledge, hargs,
                  h.read, hfind, bind, Except.bind, pure, Except.pure, Functor.map, Except.map,
                  LocalEmbeddingJobQueue.reply]
              · obtain ⟨⟨job, hjob⟩, -⟩ := hcomparable hargs
                rw [hfind] at hjob
                cases hjob
          | some job =>
              refine h.judged_unchanged .rejected ?_ hpostgres fun _ =>
                ⟨⟨job, hfind⟩, (not_owned howned).1⟩
              simp [LocalEmbeddingJobQueue.perform, LocalEmbeddingJobQueue.acknowledge, hargs,
                h.read, hfind, howned, bind, Except.bind, Functor.map, Except.map,
                LocalEmbeddingJobQueue.reply]

theorem Alike.release (h : Alike s) (jobId workerId : String) (availableAt : Int)
    (fencingToken : Nat) :
    Judged bindable s (.release jobId workerId availableAt fencingToken) := by
  cases hdate : isValidDate availableAt with
  | false =>
      have hparse : parseDate availableAt "availableAt" =
          .error ("availableAt" ++ " must be a valid date.") := by simp [parseDate, hdate]
      refine h.judged_unchanged .rejected ?_ ?_ fun hvalid => ?_
      · simp [LocalEmbeddingJobQueue.perform, LocalEmbeddingJobQueue.release, hparse, bind,
          Except.bind, Functor.map, Except.map, LocalEmbeddingJobQueue.reply]
      · cases hargs : assertEmbeddingLeaseArguments jobId workerId fencingToken with
        | error e =>
            simp [PostgreSQLEmbeddingJobQueue.perform, PostgreSQLEmbeddingJobQueue.release, hargs,
              bind, Except.bind, PostgreSQLEmbeddingJobQueue.reply]
        | ok u =>
            simp [PostgreSQLEmbeddingJobQueue.perform, PostgreSQLEmbeddingJobQueue.release, hargs,
              hparse, bind, Except.bind, PostgreSQLEmbeddingJobQueue.reply]
      · rw [hdate] at hvalid
        cases hvalid
  | true =>
      have hparse : parseDate availableAt "availableAt" = .ok () := parseDate_eq_ok.mpr hdate
      cases h.finds jobId workerId fencingToken "Embedding job is not claimed by this worker." with
      | held row hrow hargs howned hruns hheld =>
          obtain ⟨hlate, hholds⟩ := isLate_of_row h hrow howned
          have hsound := h.sound_of_row hrow
          let released : DocumentEmbeddingJobRow :=
            { row with
              status := .queued, leaseOwner := none, leaseUntil := none,
              availableAt := availableAt }
          have hid : released.id = jobId := (KeyedList.find_eq_some hrow).2
          have hdisk : s.onDisk.perform s.now (.release jobId workerId availableAt fencingToken) =
              (.accepted, ⟨setJob s.onDisk.jobs released.toStored⟩) := by
            simp [LocalEmbeddingJobQueue.perform, LocalEmbeddingJobQueue.release, hparse, h.read,
              howned, bind, Except.bind, pure, Except.pure, Functor.map, Except.map,
              LocalEmbeddingJobQueue.reply]
            rfl
          cases hbind : bindable availableAt with
          | true =>
              have hpostgres : s.onPostgres.perform bindable s.now
                  (.release jobId workerId availableAt fencingToken) =
                  (.accepted, s.onPostgres.setRow released) := by
                simp [PostgreSQLEmbeddingJobQueue.perform, PostgreSQLEmbeddingJobQueue.release,
                  hargs, hparse, hbind, hheld, require, bind, Except.bind, pure, Except.pure,
                  PostgreSQLEmbeddingJobQueue.reply]
                rfl
              refine ⟨fun _ => ⟨by rw [SameReply, hdisk, hpostgres], ?_⟩, fun _ _ _ => ⟨?_, ?_⟩⟩
              · have hwritten := h.write released (hid.symm ▸ hrow)
                  { hsound with
                    availableAt := hdate
                    workerId := by
                      intro workerId hworker
                      cases hworker
                    leaseExpiresAt := by
                      intro deadline hdeadline
                      cases hdeadline
                    claimed := by
                      intro hclaimed
                      cases hclaimed }
                simpa only [both, hdisk, hpostgres, newIds, List.nil_append] using hwritten
              · rw [hlate, hruns]
                decide
              · exact fun _ => hbind
          | false =>
              refine judged_of_replies_ne ?_ fun hcomparable => ?_
              · rw [SameReply, hdisk]
                simp [PostgreSQLEmbeddingJobQueue.perform, PostgreSQLEmbeddingJobQueue.release,
                  hargs, hparse, hbind, require, bind, Except.bind,
                  PostgreSQLEmbeddingJobQueue.reply]
              · have hbound := (hcomparable hdate).2 (hholds.mpr hruns)
                rw [hbind] at hbound
                cases hbound
      | late row hrow hargs howned hruns hheld =>
          have hlate := (isLate_of_row h hrow howned).1
          refine judged_of_replies_ne ?_ fun hcomparable => ?_
          · have hpostgres : (s.onPostgres.perform bindable s.now
                (.release jobId workerId availableAt fencingToken)).1 = .rejected := by
              cases hbind : bindable availableAt with
              | true =>
                  simp [PostgreSQLEmbeddingJobQueue.perform, PostgreSQLEmbeddingJobQueue.release,
                    hargs, hparse, hbind, hheld, require, bind, Except.bind,
                    PostgreSQLEmbeddingJobQueue.reply]
              | false =>
                  simp [PostgreSQLEmbeddingJobQueue.perform, PostgreSQLEmbeddingJobQueue.release,
                    hargs, hparse, hbind, require, bind, Except.bind,
                    PostgreSQLEmbeddingJobQueue.reply]
            rw [SameReply, hpostgres]
            simp [LocalEmbeddingJobQueue.perform, LocalEmbeddingJobQueue.release, hparse, h.read,
              howned, bind, Except.bind, pure, Except.pure, Functor.map, Except.map,
              LocalEmbeddingJobQueue.reply]
          · exact (hcomparable hdate).1 (hlate.mpr hruns)
      | unowned e howned hheld =>
          obtain ⟨hlate, hholds⟩ := not_owned howned
          refine h.judged_unchanged .rejected ?_ ?_ fun _ => ⟨hlate, fun hheld => absurd hheld hholds⟩
          · simp [LocalEmbeddingJobQueue.perform, LocalEmbeddingJobQueue.release, hparse, h.read,
              howned, bind, Except.bind, Functor.map, Except.map, LocalEmbeddingJobQueue.reply]
          · cases hargs : assertEmbeddingLeaseArguments jobId workerId fencingToken with
            | error e =>
                simp [PostgreSQLEmbeddingJobQueue.perform, PostgreSQLEmbeddingJobQueue.release,
                  hargs, bind, Except.bind, PostgreSQLEmbeddingJobQueue.reply]
            | ok u =>
                cases hbind : bindable availableAt with
                | true =>
                    simp [PostgreSQLEmbeddingJobQueue.perform, PostgreSQLEmbeddingJobQueue.release,
                      hargs, hparse, hbind, hheld, require, bind, Except.bind,
                      PostgreSQLEmbeddingJobQueue.reply]
                | false =>
                    simp [PostgreSQLEmbeddingJobQueue.perform, PostgreSQLEmbeddingJobQueue.release,
                      hargs, hparse, hbind, require, bind, Except.bind,
                      PostgreSQLEmbeddingJobQueue.reply]

theorem Alike.renew (h : Alike s) (jobId workerId : String) (fencingToken leaseDurationMs : Nat) :
    Judged bindable s (.renew jobId workerId fencingToken leaseDurationMs) := by
  cases hduration : isPositiveSafeInteger leaseDurationMs with
  | false =>
      have hcheck : assertLeaseDuration leaseDurationMs =
          .error "Embedding lease duration must be a positive integer." := by
        simp [assertLeaseDuration, require, hduration]
      refine h.judged_unchanged .rejected ?_ ?_ fun hpositive => ?_
      · cases hargs : assertEmbeddingLeaseArguments jobId workerId fencingToken with
        | error e =>
            simp [LocalEmbeddingJobQueue.perform, LocalEmbeddingJobQueue.renew, hargs, bind,
              Except.bind, LocalEmbeddingJobQueue.reply]
        | ok u =>
            simp [LocalEmbeddingJobQueue.perform, LocalEmbeddingJobQueue.renew, hargs, hcheck,
              bind, Except.bind, LocalEmbeddingJobQueue.reply]
      · cases hargs : assertEmbeddingLeaseArguments jobId workerId fencingToken with
        | error e =>
            simp [PostgreSQLEmbeddingJobQueue.perform, PostgreSQLEmbeddingJobQueue.renew, hargs,
              EmbeddingReply.of]
        | ok u =>
            simp [PostgreSQLEmbeddingJobQueue.perform, PostgreSQLEmbeddingJobQueue.renew, hargs,
              hcheck, EmbeddingReply.of]
      · rw [hduration] at hpositive
        cases hpositive
  | true =>
      have hcheck : assertLeaseDuration leaseDurationMs = .ok () := require_eq_ok.mpr hduration
      cases h.finds jobId workerId fencingToken PostgreSQLEmbeddingJobQueue.leaseMessage with
      | held row hrow hargs howned hruns hheld =>
          have hholds := (isLate_of_row h hrow howned).2
          have hsound := h.sound_of_row hrow
          let renewed : DocumentEmbeddingJobRow :=
            { row with leaseUntil := some (s.now + leaseDurationMs) }
          have hid : renewed.id = jobId := (KeyedList.find_eq_some hrow).2
          have hpostgres : s.onPostgres.perform bindable s.now
              (.renew jobId workerId fencingToken leaseDurationMs) =
              (.of .renewed (mapDatabaseJob renewed), s.onPostgres.setRow renewed) := by
            simp [PostgreSQLEmbeddingJobQueue.perform, PostgreSQLEmbeddingJobQueue.renew, hargs,
              hcheck, hheld]
            exact ⟨rfl, rfl⟩
          by_cases hrange : s.now + leaseDurationMs ≤ maxDate
          · have hsound' : JobSound renewed.toStored :=
              { hsound with
                leaseExpiresAt := by
                  intro deadline hdeadline
                  rw [← Option.some.inj hdeadline]
                  exact hrange }
            have hdisk : s.onDisk.perform s.now
                (.renew jobId workerId fencingToken leaseDurationMs) =
                (.renewed (toPublicJob renewed.toStored),
                  ⟨setJob s.onDisk.jobs renewed.toStored⟩) := by
              simp [LocalEmbeddingJobQueue.perform, LocalEmbeddingJobQueue.renew, hargs, hcheck,
                h.read, howned, LocalEmbeddingJobQueue.assertRuns, require, hruns,
                toISOString_of_le hrange, bind, Except.bind, pure, Except.pure,
                LocalEmbeddingJobQueue.reply]
              exact ⟨rfl, rfl⟩
            rw [mapDatabaseJob_of_sound hsound'] at hpostgres
            refine ⟨fun _ => ⟨?_, ?_⟩, fun _ _ _ _ => hrange⟩
            · rw [SameReply, hdisk, hpostgres]
              rfl
            · have hwritten := h.write renewed (hid.symm ▸ hrow) hsound'
              simpa only [both, hdisk, hpostgres, newIds, List.nil_append] using hwritten
          · -- Neither can write the date; the database has the deadline all the same.
            have hdisk : s.onDisk.perform s.now
                (.renew jobId workerId fencingToken leaseDurationMs) = (.rejected, s.onDisk) := by
              simp [LocalEmbeddingJobQueue.perform, LocalEmbeddingJobQueue.renew, hargs, hcheck,
                h.read, howned, LocalEmbeddingJobQueue.assertRuns, require, hruns, toISOString,
                hrange, bind, Except.bind, LocalEmbeddingJobQueue.reply]
            refine ⟨fun hcomparable => ?_, fun _ hsame => ?_⟩
            · exact absurd (hcomparable hduration (hholds.mpr hruns)) hrange
            · exfalso
              have hat := hsame jobId
              simp only [both, hdisk, hpostgres] at hat
              rw [h.find_of_row hrow] at hat
              have hnew : (s.onPostgres.setRow renewed).findRow jobId = some renewed := by
                show KeyedList.find _ jobId (KeyedList.put _ renewed s.onPostgres.rows) = _
                have hold : KeyedList.find DocumentEmbeddingJobRow.id renewed.id
                    s.onPostgres.rows = some row := hid.symm ▸ hrow
                rw [KeyedList.find_put hold, if_pos hid.symm]
              rw [hnew] at hat
              have hlease : row.leaseUntil = some (s.now + leaseDurationMs) :=
                congrArg StoredDocumentProcessingJob.leaseExpiresAt (Option.some.inj hat)
              exact hrange (hsound.leaseExpiresAt _ hlease)
      | late row hrow hargs howned hruns hheld =>
          have hholds := (isLate_of_row h hrow howned).2
          refine h.judged_unchanged .rejected ?_ ?_ fun _ hheld => ?_
          · simp [LocalEmbeddingJobQueue.perform, LocalEmbeddingJobQueue.renew, hargs, hcheck,
              h.read, howned, LocalEmbeddingJobQueue.assertRuns, require, hruns, bind, Except.bind,
              LocalEmbeddingJobQueue.reply]
          · simp [PostgreSQLEmbeddingJobQueue.perform, PostgreSQLEmbeddingJobQueue.renew, hargs,
              hcheck, hheld, EmbeddingReply.of]
          · rw [hholds, hruns] at hheld
            cases hheld
      | unowned e howned hheld =>
          refine h.judged_unchanged .rejected ?_ ?_ fun _ hholds =>
            absurd hholds (not_owned howned).2
          · cases hargs : assertEmbeddingLeaseArguments jobId workerId fencingToken with
            | error e =>
                simp [LocalEmbeddingJobQueue.perform, LocalEmbeddingJobQueue.renew, hargs, bind,
                  Except.bind, LocalEmbeddingJobQueue.reply]
            | ok u =>
                simp [LocalEmbeddingJobQueue.perform, LocalEmbeddingJobQueue.renew, hargs, hcheck,
                  h.read, howned, bind, Except.bind, LocalEmbeddingJobQueue.reply]
          · cases hargs : assertEmbeddingLeaseArguments jobId workerId fencingToken with
            | error e =>
                simp [PostgreSQLEmbeddingJobQueue.perform, PostgreSQLEmbeddingJobQueue.renew,
                  hargs, EmbeddingReply.of]
            | ok u =>
                simp [PostgreSQLEmbeddingJobQueue.perform, PostgreSQLEmbeddingJobQueue.renew,
                  hargs, hcheck, hheld, EmbeddingReply.of]

theorem Alike.removeForDocument (h : Alike s) (documentId : String) :
    Judged bindable s (.removeForDocument documentId) := by
  have hdisk : s.onDisk.perform s.now (.removeForDocument documentId) =
      (.accepted, ⟨s.onDisk.jobs.filter fun job => job.documentId != documentId⟩) := by
    simp [LocalEmbeddingJobQueue.perform, LocalEmbeddingJobQueue.removeForDocument, h.read, bind,
      Except.bind, pure, Except.pure, Functor.map, Except.map, LocalEmbeddingJobQueue.reply]
  have hpostgres : s.onPostgres.perform bindable s.now (.removeForDocument documentId) =
      (.accepted, s.onPostgres.removeForDocument documentId) := rfl
  refine ⟨fun _ => ⟨by rw [SameReply, hdisk, hpostgres], ?_⟩, fun _ _ => trivial⟩
  refine ⟨h.clock, ?_, fun job hjob => ?_, ?_, fun row hrow => ?_⟩
  · simp only [both, hdisk, hpostgres, PostgreSQLEmbeddingJobQueue.removeForDocument]
    rw [h.same, List.filter_map]
    rfl
  · rw [both, hdisk] at hjob
    exact h.sound job (List.mem_of_mem_filter hjob)
  · exact h.distinct.sublist (List.filter_sublist.map DocumentEmbeddingJobRow.id)
  · exact h.named row (List.mem_of_mem_filter hrow)

theorem Alike.find_document (h : Alike s) (documentId : String) :
    KeyedList.find StoredDocumentProcessingJob.documentId documentId s.onDisk.jobs =
      (KeyedList.find DocumentEmbeddingJobRow.documentId documentId s.onPostgres.rows).map
        DocumentEmbeddingJobRow.toStored := by
  rw [h.same]
  exact find_map_toStored StoredDocumentProcessingJob.documentId documentId s.onPostgres.rows

theorem Alike.enqueue (h : Alike s) (documentId : String) {id : Uuid} (correlationId : Uuid)
    (hnew : id.val ∉ s.issued) : Judged bindable s (.enqueue documentId id correlationId) := by
  cases hsafe : isSafeDocumentSegment documentId with
  | false =>
      have hcheck : assertSafeDocumentSegment documentId "document id" =
          .error ("document id" ++ " contains an unsafe path segment.") := by
        simp [assertSafeDocumentSegment, hsafe]
      refine h.judged_unchanged .rejected ?_ ?_ fun htrue => ?_
      · simp [LocalEmbeddingJobQueue.perform, LocalEmbeddingJobQueue.enqueue, hcheck, bind,
          Except.bind, LocalEmbeddingJobQueue.reply]
      · simp [PostgreSQLEmbeddingJobQueue.perform, PostgreSQLEmbeddingJobQueue.enqueue, hcheck,
          EmbeddingReply.of]
      · rw [hsafe] at htrue
        cases htrue
  | true =>
      have hcheck : assertSafeDocumentSegment documentId "document id" = .ok () :=
        assertSafeDocumentSegment_eq_ok.mpr hsafe
      have hfind := h.find_document documentId
      cases hrow : KeyedList.find DocumentEmbeddingJobRow.documentId documentId
          s.onPostgres.rows with
      | some row =>
          rw [hrow, Option.map_some] at hfind
          obtain ⟨hmem, hdoc⟩ := KeyedList.find_eq_some hfind
          refine h.judged_unchanged
            (.enqueued { job := toPublicJob row.toStored, enqueued := false }) ?_ ?_ fun _ => ?_
          · simp [LocalEmbeddingJobQueue.perform, LocalEmbeddingJobQueue.enqueue, hcheck, h.read,
              hfind, bind, Except.bind, pure, Except.pure, LocalEmbeddingJobQueue.reply]
          · simp [PostgreSQLEmbeddingJobQueue.perform, PostgreSQLEmbeddingJobQueue.enqueue, hcheck,
              hrow, mapDatabaseJob_of_sound (h.sound _ hmem), Functor.map, Except.map,
              EmbeddingReply.of]
          · exact Or.inr ⟨row.toStored, hmem, hdoc⟩
      | none =>
          rw [hrow, Option.map_none] at hfind
          let row : DocumentEmbeddingJobRow :=
            { id := id.val, documentId := documentId, correlationId := correlationId.val,
              status := .queued, attempts := 0, availableAt := s.now, leaseOwner := none,
              leaseUntil := none, fencingToken := 0, createdAt := s.now }
          have hsound : JobSound row.toStored :=
            { id := id.safe, documentId := hsafe, correlationId := correlationId.safe,
              version := rfl, enqueuedAt := h.clock, availableAt := isValidDate_of_le h.clock,
              attempts := Nat.zero_le _, fencingToken := Nat.zero_le _
              workerId := by
                intro workerId hworker
                cases hworker
              leaseExpiresAt := by
                intro deadline hdeadline
                cases hdeadline
              claimed := by
                intro hclaimed
                cases hclaimed }
          have hdisk : s.onDisk.perform s.now (.enqueue documentId id correlationId) =
              (.enqueued { job := toPublicJob row.toStored, enqueued := true },
                ⟨s.onDisk.jobs ++ [row.toStored]⟩) := by
            simp [LocalEmbeddingJobQueue.perform, LocalEmbeddingJobQueue.enqueue, hcheck, h.read,
              hfind, toISOString_of_le h.clock, bind, Except.bind, pure, Except.pure,
              LocalEmbeddingJobQueue.reply]
            exact ⟨rfl, rfl⟩
          by_cases hknown : documentId ∈ s.onPostgres.documents
          · have hpostgres : s.onPostgres.perform bindable s.now
                (.enqueue documentId id correlationId) =
                (.enqueued { job := toPublicJob row.toStored, enqueued := true },
                  { s.onPostgres with rows := s.onPostgres.rows ++ [row] }) := by
              have hmap := mapDatabaseJob_of_sound hsound
              simp only [PostgreSQLEmbeddingJobQueue.perform, PostgreSQLEmbeddingJobQueue.enqueue,
                hcheck, hrow, hknown, if_true]
              rw [hmap]
              rfl
            refine ⟨fun _ => ⟨by rw [SameReply, hdisk, hpostgres], ?_⟩, fun _ _ _ =>
              Or.inl hknown⟩
            have hfresh : KeyedList.find DocumentEmbeddingJobRow.id row.id s.onPostgres.rows =
                none := by
              refine KeyedList.find_eq_none.mpr fun other hother hsame => hnew ?_
              have hissued := h.named other hother
              rw [hsame] at hissued
              exact hissued
            refine ⟨h.clock, ?_, fun job hjob => ?_, ?_, fun other hother => ?_⟩
            · simp only [both, hdisk, hpostgres, List.map_append, List.map_cons, List.map_nil]
              rw [h.same]
            · simp only [both, hdisk] at hjob
              rcases List.mem_append.mp hjob with hold | hlast
              · exact h.sound job hold
              · rw [List.mem_singleton.mp hlast]
                exact hsound
            · simp only [both, hpostgres]
              exact KeyedList.distinct_append_new h.distinct hfresh
            · simp only [both, hpostgres] at hother
              rcases List.mem_append.mp hother with hold | hlast
              · exact List.mem_append_right _ (h.named other hold)
              · rw [List.mem_singleton.mp hlast]
                exact List.mem_append_left _ List.mem_cons_self
          · refine judged_of_replies_ne ?_ fun hcomparable => ?_
            · rw [SameReply, hdisk]
              simp [PostgreSQLEmbeddingJobQueue.perform, PostgreSQLEmbeddingJobQueue.enqueue,
                hcheck, hrow, hknown, EmbeddingReply.of]
            · rcases hcomparable hsafe with hdocument | ⟨job, hmem, hdoc⟩
              · exact hknown hdocument
              · exact KeyedList.find_eq_none.mp hfind job hmem hdoc

/-! ## Claims -/

theorem isReady_eq (row : DocumentEmbeddingJobRow) (now : Nat) :
    PostgreSQLEmbeddingJobQueue.isReady now row = isClaimable now row.toStored := by
  unfold PostgreSQLEmbeddingJobQueue.isReady isClaimable DocumentEmbeddingJobRow.toStored
  dsimp only
  by_cases havailable : row.availableAt ≤ now
  · have hlt : ¬(now : Int) < row.availableAt := by omega
    cases hstatus : row.status with
    | queued => simp [havailable, hlt]
    | processing =>
        cases hlease : row.leaseUntil with
        | none => simp [hlt]
        | some deadline => simp [havailable, hlt]
  · have hlt : (now : Int) < row.availableAt := by omega
    simp [havailable, hlt]

theorem not_claimable_of_none {now : Nat} {jobs : List StoredDocumentProcessingJob}
    (h : nextClaimable now jobs = none) : ∀ job ∈ jobs, isClaimable now job = false := by
  intro job hmem
  have hsorted : (jobs.filter (isClaimable now)).insertionSort
      (fun first second => first.enqueuedAt ≤ second.enqueuedAt) = [] :=
    List.head?_eq_none_iff.mp h
  have hnone : job ∉ jobs.filter (isClaimable now) := by
    rw [← List.mem_insertionSort (fun first second : StoredDocumentProcessingJob =>
      first.enqueuedAt ≤ second.enqueuedAt), hsorted]
    exact List.not_mem_nil
  simpa [hmem] using hnone

/-- The database picks a row exactly when the local queue finds a claimable job. -/
theorem Alike.pick_cases (h : Alike s) {pick : Option String}
    (hpick : s.onPostgres.CanPick s.now pick) :
    (nextClaimable s.now s.onDisk.jobs = none ∧ pick = none) ∨
      ∃ job row, nextClaimable s.now s.onDisk.jobs = some job ∧ pick = some row.id ∧
        s.onPostgres.findRow row.id = some row := by
  have hready : ∀ row ∈ s.onPostgres.rows,
      row.toStored ∈ s.onDisk.jobs ∧
        PostgreSQLEmbeddingJobQueue.isReady s.now row = isClaimable s.now row.toStored := by
    intro row hrow
    rw [h.same]
    exact ⟨List.mem_map_of_mem hrow, isReady_eq row s.now⟩
  cases hnext : nextClaimable s.now s.onDisk.jobs with
  | none =>
      refine Or.inl ⟨rfl, ?_⟩
      cases pick with
      | none => rfl
      | some jobId =>
          obtain ⟨row, hrow, -, hyes, -⟩ := hpick
          obtain ⟨hmem, hsame⟩ := hready row hrow
          rw [hsame, not_claimable_of_none hnext _ hmem] at hyes
          cases hyes
  | some job =>
      refine Or.inr ?_
      cases pick with
      | none =>
          obtain ⟨hmem, hyes⟩ := LocalDocumentProcessingQueue.nextClaimable_mem hnext
          rw [h.same] at hmem
          obtain ⟨row, hrow, rfl⟩ := List.mem_map.mp hmem
          have hno := hpick row hrow
          rw [isReady_eq, hyes] at hno
          cases hno
      | some jobId =>
          obtain ⟨row, hrow, rfl, -, -⟩ := hpick
          exact ⟨job, row, rfl, rfl, KeyedList.find_of_mem h.distinct hrow⟩

/-- The row as it is claimed. -/
def claimedRow (row : DocumentEmbeddingJobRow) (now : Nat) (workerId : String)
    (leaseDurationMs : Nat) : DocumentEmbeddingJobRow :=
  { row with
    status := .processing, leaseOwner := some workerId,
    leaseUntil := some (now + leaseDurationMs), attempts := row.attempts + 1,
    fencingToken := row.fencingToken + 1 }

/-- The stored job as it is claimed. -/
def claimedJob (job : StoredDocumentProcessingJob) (now : Nat) (workerId : String)
    (leaseDurationMs : Nat) : StoredDocumentProcessingJob :=
  { job with
    state := .claimed, workerId := some workerId,
    leaseExpiresAt := some (now + leaseDurationMs), attempts := job.attempts + 1,
    fencingToken := job.fencingToken + 1 }

/-- Ids are distinct in the file as well. -/
theorem Alike.eq_of_id (h : Alike s) {job other : StoredDocumentProcessingJob}
    (hmem : job ∈ s.onDisk.jobs) (hfind : findJob job.id s.onDisk.jobs = some other) :
    job = other := by
  have hdistinct : KeyedList.Distinct StoredDocumentProcessingJob.id s.onDisk.jobs := by
    unfold KeyedList.Distinct
    rw [h.same, List.map_map]
    exact h.distinct
  exact Option.some.inj ((KeyedList.find_of_mem hdistinct hmem).symm.trans hfind)

theorem JobSound.claimed_row {row : DocumentEmbeddingJobRow} (h : JobSound row.toStored)
    {now : Nat} {workerId : String} (leaseDurationMs : Nat)
    (hworker : isSafeDocumentSegment workerId = true) (hrange : now + leaseDurationMs ≤ maxDate)
    (hcounters : row.attempts < maxInteger ∧ row.fencingToken < maxInteger) :
    JobSound (claimedRow row now workerId leaseDurationMs).toStored :=
  { h with
    attempts := hcounters.1
    fencingToken := hcounters.2
    workerId := by
      intro holder hholder
      rw [← Option.some.inj hholder]
      exact hworker
    leaseExpiresAt := by
      intro deadline hdeadline
      rw [← Option.some.inj hdeadline]
      exact hrange
    claimed := fun _ => Nat.succ_pos _ }

/-- The dates that a claim binds are dates that the database client takes. -/
def DatesBind (bindable : Int → Bool) (s : BothEmbeddingQueues) (leaseDurationMs : Nat) : Prop :=
  s.now + leaseDurationMs ≤ maxDate ∧ bindable s.now = true ∧
    bindable (s.now + leaseDurationMs) = true

/-- A claim in the database, with arguments that pass their checks. -/
theorem postgres_claim (bindable : Int → Bool) (s : BothEmbeddingQueues) {workerId : String}
    {leaseDurationMs : Nat} (pick : Option String)
    (hworker : isSafeDocumentSegment workerId = true)
    (hduration : isPositiveSafeInteger leaseDurationMs = true) :
    (¬DatesBind bindable s leaseDurationMs →
      s.onPostgres.perform bindable s.now (.claim workerId leaseDurationMs pick) =
        (.rejected, s.onPostgres)) ∧
    (DatesBind bindable s leaseDurationMs → pick = none →
      s.onPostgres.perform bindable s.now (.claim workerId leaseDurationMs pick) =
        (.claimed none, s.onPostgres)) ∧
    (∀ row, DatesBind bindable s leaseDurationMs → pick.bind s.onPostgres.findRow = some row →
      ¬(row.attempts < maxInteger ∧ row.fencingToken < maxInteger) →
      s.onPostgres.perform bindable s.now (.claim workerId leaseDurationMs pick) =
        (.rejected, s.onPostgres)) ∧
    ∀ row, DatesBind bindable s leaseDurationMs → pick.bind s.onPostgres.findRow = some row →
      row.attempts < maxInteger ∧ row.fencingToken < maxInteger → JobSound row.toStored →
      s.onPostgres.perform bindable s.now (.claim workerId leaseDurationMs pick) =
        (.claimed (some (toPublicJob (claimedRow row s.now workerId leaseDurationMs).toStored)),
          s.onPostgres.setRow (claimedRow row s.now workerId leaseDurationMs)) := by
  have hcheck : assertSafeDocumentSegment workerId "workerId" = .ok () :=
    assertSafeDocumentSegment_eq_ok.mpr hworker
  have hcheck' : assertLeaseDuration leaseDurationMs = .ok () := require_eq_ok.mpr hduration
  have hcondition : (isValidDate ((s.now + leaseDurationMs : Nat) : Int) && bindable s.now &&
      bindable ((s.now + leaseDurationMs : Nat) : Int)) = true ↔
      DatesBind bindable s leaseDurationMs := by
    unfold DatesBind isValidDate
    simp only [Bool.and_eq_true, decide_eq_true_eq, and_assoc, Nat.cast_add]
    constructor
    · rintro ⟨-, hhigh, hbind⟩
      exact ⟨by omega, hbind⟩
    · rintro ⟨hhigh, hbind⟩
      exact ⟨by omega, by omega, hbind⟩
  simp only [PostgreSQLEmbeddingJobQueue.perform, PostgreSQLEmbeddingJobQueue.claim, hcheck,
    hcheck']
  refine ⟨fun hno => ?_, fun hyes hpick => ?_, fun row hyes hrow hfull => ?_,
    fun row hyes hrow hroom hsound => ?_⟩
  · rw [if_neg (fun h => hno (hcondition.mp h))]
    rfl
  · rw [if_pos (hcondition.mpr hyes), hpick]
    rfl
  · rw [if_pos (hcondition.mpr hyes), hrow]
    dsimp only
    rw [if_neg hfull]
    rfl
  · rw [if_pos (hcondition.mpr hyes), hrow]
    dsimp only
    rw [if_pos hroom]
    have hmap := mapDatabaseJob_of_sound
      (hsound.claimed_row leaseDurationMs hworker hyes.1 hroom)
    unfold claimedRow at hmap ⊢
    rw [hmap]
    rfl

/-- A claim whose arguments pass their checks. -/
theorem Alike.claim_checked (h : Alike s) {workerId : String} {leaseDurationMs : Nat}
    {pick : Option String} (hpick : s.onPostgres.CanPick s.now pick)
    (hworker : isSafeDocumentSegment workerId = true)
    (hduration : isPositiveSafeInteger leaseDurationMs = true) :
    Judged bindable s (.claim workerId leaseDurationMs pick) := by
  have hcheck : assertSafeDocumentSegment workerId "workerId" = .ok () :=
    assertSafeDocumentSegment_eq_ok.mpr hworker
  have hcheck' : assertLeaseDuration leaseDurationMs = .ok () := require_eq_ok.mpr hduration
  obtain ⟨hrefused, hempty, hoverflow, hclaimed⟩ :=
    postgres_claim bindable s pick hworker hduration
  rcases h.pick_cases hpick with ⟨hnext, hnone⟩ | ⟨job, row, hnext, hsome, hrow⟩
  · have hdisk : s.onDisk.perform s.now (.claim workerId leaseDurationMs pick) =
        (.claimed none, s.onDisk) := by
      simp [LocalEmbeddingJobQueue.perform, LocalEmbeddingJobQueue.claim, hcheck, hcheck', h.read,
        hnext, bind, Except.bind, pure, Except.pure, LocalEmbeddingJobQueue.reply]
    by_cases hdates : DatesBind bindable s leaseDurationMs
    · refine h.judged_unchanged _ hdisk (hempty hdates hnone) fun _ _ => ?_
      rw [hnext]
      exact hdates
    · refine judged_of_replies_ne ?_ fun hcomparable => ?_
      · rw [SameReply, hdisk, hrefused hdates]
        simp
      · have hdates' := hcomparable hworker hduration
        rw [hnext] at hdates'
        exact hdates hdates'
  · by_cases hrange : s.now + leaseDurationMs ≤ maxDate
    · have hdisk : s.onDisk.perform s.now (.claim workerId leaseDurationMs pick) =
          (.claimed (some (toPublicJob (claimedJob job s.now workerId leaseDurationMs))),
            ⟨setJob s.onDisk.jobs (claimedJob job s.now workerId leaseDurationMs)⟩) := by
        simp [LocalEmbeddingJobQueue.perform, LocalEmbeddingJobQueue.claim, hcheck, hcheck',
          h.read, hnext, toISOString_of_le hrange, bind, Except.bind, pure, Except.pure,
          LocalEmbeddingJobQueue.reply]
        exact ⟨rfl, rfl⟩
      have hpicked : pick.bind s.onPostgres.findRow = some row := by rw [hsome]; exact hrow
      have hjob : job.id = row.id → job = row.toStored := by
        intro hid
        have hmem := (LocalDocumentProcessingQueue.nextClaimable_mem hnext).1
        exact (h.eq_of_id hmem (hid ▸ h.find_of_row hrow))
      have hunequal : s.Comparable bindable (.claim workerId leaseDurationMs pick) →
          DatesBind bindable s leaseDurationMs ∧ job = row.toStored ∧
            row.attempts < maxInteger ∧ row.fencingToken < maxInteger := by
        intro hcomparable
        have hfits := hcomparable hworker hduration
        rw [hnext] at hfits
        obtain ⟨hpick', hnow, hdeadline, hcounters⟩ := hfits hrange
        have hid : job.id = row.id := Option.some.inj (hpick'.symm.trans hsome)
        refine ⟨⟨hrange, hnow, hdeadline⟩, hjob hid, ?_⟩
        rw [hjob hid] at hcounters
        exact hcounters
      by_cases hdates : DatesBind bindable s leaseDurationMs
      · by_cases hcounters : row.attempts < maxInteger ∧ row.fencingToken < maxInteger
        · have hsound := h.sound_of_row hrow
          have hpostgres := hclaimed row hdates hpicked hcounters hsound
          by_cases hid : job.id = row.id
          · obtain rfl := hjob hid
            refine ⟨fun _ => ⟨?_, ?_⟩, fun _ _ _ _ => ?_⟩
            · rw [SameReply, hdisk, hpostgres]
              rfl
            · have hwritten := h.write (claimedRow row s.now workerId leaseDurationMs) hrow
                (hsound.claimed_row leaseDurationMs hworker hrange hcounters)
              have hstored : (claimedRow row s.now workerId leaseDurationMs).toStored =
                  claimedJob row.toStored s.now workerId leaseDurationMs := rfl
              rw [hstored] at hwritten
              simpa only [both, hdisk, hpostgres, newIds, List.nil_append] using hwritten
            · rw [hnext]
              exact fun _ => ⟨hsome, hdates.2.1, hdates.2.2, hcounters⟩
          · -- The database picked another of the oldest jobs.
            refine judged_of_replies_ne ?_ fun hcomparable => ?_
            · rw [SameReply, hdisk, hpostgres]
              intro hsame
              have hids := congrArg DocumentProcessingJob.id
                (Option.some.inj (EmbeddingReply.claimed.inj hsame))
              exact hid hids
            · exact hid (by rw [(hunequal hcomparable).2.1]; rfl)
        · refine judged_of_replies_ne ?_ fun hcomparable => ?_
          · rw [SameReply, hdisk, hoverflow row hdates hpicked hcounters]
            simp
          · exact hcounters (hunequal hcomparable).2.2
      · refine judged_of_replies_ne ?_ fun hcomparable => ?_
        · rw [SameReply, hdisk, hrefused hdates]
          simp
        · exact hdates (hunequal hcomparable).1
    · -- Neither can write the deadline.
      have hdisk : s.onDisk.perform s.now (.claim workerId leaseDurationMs pick) =
          (.rejected, s.onDisk) := by
        simp [LocalEmbeddingJobQueue.perform, LocalEmbeddingJobQueue.claim, hcheck, hcheck',
          h.read, hnext, toISOString, hrange, bind, Except.bind, LocalEmbeddingJobQueue.reply]
      refine h.judged_unchanged _ hdisk (hrefused fun hdates => hrange hdates.1) fun _ _ => ?_
      rw [hnext]
      exact fun hrange' => absurd hrange' hrange

theorem Alike.claim (h : Alike s) (workerId : String) (leaseDurationMs : Nat)
    {pick : Option String} (hpick : s.onPostgres.CanPick s.now pick) :
    Judged bindable s (.claim workerId leaseDurationMs pick) := by
  cases hworker : isSafeDocumentSegment workerId with
  | false =>
      have hcheck : assertSafeDocumentSegment workerId "workerId" =
          .error ("workerId" ++ " contains an unsafe path segment.") := by
        simp [assertSafeDocumentSegment, hworker]
      refine h.judged_unchanged .rejected ?_ ?_ fun htrue => ?_
      · simp [LocalEmbeddingJobQueue.perform, LocalEmbeddingJobQueue.claim, hcheck, bind,
          Except.bind, LocalEmbeddingJobQueue.reply]
      · simp [PostgreSQLEmbeddingJobQueue.perform, PostgreSQLEmbeddingJobQueue.claim, hcheck,
          EmbeddingReply.of]
      · rw [hworker] at htrue
        cases htrue
  | true =>
      cases hduration : isPositiveSafeInteger leaseDurationMs with
      | true => exact h.claim_checked hpick hworker hduration
      | false =>
          have hcheck : assertSafeDocumentSegment workerId "workerId" = .ok () :=
            assertSafeDocumentSegment_eq_ok.mpr hworker
          have hcheck' : assertLeaseDuration leaseDurationMs =
              .error "Embedding lease duration must be a positive integer." := by
            simp [assertLeaseDuration, require, hduration]
          refine h.judged_unchanged .rejected ?_ ?_ fun _ htrue => ?_
          · simp [LocalEmbeddingJobQueue.perform, LocalEmbeddingJobQueue.claim, hcheck, hcheck',
              bind, Except.bind, LocalEmbeddingJobQueue.reply]
          · simp [PostgreSQLEmbeddingJobQueue.perform, PostgreSQLEmbeddingJobQueue.claim, hcheck,
              hcheck', EmbeddingReply.of]
          · rw [hduration] at htrue
            cases htrue

/-! ## Runs of both -/

theorem judged_of_alike (h : Alike s) {operation : EmbeddingOperation}
    (hnew : ∀ id ∈ newIds operation, id ∉ s.issued) (hpick : s.PicksReadyRow operation) :
    Judged bindable s operation := by
  cases operation with
  | enqueue documentId id correlationId =>
      exact h.enqueue documentId correlationId (hnew id.val List.mem_cons_self)
  | claim workerId leaseDurationMs pick => exact h.claim workerId leaseDurationMs hpick
  | renew jobId workerId fencingToken leaseDurationMs =>
      exact h.renew jobId workerId fencingToken leaseDurationMs
  | assertLease jobId workerId fencingToken => exact h.assertLease jobId workerId fencingToken
  | acknowledge jobId workerId fencingToken => exact h.acknowledge jobId workerId fencingToken
  | release jobId workerId availableAt fencingToken =>
      exact h.release jobId workerId availableAt fencingToken
  | removeForDocument documentId => exact h.removeForDocument documentId

/-- A call is answered alike exactly when it is comparable. -/
theorem sameAnswer_iff (h : Alike s) {event : Event} (hstep : step bindable s event s') :
    SameAnswer bindable s event s' ↔ s.CallsComparable bindable event := by
  cases event with
  | tick ms => exact Iff.rfl
  | call operation =>
      simp only [step, stepOf, next] at hstep
      split at hstep
      · next hcall =>
        obtain rfl := Option.some.inj hstep
        have hjudged : Judged bindable s operation := judged_of_alike h hcall.1 hcall.2
        constructor
        · rintro ⟨hreply, hsame⟩
          exact hjudged.comparable hreply hsame
        · intro hcomparable
          obtain ⟨hreply, halike⟩ := hjudged.agrees hcomparable
          exact ⟨hreply, halike.holdSame⟩
      · cases hstep

theorem alike_of_step (h : Alike s) {event : Event} (hcomparable : s.CallsComparable bindable event)
    (hstep : step bindable s event s') : Alike s' := by
  cases event with
  | tick ms =>
      simp only [step, stepOf, next] at hstep
      split at hstep
      · next hclock =>
        obtain rfl := Option.some.inj hstep
        exact ⟨hclock, h.same, h.sound, h.distinct, h.named⟩
      · cases hstep
  | call operation =>
      simp only [step, stepOf, next] at hstep
      split at hstep
      · next hcall =>
        obtain rfl := Option.some.inj hstep
        exact ((judged_of_alike h hcall.1 hcall.2).agrees hcomparable).2
      · cases hstep

/-- The start of a run: two empty queues, at a date. -/
def StartedAt (documents : List String) (now : Nat) (s : BothEmbeddingQueues) : Prop :=
  now ≤ maxDate ∧ s = start documents now

theorem alike_of_reachable {documents : List String} {now : Nat} {s : BothEmbeddingQueues}
    (h : Reachable (StartedAt documents now) (Guarded (CallsComparable bindable) (step bindable)) s) :
    Alike s := by
  refine h.invariant Alike (fun s₀ hs => ?_) fun _ _ _ halike hstep =>
    alike_of_step halike hstep.1 hstep.2
  obtain ⟨hclock, rfl⟩ := hs
  exact alike_start documents hclock

/-- Along a sequence of calls the two queues give the same replies and hold the same jobs
after each of them exactly when every call is comparable. -/
theorem embedding_queues_agree_iff (bindable : Int → Bool) (documents : List String) (now : Nat)
    (hnow : now ≤ maxDate) (run : List (Event × BothEmbeddingQueues))
    (h : Run (step bindable) (start documents now) run) :
    AllSteps (SameAnswer bindable) (start documents now) run ↔
      StepsMeet (CallsComparable bindable) (start documents now) run := by
  have hstart : Reachable (StartedAt documents now)
      (Guarded (CallsComparable bindable) (step bindable)) (start documents now) :=
    Reachable.start ⟨hnow, rfl⟩
  refine allSteps_iff_stepsMeet_of_guarded (fun s event s' hs hstep hok => ?_)
    (fun s event s' hs hstep hbad hsame => ?_) h hstart
  · exact (sameAnswer_iff (alike_of_reachable hs) hstep).mpr hok
  · exact hbad ((sameAnswer_iff (alike_of_reachable hs) hstep).mp hsame)

def enqueueDocument : EmbeddingOperation := .enqueue "document" firstJob correlation

/-- Both queues after one enqueue. -/
def oneDocument : BothEmbeddingQueues :=
  (start ["document"] 0).both (fun _ => true) enqueueDocument

theorem embedding_queues_agree_oneDocument :
    AllSteps (SameAnswer fun _ => true) (start ["document"] 0)
      [(.call enqueueDocument, oneDocument)] := by
  have hstep : step (fun _ => true) (start ["document"] 0) (.call enqueueDocument) oneDocument := by
    unfold step stepOf next
    exact if_pos (by decide)
  exact (embedding_queues_agree_iff (fun _ => true) ["document"] 0 (by decide) _
    (Run.cons hstep (Run.nil _))).mpr ⟨fun _ => Or.inl List.mem_cons_self, trivial⟩

/-- The owner acknowledges after the deadline: the local queue drops the job, the database
refuses. -/
theorem lateAcknowledge_of_embedding_differs :
    ∃ s, Reachable (StartedAt ["document"] 0) (step fun _ => true) s ∧
      (s.onDisk.perform s.now (.acknowledge "job-1" "worker" 1)).1 ≠
        (s.onPostgres.perform (fun _ => true) s.now (.acknowledge "job-1" "worker" 1)).1 :=
  exists_reachable_of_exec _ (next fun _ => true)
    [.call enqueueDocument, .call (.claim "worker" 1000 (some "job-1")), .tick 1000]
    ⟨by decide, rfl⟩ (by decide)

end BothEmbeddingQueues

end AvantimePlatform.Queue
