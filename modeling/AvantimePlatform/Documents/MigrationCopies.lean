import AvantimePlatform.Documents.Migration
import AvantimePlatform.Lib.Rehearsal

/-!
# The copies of a migration

The target of a migration, looked at object by object and record by record.  A copy looks at
one object, never overwrites it, and has nothing to do a second time: `copyObject_eq` says
what it does, and `rehearsable_copyRound` is about the three copies of a round.
-/

namespace AvantimePlatform.Documents.Record.Migration

open AvantimePlatform.Checked AvantimePlatform.Documents AvantimePlatform.Rehearsal

section

variable {Instant : Type} {runtime : DateRuntime Instant} {sha256 : Sha256}
  {tenant : DocumentTenantContext} {source : Source} {document : DocumentMetadata}
  {kind : DocumentObjectKind} {key : String} {data : Buffer} {target : Target Instant}

/-! ## The places of a target -/

/-- An object or a record. -/
abbrev Place := ObjectKey ⊕ (String × String)

/-- What the target holds. -/
def Target.look (target : Target Instant) : Place → Option (Buffer ⊕ DatabaseDocumentRecord Instant)
  | .inl key => (target.objects key).map .inl
  | .inr key => (KeyedList.find documentKey key target.table.rows).map .inr

def objectPlace (tenant : DocumentTenantContext) (kind : DocumentObjectKind) (key : String) :
    Place :=
  .inl { companyId := tenant.companyId, kind := kind, key := key }

def recordPlace (tenant : DocumentTenantContext) (documentId : String) : Place :=
  .inr (tenant.companyId, documentId)

theorem look_objectPlace_eq_some {stored : Buffer} :
    target.look (objectPlace tenant kind key) = some (.inl stored) ↔
      target.objects { companyId := tenant.companyId, kind := kind, key := key } = some stored := by
  simp [Target.look, objectPlace]

theorem objects_eq_of_look {other : Target Instant}
    (h : target.look (objectPlace tenant kind key) = other.look (objectPlace tenant kind key)) :
    target.objects { companyId := tenant.companyId, kind := kind, key := key } =
      other.objects { companyId := tenant.companyId, kind := kind, key := key } := by
  apply Option.ext
  intro stored
  rw [← look_objectPlace_eq_some, ← look_objectPlace_eq_some, h]

theorem look_recordPlace_eq_some {documentId : String} {row : DatabaseDocumentRecord Instant} :
    target.look (recordPlace tenant documentId) = some (.inr row) ↔
      KeyedList.find documentKey (tenant.companyId, documentId) target.table.rows = some row := by
  simp [Target.look, recordPlace]

theorem find_eq_of_look {documentId : String} {other : Target Instant}
    (h : target.look (recordPlace tenant documentId) = other.look (recordPlace tenant documentId)) :
    KeyedList.find documentKey (tenant.companyId, documentId) target.table.rows =
      KeyedList.find documentKey (tenant.companyId, documentId) other.table.rows := by
  apply Option.ext
  intro row
  rw [← look_recordPlace_eq_some, ← look_recordPlace_eq_some, h]

/-! ## One copy -/

/-- What a copy answers, of the object that is there. -/
def copyAnswer (sha256 : Sha256) (tenant : DocumentTenantContext) (kind : DocumentObjectKind)
    (key : String) (data : Buffer) (stored : Option Buffer) : Except String Bool := do
  let _ ← createDocumentObjectKey tenant kind key
  match stored with
  | none => return true
  | some stored => do
    verifyChecksum sha256 stored (sha256.hex data)
    return false

theorem createDocumentObjectKey_eq_ok {objectKey : ObjectKey}
    (h : createDocumentObjectKey tenant kind key = .ok objectKey) :
    objectKey = { companyId := tenant.companyId, kind := kind, key := key } := by
  unfold createDocumentObjectKey at h
  rw [seq_eq_ok, seq_eq_ok] at h
  exact (Except.ok.inj h.2.2).symm

theorem verifyChecksum_same (sha256 : Sha256) (data : Buffer) :
    verifyChecksum sha256 data (sha256.hex data) = .ok () := by
  unfold verifyChecksum
  rw [seq_eq_ok, require_eq_ok, require_eq_ok]
  exact ⟨sha256.isHex data, rfl⟩

/-- The target with one object more. -/
def Target.put (target : Target Instant) (tenant : DocumentTenantContext)
    (kind : DocumentObjectKind) (key : String) (data : Buffer) : Target Instant :=
  { target with
    objects := Function.update target.objects
      { companyId := tenant.companyId, kind := kind, key := key } (some data) }

/-- A copy writes when nothing is there and the run is not dry. -/
theorem copyObject_eq (dryRun : Bool) :
    copyObject sha256 tenant kind key data dryRun target =
      (copyAnswer sha256 tenant kind key data
          (target.objects { companyId := tenant.companyId, kind := kind, key := key }),
        if dryRun = false ∧ copyAnswer sha256 tenant kind key data
            (target.objects { companyId := tenant.companyId, kind := kind, key := key }) =
              .ok true then
          target.put tenant kind key data
        else target) := by
  have hverified : verifyChecksum sha256 data (sha256.hex data) = .ok () :=
    verifyChecksum_same sha256 data
  cases hkey : createDocumentObjectKey tenant kind key with
  | error e => simp [copyObject, copyAnswer, readObject, hkey, bind, Except.bind]
  | ok objectKey =>
      have hplace := createDocumentObjectKey_eq_ok hkey
      subst hplace
      cases hstored : target.objects
          { companyId := tenant.companyId, kind := kind, key := key } with
      | none =>
          cases dryRun with
          | true =>
              simp [copyObject, copyAnswer, readObject, hkey, hstored, bind, Except.bind, pure,
                Except.pure]
          | false =>
              simp [copyObject, copyAnswer, readObject, writeObject, hkey, hstored, hverified, bind,
                Except.bind, pure, Except.pure, Target.put]
      | some stored =>
          cases hcheck : verifyChecksum sha256 stored (sha256.hex data) with
          | error e =>
              simp [copyObject, copyAnswer, readObject, hkey, hstored, hcheck, bind, Except.bind]
          | ok u =>
              simp [copyObject, copyAnswer, readObject, hkey, hstored, hcheck, bind, Except.bind,
                pure, Except.pure]

theorem copyAnswer_eq_true {stored : Option Buffer}
    (h : copyAnswer sha256 tenant kind key data stored = .ok true) : stored = none := by
  unfold copyAnswer at h
  rw [bind_eq_ok] at h
  obtain ⟨-, -, h⟩ := h
  cases stored with
  | none => rfl
  | some stored =>
      dsimp only at h
      rw [seq_eq_ok] at h
      cases h.2

/-- What has been copied is not copied again. -/
theorem copyAnswer_again {stored : Option Buffer} {copied : Bool}
    (h : copyAnswer sha256 tenant kind key data stored = .ok copied) :
    copyAnswer sha256 tenant kind key data (some (stored.getD data)) = .ok false := by
  unfold copyAnswer at h ⊢
  rw [bind_eq_ok] at h ⊢
  obtain ⟨objectKey, hkey, h⟩ := h
  refine ⟨objectKey, hkey, ?_⟩
  dsimp only
  rw [seq_eq_ok]
  cases stored with
  | none => exact ⟨verifyChecksum_same sha256 data, rfl⟩
  | some stored =>
      dsimp only at h
      rw [seq_eq_ok] at h
      exact ⟨h.1, rfl⟩

theorem look_put (place : Place) :
    (target.put tenant kind key data).look place =
      if place = objectPlace tenant kind key then some (.inl data) else target.look place := by
  cases place with
  | inl objectKey =>
      by_cases h : objectKey = { companyId := tenant.companyId, kind := kind, key := key }
      · subst h
        simp [Target.put, Target.look, objectPlace]
      · simp [Target.put, Target.look, objectPlace, h]
  | inr recordKey => simp [Target.put, Target.look, objectPlace]

/-- A copy can be rehearsed. -/
theorem rehearsable_copyObject (sha256 : Sha256) (tenant : DocumentTenantContext)
    (kind : DocumentObjectKind) (key : String) (data : Buffer) :
    Rehearsable (@Target.look Instant) {objectPlace tenant kind key} (fun _ => True)
      false (copyObject sha256 tenant kind key data) where
  dry target := by
    rw [copyObject_eq]
    dsimp only
    rw [if_neg fun h => by cases h.1]
  same target _ := by rw [copyObject_eq, copyObject_eq]
  reads s t hagree := by
    rw [copyObject_eq, copyObject_eq, objects_eq_of_look (hagree rfl)]
  pre_reads _ _ _ := Iff.rfl
  frame target place hplace := by
    have hne : place ≠ objectPlace tenant kind key := hplace
    rw [copyObject_eq]
    dsimp only
    split
    · rw [look_put, if_neg hne]
    · rfl
  grows target place value hvalue := by
    rw [copyObject_eq]
    dsimp only
    split
    · next h =>
        have hempty := copyAnswer_eq_true h.2
        have hne : place ≠ objectPlace tenant kind key := by
          rintro rfl
          simp [Target.look, objectPlace, hempty] at hvalue
        rw [look_put, if_neg hne]
        exact hvalue
    · exact hvalue
  settled target copied hok later hext := by
    rw [copyObject_eq] at hok hext
    dsimp only at hok hext
    have hagain := copyAnswer_again hok
    have hlater : later.objects { companyId := tenant.companyId, kind := kind, key := key } =
        some ((target.objects { companyId := tenant.companyId, kind := kind, key := key }).getD
          data) := by
      rw [← look_objectPlace_eq_some]
      apply hext
      cases hstored : target.objects
          { companyId := tenant.companyId, kind := kind, key := key } with
      | none =>
          have htrue : copied = true := by
            rw [hstored] at hok
            unfold copyAnswer at hok
            rw [bind_eq_ok] at hok
            obtain ⟨-, -, hok⟩ := hok
            exact (Except.ok.inj hok).symm
          rw [hstored, htrue] at hok
          rw [if_pos ⟨rfl, hok⟩, look_put, if_pos rfl]
          rfl
      | some stored =>
          have hnot : ¬(false = false ∧ copyAnswer sha256 tenant kind key data (some stored) =
              .ok true) := fun h => by cases copyAnswer_eq_true h.2
          rw [if_neg hnot, look_objectPlace_eq_some, hstored]
          rfl
    rw [copyObject_eq, hlater, hagain]
    rw [if_neg fun h => by cases h.2]

/-! ## The copies of a round -/

/-- The copy of an object that the source may not have can be rehearsed. -/
theorem rehearsable_copyIfPresent (sha256 : Sha256) (tenant : DocumentTenantContext)
    (source : Source) (kind : DocumentObjectKind) (key : String) :
    Rehearsable (@Target.look Instant) {objectPlace tenant kind key} (fun _ => True)
      0 (copyIfPresent sha256 tenant source kind key) := by
  cases hread : source.read kind key with
  | error e =>
      have hstep : @copyIfPresent Instant sha256 tenant source kind key =
          fun _ target => (.error e, target) := by
        funext dryRun target
        unfold copyIfPresent
        rw [hread]
      rw [hstep]
      exact (Rehearsable.constant (fun n h => by cases h)).mono (Set.empty_subset _)
  | ok found =>
      cases found with
      | none =>
          have hstep : @copyIfPresent Instant sha256 tenant source kind key =
              fun _ target => (.ok 0, target) := by
            funext dryRun target
            unfold copyIfPresent
            rw [hread]
          rw [hstep]
          exact (Rehearsable.constant (fun n h => (Except.ok.inj h).symm)).mono
            (Set.empty_subset _)
      | some data =>
          have hstep : @copyIfPresent Instant sha256 tenant source kind key =
              answering Bool.toNat (copyObject sha256 tenant kind key data) := by
            funext dryRun target
            unfold copyIfPresent answering
            rw [hread]
            dsimp only
            rcases copyObject sha256 tenant kind key data dryRun target with ⟨_ | _, _⟩ <;> rfl
          rw [hstep]
          exact (rehearsable_copyObject sha256 tenant kind key data).answering Bool.toNat

/-- The objects of a document. -/
def objectPlaces (tenant : DocumentTenantContext) (document : DocumentMetadata) : Set Place :=
  {objectPlace tenant .original document.storedName} ∪
    ({objectPlace tenant .text (document.id ++ ".txt")} ∪
      {objectPlace tenant .chunks (document.id ++ ".json")})

theorem disjoint_objectPlace {other : DocumentObjectKind} {otherKey : String}
    (h : kind ≠ other) :
    Disjoint ({objectPlace tenant kind key} : Set Place) {objectPlace tenant other otherKey} := by
  rw [Set.disjoint_singleton]
  intro heq
  exact h (congrArg ObjectKey.kind (Sum.inl.inj heq))

theorem migrateProcessingObjects_eq (sha256 : Sha256) (tenant : DocumentTenantContext)
    (document : DocumentMetadata) (source : Source) :
    @migrateProcessingObjects Instant sha256 tenant document source =
      andThen (· + ·) (copyIfPresent sha256 tenant source .text (document.id ++ ".txt"))
        (copyIfPresent sha256 tenant source .chunks (document.id ++ ".json")) := by
  funext dryRun target
  unfold migrateProcessingObjects andThen
  rcases copyIfPresent sha256 tenant source .text (document.id ++ ".txt") dryRun target with
    ⟨_ | _, later⟩
  · rfl
  · dsimp only
    rcases copyIfPresent sha256 tenant source .chunks (document.id ++ ".json") dryRun later with
      ⟨_ | _, _⟩ <;> rfl

theorem copyRound_eq (sha256 : Sha256) (tenant : DocumentTenantContext) (source : Source)
    (document : DocumentMetadata) (original : Buffer) :
    @copyRound Instant sha256 tenant source document original =
      andThen (fun copied processing => copied.toNat + processing)
        (copyObject sha256 tenant .original document.storedName original)
        (migrateProcessingObjects sha256 tenant document source) := by
  funext dryRun target
  unfold copyRound andThen
  rcases copyObject sha256 tenant .original document.storedName original dryRun target with
    ⟨_ | _, later⟩
  · rfl
  · dsimp only
    rcases migrateProcessingObjects sha256 tenant document source dryRun later with
      ⟨_ | _, _⟩ <;> rfl

/-- The three copies of a round can be rehearsed. -/
theorem rehearsable_copyRound (sha256 : Sha256) (tenant : DocumentTenantContext) (source : Source)
    (document : DocumentMetadata) (original : Buffer) :
    Rehearsable (@Target.look Instant) (objectPlaces tenant document) (fun _ => True) 0
      (copyRound sha256 tenant source document original) := by
  have htexts := @rehearsable_copyIfPresent Instant sha256 tenant source .text
    (document.id ++ ".txt")
  have hchunks := @rehearsable_copyIfPresent Instant sha256 tenant source .chunks
    (document.id ++ ".json")
  have hprocessing := htexts.andThen (· + ·) hchunks (disjoint_objectPlace (by decide))
  have horiginal := @rehearsable_copyObject Instant sha256 tenant .original
    document.storedName original
  have hround := horiginal.andThen (fun copied processing => copied.toNat + processing)
    hprocessing (Set.disjoint_union_right.mpr
      ⟨disjoint_objectPlace (by decide), disjoint_objectPlace (by decide)⟩)
  rw [copyRound_eq, migrateProcessingObjects_eq]
  simp only [and_self] at hround
  exact hround

end

end AvantimePlatform.Documents.Record.Migration
