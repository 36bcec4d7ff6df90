import AvantimePlatform.Documents.MigrationCopies

/-!
# Rehearsing and repeating a migration

* `findExisting_eq` says what the two lookups answer, of the record that is there.
* `rehearsable_migrateDocument`: a round looks at places of its own, never overwrites, and
  has nothing to do a second time.
* `migrateDocuments_eq` reads the report off the answers of the rounds and of the history.
* `rehearsed_and_repeatable` is about the whole migration.
-/

namespace AvantimePlatform.Documents.Record.Migration

open AvantimePlatform.Checked AvantimePlatform.Documents AvantimePlatform.Rehearsal
  PostgreSQLDocumentMetadataRepository

section

variable {Instant : Type} {runtime : DateRuntime Instant} {sha256 : Sha256}
  {tenant : DocumentTenantContext} {source : Source} {document : DocumentMetadata}
  {target : Target Instant}

/-! ## One round -/

section Lookups

variable {table : DocumentMetadataTable Instant} {documentId : String}

theorem find?_live :
    (table.ofTenant tenant.companyId).find? (·.id == documentId) =
      (KeyedList.find documentKey (tenant.companyId, documentId) table.rows).filter
        (·.deletedAt.isNone) := by
  unfold DocumentMetadataTable.ofTenant
  rw [List.find?_filter]
  have hsearch := KeyedList.find?_eq_filter table.keys (k := (tenant.companyId, documentId))
    (p := fun row => decide ((row.companyId == tenant.companyId && row.deletedAt.isNone) = true ∧
      (row.id == documentId) = true))
    (fun row hrow => by
      have hmatch := of_decide_eq_true hrow
      rw [Bool.and_eq_true, beq_iff_eq, beq_iff_eq] at hmatch
      exact Prod.ext hmatch.1.1 hmatch.2)
  rw [hsearch]
  cases hfind : KeyedList.find documentKey (tenant.companyId, documentId) table.rows with
  | none => rfl
  | some row =>
      obtain ⟨hcompany, hid⟩ := Prod.mk.inj (KeyedList.find_eq_some hfind).2
      simp [Option.filter_some, hcompany, hid]

theorem find?_deleted :
    table.rows.find? (fun row => row.companyId == tenant.companyId && row.id == documentId &&
        row.deletedAt.isSome) =
      (KeyedList.find documentKey (tenant.companyId, documentId) table.rows).filter
        (·.deletedAt.isSome) := by
  have hsearch := KeyedList.find?_eq_filter table.keys (k := (tenant.companyId, documentId))
    (p := fun row => row.companyId == tenant.companyId && row.id == documentId &&
      row.deletedAt.isSome)
    (fun row hrow => by
      rw [Bool.and_eq_true, Bool.and_eq_true, beq_iff_eq, beq_iff_eq] at hrow
      exact Prod.ext hrow.1.1 hrow.1.2)
  rw [hsearch]
  cases hfind : KeyedList.find documentKey (tenant.companyId, documentId) table.rows with
  | none => rfl
  | some row =>
      obtain ⟨hcompany, hid⟩ := Prod.mk.inj (KeyedList.find_eq_some hfind).2
      simp [Option.filter_some, hcompany, hid]

/-- What the lookups answer, of the record that is there. -/
theorem findExisting_eq (htenant : assertDocumentTenantContext tenant = .ok ())
    (hsafe : isSafeDocumentSegment documentId = true) :
    findExisting runtime table tenant documentId =
      match KeyedList.find documentKey (tenant.companyId, documentId) table.rows with
      | none => .ok none
      | some row => some <$> mapDatabaseDocument runtime row := by
  have hsegment : assertSafeDocumentSegment documentId "document id" = .ok () :=
    assertSafeDocumentSegment_eq_ok.mpr hsafe
  unfold findExisting findById
    findDeletedById
  rw [htenant, hsegment, find?_live, find?_deleted]
  cases hfind : KeyedList.find documentKey (tenant.companyId, documentId) table.rows with
  | none => rfl
  | some row =>
      cases hmapped : mapDatabaseDocument runtime row with
      | error e =>
          cases hdate : row.deletedAt <;>
            simp [Option.filter_some, hdate, hmapped, bind, Except.bind, pure, Except.pure]
      | ok document =>
          cases hdate : row.deletedAt <;>
            simp [Option.filter_some, hdate, hmapped, bind, Except.bind, pure, Except.pure]

/-- What a lookup makes of the row that is there. -/
def Reads (runtime : DateRuntime Instant) :
    Option (DatabaseDocumentRecord Instant) → Option DocumentMetadata → Prop
  | none, existing => existing = none
  | some row, existing => Readable runtime row ∧ existing = some (documentOf runtime row)

theorem findExisting_eq_ok {existing : Option DocumentMetadata} :
    findExisting runtime table tenant documentId = .ok existing ↔
      assertDocumentTenantContext tenant = .ok () ∧ isSafeDocumentSegment documentId = true ∧
        Reads runtime (KeyedList.find documentKey (tenant.companyId, documentId) table.rows)
          existing := by
  have hargs (h : findExisting runtime table tenant documentId = .ok existing) :
      assertDocumentTenantContext tenant = .ok () ∧ isSafeDocumentSegment documentId = true := by
    unfold findExisting findById at h
    rw [bind_eq_ok] at h
    obtain ⟨found, hfound, -⟩ := h
    rw [seq_eq_ok, seq_eq_ok, assertSafeDocumentSegment_eq_ok] at hfound
    exact ⟨hfound.1, hfound.2.1⟩
  have hreads (htenant : assertDocumentTenantContext tenant = .ok ())
      (hsafe : isSafeDocumentSegment documentId = true) :
      findExisting runtime table tenant documentId = .ok existing ↔
        Reads runtime (KeyedList.find documentKey (tenant.companyId, documentId) table.rows)
          existing := by
    rw [findExisting_eq htenant hsafe]
    cases KeyedList.find documentKey (tenant.companyId, documentId) table.rows with
    | none =>
        show Except.ok none = Except.ok existing ↔ existing = none
        rw [Except.ok.injEq]
        exact eq_comm
    | some row =>
        show some <$> mapDatabaseDocument runtime row = .ok existing ↔
          Readable runtime row ∧ existing = some (documentOf runtime row)
        unfold mapDatabaseDocument Readable
        rw [map_eq_ok]
        constructor
        · rintro ⟨document, hmapped, rfl⟩
          rw [seq_eq_ok] at hmapped
          exact ⟨hmapped.1, congrArg some (Except.ok.inj hmapped.2).symm⟩
        · rintro ⟨hreadable, rfl⟩
          exact ⟨documentOf runtime row, seq_eq_ok.mpr ⟨hreadable, rfl⟩, rfl⟩
  constructor
  · intro h
    obtain ⟨htenant, hsafe⟩ := hargs h
    exact ⟨htenant, hsafe, (hreads htenant hsafe).mp h⟩
  · rintro ⟨htenant, hsafe, h⟩
    exact (hreads htenant hsafe).mpr h

theorem findExisting_congr {other : DocumentMetadataTable Instant}
    (h : KeyedList.find documentKey (tenant.companyId, documentId) table.rows =
      KeyedList.find documentKey (tenant.companyId, documentId) other.rows) :
    findExisting runtime table tenant documentId = findExisting runtime other tenant documentId := by
  unfold findExisting findById
    findDeletedById
  rw [find?_live, find?_live, find?_deleted, find?_deleted, h]

theorem find_eq_none_of_findExisting
    (h : findExisting runtime table tenant documentId = .ok none) :
    KeyedList.find documentKey (tenant.companyId, documentId) table.rows = none := by
  have hreads := (findExisting_eq_ok.mp h).2.2
  cases hfind : KeyedList.find documentKey (tenant.companyId, documentId) table.rows with
  | none => rfl
  | some row =>
      rw [hfind] at hreads
      cases hreads.2

theorem find_eq_some_of_findExisting {found : DocumentMetadata}
    (h : findExisting runtime table tenant documentId = .ok (some found)) :
    ∃ row, KeyedList.find documentKey (tenant.companyId, documentId) table.rows = some row ∧
      Readable runtime row ∧ found = documentOf runtime row := by
  have hreads := (findExisting_eq_ok.mp h).2.2
  cases hfind : KeyedList.find documentKey (tenant.companyId, documentId) table.rows with
  | none =>
      rw [hfind] at hreads
      cases hreads
  | some row =>
      rw [hfind] at hreads
      exact ⟨row, rfl, hreads.1, Option.some.inj hreads.2⟩

end Lookups

theorem readRound_eq_ok {original : Buffer} {existing : Option DocumentMetadata} :
    readRound runtime sha256 tenant source document target = .ok (original, existing) ↔
      source.read .original document.storedName = .ok (some original) ∧
        findExisting runtime target.table tenant document.id = .ok existing ∧
        ∀ found ∈ existing, found.checksum = sha256.hex original := by
  unfold readRound
  rw [bind_eq_ok]
  constructor
  · rintro ⟨found, hread, h⟩
    cases found with
    | none => cases h
    | some data =>
        dsimp only at h
        rw [bind_eq_ok] at h
        obtain ⟨found, hfound, h⟩ := h
        rw [seq_eq_ok, require_eq_ok] at h
        obtain ⟨hchecksum, h⟩ := h
        obtain ⟨hdata, hexisting⟩ := Prod.mk.inj (Except.ok.inj h)
        subst hdata hexisting
        exact ⟨hread, hfound, hchecksum⟩
  · rintro ⟨hread, hfound, hchecksum⟩
    refine ⟨some original, hread, ?_⟩
    dsimp only
    rw [bind_eq_ok]
    refine ⟨existing, hfound, ?_⟩
    rw [seq_eq_ok, require_eq_ok]
    exact ⟨hchecksum, rfl⟩

/-- The reads of a round depend on the record only. -/
theorem readRound_congr {other : Target Instant}
    (h : target.look (recordPlace tenant document.id) =
      other.look (recordPlace tenant document.id)) :
    readRound runtime sha256 tenant source document target =
      readRound runtime sha256 tenant source document other := by
  unfold readRound
  rw [findExisting_congr (find_eq_of_look h)]

/-- The end of a round: the record is created when there is none and the run is not dry. -/
def createIfNew (runtime : DateRuntime Instant) (tenant : DocumentTenantContext)
    (document : DocumentMetadata) (checksum : String) (existing : Option DocumentMetadata) :
    Step (Target Instant) String Bool :=
  fun dryRun target =>
    if existing.isNone ∧ dryRun = false then
      match create runtime target.table
        { tenant with userId := document.uploadedBy } (createTargetMetadata document checksum) with
      | (.error e, table) => (.error e, { target with table := table })
      | (.ok _, table) => (.ok false, { target with table := table })
    else (.ok existing.isSome, target)

theorem migrateDocument_of_error {e : String}
    (h : readRound runtime sha256 tenant source document target = .error e) (dryRun : Bool) :
    migrateDocument runtime sha256 tenant source document dryRun target = (.error e, target) := by
  unfold migrateDocument
  rw [h]

/-- Behind its reads, a round is the copies and the creation of the record. -/
theorem migrateDocument_of_ok {original : Buffer} {existing : Option DocumentMetadata}
    (h : readRound runtime sha256 tenant source document target = .ok (original, existing))
    (dryRun : Bool) :
    migrateDocument runtime sha256 tenant source document dryRun target =
      andThen Prod.mk (copyRound sha256 tenant source document original)
        (createIfNew runtime tenant document (sha256.hex original) existing) dryRun target := by
  unfold migrateDocument andThen createIfNew
  rw [h]
  dsimp only
  rcases copyRound sha256 tenant source document original dryRun target with ⟨_ | copied, later⟩
  · rfl
  · dsimp only
    split
    · rcases create runtime later.table
        { tenant with userId := document.uploadedBy }
        (createTargetMetadata document (sha256.hex original)) with ⟨_ | _, _⟩ <;> rfl
    · rfl

section CreateIfNew

variable {checksum : String} {existing : Option DocumentMetadata}

theorem createIfNew_dry :
    createIfNew runtime tenant document checksum existing true target =
      (.ok existing.isSome, target) := by
  unfold createIfNew
  rw [if_neg fun h => by cases h.2]

theorem createIfNew_existing {found : DocumentMetadata} (dryRun : Bool) :
    createIfNew runtime tenant document checksum (some found) dryRun target =
      (.ok true, target) := by
  unfold createIfNew
  rw [if_neg fun h => by cases h.1]
  rfl

/-- The creation is refused, or the record is behind those that were there. -/
theorem createIfNew_new (runtime : DateRuntime Instant) (tenant : DocumentTenantContext)
    (document : DocumentMetadata) (checksum : String) (target : Target Instant) :
    (∃ e, createIfNew runtime tenant document checksum none false target = (.error e, target)) ∨
      ∃ row written,
        createdRow runtime
          { tenant with userId := document.uploadedBy } (createTargetMetadata document checksum) =
            .ok row ∧
        KeyedList.find documentKey (tenant.companyId, document.id) target.table.rows = none ∧
        written.rows = target.table.rows ++ [row] ∧
        createIfNew runtime tenant document checksum none false target =
          (.ok false, { target with table := written }) := by
  unfold createIfNew
  rw [if_pos ⟨rfl, rfl⟩]
  rcases create_cases runtime target.table
      { tenant with userId := document.uploadedBy } (createTargetMetadata document checksum) with
    ⟨e, hcreate⟩ | ⟨row, written, hrow, hnew, hrows, hcreate⟩
  · left
    exact ⟨e, by rw [hcreate]⟩
  · right
    exact ⟨row, written, hrow, hnew, hrows, by rw [hcreate]⟩

/-- Behind an append, the new record is there and the others are as they were. -/
theorem look_append {row : DatabaseDocumentRecord Instant}
    {written : DocumentMetadataTable Instant}
    (hkey : documentKey row = (tenant.companyId, document.id))
    (hnew : KeyedList.find documentKey (tenant.companyId, document.id) target.table.rows = none)
    (hrows : written.rows = target.table.rows ++ [row]) (place : Place) :
    ({ target with table := written } : Target Instant).look place =
      if place = recordPlace tenant document.id then some (.inr row) else target.look place := by
  cases place with
  | inl objectKey =>
      rw [if_neg fun h => by cases h]
      rfl
  | inr recordKey =>
      show (KeyedList.find documentKey recordKey written.rows).map Sum.inr = _
      rw [hrows, KeyedList.find_append_new (by rw [hkey]; exact hnew), hkey]
      by_cases h : recordKey = (tenant.companyId, document.id)
      · have hplace : (.inr recordKey : Place) = recordPlace tenant document.id :=
          congrArg Sum.inr h
        rw [if_pos h, if_pos hplace]
        rfl
      · have hplace : (.inr recordKey : Place) ≠ recordPlace tenant document.id :=
          fun heq => h (Sum.inr.inj heq)
        rw [if_neg h, if_neg hplace]
        rfl

theorem createIfNew_frame {place : Place} (h : place ≠ recordPlace tenant document.id) :
    (createIfNew runtime tenant document checksum existing false target).2.look place =
      target.look place := by
  cases existing with
  | some found => rw [createIfNew_existing]
  | none =>
      rcases createIfNew_new runtime tenant document checksum target with
        ⟨e, hcreate⟩ | ⟨row, written, hrow, hnew, hrows, hcreate⟩
      · rw [hcreate]
      · have hkey : documentKey row = (tenant.companyId, document.id) := documentKey_of_createdRow hrow
        rw [hcreate]
        show ({ target with table := written } : Target Instant).look place = _
        rw [look_append hkey hnew hrows, if_neg h]

theorem createIfNew_grows :
    Extends Target.look target
      (createIfNew runtime tenant document checksum existing false target).2 := by
  cases existing with
  | some found =>
      rw [createIfNew_existing]
      exact Extends.refl target
  | none =>
      rcases createIfNew_new runtime tenant document checksum target with
        ⟨e, hcreate⟩ | ⟨row, written, hrow, hnew, hrows, hcreate⟩
      · rw [hcreate]
        exact Extends.refl target
      · have hkey : documentKey row = (tenant.companyId, document.id) := documentKey_of_createdRow hrow
        intro place value hvalue
        have hother : place ≠ recordPlace tenant document.id := by
          rintro rfl
          simp [Target.look, recordPlace, hnew] at hvalue
        rw [createIfNew_frame hother]
        exact hvalue

/-- Behind the end of a round, the record is there, and it is one that the next run accepts. -/
theorem createIfNew_stored {created : Bool}
    (h : (createIfNew runtime tenant document checksum none false target).1 = .ok created) :
    ∃ row, (createIfNew runtime tenant document checksum none false target).2.look
        (recordPlace tenant document.id) = some (.inr row) ∧
      Readable runtime row ∧ row.checksum = checksum := by
  rcases createIfNew_new runtime tenant document checksum target with
    ⟨e, hcreate⟩ | ⟨row, written, hrow, hnew, hrows, hcreate⟩
  · rw [hcreate] at h
    cases h
  · have hkey : documentKey row = (tenant.companyId, document.id) := documentKey_of_createdRow hrow
    refine ⟨row, ?_, readable_of_createdRow hrow, ?_⟩
    · rw [hcreate]
      show ({ target with table := written } : Target Instant).look _ = _
      rw [look_append hkey hnew hrows, if_pos rfl]
    · obtain ⟨-, -, createdAt, updatedAt, -, -, rfl⟩ :=
        createdRow_eq_ok hrow
      rfl

end CreateIfNew

/-- The places of a round. -/
def places (tenant : DocumentTenantContext) (document : DocumentMetadata) : Set Place :=
  objectPlaces tenant document ∪ {recordPlace tenant document.id}

/-- If the target has no record of the document, it takes the one that the round creates. -/
def TakesRecord (runtime : DateRuntime Instant) (sha256 : Sha256) (tenant : DocumentTenantContext)
    (source : Source) (document : DocumentMetadata) (target : Target Instant) : Prop :=
  ∀ original, source.read .original document.storedName = .ok (some original) →
    KeyedList.find documentKey (tenant.companyId, document.id) target.table.rows = none →
    Creatable runtime { tenant with userId := document.uploadedBy }
      (createTargetMetadata document (sha256.hex original))

theorem recordPlace_not_mem_objectPlaces :
    recordPlace tenant document.id ∉ objectPlaces tenant document := by
  simp [recordPlace, objectPlaces, objectPlace]

/-- The copies of a round leave its record as it is. -/
theorem copyRound_record (original : Buffer) :
    (copyRound sha256 tenant source document original false target).2.look
        (recordPlace tenant document.id) = target.look (recordPlace tenant document.id) :=
  (rehearsable_copyRound sha256 tenant source document original).frame target
    recordPlace_not_mem_objectPlaces

theorem createIfNew_of_creatable {checksum : String}
    (hnew : KeyedList.find documentKey (tenant.companyId, document.id) target.table.rows = none)
    (htakes : Creatable runtime { tenant with userId := document.uploadedBy }
      (createTargetMetadata document checksum)) :
    (createIfNew runtime tenant document checksum none false target).1 = .ok false := by
  obtain ⟨row, hrow, hbinds, hmeets⟩ := htakes
  obtain ⟨written, -, hcreate⟩ := create_of_creatable hrow hbinds hmeets hnew
  unfold createIfNew
  rw [if_pos ⟨rfl, rfl⟩, hcreate]

/-- Behind a round that has succeeded, the next one reads the record as one it goes on with. -/
theorem readRound_again {original : Buffer} {existing : Option DocumentMetadata}
    {later : Target Instant}
    (hread : readRound runtime sha256 tenant source document target = .ok (original, existing))
    {row : DatabaseDocumentRecord Instant} (hreadable : Readable runtime row)
    (hchecksum : row.checksum = sha256.hex original)
    (hlater : later.look (recordPlace tenant document.id) = some (.inr row)) :
    readRound runtime sha256 tenant source document later =
      .ok (original, some (documentOf runtime row)) := by
  obtain ⟨horiginal, hexisting, -⟩ := readRound_eq_ok.mp hread
  obtain ⟨htenant, hsafe, -⟩ := findExisting_eq_ok.mp hexisting
  rw [readRound_eq_ok, findExisting_eq_ok, look_recordPlace_eq_some.mp hlater]
  refine ⟨horiginal, ⟨htenant, hsafe, hreadable, rfl⟩, ?_⟩
  intro found hfound
  rw [← Option.some.inj hfound]
  exact hchecksum

/-- Behind a round that has succeeded, the copies are there, and so is a record with the checksum
of the original. -/
theorem migrateDocument_eq_ok {answer : Nat × Bool}
    (h : (migrateDocument runtime sha256 tenant source document false target).1 = .ok answer) :
    ∃ original existing copied row,
      readRound runtime sha256 tenant source document target = .ok (original, existing) ∧
        (copyRound sha256 tenant source document original false target).1 = .ok copied ∧
        Extends Target.look (copyRound sha256 tenant source document original false target).2
          (migrateDocument runtime sha256 tenant source document false target).2 ∧
        (migrateDocument runtime sha256 tenant source document false target).2.look
          (recordPlace tenant document.id) = some (.inr row) ∧
        Readable runtime row ∧ row.checksum = sha256.hex original := by
  cases hread : readRound runtime sha256 tenant source document target with
  | error e =>
      rw [migrateDocument_of_error hread] at h
      cases h
  | ok found =>
      obtain ⟨original, existing⟩ := found
      rw [migrateDocument_of_ok hread] at h ⊢
      cases hcopied : (copyRound sha256 tenant source document original false target).1 with
      | error e =>
          rw [andThen_of_error _ hcopied] at h
          cases h
      | ok copied =>
          rw [andThen_of_ok _ hcopied] at h ⊢
          dsimp only at h ⊢
          cases existing with
          | none =>
              cases hcreated : (createIfNew runtime tenant document (sha256.hex original) none
                  false (copyRound sha256 tenant source document original false target).2).1 with
              | error e =>
                  rw [hcreated] at h
                  cases h
              | ok created =>
                  obtain ⟨row, hrow, hreadable, hchecksum⟩ := createIfNew_stored hcreated
                  exact ⟨original, none, copied, row, rfl, hcopied, createIfNew_grows, hrow,
                    hreadable, hchecksum⟩
          | some found =>
              obtain ⟨-, hexisting, hchecksum⟩ := readRound_eq_ok.mp hread
              obtain ⟨row, hrow, hreadable, hfound⟩ := find_eq_some_of_findExisting hexisting
              have hsame : (copyRound sha256 tenant source document original false target).2.look
                  (recordPlace tenant document.id) = some (.inr row) :=
                (copyRound_record original).trans (look_recordPlace_eq_some.mpr hrow)
              have hrowChecksum : row.checksum = sha256.hex original := by
                have hdocument := hchecksum found rfl
                rw [hfound] at hdocument
                exact hdocument
              exact ⟨original, some found, copied, row, rfl, hcopied, createIfNew_grows,
                createIfNew_grows _ _ hsame, hreadable, hrowChecksum⟩

/-- A round can be rehearsed. -/
theorem rehearsable_migrateDocument (runtime : DateRuntime Instant) (sha256 : Sha256)
    (tenant : DocumentTenantContext) (source : Source) (document : DocumentMetadata) :
    Rehearsable (@Target.look Instant) (places tenant document)
      (TakesRecord runtime sha256 tenant source document) (0, true)
      (migrateDocument runtime sha256 tenant source document) where
  dry target := by
    cases hread : readRound runtime sha256 tenant source document target with
    | error e => rw [migrateDocument_of_error hread]
    | ok found =>
        obtain ⟨original, existing⟩ := found
        have hcopies := (@rehearsable_copyRound Instant sha256 tenant source document
          original).dry target
        rw [migrateDocument_of_ok hread]
        cases hcopied : (copyRound sha256 tenant source document original true target).1 with
        | error e => rw [andThen_of_error _ hcopied]; exact hcopies
        | ok copied => rw [andThen_of_ok _ hcopied, createIfNew_dry]; exact hcopies
  same target htakes := by
    cases hread : readRound runtime sha256 tenant source document target with
    | error e => rw [migrateDocument_of_error hread, migrateDocument_of_error hread]
    | ok found =>
        obtain ⟨original, existing⟩ := found
        have hcopies := (@rehearsable_copyRound Instant sha256 tenant source document
          original).same target trivial
        rw [migrateDocument_of_ok hread, migrateDocument_of_ok hread]
        cases hcopied : (copyRound sha256 tenant source document original true target).1 with
        | error e =>
            rw [andThen_of_error _ hcopied, andThen_of_error _ (hcopies.trans hcopied)]
        | ok copied =>
            rw [andThen_of_ok _ hcopied, andThen_of_ok _ (hcopies.trans hcopied),
              createIfNew_dry]
            cases existing with
            | some found =>
                rw [createIfNew_existing]
                rfl
            | none =>
                obtain ⟨horiginal, hexisting, -⟩ := readRound_eq_ok.mp hread
                have hfree := find_eq_none_of_findExisting hexisting
                have hrecord : (copyRound sha256 tenant source document original false target).2.look
                    (recordPlace tenant document.id) =
                      target.look (recordPlace tenant document.id) := copyRound_record original
                have hnew := (find_eq_of_look hrecord).trans hfree
                rw [createIfNew_of_creatable hnew (htakes original horiginal hfree)]
                rfl
  reads s t hagree := by
    have hrecord : s.look (recordPlace tenant document.id) =
        t.look (recordPlace tenant document.id) := hagree (Set.mem_union_right _ rfl)
    cases hread : readRound runtime sha256 tenant source document s with
    | error e =>
        rw [migrateDocument_of_error hread,
          migrateDocument_of_error ((readRound_congr hrecord).symm.trans hread)]
    | ok found =>
        obtain ⟨original, existing⟩ := found
        have hcopies := (@rehearsable_copyRound Instant sha256 tenant source document
          original).reads s t (hagree.mono Set.subset_union_left)
        rw [migrateDocument_of_ok hread,
          migrateDocument_of_ok ((readRound_congr hrecord).symm.trans hread)]
        cases hcopied : (copyRound sha256 tenant source document original true s).1 with
        | error e =>
            rw [andThen_of_error _ hcopied, andThen_of_error _ (hcopies.symm.trans hcopied)]
        | ok copied =>
            rw [andThen_of_ok _ hcopied, andThen_of_ok _ (hcopies.symm.trans hcopied),
              createIfNew_dry, createIfNew_dry]
  pre_reads s t hagree := by
    have hrecord := find_eq_of_look (hagree (Set.mem_union_right _ rfl) :
      s.look (recordPlace tenant document.id) = t.look (recordPlace tenant document.id))
    unfold TakesRecord
    rw [hrecord]
  frame target := by
    cases hread : readRound runtime sha256 tenant source document target with
    | error e =>
        rw [migrateDocument_of_error hread]
        exact Set.eqOn_refl _ _
    | ok found =>
        obtain ⟨original, existing⟩ := found
        have hcopies := (@rehearsable_copyRound Instant sha256 tenant source document
          original).frame target
        intro place hplace
        have hobjects : place ∉ objectPlaces tenant document :=
          fun h => hplace (Set.mem_union_left _ h)
        have hrecord : place ≠ recordPlace tenant document.id :=
          fun h => hplace (Set.mem_union_right _ h)
        rw [migrateDocument_of_ok hread]
        cases hcopied : (copyRound sha256 tenant source document original false target).1 with
        | error e => rw [andThen_of_error _ hcopied]; exact hcopies hobjects
        | ok copied =>
            rw [andThen_of_ok _ hcopied]
            exact (createIfNew_frame hrecord).trans (hcopies hobjects)
  grows target := by
    cases hread : readRound runtime sha256 tenant source document target with
    | error e =>
        rw [migrateDocument_of_error hread]
        exact Extends.refl target
    | ok found =>
        obtain ⟨original, existing⟩ := found
        have hcopies := (@rehearsable_copyRound Instant sha256 tenant source document
          original).grows target
        rw [migrateDocument_of_ok hread]
        cases hcopied : (copyRound sha256 tenant source document original false target).1 with
        | error e => rw [andThen_of_error _ hcopied]; exact hcopies
        | ok copied => rw [andThen_of_ok _ hcopied]; exact hcopies.trans createIfNew_grows
  settled target answer hok later hext := by
    obtain ⟨original, existing, copied, row, hread, hcopied, hcopies, hrow, hreadable, hchecksum⟩ :=
      migrateDocument_eq_ok hok
    have hquiet := (@rehearsable_copyRound Instant sha256 tenant source document original).settled
      target copied hcopied later (hcopies.trans hext)
    have hagain := readRound_again hread hreadable hchecksum (hext _ _ hrow)
    rw [migrateDocument_of_ok hagain, andThen_of_ok _ (congrArg Prod.fst hquiet), hquiet]
    dsimp only
    rw [createIfNew_existing]
    rfl

/-! ## The whole migration -/

/-- The report, with what the rounds have answered. -/
def DocumentMigrationReport.addAll :
    DocumentMigrationReport → List DocumentMetadata → List (Except String (Nat × Bool)) →
      DocumentMigrationReport
  | report, document :: documents, answer :: answers =>
    (report.add document.id answer).addAll documents answers
  | report, _, _ => report

/-- The report, with what the copy of the history has answered. -/
def DocumentMigrationReport.addHistory (report : DocumentMigrationReport) :
    Except String Nat → DocumentMigrationReport
  | .error _ => { report with failed := report.failed ++ ["knowledge-history"] }
  | .ok copied => { report with objectsCopied := report.objectsCopied + copied }

/-- The answers of the rounds, and the target behind them. -/
def rounds (runtime : DateRuntime Instant) (sha256 : Sha256) (tenant : DocumentTenantContext)
    (source : Source) (dryRun : Bool) (target : Target Instant) :
    List (Except String (Nat × Bool)) × Target Instant :=
  attempt (migrateDocument runtime sha256 tenant source) dryRun source.documents target

/-- The copy of the history. -/
def copyHistory (sha256 : Sha256) (tenant : DocumentTenantContext) (source : Source) :
    Step (Target Instant) String Nat :=
  copyIfPresent sha256 tenant source .history "knowledge-history.json"

theorem migrateFrom_eq (dryRun : Bool) (report : DocumentMigrationReport) (target : Target Instant)
    (documents : List DocumentMetadata) :
    migrateFrom runtime sha256 tenant source dryRun report target documents =
      (report.addAll documents
          (attempt (migrateDocument runtime sha256 tenant source) dryRun documents target).1,
        (attempt (migrateDocument runtime sha256 tenant source) dryRun documents target).2) := by
  induction documents generalizing report target with
  | nil => rfl
  | cons document documents ih => exact ih _ _

theorem migrateDocuments_eq (dryRun : Bool) (target : Target Instant) :
    migrateDocuments runtime sha256 tenant source dryRun target =
      (((emptyReport dryRun).addAll source.documents
          (rounds runtime sha256 tenant source dryRun target).1).addHistory
          (copyHistory sha256 tenant source dryRun
            (rounds runtime sha256 tenant source dryRun target).2).1,
        (copyHistory sha256 tenant source dryRun
          (rounds runtime sha256 tenant source dryRun target).2).2) := by
  unfold migrateDocuments
  rw [migrateFrom_eq]
  dsimp only
  unfold migrateHistory copyHistory rounds
  rcases copyIfPresent sha256 tenant source .history "knowledge-history.json" dryRun
    (attempt (migrateDocument runtime sha256 tenant source) dryRun source.documents target).2 with
    ⟨_ | _, _⟩ <;> rfl

/-! ### The reports -/

theorem addAll_dryRun {report : DocumentMigrationReport} {documents : List DocumentMetadata}
    {answers : List (Except String (Nat × Bool))} {dryRun : Bool} :
    ({ report with dryRun := dryRun } : DocumentMigrationReport).addAll documents answers =
      { report.addAll documents answers with dryRun := dryRun } := by
  induction documents generalizing report answers with
  | nil => rfl
  | cons document documents ih =>
      cases answers with
      | nil => rfl
      | cons answer answers =>
          have hadd : ({ report with dryRun := dryRun } : DocumentMigrationReport).add document.id
              answer = { report.add document.id answer with dryRun := dryRun } := by
            cases answer with
            | error e => rfl
            | ok found =>
                unfold DocumentMigrationReport.add
                dsimp only
                split <;> rfl
          show (DocumentMigrationReport.add _ document.id answer).addAll documents answers = _
          rw [hadd, ih]
          rfl

/-- A report without failures comes from rounds without failures. -/
theorem ok_of_failed_addAll {report : DocumentMigrationReport} {documents : List DocumentMetadata}
    {answers : List (Except String (Nat × Bool))} (hlength : answers.length = documents.length)
    (h : (report.addAll documents answers).failed = []) :
    report.failed = [] ∧ ∀ answer ∈ answers, ∃ found, answer = .ok found := by
  induction documents generalizing report answers with
  | nil =>
      rw [List.length_nil, List.length_eq_zero_iff] at hlength
      subst hlength
      exact ⟨h, fun answer hanswer => by cases hanswer⟩
  | cons document documents ih =>
      cases answers with
      | nil => cases hlength
      | cons answer answers =>
          obtain ⟨hfailed, hrest⟩ := ih (Nat.succ.inj hlength) h
          cases answer with
          | error e =>
              have hlonger : report.failed ++ [document.id] = [] := hfailed
              simp at hlonger
          | ok found =>
              have hreport : (report.add document.id (.ok found)).failed = report.failed := by
                unfold DocumentMigrationReport.add
                dsimp only
                split <;> rfl
              rw [hreport] at hfailed
              refine ⟨hfailed, ?_⟩
              intro other hother
              rcases List.mem_cons.mp hother with rfl | hother
              · exact ⟨found, rfl⟩
              · exact hrest other hother

theorem addAll_skipped {report : DocumentMigrationReport} {documents : List DocumentMetadata} :
    report.addAll documents (List.replicate documents.length (.ok (0, true))) =
      { report with skipped := report.skipped ++ documents.map (·.id) } := by
  induction documents generalizing report with
  | nil => simp [DocumentMigrationReport.addAll]
  | cons document documents ih =>
      have hadd : report.add document.id (.ok (0, true)) =
          { report with skipped := report.skipped ++ [document.id] } := by
        unfold DocumentMigrationReport.add
        dsimp only
        rw [if_pos ⟨rfl, rfl⟩, Nat.add_zero]
      show (report.add document.id (.ok (0, true))).addAll documents
        (List.replicate documents.length (.ok (0, true))) = _
      rw [ih, hadd]
      simp

/-! ### Places of their own -/

theorem append_left_injective (extension : String) {id other : String}
    (h : id ++ extension = other ++ extension) : id = other := by
  have hlists := congrArg String.toList h
  rw [String.toList_append, String.toList_append] at hlists
  exact String.toList_inj.mp (List.append_cancel_right hlists)

/-- Documents with other names and identifiers have places of their own. -/
theorem disjoint_places {other : DocumentMetadata} (hname : document.storedName ≠ other.storedName)
    (hid : document.id ≠ other.id) : Disjoint (places tenant document) (places tenant other) := by
  have htext : document.id ++ ".txt" ≠ other.id ++ ".txt" :=
    fun h => hid (append_left_injective ".txt" h)
  have hchunks : document.id ++ ".json" ≠ other.id ++ ".json" :=
    fun h => hid (append_left_injective ".json" h)
  rw [Set.disjoint_left]
  intro place hplace hother
  simp only [places, objectPlaces, objectPlace, recordPlace, Set.mem_union,
    Set.mem_singleton_iff] at hplace hother
  rcases hplace with (rfl | rfl | rfl) | rfl
  · simp [hname] at hother
  · simp [htext] at hother
  · simp [hchunks] at hother
  · simp [hid] at hother

theorem disjoint_history :
    Disjoint (places tenant document) {objectPlace tenant .history "knowledge-history.json"} := by
  rw [Set.disjoint_singleton_right]
  simp [places, objectPlaces, objectPlace, recordPlace]

/-! ### The result -/

/-- The copy of the history can be rehearsed. -/
theorem rehearsable_copyHistory (sha256 : Sha256) (tenant : DocumentTenantContext)
    (source : Source) :
    Rehearsable (@Target.look Instant) {objectPlace tenant .history "knowledge-history.json"}
      (fun _ => True) 0 (copyHistory sha256 tenant source) :=
  rehearsable_copyIfPresent sha256 tenant source .history "knowledge-history.json"

theorem migrateDocuments_dry :
    (migrateDocuments runtime sha256 tenant source true target).2 = target := by
  have hrounds : (rounds runtime sha256 tenant source true target).2 = target :=
    attempt_dry fun document => rehearsable_migrateDocument runtime sha256 tenant source document
  rw [migrateDocuments_eq]
  dsimp only
  rw [hrounds]
  exact (rehearsable_copyHistory sha256 tenant source).dry target

/-- The dry run reports what the real run reports. -/
theorem migrateDocuments_same (hnames : (source.documents.map (·.storedName)).Nodup)
    (hids : (source.documents.map (·.id)).Nodup)
    (htakes : ∀ document ∈ source.documents,
      TakesRecord runtime sha256 tenant source document target) :
    (migrateDocuments runtime sha256 tenant source false target).1 =
      { (migrateDocuments runtime sha256 tenant source true target).1 with dryRun := false } := by
  have hround (document : DocumentMetadata) :=
    @rehearsable_migrateDocument Instant runtime sha256 tenant source document
  have hdisjoint : source.documents.Pairwise
      fun document other => Disjoint (places tenant document) (places tenant other) :=
    (List.pairwise_map.mp hnames).imp₂ (fun _ _ hname hid => disjoint_places hname hid)
      (List.pairwise_map.mp hids)
  have hanswers : (rounds runtime sha256 tenant source false target).1 =
      (rounds runtime sha256 tenant source true target).1 :=
    attempt_same hround hdisjoint htakes
  have hhistory : (copyHistory sha256 tenant source false
        (rounds runtime sha256 tenant source false target).2).1 =
      (copyHistory sha256 tenant source true
        (rounds runtime sha256 tenant source true target).2).1 := by
    have hdry : (rounds runtime sha256 tenant source true target).2 = target := attempt_dry hround
    have hframe : AgreeOn Target.look {objectPlace tenant .history "knowledge-history.json"}
        (rounds runtime sha256 tenant source false target).2 target :=
      attempt_frame hround fun document _ => disjoint_history
    rw [hdry, (rehearsable_copyHistory sha256 tenant source).same _ trivial]
    exact (rehearsable_copyHistory sha256 tenant source).reads _ _ hframe
  rw [migrateDocuments_eq, migrateDocuments_eq, hanswers, hhistory]
  dsimp only
  have hreport : emptyReport false = { emptyReport true with dryRun := false } := rfl
  rw [hreport, addAll_dryRun]
  cases (copyHistory sha256 tenant source true
    (rounds runtime sha256 tenant source true target).2).1 <;> rfl

/-- After a run without failures, a second one skips every document. -/
theorem migrateDocuments_again
    (h : (migrateDocuments runtime sha256 tenant source false target).1.failed = []) :
    migrateDocuments runtime sha256 tenant source false
        (migrateDocuments runtime sha256 tenant source false target).2 =
      ({ emptyReport false with skipped := source.documents.map (·.id) },
        (migrateDocuments runtime sha256 tenant source false target).2) := by
  have hround (document : DocumentMetadata) :=
    @rehearsable_migrateDocument Instant runtime sha256 tenant source document
  rw [migrateDocuments_eq false target] at h ⊢
  dsimp only at h ⊢
  have hhistory := @rehearsable_copyHistory Instant sha256 tenant source
  cases hcopied : (copyHistory sha256 tenant source false
      (rounds runtime sha256 tenant source false target).2).1 with
  | error e =>
      rw [hcopied] at h
      have hlonger : ((emptyReport false).addAll source.documents
        (rounds runtime sha256 tenant source false target).1).failed ++ ["knowledge-history"] = [] := h
      simp at hlonger
  | ok copied =>
      rw [hcopied] at h
      have hlength : (rounds runtime sha256 tenant source false target).1.length =
          source.documents.length := length_attempt
      have hok := (ok_of_failed_addAll hlength h).2
      -- the objects and records of the rounds are still there behind the copy of the history
      have hagain : rounds runtime sha256 tenant source false
            (copyHistory sha256 tenant source false
              (rounds runtime sha256 tenant source false target).2).2 =
          (List.replicate source.documents.length (.ok (0, true)),
            (copyHistory sha256 tenant source false
              (rounds runtime sha256 tenant source false target).2).2) :=
        attempt_again hround hok (hhistory.grows _)
      have hquiet := hhistory.settled _ copied hcopied _ (Extends.refl _)
      rw [migrateDocuments_eq, hagain]
      dsimp only
      rw [hquiet, addAll_skipped]
      rfl

/-- A dry run writes nothing.  It reports what the real run reports when no two documents share
a stored name or an identifier, and the target takes each record that is to be created.  After a
run without failures, a second one writes nothing and skips every document. -/
theorem rehearsed_and_repeatable (runtime : DateRuntime Instant) (sha256 : Sha256)
    (tenant : DocumentTenantContext) (source : Source) (target : Target Instant) :
    (migrateDocuments runtime sha256 tenant source true target).2 = target ∧
      ((source.documents.map (·.storedName)).Nodup → (source.documents.map (·.id)).Nodup →
        (∀ document ∈ source.documents,
          TakesRecord runtime sha256 tenant source document target) →
        (migrateDocuments runtime sha256 tenant source false target).1 =
          { (migrateDocuments runtime sha256 tenant source true target).1 with
            dryRun := false }) ∧
      ((migrateDocuments runtime sha256 tenant source false target).1.failed = [] →
        migrateDocuments runtime sha256 tenant source false
            (migrateDocuments runtime sha256 tenant source false target).2 =
          ({ emptyReport false with skipped := source.documents.map (·.id) },
            (migrateDocuments runtime sha256 tenant source false target).2)) :=
  ⟨migrateDocuments_dry, migrateDocuments_same, migrateDocuments_again⟩

end

/-! ## Sources whose dry run says something else -/

/-- The digests of two one-letter files. -/
def letterSha256 : Sha256 where
  hex data :=
    if data = [97] then "ca978112ca1bbdcafac231b39a23dc4da786eff8147c4e72b9807785afee48bb"
    else if data = [98] then "3e23e8160039594a33894f6564e1b1348bbd7a0088d42c4acb73eeaed59c009d"
    else unverifiedDocumentChecksum
  isHex data := by
    split
    · decide
    · split
      · decide
      · decide

/-- A target with nothing in it. -/
def emptyTarget : Target Unit where
  objects _ := none
  table := { rows := [], keys := by simp [KeyedList.Distinct], constraints := by simp }

/-- A source with the originals of two stored names, and no texts. -/
def letterSource (documents : List DocumentMetadata) : Source where
  documents := documents
  read kind key :=
    match kind with
    | .original =>
      if key = "document-1.pdf" then .ok (some [97])
      else if key = "document-2.pdf" then .ok (some [98])
      else .ok none
    | _ => .ok none

/-- Two documents with a record and a file of their own. -/
def twoDocuments : Source :=
  letterSource [uploadedDocument,
    { uploadedDocument with id := "document-2", storedName := "document-2.pdf" }]

/-- Two files under one identifier. -/
def sharedId : Source :=
  letterSource [uploadedDocument, { uploadedDocument with storedName := "document-2.pdf" }]

/-- A record that the list of a file shows and `create` refuses. -/
def fractionalAttempts : Source :=
  letterSource [{ uploadedDocument with processingAttempts := .finite (3 / 2) }]

theorem creatable_twoDocuments :
    Creatable oneDateRuntime { acme with userId := uploadedDocument.uploadedBy }
        (createTargetMetadata uploadedDocument (letterSha256.hex [97])) ∧
      Creatable oneDateRuntime { acme with userId := uploadedDocument.uploadedBy }
        (createTargetMetadata
          { uploadedDocument with id := "document-2", storedName := "document-2.pdf" }
          (letterSha256.hex [98])) :=
  ⟨by decide, by decide⟩

theorem takesRecord_twoDocuments : ∀ document ∈ twoDocuments.documents,
    TakesRecord oneDateRuntime letterSha256 acme twoDocuments document emptyTarget := by
  intro document hdocument original horiginal _
  rcases List.mem_cons.mp hdocument with rfl | hsecond
  · have hletter : original = [97] := (Option.some.inj (Except.ok.inj horiginal)).symm
    rw [hletter]
    exact creatable_twoDocuments.1
  · rw [List.mem_singleton.mp hsecond] at horiginal ⊢
    have hletter : original = [98] := (Option.some.inj (Except.ok.inj horiginal)).symm
    rw [hletter]
    exact creatable_twoDocuments.2

theorem rehearsed_and_repeatable_twoDocuments :
    (migrateDocuments oneDateRuntime letterSha256 acme twoDocuments true emptyTarget).2 =
        emptyTarget ∧
      (migrateDocuments oneDateRuntime letterSha256 acme twoDocuments false emptyTarget).1 =
        { (migrateDocuments oneDateRuntime letterSha256 acme twoDocuments true emptyTarget).1 with
          dryRun := false } ∧
      migrateDocuments oneDateRuntime letterSha256 acme twoDocuments false
          (migrateDocuments oneDateRuntime letterSha256 acme twoDocuments false emptyTarget).2 =
        ({ emptyReport false with skipped := ["document-1", "document-2"] },
          (migrateDocuments oneDateRuntime letterSha256 acme twoDocuments false emptyTarget).2) := by
  obtain ⟨hdry, hsame, hagain⟩ :=
    rehearsed_and_repeatable oneDateRuntime letterSha256 acme twoDocuments emptyTarget
  have hreport := hsame (by decide) (by decide) takesRecord_twoDocuments
  refine ⟨hdry, hreport, hagain ?_⟩
  rw [hreport]
  decide

theorem runs_sharedId :
    (migrateDocuments oneDateRuntime letterSha256 acme sharedId true emptyTarget).1 =
        { dryRun := true, migrated := ["document-1", "document-1"], skipped := [], failed := [],
          objectsCopied := 2 } ∧
      (migrateDocuments oneDateRuntime letterSha256 acme sharedId false emptyTarget).1 =
        { dryRun := false, migrated := ["document-1"], skipped := [], failed := ["document-1"],
          objectsCopied := 1 } :=
  ⟨by decide, by decide⟩

theorem runs_fractionalAttempts :
    (migrateDocuments oneDateRuntime letterSha256 acme fractionalAttempts true emptyTarget).1 =
        { dryRun := true, migrated := ["document-1"], skipped := [], failed := [],
          objectsCopied := 1 } ∧
      (migrateDocuments oneDateRuntime letterSha256 acme fractionalAttempts false
          emptyTarget).1 =
        { dryRun := false, migrated := [], skipped := [], failed := ["document-1"],
          objectsCopied := 0 } :=
  ⟨by decide +kernel, by decide +kernel⟩

/-- With two files under one identifier, and with a record that cannot be created, the dry run
announces documents that the real run fails to migrate. -/
theorem dry_run_announces_failures :
    ((sharedId.documents.map (·.storedName)).Nodup ∧
      (migrateDocuments oneDateRuntime letterSha256 acme sharedId true emptyTarget).1 =
        { dryRun := true, migrated := ["document-1", "document-1"], skipped := [], failed := [],
          objectsCopied := 2 } ∧
      (migrateDocuments oneDateRuntime letterSha256 acme sharedId false emptyTarget).1 =
        { dryRun := false, migrated := ["document-1"], skipped := [], failed := ["document-1"],
          objectsCopied := 1 }) ∧
      (migrateDocuments oneDateRuntime letterSha256 acme fractionalAttempts true emptyTarget).1 =
        { dryRun := true, migrated := ["document-1"], skipped := [], failed := [],
          objectsCopied := 1 } ∧
      (migrateDocuments oneDateRuntime letterSha256 acme fractionalAttempts false emptyTarget).1 =
        { dryRun := false, migrated := [], skipped := [], failed := ["document-1"],
          objectsCopied := 0 } :=
  ⟨⟨by simp [sharedId, letterSource, uploadedDocument], runs_sharedId⟩, runs_fractionalAttempts⟩

end AvantimePlatform.Documents.Record.Migration
