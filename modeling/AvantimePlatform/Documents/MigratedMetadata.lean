import AvantimePlatform.Documents.MigrationRehearsal

/-!
# The records of a migration

* `carried` is the part of a record that a migration is to carry over.
* `carried_created`: the record that a round creates is the one of the source with the fields
  that `createTargetMetadata` leaves out at their defaults.
* `createdFrom_attempt`: behind the rounds, every record is one that a round has created.
* `records_carried_iff` says when every document keeps its record.
-/

namespace AvantimePlatform.Documents.Record.Migration

open AvantimePlatform.Checked AvantimePlatform.Documents AvantimePlatform.Rehearsal
  PostgreSQLDocumentMetadataRepository

section

variable {Instant : Type} {runtime : DateRuntime Instant} {sha256 : Sha256}
  {tenant : DocumentTenantContext} {source : Source} {document : DocumentMetadata}
  {target : Target Instant}

/-! ## What is carried over -/

/-- A date, as the runtime writes it. -/
def sameDate (runtime : DateRuntime Instant) (value : String) : String :=
  ((runtime.parse value).map runtime.toISOString).getD value

/-- The date of a member, as the runtime writes it. -/
def sameDate? (runtime : DateRuntime Instant) (value : Option String) : Option String :=
  (value.bind runtime.parse).map runtime.toISOString

/-- A record without its checksum, its workers, leases and heartbeats.  Dates are as the runtime
writes them, and a member that is left out is `null`, or the token 0. -/
def carried (runtime : DateRuntime Instant) (document : DocumentMetadata) : DocumentMetadata :=
  { document with
    checksum := ""
    createdAt := sameDate runtime document.createdAt
    updatedAt := sameDate runtime document.updatedAt
    processingStartedAt := sameDate? runtime document.processingStartedAt
    processingCompletedAt := sameDate? runtime document.processingCompletedAt
    nextRetryAt := sameDate? runtime document.nextRetryAt
    quarantinedAt := sameDate? runtime document.quarantinedAt
    workerId := none
    workerVersion := some document.workerVersion.join
    deploymentGeneration := some document.deploymentGeneration.join
    processingFencingToken := some (document.processingFencingToken.getD (.finite 0))
    workerHeartbeatAt := some none
    processingLeaseUntil := some none
    ocrStartedAt := sameDate? runtime document.ocrStartedAt
    ocrCompletedAt := sameDate? runtime document.ocrCompletedAt
    embeddedAt := sameDate? runtime document.embeddedAt
    embeddingWorkerId := some none
    embeddingWorkerVersion := some document.embeddingWorkerVersion.join
    embeddingDeploymentGeneration := some document.embeddingDeploymentGeneration.join
    embeddingFencingToken := some (document.embeddingFencingToken.getD (.finite 0))
    embeddingHeartbeatAt := some none
    embeddingLeaseUntil := some none }

/-- A record with the fields that `createTargetMetadata` leaves out at their defaults. -/
def withDefaults (document : DocumentMetadata) : DocumentMetadata :=
  { document with
    toDocumentIntelligenceMetadata := defaultDocumentIntelligenceMetadata
    workerVersion := some none
    deploymentGeneration := some none
    processingFencingToken := some (.finite 0)
    embeddingStatus := .pending
    embeddingModel := none
    embeddingDimensions := none
    embeddingVersion := none
    embeddedAt := none
    embeddingAttempts := .finite 0
    lastEmbeddingErrorCode := none
    embeddingContentHash := none
    embeddingWorkerVersion := some none
    embeddingDeploymentGeneration := some none
    embeddingFencingToken := some (.finite 0) }

/-- The detection, OCR and review fields say what those of a new document say. -/
structure NotInspected (runtime : DateRuntime Instant) (document : DocumentMetadata) : Prop where
  detectedDocumentType : document.detectedDocumentType = .unknown
  detectedMimeType : document.detectedMimeType = none
  detectionConfidence : document.detectionConfidence = none
  textExtractionMethod : document.textExtractionMethod = .none
  ocrStatus : document.ocrStatus = .pending
  ocrProvider : document.ocrProvider = none
  ocrLanguage : document.ocrLanguage = none
  ocrStartedAt : document.ocrStartedAt.bind runtime.parse = none
  ocrCompletedAt : document.ocrCompletedAt.bind runtime.parse = none
  pageCount : document.pageCount = none
  extractedCharacterCount : document.extractedCharacterCount = none
  requiresManualReview : document.requiresManualReview = true
  intelligenceVersion : document.intelligenceVersion = "document-intelligence-v1"

/-- No worker has been at the document: its versions, its tokens and its embedding are those of
a new one. -/
structure NotWorkedOn (runtime : DateRuntime Instant) (document : DocumentMetadata) : Prop where
  workerVersion : document.workerVersion.join = none
  deploymentGeneration : document.deploymentGeneration.join = none
  processingFencingToken : document.processingFencingToken.getD (.finite 0) = .finite 0
  embeddingStatus : document.embeddingStatus = .pending
  embeddingModel : document.embeddingModel = none
  embeddingDimensions : document.embeddingDimensions = none
  embeddingVersion : document.embeddingVersion = none
  embeddedAt : document.embeddedAt.bind runtime.parse = none
  embeddingAttempts : document.embeddingAttempts = .finite 0
  lastEmbeddingErrorCode : document.lastEmbeddingErrorCode = none
  embeddingContentHash : document.embeddingContentHash = none
  embeddingWorkerVersion : document.embeddingWorkerVersion.join = none
  embeddingDeploymentGeneration : document.embeddingDeploymentGeneration.join = none
  embeddingFencingToken : document.embeddingFencingToken.getD (.finite 0) = .finite 0

theorem sameDate_toISOString (date : Instant) :
    sameDate runtime (runtime.toISOString date) = runtime.toISOString date := by
  unfold sameDate
  rw [runtime.parse_toISOString]
  rfl

theorem sameDate_of_parse {value : String} {date : Instant} (h : runtime.parse value = some date) :
    sameDate runtime value = runtime.toISOString date := by
  unfold sameDate
  rw [h]
  rfl

theorem sameDate?_none : sameDate? runtime none = none := rfl

theorem sameDate?_eq_none {value : Option String} :
    sameDate? runtime value = none ↔ value.bind runtime.parse = none := by
  unfold sameDate?
  exact Option.map_eq_none_iff

/-- A date that has been through a column. -/
theorem sameDate?_dateCell (value : Option String) :
    sameDate? runtime ((dateCell runtime value).map runtime.toISOString) =
      sameDate? runtime value := by
  unfold sameDate? dateCell
  cases value.bind runtime.parse with
  | none => rfl
  | some date =>
      show (runtime.parse (runtime.toISOString date)).map runtime.toISOString = _
      rw [runtime.parse_toISOString]

theorem carried_withDefaults_eq :
    carried runtime (withDefaults document) = withDefaults (carried runtime document) := rfl

/-- The defaults are what the document has. -/
theorem carried_withDefaults :
    carried runtime (withDefaults document) = carried runtime document ↔
      NotInspected runtime document ∧ NotWorkedOn runtime document := by
  rw [DocumentMetadata.ext_iff]
  simp only [carried, withDefaults, defaultDocumentIntelligenceMetadata, sameDate?_none,
    Option.join_some, Option.getD_some, Option.some.injEq, true_and, and_true]
  constructor
  · rintro ⟨h1, h2, h3, h4, h5, h6, h7, h8, h9, h10, h11, h12, h13, g1, g2, g3, g4, g5, g6, g7,
      g8, g9, g10, g11, g12, g13, g14⟩
    exact ⟨⟨h1.symm, h2.symm, h3.symm, h4.symm, h5.symm, h6.symm, h7.symm,
        sameDate?_eq_none.mp h8.symm, sameDate?_eq_none.mp h9.symm, h10.symm, h11.symm, h12.symm,
        h13.symm⟩,
      ⟨g1.symm, g2.symm, g3.symm, g4.symm, g5.symm, g6.symm, g7.symm, sameDate?_eq_none.mp g8.symm,
        g9.symm, g10.symm, g11.symm, g12.symm, g13.symm, g14.symm⟩⟩
  · rintro ⟨h, g⟩
    exact ⟨h.1.symm, h.2.symm, h.3.symm, h.4.symm, h.5.symm, h.6.symm, h.7.symm,
      (sameDate?_eq_none.mpr h.8).symm, (sameDate?_eq_none.mpr h.9).symm, h.10.symm, h.11.symm,
      h.12.symm, h.13.symm, g.1.symm, g.2.symm, g.3.symm, g.4.symm, g.5.symm, g.6.symm, g.7.symm,
      (sameDate?_eq_none.mpr g.8).symm, g.9.symm, g.10.symm, g.11.symm, g.12.symm, g.13.symm,
      g.14.symm⟩

/-- A member that is given, as `createTargetMetadata` hands it on. -/
theorem join_given {α : Type} (value : Option α) :
    (value.bind fun given => some (some given)).join = value := by
  cases value <;> rfl

/-- The record that a round creates. -/
theorem carried_created {checksum : String} {row : DatabaseDocumentRecord Instant}
    (hcompany : document.companyId = tenant.companyId) (hlive : document.deletedAt = none)
    (h : createdRow runtime { tenant with userId := document.uploadedBy }
      (createTargetMetadata document checksum) = .ok row) :
    carried runtime (documentOf runtime row) = carried runtime (withDefaults document) := by
  obtain ⟨-, -, createdAt, updatedAt, hcreated, hupdated, rfl⟩ := createdRow_eq_ok h
  have hcreatedAt : sameDate runtime document.createdAt = runtime.toISOString createdAt :=
    sameDate_of_parse hcreated
  have hupdatedAt : sameDate runtime document.updatedAt = runtime.toISOString updatedAt :=
    sameDate_of_parse hupdated
  have hattempts : isCounter (.finite 0) = true := by decide
  rw [DocumentMetadata.ext_iff]
  simp [carried, withDefaults, documentOf, insertedRow, withProcessingDefaults,
    createTargetMetadata, sameDate_toISOString, sameDate?_dateCell, hcreatedAt, hupdatedAt,
    hcompany, hlive, sameDate?_none, defaultDocumentIntelligenceMetadata, join_given, hattempts]

/-! ## Behind the rounds -/

/-- Every record of the target is one that a round for a document of the list has created. -/
def CreatedFrom (runtime : DateRuntime Instant) (tenant : DocumentTenantContext)
    (documents : List DocumentMetadata) (target : Target Instant) : Prop :=
  ∀ key row, target.look (.inr key) = some (.inr row) →
    ∃ document ∈ documents, ∃ checksum,
      createdRow runtime { tenant with userId := document.uploadedBy }
        (createTargetMetadata document checksum) = .ok row

theorem createdFrom_createIfNew {documents : List DocumentMetadata} {checksum : String}
    {existing : Option DocumentMetadata} (h : CreatedFrom runtime tenant documents target)
    (hdocument : document ∈ documents) :
    CreatedFrom runtime tenant documents
      (createIfNew runtime tenant document checksum existing false target).2 := by
  cases existing with
  | some found =>
      rw [createIfNew_existing]
      exact h
  | none =>
      rcases createIfNew_new runtime tenant document checksum target with
        ⟨e, hcreate⟩ | ⟨row, written, hrow, hnew, hrows, hcreate⟩
      · rw [hcreate]
        exact h
      · have hkey : documentKey row = (tenant.companyId, document.id) := documentKey_of_createdRow hrow
        intro key found hfound
        rw [hcreate] at hfound
        rw [look_append hkey hnew hrows] at hfound
        split at hfound
        · refine ⟨document, hdocument, checksum, ?_⟩
          rw [← Sum.inr.inj (Option.some.inj hfound)]
          exact hrow
        · exact h key found hfound

theorem createdFrom_copyRound {documents : List DocumentMetadata} (sha256 : Sha256)
    (source : Source) (document : DocumentMetadata) (original : Buffer)
    (h : CreatedFrom runtime tenant documents target) :
    CreatedFrom runtime tenant documents
      (copyRound sha256 tenant source document original false target).2 := by
  intro key row hrow
  have hframe : (copyRound sha256 tenant source document original false target).2.look (.inr key) =
      target.look (.inr key) :=
    (rehearsable_copyRound sha256 tenant source document original).frame target
      (by simp [objectPlaces, objectPlace])
  exact h key row (hframe.symm.trans hrow)

/-- A round creates a record for its document, or none. -/
theorem createdFrom_migrateDocument {documents : List DocumentMetadata}
    (h : CreatedFrom runtime tenant documents target) (hdocument : document ∈ documents) :
    CreatedFrom runtime tenant documents
      (migrateDocument runtime sha256 tenant source document false target).2 := by
  cases hread : readRound runtime sha256 tenant source document target with
  | error e =>
      rw [migrateDocument_of_error hread]
      exact h
  | ok found =>
      obtain ⟨original, existing⟩ := found
      have hcopies := createdFrom_copyRound sha256 source document original h
      rw [migrateDocument_of_ok hread]
      cases hcopied : (copyRound sha256 tenant source document original false target).1 with
      | error e =>
          rw [andThen_of_error _ hcopied]
          exact hcopies
      | ok copied =>
          rw [andThen_of_ok _ hcopied]
          exact createdFrom_createIfNew hcopies hdocument

/-- The rounds create records for their documents only. -/
theorem createdFrom_attempt (sha256 : Sha256) (source : Source)
    {documents rest : List DocumentMetadata} (h : CreatedFrom runtime tenant documents target)
    (hrest : ∀ document ∈ rest, document ∈ documents) :
    CreatedFrom runtime tenant documents
      (attempt (migrateDocument runtime sha256 tenant source) false rest target).2 := by
  induction rest generalizing target with
  | nil => exact h
  | cons document rest ih =>
      exact ih (createdFrom_migrateDocument h (hrest document List.mem_cons_self))
        (fun other hother => hrest other (List.mem_cons_of_mem document hother))

/-- Behind rounds that have all succeeded, each document has a record that can be read. -/
theorem stored_attempt {documents : List DocumentMetadata}
    (hok : ∀ answer ∈ (attempt (migrateDocument runtime sha256 tenant source) false documents
      target).1, ∃ found, answer = .ok found) :
    ∀ document ∈ documents, assertDocumentTenantContext tenant = .ok () ∧
      isSafeDocumentSegment document.id = true ∧
      ∃ row, (attempt (migrateDocument runtime sha256 tenant source) false documents target).2.look
        (recordPlace tenant document.id) = some (.inr row) ∧ Readable runtime row := by
  induction documents generalizing target with
  | nil =>
      intro document hdocument
      cases hdocument
  | cons first rest ih =>
      have hgrows : Extends Target.look
          (migrateDocument runtime sha256 tenant source first false target).2
          (attempt (migrateDocument runtime sha256 tenant source) false (first :: rest)
            target).2 :=
        attempt_grows fun document =>
          rehearsable_migrateDocument runtime sha256 tenant source document
      intro document hdocument
      rcases List.mem_cons.mp hdocument with rfl | hlater
      · obtain ⟨answer, hanswer⟩ := hok _ List.mem_cons_self
        obtain ⟨original, existing, copied, row, hread, -, -, hrow, hreadable, -⟩ :=
          migrateDocument_eq_ok hanswer
        obtain ⟨-, hexisting, -⟩ := readRound_eq_ok.mp hread
        obtain ⟨htenant, hsafe, -⟩ := findExisting_eq_ok.mp hexisting
        exact ⟨htenant, hsafe, row, hgrows _ _ hrow, hreadable⟩
      · exact ih (fun other hother => hok other (List.mem_cons_of_mem _ hother)) document hlater

/-! ## The result -/

/-- What `list` of the source lists: live documents of the tenant. -/
def Source.Lists (source : Source) (tenant : DocumentTenantContext) : Prop :=
  ∀ document ∈ source.documents, document.companyId = tenant.companyId ∧ document.deletedAt = none

/-- Behind the migration, the record of the document says what that of the source says. -/
def KeepsRecord (runtime : DateRuntime Instant) (tenant : DocumentTenantContext)
    (target : Target Instant) (document : DocumentMetadata) : Prop :=
  ∃ found, findExisting runtime target.table tenant document.id = .ok (some found) ∧
    carried runtime found = carried runtime document

theorem ok_of_failed
    (h : (migrateDocuments runtime sha256 tenant source false target).1.failed = []) :
    ∀ answer ∈ (rounds runtime sha256 tenant source false target).1, ∃ found, answer = .ok found := by
  rw [migrateDocuments_eq] at h
  dsimp only at h
  cases hcopied : (copyHistory sha256 tenant source false
      (rounds runtime sha256 tenant source false target).2).1 with
  | error e =>
      rw [hcopied] at h
      have hlonger : ((emptyReport false).addAll source.documents
        (rounds runtime sha256 tenant source false target).1).failed ++ ["knowledge-history"] = [] := h
      simp at hlonger
  | ok copied =>
      rw [hcopied] at h
      exact (ok_of_failed_addAll length_attempt h).2

/-- The copy of the history leaves the records as they are. -/
theorem look_migrated (key : String × String) :
    (migrateDocuments runtime sha256 tenant source false target).2.look (.inr key) =
      (rounds runtime sha256 tenant source false target).2.look (.inr key) := by
  rw [migrateDocuments_eq]
  exact (rehearsable_copyHistory sha256 tenant source).frame _ (by simp [objectPlace])

/-- The record that a successful migration leaves of a document is that of the first document
with its identifier, without the fields that are left out. -/
theorem findExisting_migrated (hlists : source.Lists tenant)
    (hempty : target.table.rows = [])
    (hok : (migrateDocuments runtime sha256 tenant source false target).1.failed = []) :
    ∀ document ∈ source.documents, ∃ first ∈ source.documents, ∃ found, first.id = document.id ∧
      findExisting runtime (migrateDocuments runtime sha256 tenant source false target).2.table
        tenant document.id = .ok (some found) ∧
      carried runtime found = carried runtime (withDefaults first) := by
  intro document hdocument
  obtain ⟨htenant, hsafe, row, hlook, hreadable⟩ :=
    stored_attempt (ok_of_failed hok) document hdocument
  have hnone : CreatedFrom runtime tenant source.documents target := by
    intro key row hrow
    simp [Target.look, hempty, KeyedList.find] at hrow
  obtain ⟨first, hfirst, checksum, hcreated⟩ :=
    createdFrom_attempt sha256 source hnone (fun _ hother => hother) _ row hlook
  have hfind := look_recordPlace_eq_some.mp ((look_migrated (tenant.companyId, document.id)).trans
    hlook)
  have hid : first.id = document.id := by
    have hkey := (KeyedList.find_eq_some hfind).2
    rw [documentKey_of_createdRow hcreated] at hkey
    exact congrArg Prod.snd hkey
  refine ⟨first, hfirst, documentOf runtime row, hid, ?_, ?_⟩
  · rw [findExisting_eq_ok, hfind]
    exact ⟨htenant, hsafe, hreadable, rfl⟩
  · exact carried_created (hlists first hfirst).1 (hlists first hfirst).2 hcreated

/-- A successful migration into an empty target keeps the record of every document just when the
fields that `createTargetMetadata` leaves out are those of a new document, and documents that
share an identifier say the same. -/
theorem records_carried_iff (runtime : DateRuntime Instant) (sha256 : Sha256)
    (tenant : DocumentTenantContext) (source : Source) (target : Target Instant)
    (hlists : source.Lists tenant) (hempty : target.table.rows = [])
    (hok : (migrateDocuments runtime sha256 tenant source false target).1.failed = []) :
    (∀ document ∈ source.documents, KeepsRecord runtime tenant
        (migrateDocuments runtime sha256 tenant source false target).2 document) ↔
      ∀ document ∈ source.documents,
        (NotInspected runtime document ∧ NotWorkedOn runtime document) ∧
        ∀ other ∈ source.documents, other.id = document.id →
          carried runtime other = carried runtime document := by
  have hfound := findExisting_migrated hlists hempty hok
  constructor
  · intro hkeeps
    have hsame (document : DocumentMetadata) (hdocument : document ∈ source.documents)
        (other : DocumentMetadata) (hother : other ∈ source.documents)
        (hid : other.id = document.id) : carried runtime other = carried runtime document := by
      obtain ⟨found, hread, hdocumentCarried⟩ := hkeeps document hdocument
      obtain ⟨again, hagain, hotherCarried⟩ := hkeeps other hother
      rw [hid, hread] at hagain
      rw [← Option.some.inj (Except.ok.inj hagain)] at hotherCarried
      exact hotherCarried.symm.trans hdocumentCarried
    intro document hdocument
    refine ⟨?_, hsame document hdocument⟩
    obtain ⟨first, hfirst, found, hid, hread, hcarried⟩ := hfound document hdocument
    obtain ⟨kept, hkept, hdocumentCarried⟩ := hkeeps document hdocument
    rw [hread] at hkept
    rw [← Option.some.inj (Except.ok.inj hkept), hcarried] at hdocumentCarried
    have hfirstCarried := hsame document hdocument first hfirst hid
    rw [← carried_withDefaults, ← hdocumentCarried, carried_withDefaults_eq,
      carried_withDefaults_eq, hfirstCarried]
  · intro h document hdocument
    obtain ⟨first, hfirst, found, hid, hread, hcarried⟩ := hfound document hdocument
    refine ⟨found, hread, ?_⟩
    rw [hcarried, carried_withDefaults.mpr (h first hfirst).1]
    exact (h document hdocument).2 first hfirst hid

end

theorem new_twoDocuments : ∀ document ∈ twoDocuments.documents,
    NotInspected oneDateRuntime document ∧ NotWorkedOn oneDateRuntime document := by
  intro document hdocument
  rw [← carried_withDefaults]
  revert document
  decide

/-- The two documents are new ones, and the migration keeps their records. -/
theorem records_carried_iff_twoDocuments :
    (migrateDocuments oneDateRuntime letterSha256 acme twoDocuments false emptyTarget).1.failed =
        [] ∧
      ∀ document ∈ twoDocuments.documents, KeepsRecord oneDateRuntime acme
        (migrateDocuments oneDateRuntime letterSha256 acme twoDocuments false emptyTarget).2
        document := by
  have hlists : twoDocuments.Lists acme := by
    unfold Source.Lists
    decide
  have hok : (migrateDocuments oneDateRuntime letterSha256 acme twoDocuments false
      emptyTarget).1.failed = [] := by decide
  refine ⟨hok, ?_⟩
  refine (records_carried_iff oneDateRuntime letterSha256 acme twoDocuments emptyTarget hlists rfl
    hok).mpr ?_
  intro document hdocument
  refine ⟨new_twoDocuments document hdocument, ?_⟩
  revert document
  decide

/-- A scan that has been through OCR, and that nobody needs to look at. -/
def scannedDocument : DocumentMetadata :=
  { uploadedDocument with
    status := .completed
    processingCompletedAt := some "2026-07-01T10:00:00.000Z"
    detectedDocumentType := .invoice
    detectedMimeType := some "application/pdf"
    textExtractionMethod := .ocr
    ocrStatus := .completed
    pageCount := some (.ofInt 3)
    requiresManualReview := false }

/-- The migration of the scan succeeds and asks for a manual review. -/
theorem review_asked_again :
    (letterSource [scannedDocument]).Lists acme ∧
      (migrateDocuments oneDateRuntime letterSha256 acme (letterSource [scannedDocument]) false
        emptyTarget).1 =
          { dryRun := false, migrated := ["document-1"], skipped := [], failed := [],
            objectsCopied := 1 } ∧
      ¬KeepsRecord oneDateRuntime acme
        (migrateDocuments oneDateRuntime letterSha256 acme (letterSource [scannedDocument]) false
          emptyTarget).2 scannedDocument := by
  have hlists : (letterSource [scannedDocument]).Lists acme := by
    unfold Source.Lists
    decide
  have hreport : (migrateDocuments oneDateRuntime letterSha256 acme (letterSource [scannedDocument])
      false emptyTarget).1 =
        { dryRun := false, migrated := ["document-1"], skipped := [], failed := [],
          objectsCopied := 1 } := by decide
  refine ⟨hlists, hreport, ?_⟩
  rintro ⟨kept, hkept, hsame⟩
  obtain ⟨first, hfirst, found, -, hfound, hcarried⟩ :=
    findExisting_migrated hlists rfl (congrArg DocumentMigrationReport.failed hreport)
      scannedDocument List.mem_cons_self
  rw [hkept] at hfound
  rw [Option.some.inj (Except.ok.inj hfound), hcarried] at hsame
  have hreview := congrArg DocumentIntelligenceMetadata.requiresManualReview
    (congrArg DocumentMetadata.toDocumentIntelligenceMetadata hsame)
  cases hreview

end AvantimePlatform.Documents.Record.Migration
