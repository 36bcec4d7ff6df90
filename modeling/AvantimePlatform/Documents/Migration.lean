import AvantimePlatform.Documents.MetadataCreate

/-!
# Migration of documents

`migrateDocuments` of `document-migration.ts`, with `PostgreSQLDocumentMetadataRepository`
and `S3DocumentStorage` as the target, which is what the script of the migration asks for.
The source is what its reads answer.
-/

namespace AvantimePlatform.Documents.Record.Migration

open AvantimePlatform.Checked AvantimePlatform.Documents

/-! ## Objects -/

/-- The bytes of an object. -/
abbrev Buffer := List UInt8

inductive DocumentObjectKind where
  | original | text | chunks | history
deriving DecidableEq

/-- What `createDocumentObjectKey` puts into a key. -/
structure ObjectKey where
  companyId : String
  kind : DocumentObjectKind
  key : String
deriving DecidableEq

/-- SHA-256 as hexadecimal text. -/
structure Sha256 where
  hex : Buffer → String
  isHex : ∀ data, isSha256Hex (hex data) = true

/-- The objects of the bucket. -/
abbrev Objects := ObjectKey → Option Buffer

/-- `createDocumentObjectKey`. -/
def createDocumentObjectKey (tenant : DocumentTenantContext) (kind : DocumentObjectKind)
    (key : String) : Except String ObjectKey := do
  assertDocumentTenantContext tenant
  assertSafeDocumentSegment key "storage key"
  return { companyId := tenant.companyId, kind := kind, key := key }

/-- `verifyChecksum`. -/
def verifyChecksum (sha256 : Sha256) (data : Buffer) (expectedChecksum : String) :
    Except String Unit := do
  require (isSha256Hex expectedChecksum = true) "Document checksum must be a SHA-256 hex digest."
  require (sha256.hex data = expectedChecksum) "Document checksum verification failed."

/-- `read` of `S3DocumentStorage`, with an expected checksum. -/
def readObject (sha256 : Sha256) (objects : Objects) (tenant : DocumentTenantContext)
    (kind : DocumentObjectKind) (key expectedChecksum : String) :
    Except String (Option Buffer) := do
  let objectKey ← createDocumentObjectKey tenant kind key
  match objects objectKey with
  | none => return none
  | some data => do
    verifyChecksum sha256 data expectedChecksum
    return some data

/-- `write` of `S3DocumentStorage`. -/
def writeObject (sha256 : Sha256) (objects : Objects) (tenant : DocumentTenantContext)
    (kind : DocumentObjectKind) (key : String) (data : Buffer) (checksum : String) :
    Except String Objects := do
  verifyChecksum sha256 data checksum
  let objectKey ← createDocumentObjectKey tenant kind key
  return Function.update objects objectKey (some data)

/-- What the source answers: the documents that it lists, and its objects. -/
structure Source where
  documents : List DocumentMetadata
  read : DocumentObjectKind → String → Except String (Option Buffer)

/-- The target: the bucket and the table. -/
structure Target (Instant : Type) where
  objects : Objects
  table : DocumentMetadataTable Instant

/-- The answer of a step, and the target after it. -/
abbrev Answered (Instant α : Type) := Except String α × Target Instant

/-! ## The migration -/

section Migrate

variable {Instant : Type}

/-- `createTargetMetadata`. -/
def createTargetMetadata (document : DocumentMetadata) (checksum : String) :
    CreateDocumentMetadata where
  id := document.id
  status := document.status
  originalName := document.originalName
  storedName := document.storedName
  mimeType := document.mimeType
  size := document.size
  checksum := checksum
  createdAt := document.createdAt
  updatedAt := document.updatedAt
  processingAttempts := document.processingAttempts
  lastErrorCode := document.lastErrorCode
  lastErrorMessage := document.lastErrorMessage
  processingStartedAt := document.processingStartedAt
  processingCompletedAt := document.processingCompletedAt
  nextRetryAt := document.nextRetryAt
  quarantinedAt := document.quarantinedAt
  workerId := some none
  pages := document.pages
  textLength := document.textLength
  chunksCount := document.chunksCount

/-- `copyObject`: whether the object was, or would be, copied. -/
def copyObject (sha256 : Sha256) (tenant : DocumentTenantContext) (kind : DocumentObjectKind)
    (key : String) (data : Buffer) (dryRun : Bool) (target : Target Instant) :
    Answered Instant Bool :=
  let checksum := sha256.hex data
  match readObject sha256 target.objects tenant kind key checksum with
  | .error e => (.error e, target)
  | .ok (some _) => (.ok false, target)
  | .ok none =>
    if dryRun then (.ok true, target)
    else
      match writeObject sha256 target.objects tenant kind key data checksum with
      | .error e => (.error e, target)
      | .ok objects =>
        match readObject sha256 objects tenant kind key checksum with
        | .error e => (.error e, { target with objects := objects })
        | .ok none => (.error "Migrated document object is not readable after write.",
            { target with objects := objects })
        | .ok (some _) => (.ok true, { target with objects := objects })

/-- The copy of an object that the source may not have: 1 when it is copied. -/
def copyIfPresent (sha256 : Sha256) (tenant : DocumentTenantContext) (source : Source)
    (kind : DocumentObjectKind) (key : String) (dryRun : Bool) (target : Target Instant) :
    Answered Instant Nat :=
  match source.read kind key with
  | .error e => (.error e, target)
  | .ok none => (.ok 0, target)
  | .ok (some data) =>
    match copyObject sha256 tenant kind key data dryRun target with
    | (.error e, target) => (.error e, target)
    | (.ok copied, target) => (.ok copied.toNat, target)

/-- `migrateProcessingObjects`. -/
def migrateProcessingObjects (sha256 : Sha256) (tenant : DocumentTenantContext)
    (document : DocumentMetadata) (source : Source) (dryRun : Bool) (target : Target Instant) :
    Answered Instant Nat :=
  match copyIfPresent sha256 tenant source .text (document.id ++ ".txt") dryRun target with
  | (.error e, target) => (.error e, target)
  | (.ok texts, target) =>
    match copyIfPresent sha256 tenant source .chunks (document.id ++ ".json") dryRun target with
    | (.error e, target) => (.error e, target)
    | (.ok chunks, target) => (.ok (texts + chunks), target)

/-- The record that the target has, deleted or not. -/
def findExisting (runtime : DateRuntime Instant) (table : DocumentMetadataTable Instant)
    (tenant : DocumentTenantContext) (documentId : String) :
    Except String (Option DocumentMetadata) := do
  match ← PostgreSQLDocumentMetadataRepository.findById runtime table tenant documentId with
  | some existing => return some existing
  | none => PostgreSQLDocumentMetadataRepository.findDeletedById runtime table tenant documentId

/-- The reads at the beginning of a round: the original, and the record that is there. -/
def readRound (runtime : DateRuntime Instant) (sha256 : Sha256) (tenant : DocumentTenantContext)
    (source : Source) (document : DocumentMetadata) (target : Target Instant) :
    Except String (Buffer × Option DocumentMetadata) := do
  match ← source.read .original document.storedName with
  | none => .error "Legacy document object is missing."
  | some original => do
    let existing ← findExisting runtime target.table tenant document.id
    require (∀ found ∈ existing, found.checksum = sha256.hex original)
      "Target metadata checksum does not match source data."
    return (original, existing)

/-- The three copies of a round, with their number. -/
def copyRound (sha256 : Sha256) (tenant : DocumentTenantContext) (source : Source)
    (document : DocumentMetadata) (original : Buffer) (dryRun : Bool) (target : Target Instant) :
    Answered Instant Nat :=
  match copyObject sha256 tenant .original document.storedName original dryRun target with
  | (.error e, target) => (.error e, target)
  | (.ok copied, target) =>
    match migrateProcessingObjects sha256 tenant document source dryRun target with
    | (.error e, target) => (.error e, target)
    | (.ok processing, target) => (.ok (copied.toNat + processing), target)

/-- One round of the loop: the number of objects copied, and whether the document was there
already. -/
def migrateDocument (runtime : DateRuntime Instant) (sha256 : Sha256)
    (tenant : DocumentTenantContext) (source : Source) (document : DocumentMetadata)
    (dryRun : Bool) (target : Target Instant) : Answered Instant (Nat × Bool) :=
  match readRound runtime sha256 tenant source document target with
  | .error e => (.error e, target)
  | .ok (original, existing) =>
    match copyRound sha256 tenant source document original dryRun target with
    | (.error e, target) => (.error e, target)
    | (.ok copied, target) =>
      if existing.isNone ∧ dryRun = false then
        match PostgreSQLDocumentMetadataRepository.create runtime target.table
          { tenant with userId := document.uploadedBy }
          (createTargetMetadata document (sha256.hex original)) with
        | (.error e, table) => (.error e, { target with table := table })
        | (.ok _, table) => (.ok (copied, false), { target with table := table })
      else (.ok (copied, existing.isSome), target)

structure DocumentMigrationReport where
  dryRun : Bool
  migrated : List String
  skipped : List String
  failed : List String
  objectsCopied : Nat
deriving DecidableEq

/-- What a round adds to the report. -/
def DocumentMigrationReport.add (report : DocumentMigrationReport) (documentId : String) :
    Except String (Nat × Bool) → DocumentMigrationReport
  | .error _ => { report with failed := report.failed ++ [documentId] }
  | .ok (copied, existing) =>
    if existing = true ∧ copied = 0 then
      { report with
        objectsCopied := report.objectsCopied + copied
        skipped := report.skipped ++ [documentId] }
    else
      { report with
        objectsCopied := report.objectsCopied + copied
        migrated := report.migrated ++ [documentId] }

/-- The loop over the documents. -/
def migrateFrom (runtime : DateRuntime Instant) (sha256 : Sha256) (tenant : DocumentTenantContext)
    (source : Source) (dryRun : Bool) :
    DocumentMigrationReport → Target Instant → List DocumentMetadata →
      DocumentMigrationReport × Target Instant
  | report, target, [] => (report, target)
  | report, target, document :: documents =>
    let round := migrateDocument runtime sha256 tenant source document dryRun target
    migrateFrom runtime sha256 tenant source dryRun (report.add document.id round.1) round.2
      documents

/-- The copy of the history, behind the loop. -/
def migrateHistory (sha256 : Sha256) (tenant : DocumentTenantContext) (source : Source)
    (dryRun : Bool) (report : DocumentMigrationReport) (target : Target Instant) :
    DocumentMigrationReport × Target Instant :=
  match copyIfPresent sha256 tenant source .history "knowledge-history.json" dryRun target with
  | (.error _, target) => ({ report with failed := report.failed ++ ["knowledge-history"] }, target)
  | (.ok copied, target) => ({ report with objectsCopied := report.objectsCopied + copied }, target)

def emptyReport (dryRun : Bool) : DocumentMigrationReport where
  dryRun := dryRun
  migrated := []
  skipped := []
  failed := []
  objectsCopied := 0

/-- `migrateDocuments`, once the source has listed its documents. -/
def migrateDocuments (runtime : DateRuntime Instant) (sha256 : Sha256)
    (tenant : DocumentTenantContext) (source : Source) (dryRun : Bool) (target : Target Instant) :
    DocumentMigrationReport × Target Instant :=
  let migrated := migrateFrom runtime sha256 tenant source dryRun (emptyReport dryRun) target
    source.documents
  migrateHistory sha256 tenant source dryRun migrated.1 migrated.2

end Migrate

end AvantimePlatform.Documents.Record.Migration
