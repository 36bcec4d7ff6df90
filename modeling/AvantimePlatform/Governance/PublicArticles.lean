import AvantimePlatform.Governance.TwoPerson

/-!
# Public organization articles

The visibility route of the knowledge administration, as an executor of approvals and
as the update it makes without one, beside `setOrganizationKnowledgeArticleStatus`.

To publish an organization article the route reads it, and the executor compares the
approval with the version that was read.  The update of the executor names the article
by its id alone, while every other writer of an article names the version too: when
another writer comes in between, the version that becomes public is not the one that
was approved.
-/

namespace AvantimePlatform.Governance

open AvantimePlatform AvantimePlatform.Checked AvantimePlatform.Interleaving
  AvantimePlatform.Transition

inductive KnowledgeOwnerScope where
  | platform | organization | system | legacyUnclassified
deriving DecidableEq

inductive KnowledgeVisibility where
  | privateVisibility | organizationVisibility | platformVisibility | publicVisibility
deriving DecidableEq

inductive ArticleStatus where
  | draft | review | published | archived
deriving DecidableEq

/-- A row of `KnowledgeArticle`. -/
structure KnowledgeArticle where
  id : String
  companyId : Option String
  ownerScope : KnowledgeOwnerScope
  visibility : KnowledgeVisibility := .privateVisibility
  version : Int := 1
  status : ArticleStatus := .draft
  publicationApprovalId : Option String := none
  quarantinedAt : Option Int := none
  publishedAt : Option Int := none
deriving DecidableEq

/-- A request to the visibility route that needs no approval. -/
structure VisibilityInput where
  id : String
  visibility : KnowledgeVisibility
  expectedVersion : Int
  sessionCompanyId : Option String
  authorized : Bool
deriving DecidableEq

/-- Such a request after its read of the article. -/
structure VisibilityUpdate where
  input : VisibilityInput
  article : KnowledgeArticle
deriving DecidableEq

/-- The articles, and the updates that have read theirs. -/
structure KnowledgeTables where
  articles : List KnowledgeArticle := []
  updates : List VisibilityUpdate := []

namespace KnowledgeTables

/-- `knowledgeArticle.findUnique({ where: { id } })`. -/
def article? (db : KnowledgeTables) (id : String) : Option KnowledgeArticle :=
  KeyedList.find KnowledgeArticle.id id db.articles

/-- `knowledgeArticle.updateMany`. -/
def updateArticles (db : KnowledgeTables) (p : KnowledgeArticle → Bool)
    (f : KnowledgeArticle → KnowledgeArticle) : KnowledgeTables :=
  { db with articles := KeyedList.updateMany p f db.articles }

end KnowledgeTables

/-! ## The other writers -/

/-- The visibility that the route writes without an approval, if it goes on. -/
def VisibilityInput.admits (input : VisibilityInput) (article : KnowledgeArticle) : Bool :=
  article.quarantinedAt.isNone && input.authorized &&
    match article.ownerScope with
    | .platform => input.visibility ≠ .organizationVisibility
    | .organization => article.companyId.isSome && input.visibility ≠ .platformVisibility &&
        input.visibility ≠ .publicVisibility
    | _ => false

/-- The condition of the update without an approval. -/
def VisibilityUpdate.selects (update : VisibilityUpdate) (row : KnowledgeArticle) : Bool :=
  row.id = update.article.id && row.version = update.input.expectedVersion &&
    (update.article.ownerScope = .platform || row.companyId = update.input.sessionCompanyId)

/-- The data of the update without an approval. -/
def VisibilityUpdate.write (update : VisibilityUpdate) (row : KnowledgeArticle) :
    KnowledgeArticle :=
  { row with
    visibility := update.input.visibility
    publicationApprovalId :=
      if update.article.ownerScope = .platform then row.publicationApprovalId else none
    version := row.version + 1 }

/-- What happens to the articles without an approval. -/
inductive KnowledgeEnv where
  /-- `setOrganizationKnowledgeArticleStatus`. -/
  | setOrganizationKnowledgeArticleStatus (companyId id : String) (status : ArticleStatus)
      (expectedVersion now : Int)
  /-- A request to the visibility route reads the article. -/
  | readVisibility (input : VisibilityInput)
  /-- The one at position `i` makes its update. -/
  | writeVisibility (i : Nat)

/-- The condition of the update of `setOrganizationKnowledgeArticleStatus`. -/
def KnowledgeArticle.isStatusTarget (row : KnowledgeArticle) (companyId id : String)
    (expectedVersion : Int) : Bool :=
  row.id = id && row.ownerScope = .organization && row.companyId = some companyId &&
    row.version = expectedVersion && row.quarantinedAt.isNone

/-- The data of the update of `setOrganizationKnowledgeArticleStatus`. -/
def KnowledgeArticle.setStatus (row : KnowledgeArticle) (status : ArticleStatus) (now : Int) :
    KnowledgeArticle :=
  { row with
    status := status, publishedAt := if status = .published then some now else row.publishedAt
    version := row.version + 1 }

def KnowledgeEnv.apply (db : KnowledgeTables) : KnowledgeEnv → KnowledgeTables
  | .setOrganizationKnowledgeArticleStatus companyId id status expectedVersion now =>
    db.updateArticles (·.isStatusTarget companyId id expectedVersion) (·.setStatus status now)
  | .readVisibility input =>
    match db.article? input.id with
    | some article =>
      if input.admits article then
        { db with updates := db.updates ++ [{ input := input, article := article }] }
      else db
    | none => db
  | .writeVisibility i =>
    match db.updates[i]? with
    | some update =>
      { db.updateArticles update.selects update.write with updates := db.updates.eraseIdx i }
    | none => db

/-! ## The executor -/

/-- What the visibility route closes over when it publishes. -/
structure Publication where
  articleId : String
  authorized : Bool
deriving DecidableEq

/-- The input that the visibility route passes on. -/
def publishExecution (session : AppSession) (approvalId : String) (publication : Publication)
    (now : Int) : ExecuteInput Publication where
  session := session
  requestId := approvalId
  executionKey := "knowledge-public:" ++ approvalId
  executionAuthorized := true
  expectedActionType := .knowledgeVisibilityPublic
  now := now
  caller := publication

/-- The data of the update of the executor. -/
def KnowledgeArticle.publish (row : KnowledgeArticle) (approvalId : String) : KnowledgeArticle :=
  { row with
    visibility := .publicVisibility, publicationApprovalId := some approvalId, version := row.version + 1 }

/-- The executor of the visibility route, on the article that the route has read. -/
def publishArticle (article : KnowledgeArticle) (approval : ApprovedRequest)
    (db : KnowledgeTables) : Except String KnowledgeTables := do
  require (approval.resourceId = some article.id ∧ approval.companyId = article.companyId ∧
      approval.safeParameters.get "articleId" = some (.string article.id) ∧
      approval.safeParameters.get "articleVersion" = some (.version article.version))
    "APPROVAL_TARGET_CHANGED"
  require ((db.article? article.id).isSome ∧ ∀ row ∈ db.articles, row.id ≠ article.id →
      row.publicationApprovalId ≠ some approval.id)
    prismaError
  return db.updateArticles (·.id = article.id) (·.publish approval.id)

/-- The route reads the article before it asks for the execution. -/
def publish : Executor KnowledgeTables Publication KnowledgeArticle Unit where
  capture := fun input db => (db.article? input.caller.articleId).filter fun article =>
    article.quarantinedAt.isNone && article.ownerScope = .organization &&
      article.companyId.isSome && input.caller.authorized
  currentResourceVersion := fun article => some article.version
  execute := fun _ article _ approval db => (publishArticle article approval db).toOption

/-- The target of an approval to publish names one version twice, as
`resolveApprovalTarget` makes it. -/
def IsResolved (expectedVersion : Option Int) (safeParameters : SafeParameters) : Prop :=
  ∃ version ∈ expectedVersion, safeParameters.get "articleVersion" = some (.version version)

instance (expectedVersion : Option Int) (safeParameters : SafeParameters) :
    Decidable (IsResolved expectedVersion safeParameters) :=
  inferInstanceAs (Decidable (∃ version ∈ expectedVersion, _))

/-- A call is made as the routes make it. -/
def isKnowledgeCall (call : ApprovalCall Publication KnowledgeArticle) : Bool :=
  match call with
  | .request input =>
    input.actionType ≠ .knowledgeVisibilityPublic ||
      decide (IsResolved input.expectedVersion input.safeParameters)
  | .execute input _ =>
    let passed := publishExecution input.session input.requestId input.caller input.now
    input.executionKey = passed.executionKey && input.executionAuthorized &&
      input.expectedActionType = passed.expectedActionType
  | _ => true

/-- Any number of publications and approval calls, beside the other writers. -/
def publications (digest : CanonicalApproval → String) :
    Program (Tables KnowledgeTables Publication KnowledgeArticle)
      (ApprovalCall Publication KnowledgeArticle) KnowledgeEnv (ApprovalInput Unit) :=
  { approvals digest publish KnowledgeEnv.apply with
    initial := fun call => call.isInitial && isKnowledgeCall call }

/-! ## What the writers leave of an article -/

/-- The columns of an article that no writer changes. -/
def SameArticle (row article : KnowledgeArticle) : Prop :=
  row.id = article.id ∧ row.companyId = article.companyId ∧ row.ownerScope = article.ownerScope

/-- An article as it was read: all but its version, status and visibility is as it is
stored. -/
def ReadFrom (db : KnowledgeTables) (article : KnowledgeArticle) : Prop :=
  ∀ row ∈ db.articles, row.id = article.id → SameArticle row article

/-- The articles of the first tables are those of the second, changed by a writer. -/
def ArticlesFrom (db' db : KnowledgeTables) : Prop :=
  ∀ row' ∈ db'.articles, ∃ row ∈ db.articles, SameArticle row' row

theorem sameArticle_refl (row : KnowledgeArticle) : SameArticle row row := ⟨rfl, rfl, rfl⟩

theorem articlesFrom_update {db : KnowledgeTables} {p : KnowledgeArticle → Bool}
    {f : KnowledgeArticle → KnowledgeArticle} (hf : ∀ row, SameArticle (f row) row) :
    ArticlesFrom (db.updateArticles p f) db := by
  intro row' hrow'
  rcases KeyedList.mem_updateMany hrow' with ⟨hrow, -⟩ | ⟨row, hrow, -, rfl⟩
  · exact ⟨row', hrow, sameArticle_refl row'⟩
  · exact ⟨row, hrow, hf row⟩

theorem ReadFrom.mono {db db' : KnowledgeTables} {article : KnowledgeArticle}
    (h : ReadFrom db article) (hfrom : ArticlesFrom db' db) : ReadFrom db' article := by
  intro row' hrow' hid
  obtain ⟨row, hrow, hsameId, hsameCompany, hsameScope⟩ := hfrom row' hrow'
  obtain ⟨-, hcompany, hscope⟩ := h row hrow (hsameId.symm.trans hid)
  exact ⟨hid, hsameCompany.trans hcompany, hsameScope.trans hscope⟩

theorem readFrom_of_article? {db : KnowledgeTables}
    (hids : KeyedList.Distinct KnowledgeArticle.id db.articles) {id : String}
    {article : KnowledgeArticle} (h : db.article? id = some article) : ReadFrom db article := by
  intro row hrow hid
  have hfound := KeyedList.find_of_mem hids hrow
  have harticleId : article.id = id := (KeyedList.find_eq_some h).2
  rw [hid, harticleId] at hfound
  rw [Option.some.inj (hfound.symm.trans h)]
  exact sameArticle_refl article

theorem eq_of_article_id {db : KnowledgeTables}
    (hids : KeyedList.Distinct KnowledgeArticle.id db.articles) {row row' : KnowledgeArticle}
    (hrow : row ∈ db.articles) (hrow' : row' ∈ db.articles) (hid : row.id = row'.id) :
    row = row' := by
  have hfound := KeyedList.find_of_mem hids hrow
  rw [hid, KeyedList.find_of_mem hids hrow'] at hfound
  exact (Option.some.inj hfound).symm

/-! ## The other writers -/

/-- A request to the route that has read its article publishes no organization
article. -/
def UpdateSound (db : KnowledgeTables) (update : VisibilityUpdate) : Prop :=
  ReadFrom db update.article ∧
    (update.article.ownerScope = .organization → update.input.visibility ≠ .publicVisibility)

theorem not_public_of_admits {input : VisibilityInput} {article : KnowledgeArticle}
    (h : input.admits article = true) (hscope : article.ownerScope = .organization) :
    input.visibility ≠ .publicVisibility := by
  simp [VisibilityInput.admits, hscope] at h
  exact h.2.2

/-- What the other writers do to the articles. -/
inductive Rewrote (db : KnowledgeTables) : KnowledgeTables → Prop where
  | unchanged (updates : List VisibilityUpdate) : Rewrote db { db with updates := updates }
  | status (p : KnowledgeArticle → Bool) (status : ArticleStatus) (now : Int) :
      Rewrote db (db.updateArticles p (·.setStatus status now))
  | visibility (update : VisibilityUpdate) (hupdate : update ∈ db.updates)
      (updates : List VisibilityUpdate) :
      Rewrote db { db.updateArticles update.selects update.write with updates := updates }

theorem rewrote_apply (db : KnowledgeTables) (e : KnowledgeEnv) : Rewrote db (e.apply db) := by
  cases e with
  | setOrganizationKnowledgeArticleStatus companyId id status expectedVersion now =>
      exact Rewrote.status _ status now
  | readVisibility input =>
      simp only [KnowledgeEnv.apply]
      split
      · split
        · exact Rewrote.unchanged _
        · exact Rewrote.unchanged db.updates
      · exact Rewrote.unchanged db.updates
  | writeVisibility i =>
      simp only [KnowledgeEnv.apply]
      split
      · next update hupdate => exact Rewrote.visibility update (List.mem_of_getElem? hupdate) _
      · exact Rewrote.unchanged db.updates

theorem Rewrote.articlesFrom {db db' : KnowledgeTables} (h : Rewrote db db') :
    ArticlesFrom db' db := by
  cases h with
  | unchanged updates => exact fun row hrow => ⟨row, hrow, sameArticle_refl row⟩
  | status p status now => exact articlesFrom_update fun row => ⟨rfl, rfl, rfl⟩
  | visibility update hupdate updates =>
      intro row' hrow'
      exact articlesFrom_update (p := update.selects) (f := update.write)
        (fun row => ⟨rfl, rfl, rfl⟩) row' hrow'

theorem Rewrote.distinct {db db' : KnowledgeTables}
    (hids : KeyedList.Distinct KnowledgeArticle.id db.articles) (h : Rewrote db db') :
    KeyedList.Distinct KnowledgeArticle.id db'.articles := by
  cases h with
  | unchanged updates => exact hids
  | status p status now => exact KeyedList.distinct_updateMany (by intro row; rfl) hids
  | visibility update hupdate updates =>
      exact KeyedList.distinct_updateMany (by intro row; rfl) hids

/-- An organization article that is public after another writer was public before, with
the same approval. -/
theorem Rewrote.wasPublic {db db' : KnowledgeTables}
    (hupdates : ∀ update ∈ db.updates, UpdateSound db update) (h : Rewrote db db')
    {row' : KnowledgeArticle} (hrow' : row' ∈ db'.articles)
    (hscope : row'.ownerScope = .organization) (hpublic : row'.visibility = .publicVisibility) :
    ∃ row ∈ db.articles, SameArticle row' row ∧ row.visibility = .publicVisibility ∧
      row'.publicationApprovalId = row.publicationApprovalId := by
  cases h with
  | unchanged updates => exact ⟨row', hrow', sameArticle_refl row', hpublic, rfl⟩
  | status p status now =>
      rcases KeyedList.mem_updateMany hrow' with ⟨hrow, -⟩ | ⟨row, hrow, -, rfl⟩
      · exact ⟨row', hrow, sameArticle_refl row', hpublic, rfl⟩
      · exact ⟨row, hrow, ⟨rfl, rfl, rfl⟩, hpublic, rfl⟩
  | visibility update hupdate updates =>
      rcases KeyedList.mem_updateMany hrow' with ⟨hrow, -⟩ | ⟨row, hrow, hselected, rfl⟩
      · exact ⟨row', hrow, sameArticle_refl row', hpublic, rfl⟩
      · -- The update of an organization article does not publish it.
        obtain ⟨hread, hnot⟩ := hupdates update hupdate
        have hid : row.id = update.article.id := by
          simp only [VisibilityUpdate.selects, Bool.and_eq_true, decide_eq_true_eq] at hselected
          exact hselected.1.1
        have horganization : update.article.ownerScope = .organization :=
          (hread row hrow hid).2.2.symm.trans hscope
        exact absurd hpublic (hnot horganization)

theorem updateSound_apply {db : KnowledgeTables}
    (hids : KeyedList.Distinct KnowledgeArticle.id db.articles)
    (h : ∀ update ∈ db.updates, UpdateSound db update) (e : KnowledgeEnv) :
    ∀ update ∈ (e.apply db).updates, UpdateSound (e.apply db) update := by
  have hfrom := (rewrote_apply db e).articlesFrom
  have hold : ∀ update ∈ db.updates, UpdateSound (e.apply db) update := fun update hupdate =>
    ⟨(h update hupdate).1.mono hfrom, (h update hupdate).2⟩
  intro update hupdate
  cases e with
  | setOrganizationKnowledgeArticleStatus companyId id status expectedVersion now =>
      exact hold update hupdate
  | readVisibility input =>
      have hshape : update ∈ db.updates ∨ ∃ article, db.article? input.id = some article ∧
          input.admits article = true ∧ update = { input := input, article := article } := by
        simp only [KnowledgeEnv.apply] at hupdate
        split at hupdate
        · next article harticle =>
          split at hupdate
          · next hadmits =>
            rcases List.mem_append.mp hupdate with hmem | hnew
            · exact Or.inl hmem
            · exact Or.inr ⟨article, harticle, hadmits, List.mem_singleton.mp hnew⟩
          · exact Or.inl hupdate
        · exact Or.inl hupdate
      rcases hshape with hmem | ⟨article, harticle, hadmits, rfl⟩
      · exact hold update hmem
      · exact ⟨(readFrom_of_article? hids harticle).mono hfrom, not_public_of_admits hadmits⟩
  | writeVisibility i =>
      have hmem : update ∈ db.updates := by
        simp only [KnowledgeEnv.apply] at hupdate
        split at hupdate
        · exact List.mem_of_mem_eraseIdx hupdate
        · exact hupdate
      exact hold update hmem

/-! ## The executor -/

/-- What a publication that does not throw has checked, and what it leaves. -/
structure Published (article : KnowledgeArticle) (approval : ApprovedRequest)
    (db db' : KnowledgeTables) : Prop where
  resource : approval.resourceId = some article.id
  company : approval.companyId = article.companyId
  articleId : approval.safeParameters.get "articleId" = some (.string article.id)
  version : approval.safeParameters.get "articleVersion" = some (.version article.version)
  tables : db' = db.updateArticles (·.id = article.id) (·.publish approval.id)

theorem published_of_execute {input : ExecuteInput Publication} {article : KnowledgeArticle}
    {answer : Unit} {approval : ApprovedRequest} {db db' : KnowledgeTables}
    (h : publish.execute input article answer approval db = some db') :
    Published article approval db db' := by
  have h : (publishArticle article approval db).toOption = some db' := h
  cases hpublish : publishArticle article approval db with
  | error e =>
      rw [hpublish] at h
      cases h
  | ok db'' =>
      rw [hpublish] at h
      obtain rfl := Option.some.inj h
      simp only [publishArticle, bind_eq_ok, require_eq_ok] at hpublish
      obtain ⟨-, ⟨hresource, hcompany, harticleId, hversion⟩, -, -, htables⟩ := hpublish
      exact ⟨hresource, hcompany, harticleId, hversion, (Except.ok.inj htables).symm⟩

theorem Published.articlesFrom {article : KnowledgeArticle} {approval : ApprovedRequest}
    {db db' : KnowledgeTables} (h : Published article approval db db') : ArticlesFrom db' db := by
  rw [h.tables]
  exact articlesFrom_update fun row => ⟨rfl, rfl, rfl⟩

theorem Published.distinct {article : KnowledgeArticle} {approval : ApprovedRequest}
    {db db' : KnowledgeTables} (hids : KeyedList.Distinct KnowledgeArticle.id db.articles)
    (h : Published article approval db db') :
    KeyedList.Distinct KnowledgeArticle.id db'.articles := by
  rw [h.tables]
  exact KeyedList.distinct_updateMany (by intro row; rfl) hids

theorem captured_of_capture {input : ExecuteInput Publication} {db : KnowledgeTables}
    {article : KnowledgeArticle} (h : publish.capture input db = some article) :
    db.article? input.caller.articleId = some article := by
  obtain ⟨harticle, -⟩ := Option.filter_eq_some_iff.mp h
  exact harticle

/-! ## The invariant -/

/-- The tables of approvals over the articles. -/
abbrev ArticleTables := Tables KnowledgeTables Publication KnowledgeArticle

/-- The states of the system. -/
abbrev ArticleWorld := World ArticleTables (ApprovalCall Publication KnowledgeArticle)

/-- The steps of the system. -/
abbrev ArticleEvent :=
  Event KnowledgeEnv (ApprovalCall Publication KnowledgeArticle) (ApprovalInput Unit)

/-- The checks of `validateGovernanceInvariants` on the approval of a public article. -/
structure IsPublicationOf (approval : GovernanceApprovalRequest) (article : KnowledgeArticle) :
    Prop where
  actionType : approval.actionType = .knowledgeVisibilityPublic
  status : approval.status = .executed
  company : approval.companyId = article.companyId
  resource : approval.resourceId = some article.id
  articleId : approval.safeParameters.get "articleId" = some (.string article.id)

/-- Every public organization article carries the id of its executed approval. -/
def PublicCarriesApproval (db : ArticleTables) : Prop :=
  ∀ article ∈ db.resources.articles, article.ownerScope = .organization →
    article.visibility = .publicVisibility → ∃ approvalId approval,
      article.publicationApprovalId = some approvalId ∧ db.request? approvalId = some approval ∧
        IsPublicationOf approval article

/-- What an execution has captured was read from the articles. -/
def CapturedSound (db : ArticleTables) : ApprovalCall Publication KnowledgeArticle → Prop
  | .execute _ place => ∀ article, place.captured? = some article → ReadFrom db.resources article
  | _ => True

/-- The invariant of publications. -/
structure PublicationsSound (w : ArticleWorld) : Prop where
  approvals : WorldSound w
  ids : KeyedList.Distinct KnowledgeArticle.id w.shared.resources.articles
  resolved : ∀ id approval, w.shared.request? id = some approval →
    approval.actionType = .knowledgeVisibilityPublic →
    IsResolved approval.expectedVersion approval.safeParameters
  calls : ∀ call ∈ w.locals, isKnowledgeCall call = true ∧ CapturedSound w.shared call
  updates : ∀ update ∈ w.shared.resources.updates, UpdateSound w.shared.resources update
  carries : PublicCarriesApproval w.shared

/-- Before anything is requested, when no organization article is public. -/
theorem publicationsSound_of_isInitial {w : ArticleWorld} (hw : IsInitial w)
    (hids : KeyedList.Distinct KnowledgeArticle.id w.shared.resources.articles)
    (hupdates : w.shared.resources.updates = [])
    (hprivate : ∀ article ∈ w.shared.resources.articles, article.ownerScope = .organization →
      article.visibility ≠ .publicVisibility) : PublicationsSound w where
  approvals := worldSound_of_isInitial hw
  ids := hids
  resolved := by
    intro id approval happroval
    rw [Tables.request?, hw.1] at happroval
    cases happroval
  calls := by simp [hw.2.2.2]
  updates := by simp [hupdates]
  carries := fun article harticle hscope hpublic =>
    absurd hpublic (hprivate article harticle hscope)

section Steps

variable {digest : CanonicalApproval → String} {db db' : ArticleTables} {w w' : ArticleWorld}
  {ev : ArticleEvent}

/-- An executed approval stays the one of its article. -/
theorem IsPublicationOf.grows {approval : GovernanceApprovalRequest}
    {row row' : KnowledgeArticle} (h : IsPublicationOf approval row) (hsame : SameArticle row' row)
    {id : String} (happroval : db.request? id = some approval) (hgrows : Grows db db') :
    ∃ approval', db'.request? id = some approval' ∧ IsPublicationOf approval' row' := by
  obtain ⟨approval', happroval', hpayload, hfinal⟩ := hgrows.requests id approval happroval
  have hexecuted : approval.status.IsFinal := by
    rw [h.status]
    decide
  have haction : approval'.actionType = approval.actionType :=
    congrArg FingerprintInput.actionType hpayload
  have hcompany : approval'.companyId = approval.companyId :=
    congrArg FingerprintInput.companyId hpayload
  have hresource : approval'.resourceId = approval.resourceId :=
    congrArg FingerprintInput.resourceId hpayload
  have hparameters : approval'.safeParameters = approval.safeParameters :=
    congrArg FingerprintInput.safeParameters hpayload
  obtain ⟨hid, hrowCompany, -⟩ := hsame
  exact ⟨approval', happroval',
    { actionType := by rw [haction, h.actionType]
      status := by rw [hfinal hexecuted, h.status]
      company := by rw [hcompany, h.company, hrowCompany]
      resource := by rw [hresource, h.resource, hid]
      articleId := by rw [hparameters, h.articleId, hid] }⟩

/-- The steps of the system are steps of approvals. -/
theorem approvals_step (h : (publications digest).step w ev w') :
    (approvals digest publish KnowledgeEnv.apply).step w ev w' := by
  cases ev with
  | env e => exact h
  | advance i input => exact h
  | spawn call =>
      rcases Program.step_cases h with ⟨e, hev, -⟩ | ⟨call', hev, hinitial, rfl⟩ |
        ⟨i, input, call', db', next, hev, -⟩
      · cases hev
      · obtain rfl := Event.spawn.inj hev
        have hfirst : call.isInitial = true := (Bool.and_eq_true _ _ ▸ hinitial).1
        exact if_pos hfirst
      · cases hev

theorem capturedSound_mono {call : ApprovalCall Publication KnowledgeArticle}
    (h : CapturedSound db call) (hfrom : ArticlesFrom db'.resources db.resources) :
    CapturedSound db' call := by
  cases call with
  | execute input place => exact fun article hcaptured => (h article hcaptured).mono hfrom
  | request input => trivial
  | decide input place => trivial
  | cancel input read => trivial
  | expireStale now stale => trivial

theorem capturedSound_continues
    (hids : KeyedList.Distinct KnowledgeArticle.id db.resources.articles)
    {call next : ApprovalCall Publication KnowledgeArticle} (h : CapturedSound db call)
    (hnext : Continues publish db call next) : CapturedSound db next := by
  cases hnext with
  | decide input place place' => trivial
  | cancel input read read' => trivial
  | expireStale now stale stale' => trivial
  | execute input place place' hcaptured =>
      intro article harticle
      rcases hcaptured article harticle with hold | hnew
      · exact h article hold
      · exact readFrom_of_article? hids (captured_of_capture hnew)

theorem isKnowledgeCall_continues {call next : ApprovalCall Publication KnowledgeArticle}
    (h : isKnowledgeCall call = true) (hnext : Continues publish db call next) :
    isKnowledgeCall next = true := by
  cases hnext with
  | decide input place place' => rfl
  | cancel input read read' => rfl
  | expireStale now stale stale' => rfl
  | execute input place place' hcaptured => exact h

/-- A step of a call leaves the articles or publishes one. -/
inductive ArticlesWrote (digest : CanonicalApproval → String) (db : ArticleTables) :
    ApprovalInput Unit → ApprovalCall Publication KnowledgeArticle → ArticleTables → Prop where
  | unchanged (input : ApprovalInput Unit) (call : ApprovalCall Publication KnowledgeArticle)
      (db' : ArticleTables) (hresources : db'.resources = db.resources) :
      ArticlesWrote digest db input call db'
  | published (id : String) (answer : Unit) (input : ExecuteInput Publication)
      (article : KnowledgeArticle) (request : GovernanceApprovalRequest)
      (made : List GovernanceApprovalDecision) (resources : KnowledgeTables)
      (hadmitted :
        ExecutionAdmitted input (publish.currentResourceVersion article) request made)
      (hcount : db.requests.countP (·.isClaimable request.id) = 1)
      (hpublished : Published article request.approvedRequest db.resources resources)
      (hcommit : executeCommit digest publish db input article request made answer =
        .ok (db.executed input article request resources)) :
      ArticlesWrote digest db (.proceed id answer) (.execute input (.commit article request made))
        (db.executed input article request resources)

theorem Wrote.articles {input : ApprovalInput Unit}
    {call : ApprovalCall Publication KnowledgeArticle}
    (h : Wrote digest publish db input call db') : ArticlesWrote digest db input call db' := by
  cases h with
  | nothing => exact ArticlesWrote.unchanged _ _ _ rfl
  | requested id answer input fingerprint expiresAt hnew => exact ArticlesWrote.unchanged _ _ _ rfl
  | expired input call p hopen => exact ArticlesWrote.unchanged _ _ _ rfl
  | decided id answer input request made status hstatus hcount =>
      exact ArticlesWrote.unchanged _ _ _ rfl
  | cancelled id answer input => exact ArticlesWrote.unchanged _ _ _ rfl
  | executed id answer input article request made resources hadmitted hcount hresources hcommit =>
      exact ArticlesWrote.published id answer input article request made resources hadmitted hcount
        (published_of_execute hresources) hcommit

theorem ArticlesWrote.articlesFrom {input : ApprovalInput Unit}
    {call : ApprovalCall Publication KnowledgeArticle} (h : ArticlesWrote digest db input call db') :
    ArticlesFrom db'.resources db.resources := by
  cases h with
  | unchanged input call db' hresources =>
      rw [hresources]
      exact fun row hrow => ⟨row, hrow, sameArticle_refl row⟩
  | published id answer input article request made resources hadmitted hcount hpublished hcommit =>
      exact hpublished.articlesFrom

/-- The step of a call commits a publication. -/
def CommitsPublication (digest : CanonicalApproval → String) (db : ArticleTables)
    (input : ApprovalInput Unit) (call : ApprovalCall Publication KnowledgeArticle) : Prop :=
  ∃ id answer executeInput article request made db', input = .proceed id answer ∧
    call = .execute executeInput (.commit article request made) ∧
    executeCommit digest publish db executeInput article request made answer = .ok db'

theorem ArticlesWrote.same_of_not_commits {input : ApprovalInput Unit}
    {call : ApprovalCall Publication KnowledgeArticle} (h : ArticlesWrote digest db input call db')
    (hnot : ¬CommitsPublication digest db input call) : db'.resources = db.resources := by
  cases h with
  | unchanged input call db' hresources => exact hresources
  | published id answer input article request made resources hadmitted hcount hpublished hcommit =>
      exact absurd ⟨id, answer, input, article, request, made, _, rfl, rfl, hcommit⟩ hnot

/-- The article that an execution publishes carries its approval. -/
theorem carries_published (hcarries : PublicCarriesApproval db) {input : ExecuteInput Publication}
    {article : KnowledgeArticle} {request : GovernanceApprovalRequest}
    {made : List GovernanceApprovalDecision} {resources : KnowledgeTables}
    (hsound : Sound db) (hcall : CallSound db (.execute input (.commit article request made)))
    (hknowledge : isKnowledgeCall (.execute input (.commit article request made)) = true)
    (hread : ReadFrom db.resources article)
    (hadmitted : ExecutionAdmitted input (publish.currentResourceVersion article) request made)
    (hcount : db.requests.countP (·.isClaimable request.id) = 1)
    (hpublished : Published article request.approvedRequest db.resources resources)
    (hgrows : Grows db (db.executed input article request resources)) :
    PublicCarriesApproval (db.executed input article request resources) := by
  intro row' hrow' hscope hpublic
  have hrow' : row' ∈ resources.articles := hrow'
  rw [hpublished.tables] at hrow'
  rcases KeyedList.mem_updateMany hrow' with ⟨hrow, -⟩ | ⟨row, hrow, hselected, rfl⟩
  · obtain ⟨approvalId, approval, hcarried, happroval, hpublication⟩ :=
      hcarries row' hrow hscope hpublic
    obtain ⟨approval', happroval', hpublication'⟩ :=
      hpublication.grows (sameArticle_refl row') happroval hgrows
    exact ⟨approvalId, approval', hcarried, happroval', hpublication'⟩
  · -- The approval that is executed is the one the article gets.
    obtain ⟨found, hjustified⟩ := justified_of_commit hsound hcall hadmitted hcount
    obtain ⟨-, hexecuted⟩ := hjustified.executed resources
    have hid : row.id = article.id := by simpa using hselected
    obtain ⟨-, hcompany, -⟩ := hread row hrow hid
    have happroved : request.approvedRequest = found.approvedRequest := hjustified.request
    have haction : input.expectedActionType = .knowledgeVisibilityPublic := by
      simp only [isKnowledgeCall, Bool.and_eq_true, decide_eq_true_eq] at hknowledge
      exact hknowledge.2
    refine ⟨request.id, _, rfl, hexecuted, ?_⟩
    exact
      { actionType := hjustified.action.symm.trans haction
        status := rfl
        company := by
          rw [show (found.claim _ _).companyId = request.companyId from
            (congrArg ApprovedRequest.companyId happroved).symm]
          exact hpublished.company.trans hcompany.symm
        resource := by
          rw [show (found.claim _ _).resourceId = request.resourceId from
            (congrArg ApprovedRequest.resourceId happroved).symm]
          exact hpublished.resource.trans (congrArg some hid.symm)
        articleId := by
          rw [show (found.claim _ _).safeParameters = request.safeParameters from
            (congrArg ApprovedRequest.safeParameters happroved).symm]
          rw [show (row.publish _).id = article.id from hid]
          exact hpublished.articleId }

theorem carries_wrote (h : PublicationsSound w) {input : ApprovalInput Unit}
    {call : ApprovalCall Publication KnowledgeArticle} (hmem : call ∈ w.locals)
    (hgrows : Grows w.shared db') (hwrote : ArticlesWrote digest w.shared input call db') :
    PublicCarriesApproval db' := by
  cases hwrote with
  | unchanged input call db' hresources =>
      intro row hrow hscope hpublic
      rw [hresources] at hrow
      obtain ⟨approvalId, approval, hcarried, happroval, hpublication⟩ :=
        h.carries row hrow hscope hpublic
      obtain ⟨approval', happroval', hpublication'⟩ :=
        hpublication.grows (sameArticle_refl row) happroval hgrows
      exact ⟨approvalId, approval', hcarried, happroval', hpublication'⟩
  | published id answer input article request made resources hadmitted hcount hpublished hcommit =>
      obtain ⟨hknowledge, hcaptured⟩ := h.calls _ hmem
      exact carries_published h.carries h.approvals.1 (h.approvals.2 _ hmem) hknowledge
        (hcaptured article rfl) hadmitted hcount hpublished hgrows

theorem carries_environment (h : PublicationsSound w) (e : KnowledgeEnv) :
    PublicCarriesApproval { w.shared with resources := e.apply w.shared.resources } := by
  intro row' hrow' hscope hpublic
  obtain ⟨row, hrow, hsame, hwasPublic, hcarriedSame⟩ :=
    (rewrote_apply w.shared.resources e).wasPublic h.updates hrow' hscope hpublic
  obtain ⟨approvalId, approval, hcarried, happroval, hpublication⟩ :=
    h.carries row hrow (hsame.2.2.symm.trans hscope) hwasPublic
  obtain ⟨approval', happroval', hpublication'⟩ :=
    hpublication.grows hsame happroval (grows_resources w.shared _)
  exact ⟨approvalId, approval', hcarriedSame.trans hcarried, happroval', hpublication'⟩

theorem publicationsSound_environment (h : PublicationsSound w)
    (e : KnowledgeEnv) (happrovals : WorldSound
      { w with shared := { w.shared with resources := e.apply w.shared.resources } }) :
    PublicationsSound
      { w with shared := { w.shared with resources := e.apply w.shared.resources } } where
  approvals := happrovals
  ids := (rewrote_apply w.shared.resources e).distinct h.ids
  resolved := h.resolved
  calls := fun call hcall => ⟨(h.calls call hcall).1,
    capturedSound_mono (h.calls call hcall).2 (rewrote_apply w.shared.resources e).articlesFrom⟩
  updates := updateSound_apply h.ids h.updates e
  carries := carries_environment h e

theorem publicationsSound_spawn (h : PublicationsSound w)
    {call : ApprovalCall Publication KnowledgeArticle}
    (hinitial : (call.isInitial && isKnowledgeCall call) = true)
    (happrovals : WorldSound { w with locals := w.locals ++ [call] }) :
    PublicationsSound { w with locals := w.locals ++ [call] } where
  approvals := happrovals
  ids := h.ids
  resolved := h.resolved
  calls := by
    rw [Bool.and_eq_true] at hinitial
    intro m hm
    rcases List.mem_append.mp hm with hold | hnew
    · exact h.calls m hold
    · rw [List.mem_singleton.mp hnew]
      refine ⟨hinitial.2, ?_⟩
      cases call with
      | execute input place =>
          cases place with
          | capture =>
              intro article hcaptured
              cases hcaptured
          | candidate article => cases hinitial.1
          | expire => cases hinitial.1
          | read article => cases hinitial.1
          | decisions article request => cases hinitial.1
          | commit article request made => cases hinitial.1
      | request input => trivial
      | decide input place => trivial
      | cancel input read => trivial
      | expireStale now stale => trivial
  updates := h.updates
  carries := h.carries

theorem updates_wrote (h : PublicationsSound w) {input : ApprovalInput Unit}
    {call : ApprovalCall Publication KnowledgeArticle}
    (hwrote : ArticlesWrote digest w.shared input call db') :
    ∀ update ∈ db'.resources.updates, UpdateSound db'.resources update := by
  have hfrom := hwrote.articlesFrom
  intro update hupdate
  have hmem : update ∈ w.shared.resources.updates := by
    cases hwrote with
    | unchanged input call db' hresources =>
        rw [hresources] at hupdate
        exact hupdate
    | published id answer input article request made resources hadmitted hcount hpublished hcommit =>
        have hupdate : update ∈ resources.updates := hupdate
        rw [hpublished.tables] at hupdate
        exact hupdate
  exact ⟨(h.updates update hmem).1.mono hfrom, (h.updates update hmem).2⟩

theorem ids_wrote (h : PublicationsSound w) {input : ApprovalInput Unit}
    {call : ApprovalCall Publication KnowledgeArticle}
    (hwrote : ArticlesWrote digest w.shared input call db') :
    KeyedList.Distinct KnowledgeArticle.id db'.resources.articles := by
  cases hwrote with
  | unchanged input call db' hresources =>
      rw [hresources]
      exact h.ids
  | published id answer input article request made resources hadmitted hcount hpublished hcommit =>
      exact hpublished.distinct h.ids

/-- A stored approval to publish names one version, as its call did. -/
theorem resolved_wrote (h : PublicationsSound w) {input : ApprovalInput Unit}
    {call : ApprovalCall Publication KnowledgeArticle} (hmem : call ∈ w.locals)
    (hwrote : Wrote digest publish w.shared input call db') {id : String}
    {approval : GovernanceApprovalRequest} (happroval : db'.request? id = some approval)
    (haction : approval.actionType = .knowledgeVisibilityPublic) :
    IsResolved approval.expectedVersion approval.safeParameters := by
  rcases hwrote.payload happroval with ⟨old, hold, hpayload⟩ |
    ⟨answer, requestInput, fingerprint, expiresAt, rfl, rfl, rfl⟩
  · have holdAction : approval.actionType = old.actionType :=
      congrArg FingerprintInput.actionType hpayload
    have hversion : approval.expectedVersion = old.expectedVersion :=
      congrArg FingerprintInput.expectedVersion hpayload
    have hparameters : approval.safeParameters = old.safeParameters :=
      congrArg FingerprintInput.safeParameters hpayload
    rw [hversion, hparameters]
    exact h.resolved id old hold (holdAction.symm.trans haction)
  · have hknowledge := (h.calls _ hmem).1
    have haction : requestInput.actionType = .knowledgeVisibilityPublic := haction
    show IsResolved requestInput.expectedVersion requestInput.safeParameters
    simpa [isKnowledgeCall, haction] using hknowledge

theorem publicationsSound_advance (h : PublicationsSound w) {i : Nat} {input : ApprovalInput Unit}
    {call : ApprovalCall Publication KnowledgeArticle} (hcall : w.locals[i]? = some call)
    (happrovals : WorldSound
      { shared := (call.advance digest publish w.shared input).1
        locals := replaceLocal w.locals i (call.advance digest publish w.shared input).2 }) :
    PublicationsSound
      { shared := (call.advance digest publish w.shared input).1
        locals := replaceLocal w.locals i (call.advance digest publish w.shared input).2 } := by
  have hmem : call ∈ w.locals := List.mem_of_getElem? hcall
  have hwrote : Wrote digest publish w.shared input call _ := wrote_advance w.shared input call
  have hfrom := hwrote.articles.articlesFrom
  exact
    { approvals := happrovals
      ids := ids_wrote h hwrote.articles
      resolved := fun id approval happroval haction => resolved_wrote h hmem hwrote happroval haction
      calls := by
        intro m hm
        rcases mem_replaceLocal hm with hnext | hold
        · have hcontinues : Continues publish w.shared call m := continues_advance hnext
          obtain ⟨hknowledge, hcaptured⟩ := h.calls call hmem
          exact ⟨isKnowledgeCall_continues hknowledge hcontinues,
            capturedSound_mono (capturedSound_continues h.ids hcaptured hcontinues) hfrom⟩
        · exact ⟨(h.calls m hold).1, capturedSound_mono (h.calls m hold).2 hfrom⟩
      updates := updates_wrote h hwrote.articles
      carries := carries_wrote h hmem hwrote.grows hwrote.articles }

theorem publicationsSound_step (h : PublicationsSound w)
    (hstep : (publications digest).step w ev w') : PublicationsSound w' := by
  have happrovals : WorldSound w' := worldSound_step h.approvals (approvals_step hstep)
  rcases Program.step_cases hstep with ⟨e, -, rfl⟩ | ⟨call, -, hinitial, rfl⟩ |
    ⟨i, input, call, db', next, -, hcall, hadvance, rfl⟩
  · exact publicationsSound_environment h e happrovals
  · exact publicationsSound_spawn h hinitial happrovals
  · obtain ⟨rfl, rfl⟩ := Prod.mk.inj (Option.some.inj hadvance)
    exact publicationsSound_advance h hcall happrovals

/-! ## The version that becomes public -/

/-- The step makes an organization article public. -/
def BecomesPublic (w w' : ArticleWorld) (before : KnowledgeArticle) : Prop :=
  before ∈ w.shared.resources.articles ∧ before.ownerScope = .organization ∧
    before.visibility ≠ .publicVisibility ∧
    ∃ after ∈ w'.shared.resources.articles, after.id = before.id ∧
      after.visibility = .publicVisibility

/-- An article becomes public only at the version that the executed approval names, as
its expected version and as its parameter. -/
def PublishesApprovedVersion (w : ArticleWorld) (_ : ArticleEvent) (w' : ArticleWorld) : Prop :=
  ∀ before, BecomesPublic w w' before → ∃ effect approval,
    w'.shared.effects = effect :: w.shared.effects ∧
      w.shared.request? effect.request.id = some approval ∧
      approval.expectedVersion = some before.version ∧
      approval.safeParameters.get "articleVersion" = some (.version before.version)

/-- The condition on a publication that commits: the organization article it makes public
still has the version that the call has read. -/
def PublishesWhatItRead (digest : CanonicalApproval → String) (w : ArticleWorld)
    (ev : ArticleEvent) : Prop :=
  ∀ i id answer input article request made db', ev = .advance i (.proceed id answer) →
    w.locals[i]? = some (.execute input (.commit article request made)) →
    executeCommit digest publish w.shared input article request made answer = .ok db' →
    ∀ row ∈ w.shared.resources.articles, row.id = article.id → row.ownerScope = .organization →
      row.visibility ≠ .publicVisibility → row.version = article.version

theorem version_inj {m n : Int} (h : SafeValue.version m = SafeValue.version n) : m = n := by
  simpa [SafeValue.version] using h

/-- The stored approval of a publication that commits names the version that was read. -/
theorem approval_of_commit (h : PublicationsSound w) {input : ExecuteInput Publication}
    {article : KnowledgeArticle} {request : GovernanceApprovalRequest}
    {made : List GovernanceApprovalDecision} {resources : KnowledgeTables}
    (hmem : .execute input (.commit article request made) ∈ w.locals)
    (hadmitted :
      ExecutionAdmitted input (publish.currentResourceVersion article) request made)
    (hcount : w.shared.requests.countP (·.isClaimable request.id) = 1)
    (hpublished : Published article request.approvedRequest w.shared.resources resources) :
    ∃ approval, w.shared.request? request.id = some approval ∧
      approval.expectedVersion = some article.version ∧
      approval.safeParameters.get "articleVersion" = some (.version article.version) := by
  obtain ⟨approval, hjustified⟩ :=
    justified_of_commit h.approvals.1 (h.approvals.2 _ hmem) hadmitted hcount
  obtain ⟨hstored, -⟩ := hjustified.executed resources
  have happroved : request.approvedRequest = approval.approvedRequest := hjustified.request
  have hparameters : request.safeParameters = approval.safeParameters :=
    congrArg ApprovedRequest.safeParameters happroved
  have hversion : approval.safeParameters.get "articleVersion" =
      some (.version article.version) := by
    rw [← hparameters]
    exact hpublished.version
  have haction : approval.actionType = .knowledgeVisibilityPublic := by
    have hknowledge := (h.calls _ hmem).1
    simp only [isKnowledgeCall, Bool.and_eq_true, decide_eq_true_eq] at hknowledge
    exact hjustified.action.symm.trans hknowledge.2
  obtain ⟨version, hexpected, hnamed⟩ := h.resolved _ approval hstored haction
  have hsame : version = article.version :=
    version_inj (Option.some.inj (hnamed.symm.trans hversion))
  exact ⟨approval, hstored, hsame ▸ hexpected, hversion⟩

/-- When the articles stay as they are, none becomes public. -/
theorem not_becomesPublic_of_same (h : PublicationsSound w)
    (hsame : w'.shared.resources.articles = w.shared.resources.articles)
    {before : KnowledgeArticle} : ¬BecomesPublic w w' before := by
  rintro ⟨hbefore, -, hprivate, after, hafter, hid, hpublic⟩
  rw [hsame] at hafter
  rw [eq_of_article_id h.ids hafter hbefore hid] at hpublic
  exact hprivate hpublic

theorem not_becomesPublic_environment (h : PublicationsSound w) (e : KnowledgeEnv)
    {before : KnowledgeArticle} :
    ¬BecomesPublic w
      { w with shared := { w.shared with resources := e.apply w.shared.resources } } before := by
  rintro ⟨hbefore, hscope, hprivate, after, hafter, hid, hpublic⟩
  obtain ⟨row, hrow, hsame⟩ := (rewrote_apply w.shared.resources e).articlesFrom after hafter
  have hrowBefore : row = before :=
    eq_of_article_id h.ids hrow hbefore (hsame.1.symm.trans hid)
  have hafterScope : after.ownerScope = .organization := by
    rw [hsame.2.2, hrowBefore, hscope]
  obtain ⟨row', hrow', hsame', hwasPublic, -⟩ :=
    (rewrote_apply w.shared.resources e).wasPublic h.updates hafter hafterScope hpublic
  rw [eq_of_article_id h.ids hrow' hbefore (hsame'.1.symm.trans hid)] at hwasPublic
  exact hprivate hwasPublic

/-- A publication that commits makes its article public. -/
theorem becomesPublic_of_published {article : KnowledgeArticle} {approval : ApprovedRequest}
    {before : KnowledgeArticle} (hbefore : before ∈ w.shared.resources.articles)
    (hid : before.id = article.id) (hscope : before.ownerScope = .organization)
    (hprivate : before.visibility ≠ .publicVisibility)
    (hpublished : Published article approval w.shared.resources w'.shared.resources) :
    BecomesPublic w w' before := by
  refine ⟨hbefore, hscope, hprivate, before.publish approval.id, ?_, rfl, rfl⟩
  rw [hpublished.tables]
  exact List.mem_map.mpr ⟨before, hbefore, if_pos (by simpa using hid)⟩

/-- A publication makes no other article public. -/
theorem Published.becomesPublic (h : PublicationsSound w) {article : KnowledgeArticle}
    {approval : ApprovedRequest}
    (hpublished : Published article approval w.shared.resources w'.shared.resources)
    {before : KnowledgeArticle} (hbecomes : BecomesPublic w w' before) : before.id = article.id := by
  obtain ⟨hbefore, -, hprivate, after, hafter, hid, hpublic⟩ := hbecomes
  rw [hpublished.tables] at hafter
  rcases KeyedList.mem_updateMany hafter with ⟨hrow, -⟩ | ⟨row, hrow, hselected, rfl⟩
  · rw [eq_of_article_id h.ids hrow hbefore hid] at hpublic
    exact absurd hpublic hprivate
  · have hrowId : row.id = article.id := by simpa using hselected
    exact hid.symm.trans hrowId

/-- A publication that commits is at the approved version when the article still has the
version that was read. -/
theorem publishesApprovedVersion_commit_iff (h : PublicationsSound w) {i : Nat} {id : String}
    {answer : Unit} {input : ExecuteInput Publication} {article : KnowledgeArticle}
    {request : GovernanceApprovalRequest} {made : List GovernanceApprovalDecision}
    (hlocal : w.locals[i]? = some (.execute input (.commit article request made)))
    (hcommit : executeCommit digest publish w.shared input article request made answer =
      .ok w'.shared) :
    PublishesApprovedVersion w (.advance i (.proceed id answer)) w' ↔
      PublishesWhatItRead digest w (.advance i (.proceed id answer)) := by
  obtain ⟨resources, hadmitted, hcount, hresources, hshared⟩ := executed_of_commit hcommit
  have hpublished : Published article request.approvedRequest w.shared.resources resources :=
    published_of_execute hresources
  have hpublished' :
      Published article request.approvedRequest w.shared.resources w'.shared.resources := by
    rw [hshared]
    exact hpublished
  have heffects : w'.shared.effects =
      { input := input, captured := article, request := request.approvedRequest, row := request } ::
        w.shared.effects := by
    rw [hshared]
    rfl
  obtain ⟨approval, hstored, hexpected, hversion⟩ :=
    approval_of_commit h (List.mem_of_getElem? hlocal) hadmitted hcount hpublished
  constructor
  · intro hsafe i' id' answer' input' article' request' made' db' hev hlocal' _ row hrow hid hscope
      hprivate
    obtain ⟨rfl, -⟩ : i = i' ∧ ApprovalInput.proceed id answer = .proceed id' answer' := by
      simpa using hev
    obtain ⟨-, hplace⟩ := ApprovalCall.execute.inj (Option.some.inj (hlocal.symm.trans hlocal'))
    obtain ⟨rfl, -, -⟩ := ExecutePlace.commit.inj hplace
    obtain ⟨effect, approval', heffect, hstored', hexpected', -⟩ :=
      hsafe row (becomesPublic_of_published hrow hid hscope hprivate hpublished')
    have hid' : effect.request.id = request.id := by
      rw [(List.cons.inj (heffect.symm.trans heffects)).1]
      rfl
    rw [hid'] at hstored'
    have hsame : approval' = approval := Option.some.inj (hstored'.symm.trans hstored)
    rw [hsame, hexpected] at hexpected'
    exact (Option.some.inj hexpected').symm
  · intro hread before hbecomes
    have hid := Published.becomesPublic h hpublished' hbecomes
    have hsame : before.version = article.version :=
      hread i id answer input article request made _ rfl hlocal hcommit before hbecomes.1 hid
        hbecomes.2.1 hbecomes.2.2.1
    rw [hsame]
    exact ⟨_, approval, heffects, hstored, hexpected, hversion⟩

theorem publishesApprovedVersion_iff (h : PublicationsSound w)
    (hstep : (publications digest).step w ev w') :
    PublishesApprovedVersion w ev w' ↔ PublishesWhatItRead digest w ev := by
  rcases Program.step_cases hstep with ⟨e, rfl, rfl⟩ | ⟨call, rfl, hinitial, rfl⟩ |
    ⟨i, input, call, db', next, rfl, hcall, hadvance, rfl⟩
  · refine iff_of_true (fun before hbecomes => ?_) ?_
    · exact absurd hbecomes (not_becomesPublic_environment h e)
    · intro i id answer input article request made db' hev
      cases hev
  · refine iff_of_true (fun before hbecomes => ?_) ?_
    · exact absurd hbecomes (not_becomesPublic_of_same h rfl)
    · intro i id answer input article request made db' hev
      cases hev
  · obtain ⟨rfl, rfl⟩ := Prod.mk.inj (Option.some.inj hadvance)
    by_cases hcommits : CommitsPublication digest w.shared input call
    · obtain ⟨id, answer, executeInput, article, request, made, db', rfl, rfl, hcommit⟩ := hcommits
      refine publishesApprovedVersion_commit_iff h hcall ?_
      show _ = Except.ok (ExecutePlace.run digest publish w.shared executeInput answer
        (.commit article request made)).1
      simp only [ExecutePlace.run, hcommit]
    · -- No publication commits, so no article changes.
      have hwrote : Wrote digest publish w.shared input call _ := wrote_advance w.shared input call
      refine iff_of_true (fun before hbecomes => ?_) ?_
      · have hsame := hwrote.articles.same_of_not_commits hcommits
        exact absurd hbecomes (not_becomesPublic_of_same h (congrArg KnowledgeTables.articles hsame))
      · intro i' id answer executeInput article request made db' hev hlocal hcommit
        obtain ⟨rfl, rfl⟩ : i = i' ∧ input = .proceed id answer := by simpa using hev
        obtain rfl := Option.some.inj (hcall.symm.trans hlocal)
        exact absurd ⟨id, answer, executeInput, article, request, made, db', rfl, rfl, hcommit⟩
          hcommits

/-- In every state a public organization article carries its executed approval; and it
became public at the approved version in exactly the runs in which each publication
finds the article at the version that it has read. -/
theorem only_approved_version_published_iff {w : ArticleWorld} (hw : PublicationsSound w)
    {run : List (ArticleEvent × ArticleWorld)} (hrun : Run (publications digest).step w run) :
    AlwaysHolds (fun w => PublicCarriesApproval w.shared) w run ∧
      (AllSteps PublishesApprovedVersion w run ↔ StepsMeet (PublishesWhatItRead digest) w run) := by
  have hinv : ∀ s ev s', PublicationsSound s → (publications digest).step s ev s' →
      PublicationsSound s' := fun _ _ _ h hstep => publicationsSound_step h hstep
  refine ⟨alwaysHolds_of_inv hinv (fun s h => h.carries) hrun hw,
    allSteps_iff_stepsMeet hinv ?_ hrun hw⟩
  intro s ev s' h hstep
  exact publishesApprovedVersion_iff h hstep

end Steps

/-! ## A version that no one has approved -/

/-- A private article of an organization. -/
def privateArticle : ArticleWorld where
  shared :=
    { resources :=
        { articles := [{ id := "article", companyId := some "company",
                         ownerScope := .organization }] } }
  locals := []

/-- The publication of version 1 is approved and its execution is at the commit; then the
status of the article is changed. -/
def changedMeanwhile : List ArticleEvent :=
  approvedUntilCommit publication "approver"
      (publishExecution (sessionOf "requester") "approval"
        { articleId := "article", authorized := true } 2000) () ++
    [.env (.setOrganizationKnowledgeArticleStatus "company" "article" .published 1 2000)]

theorem only_approved_version_published_iff_privateArticle :
    AlwaysHolds (fun w => PublicCarriesApproval w.shared) privateArticle
        (trace (publications (·.requesterId)).next privateArticle changedMeanwhile) ∧
      (AllSteps PublishesApprovedVersion privateArticle
          (trace (publications (·.requesterId)).next privateArticle changedMeanwhile) ↔
        StepsMeet (PublishesWhatItRead (·.requesterId)) privateArticle
          (trace (publications (·.requesterId)).next privateArticle changedMeanwhile)) :=
  only_approved_version_published_iff
    (publicationsSound_of_isInitial ⟨rfl, rfl, rfl, rfl⟩
      (by simp [KeyedList.Distinct, privateArticle]) rfl (by decide))
    (run_trace _ _)

/-- The approval names version 1, and version 2 becomes public. -/
theorem unapproved_version_published :
    ∃ w w', Steps (publications (·.requesterId)).step privateArticle w ∧
      (publications (·.requesterId)).step w (.advance 0 (.proceed "approval" ())) w' ∧
      ¬PublishesApprovedVersion w (.advance 0 (.proceed "approval" ())) w' := by
  obtain ⟨w, w', hsteps, hstep, ⟨before, hbefore, hversion, hscope, hprivate, hafter⟩, happroved⟩ :=
    exists_step_of_exec
      (fun w w' : ArticleWorld =>
        (∃ before ∈ w.shared.resources.articles, before.version = 2 ∧
          before.ownerScope = .organization ∧ before.visibility ≠ .publicVisibility ∧
          ∃ after ∈ w'.shared.resources.articles, after.id = before.id ∧
            after.visibility = .publicVisibility) ∧
        ∀ approval ∈ w.shared.requests, approval.expectedVersion = some 1)
      (publications (·.requesterId)).next (s := privateArticle) changedMeanwhile
      (.advance 0 (.proceed "approval" ())) (fun _ _ _ => trivial) (by decide)
  refine ⟨w, w', hsteps.of_guarded, hstep, fun hsafe => ?_⟩
  obtain ⟨effect, approval, -, hstored, hexpected, -⟩ :=
    hsafe before ⟨hbefore, hscope, hprivate, hafter⟩
  rw [happroved approval (KeyedList.find_eq_some hstored).1, hversion] at hexpected
  exact absurd hexpected (by decide)

end AvantimePlatform.Governance
