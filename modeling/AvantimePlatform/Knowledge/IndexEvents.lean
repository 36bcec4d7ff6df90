import AvantimePlatform.Knowledge.Worker
import AvantimePlatform.Lib.Separators

/-!
# The index events of the articles

What the trigger leaves behind.  The key of an event names its article, its version and
whether the article was deleted (`eventKey_inj`).  So in every reachable state each article
has an event for its current version, and no event is for a later one (`Tracked`).

`Changed` lists what a change of an article does to the tables: nothing, a new article with
its event, the next version of one article with its event, or a deletion.  A quarantine of
the current version stores no event, since there is one already.
-/

namespace AvantimePlatform.Knowledge

open AvantimePlatform AvantimePlatform.Checked AvantimePlatform.LeaseQueue
open AvantimePlatform.Governance (KnowledgeOwnerScope KnowledgeVisibility ArticleStatus)

/-! ## The keys -/

theorem colon_not_mem_toString (version : Int) : ':' ∉ (toString version).toList := by
  intro h
  rcases Separators.mem_toString_int h with hdigit | hsign
  · exact absurd hdigit (by decide)
  · exact absurd hsign (by decide)

theorem toString_version_ne_delete (version : Int) : (toString version).toList ≠ "delete".toList := by
  intro h
  have hmem : 'd' ∈ (toString version).toList := by
    rw [h]
    decide
  rcases Separators.mem_toString_int hmem with hdigit | hsign
  · exact absurd hdigit (by decide)
  · exact absurd hsign (by decide)

/-- The text of a key after its prefix. -/
theorem toList_eventKey (articleId : String) (version : Int) (suffix : String) :
    (eventKey articleId version suffix).toList =
      "knowledge:".toList ++ (articleId.toList ++ ':' :: (toString version).toList ++
        suffix.toList) := by
  have hcolon : ":".toList = [':'] := by decide
  unfold eventKey
  rw [String.toList_append, String.toList_append, String.toList_append, String.toList_append,
    hcolon]
  simp only [List.append_assoc, List.cons_append, List.nil_append]

/-- The suffixes of the keys. -/
def IsSuffix (suffix : String) : Prop := suffix = "" ∨ suffix = deleteSuffix

theorem toList_deleteSuffix : deleteSuffix.toList = ':' :: "delete".toList := by decide

theorem colon_not_mem_delete : ':' ∉ "delete".toList := by decide

/-- A key names its article, its version and whether the article was deleted. -/
theorem eventKey_inj {id id' suffix suffix' : String} {version version' : Int}
    (hsuffix : IsSuffix suffix) (hsuffix' : IsSuffix suffix')
    (h : eventKey id version suffix = eventKey id' version' suffix') :
    id = id' ∧ version = version' ∧ suffix = suffix' := by
  have htext := congrArg String.toList h
  rw [toList_eventKey, toList_eventKey] at htext
  have hrest := List.append_cancel_left htext
  have hsame : ∀ {w w' : Int}, id.toList ++ ':' :: (toString w).toList =
      id'.toList ++ ':' :: (toString w').toList → id = id' ∧ w = w' := by
    intro w w' heq
    obtain ⟨hid, hversion⟩ := Separators.append_cons_inj (colon_not_mem_toString w)
      (colon_not_mem_toString w') heq
    refine ⟨String.toList_injective hid, ?_⟩
    have hrepr := String.toList_injective hversion
    rw [Int.toString_eq_repr, Int.toString_eq_repr] at hrepr
    exact Int.repr_injective hrepr
  rcases hsuffix with rfl | rfl
  · rcases hsuffix' with rfl | rfl
    · rw [String.toList_empty, List.append_nil, List.append_nil] at hrest
      obtain ⟨hid, hversion⟩ := hsame hrest
      exact ⟨hid, hversion, rfl⟩
    · rw [String.toList_empty, List.append_nil, toList_deleteSuffix] at hrest
      obtain ⟨-, hversion⟩ := Separators.append_cons_inj (colon_not_mem_toString version)
        colon_not_mem_delete hrest
      exact absurd hversion (toString_version_ne_delete version)
  · rcases hsuffix' with rfl | rfl
    · rw [String.toList_empty, List.append_nil, toList_deleteSuffix] at hrest
      obtain ⟨-, hversion⟩ := Separators.append_cons_inj colon_not_mem_delete
        (colon_not_mem_toString version') hrest
      exact absurd hversion.symm (toString_version_ne_delete version')
    · have hcancel := List.append_cancel_right hrest
      obtain ⟨hid, hversion⟩ := hsame hcancel
      exact ⟨hid, hversion, rfl⟩

/-! ## What is known of the events -/

/-- The table took the event, and its key names its article and version. -/
structure KnowledgeIndexEvent.Named (event : KnowledgeIndexEvent) : Prop where
  fits : event.idempotencyKey.length ≤ 200 ∧ 0 < event.sourceVersion
  key : ∃ suffix, IsSuffix suffix ∧
    event.idempotencyKey = eventKey event.articleId event.sourceVersion suffix

/-- The event is the one of a version of an article. -/
def KnowledgeIndexEvent.IsOf (event : KnowledgeIndexEvent) (articleId : String) (version : Int) :
    Prop :=
  event.idempotencyKey = eventKey articleId version "" ∧ event.articleId = articleId ∧
    event.sourceVersion = version

/-- Each article has an event for its current version and none for a later one. -/
structure Tracked (db : Database) : Prop where
  articles : KeyedList.Distinct (fun article : Article => article.id) db.articles
  named : ∀ event ∈ db.events, event.Named
  current : ∀ article ∈ db.articles, ∃ event ∈ db.events, event.IsOf article.id article.version
  past : ∀ article ∈ db.articles, ∀ event ∈ db.events, event.articleId = article.id →
    event.sourceVersion ≤ article.version

theorem isOf_of_key {event : KnowledgeIndexEvent} (hnamed : event.Named) {articleId : String}
    {version : Int} (h : event.idempotencyKey = eventKey articleId version "") :
    event.IsOf articleId version := by
  obtain ⟨suffix, hsuffix, hkey⟩ := hnamed.key
  rw [h] at hkey
  obtain ⟨hid, hversion, -⟩ := eventKey_inj (Or.inl rfl) hsuffix hkey
  exact ⟨h, hid.symm, hversion.symm⟩

/-! ## The insert of the trigger -/

theorem left_of_length_le {value : String} {n : Nat} (h : value.length ≤ n) :
    left value n = value := by
  unfold left
  rw [List.take_of_length_le (by rw [String.length_toList]; exact h), String.ofList_toList]

/-- What the trigger's insert does. -/
inductive Enqueued (article : Article) (suffix : String) (now : Int)
    (events : List KnowledgeIndexEvent) : List KnowledgeIndexEvent → Prop where
  | conflict (event : KnowledgeIndexEvent) (hevent : event ∈ events)
      (hkey : event.idempotencyKey = eventKey article.id article.version suffix) :
      Enqueued article suffix now events events
  | inserted (hkeys : ∀ event ∈ events,
        event.idempotencyKey ≠ eventKey article.id article.version suffix)
      (hids : ∀ event ∈ events, event.id ≠ (indexEvent article suffix now).id)
      (hid : (indexEvent article suffix now).articleId = article.id)
      (hfits : (eventKey article.id article.version suffix).length ≤ 200 ∧ 0 < article.version) :
      Enqueued article suffix now events (events ++ [indexEvent article suffix now])

theorem enqueued_of_ok {article : Article} {suffix : String} {now : Int}
    {events events' : List KnowledgeIndexEvent}
    (h : enqueueKnowledgeIndexEvent article suffix now events = .ok events') :
    Enqueued article suffix now events events' := by
  unfold enqueueKnowledgeIndexEvent at h
  obtain ⟨hcheck, h⟩ := seq_eq_ok.mp h
  have hfits := require_eq_ok.mp hcheck
  split at h
  · next hconflict =>
      obtain ⟨event, hevent, hkey⟩ := hconflict
      rw [← Except.ok.inj h]
      exact .conflict event hevent hkey
  · next hconflict =>
      obtain ⟨hids, h⟩ := seq_eq_ok.mp h
      rw [← Except.ok.inj h]
      refine .inserted (fun event hevent hkey => hconflict ⟨event, hevent, hkey⟩)
        (require_eq_ok.mp hids) ?_ hfits
      refine left_of_length_le ?_
      have hlength := hfits.1
      unfold eventKey at hlength
      simp only [String.length_append] at hlength
      omega

/-- All events are named after an insert. -/
theorem Enqueued.named {article : Article} {suffix : String} (hsuffix : IsSuffix suffix)
    {now : Int} {events events' : List KnowledgeIndexEvent}
    (h : Enqueued article suffix now events events') (hnamed : ∀ event ∈ events, event.Named) :
    ∀ event ∈ events', event.Named := by
  cases h with
  | conflict _ _ _ => exact hnamed
  | inserted _ _ hid hfits =>
      intro event hevent
      rcases List.mem_append.mp hevent with hold | hnew
      · exact hnamed event hold
      · rw [List.mem_singleton.mp hnew]
        exact ⟨hfits, suffix, hsuffix, by rw [hid]; rfl⟩

/-- The events that were there are there after an insert. -/
theorem Enqueued.mem {article : Article} {suffix : String} {now : Int}
    {events events' : List KnowledgeIndexEvent} (h : Enqueued article suffix now events events')
    {event : KnowledgeIndexEvent} (hevent : event ∈ events) : event ∈ events' := by
  cases h with
  | conflict _ _ _ => exact hevent
  | inserted _ _ _ _ => exact List.mem_append_left _ hevent

/-- A new event is the one of the version. -/
theorem Enqueued.mem_or {article : Article} {suffix : String} {now : Int}
    {events events' : List KnowledgeIndexEvent} (h : Enqueued article suffix now events events')
    {event : KnowledgeIndexEvent} (hevent : event ∈ events') :
    event ∈ events ∨ event = indexEvent article suffix now ∧ event.articleId = article.id := by
  cases h with
  | conflict _ _ _ => exact Or.inl hevent
  | inserted _ _ hid _ =>
      rcases List.mem_append.mp hevent with hold | hnew
      · exact Or.inl hold
      · have hsame := List.mem_singleton.mp hnew
        exact Or.inr ⟨hsame, by rw [hsame]; exact hid⟩

/-- The version has its event after an insert. -/
theorem Enqueued.exists_isOf {article : Article} {now : Int}
    {events events' : List KnowledgeIndexEvent} (h : Enqueued article "" now events events')
    (hnamed : ∀ event ∈ events, event.Named) :
    ∃ event ∈ events', event.IsOf article.id article.version := by
  cases h with
  | conflict event hevent hkey =>
      exact ⟨event, hevent, isOf_of_key (hnamed event hevent) hkey⟩
  | inserted _ _ hid _ =>
      exact ⟨_, List.mem_append_right _ List.mem_cons_self, rfl, hid, rfl⟩

/-! ## The changes of the articles -/

/-- What a change of an article does to the tables. -/
inductive Changed (db : Database) (now : Int) : Database → Prop where
  | same : Changed db now db
  | created (article : Article) (hnew : ∀ row ∈ db.articles, row.id ≠ article.id)
      (hfresh : ∀ event ∈ db.events, event.articleId ≠ article.id)
      {events : List KnowledgeIndexEvent} (hevents : Enqueued article "" now db.events events) :
      Changed db now { db with articles := db.articles ++ [article], events := events }
  | bumped (p : Article → Bool) (f : Article → Article) {article : Article}
      (harticle : article ∈ db.articles) (hp : ∀ row ∈ db.articles, p row = true ↔ row = article)
      (hid : (f article).id = article.id) (hversion : (f article).version = article.version + 1)
      {events : List KnowledgeIndexEvent} (hevents : Enqueued (f article) "" now db.events events) :
      Changed db now
        { db with articles := KeyedList.updateMany p f db.articles, events := events }
  | deleted (article : Article) (harticle : article ∈ db.articles)
      {events : List KnowledgeIndexEvent}
      (hevents : Enqueued article deleteSuffix now db.events events) :
      Changed db now { db with articles := db.articles.filter (·.id ≠ article.id), events := events }

/-- The rows that a condition on the id selects. -/
theorem filter_eq_of_id {articles : List Article}
    (hd : KeyedList.Distinct (fun article : Article => article.id) articles) {p : Article → Bool}
    {id : String} (hp : ∀ row, p row = true → row.id = id) :
    articles.filter p = [] ∨ ∃ article ∈ articles, articles.filter p = [article] ∧
      ∀ row ∈ articles, p row = true ↔ row = article := by
  cases hfilter : articles.filter p with
  | nil => exact Or.inl rfl
  | cons article rest =>
      have hmem : article ∈ articles.filter p := by
        rw [hfilter]
        exact List.mem_cons_self
      obtain ⟨harticle, hpa⟩ := List.mem_filter.mp hmem
      have honly : ∀ row ∈ articles, p row = true ↔ row = article := by
        intro row hrow
        constructor
        · intro hpr
          exact KeyedList.eq_of_key hd hrow harticle ((hp row hpr).trans (hp article hpa).symm)
        · rintro rfl
          exact hpa
      have hcount : (articles.filter p).length ≤ 1 := by
        rw [← List.countP_eq_length_filter]
        exact KeyedList.countP_le_one hd fun row _ hpr => hp row hpr
      rw [hfilter, List.length_cons] at hcount
      have hrest : rest = [] := List.length_eq_zero_iff.mp (by omega)
      exact Or.inr ⟨article, harticle, by rw [hrest], honly⟩

/-- An update that makes the next version of one article. -/
theorem changed_of_updateArticles {db db' : Database} (hdb : Tracked db) {p : Article → Bool}
    {f : Article → Article} {now : Int} (id : String) (h : db.updateArticles p f now = .ok db')
    (hp : ∀ row, p row = true → row.id = id) (hid : ∀ row, (f row).id = row.id)
    (hversion : ∀ row, (f row).version = row.version + 1) : Changed db now db' := by
  unfold Database.updateArticles at h
  obtain ⟨events, hfold, h⟩ := bind_eq_ok.mp h
  have hdb' := Except.ok.inj h
  rcases filter_eq_of_id hdb.articles hp with hnone | ⟨article, harticle, hone, honly⟩
  · rw [hnone] at hfold
    have hevents : db.events = events := Except.ok.inj hfold
    have hsame : KeyedList.updateMany p f db.articles = db.articles := by
      unfold KeyedList.updateMany
      refine (List.map_congr_left fun row hrow => ?_).trans (List.map_id _)
      refine if_neg fun hpr => ?_
      have hmem : row ∈ db.articles.filter p := List.mem_filter.mpr ⟨hrow, hpr⟩
      rw [hnone] at hmem
      cases hmem
    rw [← hdb', hsame, ← hevents]
    exact .same
  · have hfires : article.firesTrigger (f article) = true := by
      have hne : (f article).version ≠ article.version := by
        rw [hversion article]
        omega
      unfold Article.firesTrigger
      simp [hne]
    have henqueue : enqueueKnowledgeIndexEvent (f article) "" now db.events = .ok events := by
      rw [hone, List.foldlM_cons] at hfold
      obtain ⟨middle, hmiddle, hlast⟩ := bind_eq_ok.mp hfold
      have hmiddle' : middle = events := Except.ok.inj hlast
      unfold enqueueUpdated at hmiddle
      rw [if_pos hfires, hmiddle'] at hmiddle
      exact hmiddle
    rw [← hdb']
    exact .bumped p f harticle honly (hid article) (hversion article) (enqueued_of_ok henqueue)

/-- The id that a new article gets is new: no event names it. -/
def ArticleChange.HasNewId (db : Database) : ArticleChange → Prop
  | .createKnowledgeArticle _ id => ∀ event ∈ db.events, event.articleId ≠ id
  | _ => True

/-- Every change of an article is one of `Changed`. -/
theorem changed_of_run {db db' : Database} (hdb : Tracked db) {now : Int} {change : ArticleChange}
    (hfresh : change.HasNewId db) (h : change.run db now = .ok db') : Changed db now db' := by
  cases change with
  | createKnowledgeArticle input id =>
      change db.createArticle (input.article id) now = .ok db' at h
      unfold Database.createArticle at h
      obtain ⟨hnew, h⟩ := seq_eq_ok.mp h
      obtain ⟨events, henqueue, h⟩ := bind_eq_ok.mp h
      rw [← Except.ok.inj h]
      exact .created _ (fun row hrow => (require_eq_ok.mp hnew row hrow).1) hfresh
        (enqueued_of_ok henqueue)
  | setKnowledgeArticleStatus id status expectedVersion =>
      refine changed_of_updateArticles hdb id h (fun row hrow => ?_) (fun _ => rfl)
        (fun _ => rfl)
      unfold Article.isPlatformTarget at hrow
      simp only [Bool.and_eq_true, decide_eq_true_eq] at hrow
      exact hrow.1.1.1
  | setOrganizationKnowledgeArticleStatus companyId id status expectedVersion =>
      refine changed_of_updateArticles hdb id h (fun row hrow => ?_) (fun _ => rfl)
        (fun _ => rfl)
      unfold Governance.KnowledgeArticle.isStatusTarget at hrow
      simp only [Bool.and_eq_true, decide_eq_true_eq] at hrow
      exact hrow.1.1.1.1
  | writeVisibility update =>
      refine changed_of_updateArticles hdb update.article.id h (fun row hrow => ?_)
        (fun _ => rfl) (fun _ => rfl)
      unfold Governance.VisibilityUpdate.selects at hrow
      simp only [Bool.and_eq_true, decide_eq_true_eq] at hrow
      exact hrow.1.1
  | publishArticle id approvalId =>
      exact changed_of_updateArticles hdb id h (fun row hrow => of_decide_eq_true hrow)
        (fun _ => rfl) (fun _ => rfl)
  | requestPlatformKnowledgeReindex id expectedVersion =>
      refine changed_of_updateArticles hdb id h (fun row hrow => ?_) (fun _ => rfl)
        (fun _ => rfl)
      unfold Article.isReindexTarget at hrow
      simp only [Bool.and_eq_true, decide_eq_true_eq] at hrow
      exact hrow.1.1
  | deleteArticle id =>
      change db.deleteArticle id now = .ok db' at h
      unfold Database.deleteArticle at h
      split at h
      · rw [← Except.ok.inj h]
        exact .same
      · next article harticle =>
          obtain ⟨hmem, hid⟩ := KeyedList.find_eq_some harticle
          obtain ⟨events, henqueue, h⟩ := bind_eq_ok.mp h
          rw [← Except.ok.inj h, ← hid]
          exact .deleted article hmem (enqueued_of_ok henqueue)

/-! ## What the changes keep -/

theorem tracked_of_changed {db db' : Database} {now : Int} (hdb : Tracked db)
    (h : Changed db now db') : Tracked db' := by
  cases h with
  | same => exact hdb
  | created article hnone hfresh hevents =>
      refine ⟨KeyedList.distinct_append_new hdb.articles (KeyedList.find_eq_none.mpr hnone),
        hevents.named (Or.inl rfl) hdb.named, fun row hrow => ?_, fun row hrow event hevent hid => ?_⟩
      · rcases List.mem_append.mp hrow with hold | hlast
        · obtain ⟨event, hevent, hof⟩ := hdb.current row hold
          exact ⟨event, hevents.mem hevent, hof⟩
        · rw [List.mem_singleton.mp hlast]
          exact hevents.exists_isOf hdb.named
      · rcases List.mem_append.mp hrow with hold | hlast
        · rcases hevents.mem_or hevent with hold' | ⟨-, hid'⟩
          · exact hdb.past row hold event hold' hid
          · exact absurd (hid.symm.trans hid') (hnone row hold)
        · rw [List.mem_singleton.mp hlast] at hid ⊢
          rcases hevents.mem_or hevent with hold' | ⟨rfl, -⟩
          · exact absurd hid (hfresh event hold')
          · exact le_refl _
  | @bumped p f article harticle hp hid hversion events hevents =>
      have hkept : ∀ row ∈ db.articles, (if p row then f row else row).id = row.id := by
        intro row hrow
        split
        · next hpr => rw [(hp row hrow).mp hpr, hid]
        · rfl
      have hkeys : (KeyedList.updateMany p f db.articles).map (fun article : Article => article.id) =
          db.articles.map fun article : Article => article.id := by
        unfold KeyedList.updateMany
        rw [List.map_map]
        exact List.map_congr_left hkept
      refine ⟨?_, hevents.named (Or.inl rfl) hdb.named, fun row' hrow' => ?_,
        fun row' hrow' event hevent hid' => ?_⟩
      · unfold KeyedList.Distinct
        rw [hkeys]
        exact hdb.articles
      · rcases KeyedList.mem_updateMany hrow' with ⟨hrow, -⟩ | ⟨row, hrow, hpr, rfl⟩
        · obtain ⟨event, hevent, hof⟩ := hdb.current row' hrow
          exact ⟨event, hevents.mem hevent, hof⟩
        · rw [(hp row hrow).mp hpr]
          exact hevents.exists_isOf hdb.named
      · rcases KeyedList.mem_updateMany hrow' with ⟨hrow, hpr⟩ | ⟨row, hrow, hpr, rfl⟩
        · rcases hevents.mem_or hevent with hold | ⟨-, hnewId⟩
          · exact hdb.past row' hrow event hold hid'
          · -- The new event is of the selected article only.
            rw [hid, hid'] at hnewId
            have hsame := KeyedList.eq_of_key hdb.articles hrow harticle hnewId
            rw [(hp row' hrow).mpr hsame] at hpr
            cases hpr
        · rw [(hp row hrow).mp hpr] at hid' ⊢
          rcases hevents.mem_or hevent with hold | ⟨rfl, -⟩
          · have hle := hdb.past article harticle event hold (hid'.trans hid)
            rw [hversion]
            omega
          · exact le_refl _
  | deleted article harticle hevents =>
      refine ⟨hdb.articles.sublist (List.filter_sublist.map _),
        hevents.named (Or.inr rfl) hdb.named, fun row hrow => ?_, fun row hrow event hevent hid => ?_⟩
      · obtain ⟨event, hevent, hof⟩ := hdb.current row (List.mem_filter.mp hrow).1
        exact ⟨event, hevents.mem hevent, hof⟩
      · obtain ⟨hold, hne⟩ := List.mem_filter.mp hrow
        rcases hevents.mem_or hevent with hold' | ⟨-, hid'⟩
        · exact hdb.past row hold event hold' hid
        · rw [decide_eq_true_eq] at hne
          exact absurd (hid.symm.trans hid') hne

/-! ## The quarantine -/

/-- An update of events that leaves alone what names them. -/
structure KeepsName (f : KnowledgeIndexEvent → KnowledgeIndexEvent) : Prop where
  id : ∀ event, (f event).id = event.id
  key : ∀ event, (f event).idempotencyKey = event.idempotencyKey
  articleId : ∀ event, (f event).articleId = event.articleId
  sourceVersion : ∀ event, (f event).sourceVersion = event.sourceVersion

theorem tracked_updateEvents {db : Database} (hdb : Tracked db)
    {f : KnowledgeIndexEvent → KnowledgeIndexEvent} (hf : KeepsName f) :
    Tracked { db with events := db.events.map f } := by
  refine ⟨hdb.articles, fun event hevent => ?_, fun article harticle => ?_,
    fun article harticle event hevent hid => ?_⟩
  · obtain ⟨old, hold, rfl⟩ := List.mem_map.mp hevent
    have hnamed := hdb.named old hold
    refine ⟨?_, ?_⟩
    · rw [hf.key, hf.sourceVersion]
      exact hnamed.fits
    · rw [hf.key, hf.articleId, hf.sourceVersion]
      exact hnamed.key
  · obtain ⟨event, hevent, hkey, hid, hversion⟩ := hdb.current article harticle
    refine ⟨f event, List.mem_map_of_mem hevent, ?_, ?_, ?_⟩
    · rw [hf.key, hkey]
    · rw [hf.articleId, hid]
    · rw [hf.sourceVersion, hversion]
  · obtain ⟨old, hold, rfl⟩ := List.mem_map.mp hevent
    rw [hf.articleId] at hid
    rw [hf.sourceVersion]
    exact hdb.past article harticle old hold hid

/-- A quarantine of current versions stores no event. -/
theorem updateArticles_quarantine {db : Database} (hdb : Tracked db) (p : Article → Bool)
    (now : Int) :
    db.updateArticles p (·.quarantine now) now =
      .ok { db with articles := KeyedList.updateMany p (·.quarantine now) db.articles } := by
  have henqueue : ∀ article ∈ db.articles,
      enqueueUpdated article (article.quarantine now) now db.events = .ok db.events := by
    intro article harticle
    unfold enqueueUpdated
    split
    · obtain ⟨event, hevent, hkey, -, hversion⟩ := hdb.current article harticle
      have hfits := (hdb.named event hevent).fits
      rw [hkey, hversion] at hfits
      have hconflict : ∃ event ∈ db.events, event.idempotencyKey =
          eventKey (article.quarantine now).id (article.quarantine now).version "" :=
        ⟨event, hevent, hkey⟩
      have hcheck : (require ((eventKey (article.quarantine now).id
          (article.quarantine now).version "").length ≤ 200 ∧ 0 < (article.quarantine now).version)
          databaseError : Except String Unit) = .ok () := require_eq_ok.mpr hfits
      unfold enqueueKnowledgeIndexEvent
      rw [hcheck, if_pos hconflict]
      rfl
    · rfl
  have hfold : ∀ articles : List Article, (∀ article ∈ articles, article ∈ db.articles) →
      articles.foldlM (fun events old => enqueueUpdated old (old.quarantine now) now events)
        db.events = .ok db.events := by
    intro articles harticles
    induction articles with
    | nil => rfl
    | cons article rest ih =>
        rw [List.foldlM_cons, henqueue article (harticles article List.mem_cons_self)]
        exact ih fun other hother => harticles other (List.mem_cons_of_mem _ hother)
  unfold Database.updateArticles
  rw [hfold _ fun article harticle => (List.mem_filter.mp harticle).1]
  rfl

theorem tracked_quarantine {db : Database} (hdb : Tracked db) (p : Article → Bool) (now : Int) :
    Tracked { db with articles := KeyedList.updateMany p (·.quarantine now) db.articles } := by
  refine ⟨KeyedList.distinct_updateMany (f := (·.quarantine now)) (fun _ => rfl) hdb.articles,
    hdb.named,
    fun row' hrow' => ?_, fun row' hrow' event hevent hid => ?_⟩
  · rcases KeyedList.mem_updateMany hrow' with ⟨hrow, -⟩ | ⟨row, hrow, -, rfl⟩
    · exact hdb.current row' hrow
    · exact hdb.current row hrow
  · rcases KeyedList.mem_updateMany hrow' with ⟨hrow, -⟩ | ⟨row, hrow, -, rfl⟩
    · exact hdb.past row' hrow event hevent hid
    · exact hdb.past row hrow event hevent hid

/-! ## The operations of the worker -/

theorem KeepsName.updateMany {f : KnowledgeIndexEvent → KnowledgeIndexEvent} (hf : KeepsName f)
    (p : KnowledgeIndexEvent → Bool) : KeepsName fun event => if p event then f event else event := by
  refine ⟨fun event => ?_, fun event => ?_, fun event => ?_, fun event => ?_⟩
  all_goals split
  · exact hf.id event
  · rfl
  · exact hf.key event
  · rfl
  · exact hf.articleId event
  · rfl
  · exact hf.sourceVersion event
  · rfl

theorem keepsName_exhaust : KeepsName (·.exhaust) :=
  ⟨fun _ => rfl, fun _ => rfl, fun _ => rfl, fun _ => rfl⟩

theorem keepsName_claim (leaseToken : String) (leaseUntil : Int) :
    KeepsName (·.claim leaseToken leaseUntil) :=
  ⟨fun _ => rfl, fun _ => rfl, fun _ => rfl, fun _ => rfl⟩

theorem keepsName_complete (now : Int) : KeepsName (·.complete now) :=
  ⟨fun _ => rfl, fun _ => rfl, fun _ => rfl, fun _ => rfl⟩

theorem keepsName_fail (exhausted : Bool) (nextAttemptAt : Int) (failureCode : String) :
    KeepsName (·.fail exhausted nextAttemptAt failureCode) :=
  ⟨fun _ => rfl, fun _ => rfl, fun _ => rfl, fun _ => rfl⟩

variable {db db' : Database} {now : Int} {record : KnowledgeIndexEvent}

theorem exhaustEvents_eq (hdb : Tracked db) (now : Int) :
    exhaustEvents db now = .ok { db with
      events := KeyedList.updateMany (·.isExhausted now) (·.exhaust) db.events
      articles := KeyedList.updateMany
        (·.isQuarantinedBy (db.events.filter (·.isExhausted now))) (·.quarantine now) db.articles } :=
  updateArticles_quarantine (tracked_updateEvents hdb (keepsName_exhaust.updateMany _)) _ now

/-- What a claim leaves: the events of the claim rules, and the articles of the exhausted
events in quarantine. -/
theorem claimKnowledgeIndexBatch_eq_ok (hdb : Tracked db) {input : BatchInput} {uuid : String}
    {locked : List String} {records : List KnowledgeIndexEvent}
    (h : claimKnowledgeIndexBatch db input now uuid locked = .ok (db', records)) :
    ∃ articleId, records = ((eventClaimRules now articleId uuid (now + input.leaseMs)).run locked
        input.batchSize db.events).2 ∧
      db' = { db with
        events := ((eventClaimRules now articleId uuid (now + input.leaseMs)).run locked
          input.batchSize db.events).1
        articles := KeyedList.updateMany
          (·.isQuarantinedBy (db.events.filter (·.isExhausted now))) (·.quarantine now)
          db.articles } := by
  unfold claimKnowledgeIndexBatch at h
  obtain ⟨-, h⟩ := seq_eq_ok.mp h
  obtain ⟨-, h⟩ := seq_eq_ok.mp h
  obtain ⟨articleId, -, h⟩ := bind_eq_ok.mp h
  obtain ⟨exhausted, hexhausted, h⟩ := bind_eq_ok.mp h
  rw [exhaustEvents_eq hdb] at hexhausted
  have hsame := Except.ok.inj hexhausted
  have hresult := Except.ok.inj h
  rw [Prod.mk.injEq] at hresult
  obtain ⟨hdb', hrecords⟩ := hresult
  subst hsame
  exact ⟨articleId, hrecords.symm, hdb'.symm⟩

/-- What a failure leaves: the event failed, and its article in quarantine where the event is
exhausted. -/
theorem failHeld_eq (hdb : Tracked db) (record : KnowledgeIndexEvent) (nextAttemptAt now : Int) :
    failHeld db record nextAttemptAt now = .ok { db with
      events := KeyedList.updateMany (·.isHeldAs record)
        (·.fail (decide (record.maxAttempts ≤ record.attempts)) nextAttemptAt operationFailed)
        db.events
      articles := if record.maxAttempts ≤ record.attempts then
          KeyedList.updateMany (·.isQuarantinedBy [record]) (·.quarantine now) db.articles
        else db.articles } := by
  unfold failHeld
  by_cases hexhausted : record.maxAttempts ≤ record.attempts
  · rw [if_pos hexhausted, if_pos hexhausted]
    exact updateArticles_quarantine
      (tracked_updateEvents hdb ((keepsName_fail _ _ _).updateMany _)) _ now
  · rw [if_neg hexhausted, if_neg hexhausted]

theorem tracked_of_claim (hdb : Tracked db) {input : BatchInput} {uuid : String}
    {locked : List String} {records : List KnowledgeIndexEvent}
    (h : claimKnowledgeIndexBatch db input now uuid locked = .ok (db', records)) : Tracked db' := by
  obtain ⟨articleId, -, rfl⟩ := claimKnowledgeIndexBatch_eq_ok hdb h
  have hburied := tracked_updateEvents hdb (keepsName_exhaust.updateMany (·.isExhausted now))
  have hclaimed := tracked_updateEvents hburied
    ((keepsName_claim uuid (now + input.leaseMs)).updateMany (eventView.key · ∈
      (eventClaimRules now articleId uuid (now + input.leaseMs)).chosen locked input.batchSize
        db.events))
  exact tracked_quarantine hclaimed _ now

theorem tracked_of_complete (hdb : Tracked db)
    (h : completeKnowledgeIndexEvent db record now = .ok db') : Tracked db' := by
  unfold completeKnowledgeIndexEvent at h
  split at h
  · rw [← Except.ok.inj h]
    exact tracked_updateEvents hdb ((keepsName_complete now).updateMany _)
  · cases h

theorem tracked_of_fail (hdb : Tracked db)
    (h : failKnowledgeIndexEvent db record now = .ok db') : Tracked db' := by
  unfold failKnowledgeIndexEvent at h
  obtain ⟨nextAttemptAt, -, h⟩ := bind_eq_ok.mp h
  obtain ⟨-, h⟩ := seq_eq_ok.mp h
  rw [failHeld_eq hdb] at h
  rw [← Except.ok.inj h]
  have hfailed := tracked_updateEvents hdb ((keepsName_fail
    (decide (record.maxAttempts ≤ record.attempts)) nextAttemptAt operationFailed).updateMany
      (·.isHeldAs record))
  by_cases hexhausted : record.maxAttempts ≤ record.attempts
  · simp only [if_pos hexhausted]
    exact tracked_quarantine hfailed (·.isQuarantinedBy [record]) now
  · simp only [if_neg hexhausted]
    exact hfailed

end AvantimePlatform.Knowledge
