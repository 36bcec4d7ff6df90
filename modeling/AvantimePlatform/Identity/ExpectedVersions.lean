import AvantimePlatform.Identity.RequiredSso
import AvantimePlatform.Lib.Logs

/-!
# Calls with an expected version

Every administrator's call on a provider or on a sign-on policy carries the version that its
caller has seen.  Those on a provider write under the condition that the version is still
that one.  `updateOrganizationSsoPolicy` compares it with a read and then writes the policy of
the company, whatever its version is.

* `success?`: the object and the expected version of a call that succeeds at a step.
* `expected_version_once_iff`: along a run no expected version succeeds twice for an object
  exactly when each policy is written at the version that was read.
-/

namespace AvantimePlatform.Identity

open AvantimePlatform AvantimePlatform.Checked AvantimePlatform.Interleaving
  AvantimePlatform.Transition AvantimePlatform.Logs

variable {urls : UrlRules} {db db' : OidcTables}

/-! ## What succeeds -/

/-- What has a `configurationVersion`. -/
inductive OidcObject where
  | policy (companyId : String)
  | provider (id : Nat)
deriving DecidableEq

/-- `configurationVersion`; 0 where there is no row. -/
def OidcTables.version (db : OidcTables) : OidcObject → Int
  | .policy companyId => ((db.policy? companyId).map (·.configurationVersion)).getD 0
  | .provider id => ((db.provider? id).map (·.configurationVersion)).getD 0

/-- The object and the expected version of a call that is about to write, if the write
commits. -/
def OidcCall.success? (db : OidcTables) : OidcCall → Option (OidcObject × Int)
  | .update input (.write current) =>
    if (input.write db current).isOk then some (.provider current.id, input.expectedVersion) else none
  | .setEnabled input (.write provider) =>
    if (input.write db provider).isOk then some (.provider provider.id, input.expectedVersion) else none
  | .refresh input (.write provider metadata) =>
    if (input.write db provider metadata).isOk then
      some (.provider provider.id, input.expectedVersion)
    else none
  | .policy input (.write existing) =>
    match input.checks, input.write db existing with
    | .ok companyId, .ok _ => some (.policy companyId, input.expectedVersion)
    | _, _ => none
  | _ => none

/-- The object and the expected version of a call that succeeds at a step. -/
def success? (w : OidcWorld) : OidcEvent → Option (OidcObject × Int)
  | .advance i answer =>
    if answer = .failed then none else (w.locals[i]?).bind fun call => call.success? w.shared
  | _ => none

/-- A call that succeeds raises the version of its object. -/
def VersionRaised (w : OidcWorld) (ev : OidcEvent) (w' : OidcWorld) : Prop :=
  ∀ object expected, success? w ev = some (object, expected) →
    w.shared.version object < w'.shared.version object

/-- A call of `updateOrganizationSsoPolicy` that has found a policy writes it at the expected
version. -/
def PolicyVersionAsRead (w : OidcWorld) (ev : OidcEvent) : Prop :=
  ∀ i answer input companyId row, ev = .advance i answer → answer ≠ .failed →
    w.locals[i]? = some (.policy input (.write true)) → input.checks = .ok companyId →
    w.shared.policy? companyId = some row → row.configurationVersion = input.expectedVersion

/-! ## One step -/

theorem version_of_policy {companyId : String} {row : OrganizationIdentityPolicy}
    (h : db.policy? companyId = some row) :
    db.version (.policy companyId) = row.configurationVersion := by
  simp [OidcTables.version, h]

theorem version_of_provider {id : Nat} {row : IdentityProvider} (h : db.provider? id = some row) :
    db.version (.provider id) = row.configurationVersion := by
  simp [OidcTables.version, h]

/-- A provider that is written has its new version, and every other object the old one. -/
theorem version_setProvider {row old : IdentityProvider} (hold : db.provider? row.id = some old)
    (object : OidcObject) :
    (db.setProvider row).version object =
      if object = .provider row.id then row.configurationVersion else db.version object := by
  cases object with
  | policy companyId => rfl
  | provider id =>
      by_cases hid : id = row.id
      · subst hid
        rw [if_pos rfl]
        exact version_of_provider (by rw [provider_setProvider hold, if_pos rfl])
      · rw [if_neg (fun h => hid (OidcObject.provider.inj h))]
        unfold OidcTables.version
        dsimp only
        rw [provider_setProvider hold, if_neg hid]

/-- A provider that is written at a higher version is raised, and no other object moves. -/
theorem version_le_setProvider (row : IdentityProvider) {old : IdentityProvider} (hold : db.provider? row.id = some old)
    (hraise : row.configurationVersion = old.configurationVersion + 1) (object : OidcObject) :
    db.version object ≤ (db.setProvider row).version object := by
  rw [version_setProvider hold]
  split
  · next hobject =>
    rw [hobject, version_of_provider hold, hraise]
    omega
  · exact le_refl _

/-- The policies after a write: that of the company has the next version, and every other one
the old one. -/
theorem version_of_policyWrite {input : SsoPolicyInput} {existing : Bool}
    (h : input.write db existing = .ok db') :
    ∃ companyId, input.checks = .ok companyId ∧ existing = (db.policy? companyId).isSome ∧
      ∀ object, db'.version object =
        if object = .policy companyId then db.version object + 1 else db.version object := by
  obtain ⟨companyId, hchecks, hrest⟩ := bind_eq_ok.mp h
  cases hpolicy : db.policy? companyId with
  | none =>
      rw [hpolicy] at hrest
      cases existing with
      | true => cases hrest
      | false =>
          rw [← Except.ok.inj hrest]
          refine ⟨companyId, hchecks, by rw [hpolicy]; rfl, fun object => ?_⟩
          cases object with
          | provider id => rfl
          | policy other =>
              have hfind : KeyedList.find OrganizationIdentityPolicy.companyId other
                  (db.policies ++ [input.written { companyId := companyId }]) =
                    if other = companyId then some (input.written { companyId := companyId })
                    else db.policy? other := KeyedList.find_append_new hpolicy
              unfold OidcTables.version
              dsimp only [OidcTables.policy?] at hfind hpolicy ⊢
              rw [hfind]
              by_cases hsame : other = companyId
              · rw [if_pos hsame, if_pos (congrArg OidcObject.policy hsame), hsame, hpolicy]
                rfl
              · rw [if_neg hsame, if_neg (fun h => hsame (OidcObject.policy.inj h))]
  | some row =>
      rw [hpolicy] at hrest
      cases existing with
      | false => cases hrest
      | true =>
          rw [← Except.ok.inj hrest]
          refine ⟨companyId, hchecks, by rw [hpolicy]; rfl, fun object => ?_⟩
          cases object with
          | provider id => rfl
          | policy other =>
              have hcompany : row.companyId = companyId := (KeyedList.find_eq_some hpolicy).2
              have hself : KeyedList.find OrganizationIdentityPolicy.companyId row.companyId
                  db.policies = some row := by rwa [hcompany]
              have hfind : KeyedList.find OrganizationIdentityPolicy.companyId other
                  (KeyedList.put OrganizationIdentityPolicy.companyId
                    { input.written row with configurationVersion := row.configurationVersion + 1 }
                    db.policies) =
                    if other = row.companyId then
                      some { input.written row with
                        configurationVersion := row.configurationVersion + 1 }
                    else db.policy? other := KeyedList.find_put hself
              unfold OidcTables.version
              dsimp only [OidcTables.policy?] at hfind hpolicy ⊢
              rw [hfind, hcompany]
              by_cases hsame : other = companyId
              · rw [if_pos hsame, if_pos (congrArg OidcObject.policy hsame), hsame, hpolicy]
                rfl
              · rw [if_neg hsame, if_neg (fun h => hsame (OidcObject.policy.inj h))]

/-- Its update finds the policy that is there. -/
theorem ssoPolicyWrite_updated {input : SsoPolicyInput} {companyId : String}
    {row : OrganizationIdentityPolicy} (hchecks : input.checks = .ok companyId)
    (hrow : db.policy? companyId = some row) :
    input.write db true = .ok
      { db with
        policies := KeyedList.put OrganizationIdentityPolicy.companyId
          { input.written row with configurationVersion := row.configurationVersion + 1 }
          db.policies } := by
  refine bind_eq_ok.mpr ⟨companyId, hchecks, ?_⟩
  rw [hrow]
  rfl

/-- Its creation succeeds where there is no policy. -/
theorem ssoPolicyWrite_created {input : SsoPolicyInput} {companyId : String}
    (hchecks : input.checks = .ok companyId) (hnone : db.policy? companyId = none) :
    input.write db false =
      .ok { db with policies := db.policies ++ [input.written { companyId := companyId }] } := by
  refine bind_eq_ok.mpr ⟨companyId, hchecks, ?_⟩
  rw [hnone]
  rfl

theorem version_le_policyWrite {input : SsoPolicyInput} {existing : Bool}
    (h : input.write db existing = .ok db') (object : OidcObject) :
    db.version object ≤ db'.version object := by
  obtain ⟨companyId, -, -, hversions⟩ := version_of_policyWrite h
  rw [hversions]
  split
  · omega
  · exact le_refl _

/-- No step lowers a version. -/
theorem version_mono {call : OidcCall} (hkeyed : OidcKeyed db) (h : OidcWrote db call db')
    (object : OidcObject) : db.version object ≤ db'.version object := by
  cases h with
  | nothing => exact le_refl _
  | created input companyId =>
      cases object with
      | policy companyId => exact le_refl _
      | provider id =>
          have hnew : KeyedList.find IdentityProvider.id
              (input.configuration.created db.serial companyId).id db.providers = none := hkeyed.fresh
          unfold OidcTables.version OidcTables.provider?
          dsimp only
          rw [KeyedList.find_append_new hnew]
          split
          · next hid =>
            have hnone : KeyedList.find IdentityProvider.id id db.providers = none := hid ▸ hnew
            rw [hnone]
            show (0 : Int) ≤ 1
            decide
          · exact le_refl _
  | updated input current row hrow hversion =>
      have hself : db.provider? row.id = some row := by rwa [provider_id hrow]
      exact version_le_setProvider (input.configuration.updated current row) hself rfl object
  | switched input provider row hrow hversion =>
      have hself : db.provider? row.id = some row := by rwa [provider_id hrow]
      exact version_le_setProvider (row.switched input.enabled) hself rfl object
  | refreshed input provider row metadata hrow hversion =>
      have hself : db.provider? row.id = some row := by rwa [provider_id hrow]
      exact version_le_setProvider (metadata.refreshed provider input.now row) hself rfl object
  | recorded input request provider loaded row session hrow hversion hstatus evidence hrecord =>
      have hself : db.provider? row.id = some row := by rwa [provider_id hrow]
      exact version_le_setProvider (row.validated evidence) hself rfl object
  | requests input place rows => exact le_refl _
  | policyUpdated input existing companyId hchecks row hrow hwrite =>
      exact version_le_policyWrite (ssoPolicyWrite_updated hchecks hrow) object
  | policyCreated input existing companyId hchecks hnone hwrite =>
      exact version_le_policyWrite (ssoPolicyWrite_created hchecks hnone) object

/-- What a write of a provider under an expected version has found. -/
theorem success_updateProvider {companyId : String} {id : Nat} {expected : Int}
    {p : IdentityProvider → Bool} {f : IdentityProvider → IdentityProvider}
    (h : db.updateProvider companyId id expected p f = .ok db') (hid : ∀ row, (f row).id = row.id)
    (hraise : ∀ row, (f row).configurationVersion = row.configurationVersion + 1) :
    db.version (.provider id) = expected ∧ db.version (.provider id) < db'.version (.provider id) := by
  obtain ⟨row, hrow, hversion, -, -, rfl⟩ := updateProvider_eq_ok h
  have hsame : row.id = id := provider_id hrow
  have hself : db.provider? (f row).id = some row := by rwa [hid, hsame]
  rw [version_setProvider hself, if_pos (by rw [hid, hsame]), version_of_provider hrow, hraise]
  exact ⟨hversion, by omega⟩

theorem isOk_iff {α : Type} {result : Except String α} : result.isOk = true ↔ ∃ value, result = .ok value := by
  cases result with
  | error e => exact iff_of_false Bool.false_ne_true (by rintro ⟨value, h⟩; cases h)
  | ok value => exact iff_of_true rfl ⟨value, rfl⟩

/-- A call that succeeds raises the version of its object.  It has found the expected version
there, unless it writes a policy. -/
theorem success_cases {call : OidcCall} {answer : OidcAnswer} {object : OidcObject} {expected : Int}
    (hanswer : answer ≠ .failed) (h : call.success? db = some (object, expected)) :
    db.version object < (call.advance urls db answer).1.version object ∧
      (db.version object = expected ∨ ∃ input existing companyId,
        call = .policy input (.write existing) ∧ input.checks = .ok companyId ∧
        object = .policy companyId ∧ expected = input.expectedVersion ∧
        existing = (db.policy? companyId).isSome) := by
  unfold OidcCall.success? at h
  unfold OidcCall.advance
  rw [if_neg hanswer]
  split at h
  · next input current =>
    split at h
    · next hok =>
      obtain ⟨db', hwrite⟩ := isOk_iff.mp hok
      obtain ⟨rfl, rfl⟩ := Prod.mk.inj (Option.some.inj h)
      obtain ⟨companyId, -, hrest⟩ := bind_eq_ok.mp hwrite
      rw [seq_eq_ok] at hrest
      obtain ⟨hversion, hraise⟩ := success_updateProvider hrest.2 (fun _ => rfl) fun _ => rfl
      refine ⟨?_, Or.inl hversion⟩
      show db.version _ < (writes db none (input.write db current)).1.version _
      rw [hwrite]
      exact hraise
    · cases h
  · next input provider =>
    split at h
    · next hok =>
      obtain ⟨db', hwrite⟩ := isOk_iff.mp hok
      obtain ⟨rfl, rfl⟩ := Prod.mk.inj (Option.some.inj h)
      obtain ⟨companyId, -, hrest⟩ := bind_eq_ok.mp hwrite
      obtain ⟨hversion, hraise⟩ := success_updateProvider hrest (fun _ => rfl) fun _ => rfl
      refine ⟨?_, Or.inl hversion⟩
      show db.version _ < (writes db none (input.write db provider)).1.version _
      rw [hwrite]
      exact hraise
    · cases h
  · next input provider metadata =>
    split at h
    · next hok =>
      obtain ⟨db', hwrite⟩ := isOk_iff.mp hok
      obtain ⟨rfl, rfl⟩ := Prod.mk.inj (Option.some.inj h)
      obtain ⟨companyId, -, hrest⟩ := bind_eq_ok.mp hwrite
      obtain ⟨hversion, hraise⟩ := success_updateProvider hrest (fun _ => rfl) fun _ => rfl
      refine ⟨?_, Or.inl hversion⟩
      show db.version _ < (writes db none (input.write db provider metadata)).1.version _
      rw [hwrite]
      exact hraise
    · cases h
  · next input existing =>
    split at h
    · next companyId db' hchecks hwrite =>
      obtain ⟨rfl, rfl⟩ := Prod.mk.inj (Option.some.inj h)
      obtain ⟨companyId', hchecks', hexisting, hversions⟩ := version_of_policyWrite hwrite
      rw [hchecks] at hchecks'
      obtain rfl := Except.ok.inj hchecks'
      refine ⟨?_, Or.inr ⟨input, existing, companyId, rfl, hchecks, rfl, rfl, hexisting⟩⟩
      show db.version _ < (writes db none (input.write db existing)).1.version _
      rw [hwrite]
      show db.version _ < db'.version _
      rw [hversions, if_pos rfl]
      omega
    · cases h
  · cases h

theorem policy_of_policyWrite {input : SsoPolicyInput} {existing : Bool} {tenant companyId : String}
    (h : input.write db existing = .ok db') (hchecks : input.checks = .ok tenant)
    (hne : companyId ≠ tenant) : db'.policy? companyId = db.policy? companyId := by
  obtain ⟨tenant', policy, hchecks', -, -, -, -, hfind⟩ := ssoPolicyWrite_eq_ok h
  rw [hchecks] at hchecks'
  obtain rfl := Except.ok.inj hchecks'
  rw [hfind, if_neg hne]

/-- A policy stays as it is unless a call on it succeeds. -/
theorem policy_of_wrote {call : OidcCall} {companyId : String} {row : OrganizationIdentityPolicy}
    (h : OidcWrote db call db')
    (hnot : ∀ expected, call.success? db ≠ some (.policy companyId, expected))
    (hrow : db.policy? companyId = some row) : db'.policy? companyId = some row := by
  cases h with
  | nothing => exact hrow
  | created => exact hrow
  | updated => exact hrow
  | switched => exact hrow
  | refreshed => exact hrow
  | recorded => exact hrow
  | requests => exact hrow
  | policyUpdated input existing tenant hchecks found hfound hwrite =>
      have hok := ssoPolicyWrite_updated hchecks hfound
      have hne : companyId ≠ tenant := by
        rintro rfl
        subst hwrite
        refine hnot input.expectedVersion ?_
        simp only [OidcCall.success?, hchecks, hok]
      exact (policy_of_policyWrite hok hchecks hne).trans hrow
  | policyCreated input existing tenant hchecks hnone hwrite =>
      have hne : companyId ≠ tenant := by
        rintro rfl
        rw [hrow] at hnone
        cases hnone
      exact (policy_of_policyWrite (ssoPolicyWrite_created hchecks hnone) hchecks hne).trans hrow

/-! ## Runs -/

/-- What a call of `updateOrganizationSsoPolicy` knows of the policy that it has looked for:
it is there at the expected version, or a call with that version has succeeded since. -/
def PolicyHeld (past : List (OidcObject × Int)) (db : OidcTables) : OidcCall → Prop
  | .policy input (.write true) => ∀ companyId, input.checks = .ok companyId →
    (.policy companyId, input.expectedVersion) ∈ past ∨
      ∃ row, db.policy? companyId = some row ∧ row.configurationVersion = input.expectedVersion
  | .policy input (.write false) => input.expectedVersion = 0
  | _ => True

/-- What has succeeded is below the versions that the objects have now, and every call knows
what it has read. -/
structure SucceededBelow (past : List (OidcObject × Int)) (w : OidcWorld) : Prop where
  consistent : OidcConsistent w
  below : ∀ object expected, (object, expected) ∈ past → expected < w.shared.version object
  held : ∀ call ∈ w.locals, PolicyHeld past w.shared call

theorem policyHeld_of_isInitial {past : List (OidcObject × Int)} {call : OidcCall}
    (h : call.isInitial = true) : PolicyHeld past db call := by
  cases call with
  | policy input place =>
      cases place with
      | load => exact trivial
      | findPolicy => exact trivial
      | write existing => cases h
  | create => exact trivial
  | update => exact trivial
  | setEnabled => exact trivial
  | refresh => exact trivial
  | callback => exact trivial

/-- A callback goes on as a callback. -/
theorem callback_next {input : CallbackInput} {place : CallbackPlace} {answer : OidcAnswer}
    {next : OidcCall} (h : (place.run db input answer).2 = some next) :
    ∃ place', next = .callback input place' := by
  cases place with
  | findRequest =>
      obtain ⟨found, -, rfl⟩ := map_eq_ok.mp (reads_snd h)
      exact ⟨_, rfl⟩
  | consume request provider => exact ⟨_, (Option.some.inj (writes_snd h)).symm⟩
  | exchange request provider =>
      unfold CallbackPlace.run at h
      cases answer with
      | identity identity =>
          dsimp only at h
          cases hafter : input.afterExchange request provider identity with
          | error e =>
              rw [hafter] at h
              cases h
          | ok found =>
              rw [hafter] at h
              obtain rfl : found = some next := h
              unfold CallbackInput.afterExchange at hafter
              rw [seq_eq_ok, seq_eq_ok] at hafter
              obtain ⟨-, -, hpurpose⟩ := hafter
              split at hpurpose
              · obtain ⟨session, -, hsession⟩ := bind_eq_ok.mp hpurpose
                exact ⟨_, (Option.some.inj (Except.ok.inj hsession)).symm⟩
              · cases hpurpose
      | made => cases h
      | metadata metadata => cases h
      | failed => cases h
  | mark request provider session => exact ⟨_, (Option.some.inj (writes_snd h)).symm⟩
  | loadProvider request provider session =>
      obtain ⟨companyId, -, hrest⟩ := bind_eq_ok.mp (reads_snd h)
      obtain ⟨loaded, -, hsame⟩ := bind_eq_ok.mp hrest
      exact ⟨_, (Except.ok.inj hsame).symm⟩
  | findAuthorization request provider loaded session =>
      obtain ⟨found, -, rfl⟩ := map_eq_ok.mp (reads_snd h)
      exact ⟨_, rfl⟩
  | record request provider loaded session => cases writes_snd h

/-- The policy that `updateOrganizationSsoPolicy` looks for has the expected version. -/
theorem policyHeld_findPolicy {past : List (OidcObject × Int)} {input : SsoPolicyInput}
    {existing : Bool} (h : input.findPolicy db = .ok existing) :
    PolicyHeld past db (.policy input (.write existing)) := by
  obtain ⟨companyId, hchecks, hrest⟩ := bind_eq_ok.mp h
  rw [seq_eq_ok, require_eq_ok] at hrest
  obtain ⟨hversion, hexisting⟩ := hrest
  obtain rfl := Except.ok.inj hexisting
  cases hpolicy : db.policy? companyId with
  | none =>
      rw [hpolicy] at hversion
      exact hversion.symm
  | some row =>
      rw [hpolicy] at hversion
      intro companyId' hchecks'
      rw [hchecks] at hchecks'
      obtain rfl := Except.ok.inj hchecks'
      exact Or.inr ⟨row, hpolicy, hversion⟩

/-- What a call knows where its step has left it. -/
theorem policyHeld_next {past : List (OidcObject × Int)} {call next : OidcCall} {answer : OidcAnswer}
    (h : (call.advance urls db answer).2 = some next) : PolicyHeld past db next := by
  unfold OidcCall.advance at h
  split at h
  · cases h
  · cases call with
    | create input => cases writes_snd h
    | update input place =>
        cases place with
        | load =>
            obtain ⟨current, -, rfl⟩ := map_eq_ok.mp (reads_snd h)
            exact trivial
        | write current => cases writes_snd h
    | setEnabled input place =>
        cases place with
        | load =>
            obtain ⟨provider, -, rfl⟩ := map_eq_ok.mp (reads_snd h)
            exact trivial
        | resolveSecret provider =>
            obtain rfl := Option.some.inj h
            exact trivial
        | write provider => cases writes_snd h
    | refresh input place =>
        cases place with
        | load =>
            obtain ⟨provider, -, rfl⟩ := map_eq_ok.mp (reads_snd h)
            exact trivial
        | discover provider =>
            dsimp only [RefreshPlace.run] at h
            cases answer with
            | metadata metadata =>
                obtain ⟨contract, -, rfl⟩ := map_eq_ok.mp (reads_snd h)
                exact trivial
            | made => cases h
            | identity identity => cases h
            | failed => cases h
        | write provider metadata => cases writes_snd h
    | callback input place =>
        obtain ⟨place', rfl⟩ := callback_next h
        exact trivial
    | policy input place =>
        cases place with
        | load =>
            obtain ⟨found, -, rfl⟩ := map_eq_ok.mp (reads_snd h)
            exact trivial
        | findPolicy =>
            obtain ⟨existing, hexisting, rfl⟩ := map_eq_ok.mp (reads_snd h)
            exact policyHeld_findPolicy hexisting
        | write existing => cases writes_snd h

/-- What a call knows stays true when policies stay as they are, or a call with the expected
version has succeeded. -/
theorem PolicyHeld.mono {past past' : List (OidcObject × Int)} {call : OidcCall}
    (h : PolicyHeld past db call) (hpast : ∀ entry ∈ past, entry ∈ past')
    (hkeep : ∀ companyId row, db.policy? companyId = some row →
      (.policy companyId, row.configurationVersion) ∈ past' ∨
        db'.policy? companyId = some row) : PolicyHeld past' db' call := by
  cases call with
  | create => exact trivial
  | update => exact trivial
  | setEnabled => exact trivial
  | refresh => exact trivial
  | callback => exact trivial
  | policy input place =>
      cases place with
      | load => exact trivial
      | findPolicy => exact trivial
      | write existing =>
          cases existing with
          | false => exact h
          | true =>
              intro companyId hchecks
              rcases h companyId hchecks with hmem | ⟨row, hrow, hversion⟩
              · exact Or.inl (hpast _ hmem)
              · rcases hkeep companyId row hrow with hmem | hsame
                · exact Or.inl (hversion ▸ hmem)
                · exact Or.inr ⟨row, hsame, hversion⟩

theorem policy_change {companyId : String} {row : OrganizationIdentityPolicy} (e : OidcEnv)
    (hrow : db.policy? companyId = some row) : (db.change e).policy? companyId = some row := by
  cases e with
  | authorizationRequests rows => exact hrow
  | mfaPolicy tenant =>
      unfold OidcTables.change
      dsimp only
      split
      · exact hrow
      · next hnone =>
        have hne : ¬companyId = tenant := by
          rintro rfl
          rw [hrow] at hnone
          cases hnone
        have hfind : KeyedList.find OrganizationIdentityPolicy.companyId companyId
            (db.policies ++ [{ companyId := tenant }]) =
              if companyId = tenant then some { companyId := tenant } else db.policy? companyId :=
          KeyedList.find_append_new hnone
        exact hfind.trans ((if_neg hne).trans hrow)

theorem version_le_change (e : OidcEnv) (object : OidcObject) :
    db.version object ≤ (db.change e).version object := by
  cases object with
  | provider id =>
      have hsame : (db.change e).provider? id = db.provider? id := by
        unfold OidcTables.provider?
        rw [providers_change]
      unfold OidcTables.version
      dsimp only
      rw [hsame]
  | policy companyId =>
      cases hpolicy : db.policy? companyId with
      | some row =>
          rw [version_of_policy hpolicy, version_of_policy (policy_change e hpolicy)]
      | none =>
          have hzero : db.version (.policy companyId) = 0 := by simp [OidcTables.version, hpolicy]
          rw [hzero]
          cases e with
          | authorizationRequests rows => exact hzero.ge
          | mfaPolicy tenant =>
              unfold OidcTables.change
              dsimp only
              split
              · exact hzero.ge
              · next hnone =>
                have hfind : KeyedList.find OrganizationIdentityPolicy.companyId companyId
                    (db.policies ++ [{ companyId := tenant }]) =
                      if companyId = tenant then some { companyId := tenant }
                      else db.policy? companyId :=
                  KeyedList.find_append_new hnone
                unfold OidcTables.version OidcTables.policy?
                dsimp only
                rw [hfind, hpolicy]
                split
                · show (0 : Int) ≤ 1
                  decide
                · exact le_refl _

/-- A step after which `past'` has succeeded keeps the invariant. -/
theorem succeededBelow_step {past past' : List (OidcObject × Int)} {w w' : OidcWorld} {ev : OidcEvent}
    (h : SucceededBelow past w) (hstep : (oidc urls).step w ev w')
    (hpast : ∀ entry ∈ past, entry ∈ past')
    (hbelow : ∀ object expected, (object, expected) ∈ past' → (object, expected) ∉ past →
      expected < w'.shared.version object)
    (hkeep : ∀ companyId row, w.shared.policy? companyId = some row →
      (.policy companyId, row.configurationVersion) ∈ past' ∨
        w'.shared.policy? companyId = some row) : SucceededBelow past' w' := by
  have hmono : ∀ object, w.shared.version object ≤ w'.shared.version object := by
    intro object
    rcases Program.step_cases hstep with ⟨e, rfl, rfl⟩ | ⟨call, rfl, -, rfl⟩ |
      ⟨i, answer, call, sh, next, rfl, hcall, hadvance, rfl⟩
    · exact version_le_change e object
    · exact le_refl _
    · obtain ⟨rfl, rfl⟩ := Prod.mk.inj (Option.some.inj hadvance)
      exact version_mono h.consistent.1 (oidcWrote_advance urls w.shared answer call) object
  refine ⟨oidcConsistent_step h.consistent hstep, fun object expected hmem => ?_, ?_⟩
  · by_cases hold : (object, expected) ∈ past
    · exact lt_of_lt_of_le (h.below object expected hold) (hmono object)
    · exact hbelow object expected hmem hold
  · rcases Program.step_cases hstep with ⟨e, rfl, rfl⟩ | ⟨call, rfl, hinitial, rfl⟩ |
      ⟨i, answer, call, sh, next, rfl, hcall, hadvance, rfl⟩
    · intro other hother
      exact (h.held other hother).mono hpast hkeep
    · intro other hother
      rcases List.mem_append.mp hother with hold | hnew
      · exact (h.held other hold).mono hpast hkeep
      · obtain rfl := List.mem_singleton.mp hnew
        exact policyHeld_of_isInitial hinitial
    · obtain ⟨rfl, rfl⟩ := Prod.mk.inj (Option.some.inj hadvance)
      intro other hother
      rcases mem_replaceLocal hother with hnext | hold
      · exact PolicyHeld.mono (policyHeld_next hnext) hpast hkeep
      · exact (h.held other hold).mono hpast hkeep

section Steps

variable {past : List (OidcObject × Int)} {w w' : OidcWorld} {ev : OidcEvent}

/-- The call that succeeds at a step. -/
theorem success_eq_some {entry : OidcObject × Int} (h : success? w ev = some entry) :
    ∃ i answer call, ev = .advance i answer ∧ answer ≠ .failed ∧ w.locals[i]? = some call ∧
      call.success? w.shared = some entry := by
  unfold success? at h
  split at h
  · next i answer =>
    split at h
    · cases h
    · next hanswer =>
      obtain ⟨call, hcall, hsuccess⟩ := Option.bind_eq_some_iff.mp h
      exact ⟨i, answer, call, rfl, hanswer, hcall, hsuccess⟩
  · cases h

theorem success_of_advance {i : Nat} {answer : OidcAnswer} {call : OidcCall}
    (hanswer : answer ≠ .failed) (hcall : w.locals[i]? = some call) :
    success? w (.advance i answer) = call.success? w.shared := by
  show (if answer = .failed then none else _) = _
  rw [if_neg hanswer, hcall, Option.bind_some]

/-- A write of a policy that is there succeeds. -/
theorem success_policyWrite {input : SsoPolicyInput} {companyId : String}
    {row : OrganizationIdentityPolicy} (hchecks : input.checks = .ok companyId)
    (hrow : db.policy? companyId = some row) :
    (OidcCall.policy input (.write true)).success? db =
      some (.policy companyId, input.expectedVersion) := by
  simp only [OidcCall.success?, hchecks, ssoPolicyWrite_updated hchecks hrow]

/-- A policy is kept by a step at which no call on it succeeds. -/
theorem policy_kept {companyId : String} {row : OrganizationIdentityPolicy}
    (hstep : (oidc urls).step w ev w')
    (hnot : ∀ expected, success? w ev ≠ some (.policy companyId, expected))
    (hrow : w.shared.policy? companyId = some row) : w'.shared.policy? companyId = some row := by
  rcases Program.step_cases hstep with ⟨e, rfl, rfl⟩ | ⟨call, rfl, -, rfl⟩ |
    ⟨i, answer, call, sh, next, rfl, hcall, hadvance, rfl⟩
  · exact policy_change e hrow
  · exact hrow
  · obtain ⟨rfl, rfl⟩ := Prod.mk.inj (Option.some.inj hadvance)
    by_cases hanswer : answer = .failed
    · rw [hanswer]
      exact hrow
    · rw [success_of_advance hanswer hcall] at hnot
      exact policy_of_wrote (oidcWrote_advance urls w.shared answer call) hnot hrow

theorem succeededBelow_none (h : SucceededBelow past w) (hstep : (oidc urls).step w ev w')
    (hnone : success? w ev = none) : PolicyVersionAsRead w ev ∧ SucceededBelow past w' := by
  constructor
  · intro i answer input companyId row hev hanswer hcall hchecks hrow
    rw [hev, success_of_advance hanswer hcall, success_policyWrite hchecks hrow] at hnone
    cases hnone
  · refine succeededBelow_step h hstep (fun _ hmem => hmem) (fun _ _ hmem hnot => absurd hmem hnot)
      fun companyId row hrow => Or.inr (policy_kept hstep (fun expected hsome => ?_) hrow)
    rw [hnone] at hsome
    cases hsome

theorem succeededBelow_new {object : OidcObject} {expected : Int} (h : SucceededBelow past w)
    (hstep : (oidc urls).step w ev w') (hsuccess : success? w ev = some (object, expected))
    (hok : PolicyVersionAsRead w ev) :
    (object, expected) ∉ past ∧ SucceededBelow (past ++ [(object, expected)]) w' := by
  obtain ⟨i, answer, call, rfl, hanswer, hcall, hentry⟩ := success_eq_some hsuccess
  have hshared : w'.shared = (call.advance urls w.shared answer).1 := oidcShared_of_advance hstep hcall
  obtain ⟨hraise, hfound⟩ := success_cases hanswer hentry
  rw [← hshared] at hraise
  have hversion : w.shared.version object = expected := by
    rcases hfound with hversion | ⟨input, existing, companyId, rfl, hchecks, rfl, rfl, hexisting⟩
    · exact hversion
    · cases hpolicy : w.shared.policy? companyId with
      | some row =>
          rw [hpolicy] at hexisting
          subst hexisting
          rw [version_of_policy hpolicy]
          exact hok i answer input companyId row rfl hanswer hcall hchecks hpolicy
      | none =>
          rw [hpolicy] at hexisting
          subst hexisting
          have hzero : input.expectedVersion = 0 := h.held _ (List.mem_of_getElem? hcall)
          rw [hzero]
          simp [OidcTables.version, hpolicy]
  constructor
  · intro hmem
    have hlt := h.below object expected hmem
    omega
  · refine succeededBelow_step h hstep (fun _ hmem => List.mem_append_left _ hmem) ?_ ?_
    · intro other version hmem hnot
      rcases List.mem_append.mp hmem with hold | hnew
      · exact absurd hold hnot
      · obtain ⟨rfl, rfl⟩ := Prod.mk.inj (List.mem_singleton.mp hnew)
        omega
    · intro companyId row hrow
      by_cases hobject : object = .policy companyId
      · have hsame : row.configurationVersion = expected := by
          rw [← hversion, hobject, version_of_policy hrow]
        rw [hsame, ← hobject]
        exact Or.inl (List.mem_append_right _ List.mem_cons_self)
      · refine Or.inr (policy_kept hstep (fun expected' hsome => ?_) hrow)
        rw [hsuccess] at hsome
        exact hobject (Prod.mk.inj (Option.some.inj hsome)).1

theorem succeeded_again {object : OidcObject} {expected : Int} (h : SucceededBelow past w)
    (hsuccess : success? w ev = some (object, expected)) (hnot : ¬PolicyVersionAsRead w ev) :
    (object, expected) ∈ past := by
  simp only [PolicyVersionAsRead, not_forall] at hnot
  obtain ⟨i, answer, input, companyId, row, rfl, hanswer, hcall, hchecks, hrow, hversion⟩ := hnot
  rw [success_of_advance hanswer hcall, success_policyWrite hchecks hrow] at hsuccess
  obtain ⟨rfl, rfl⟩ := Prod.mk.inj (Option.some.inj hsuccess)
  rcases h.held _ (List.mem_of_getElem? hcall) companyId hchecks with hmem | ⟨found, hfound, hsame⟩
  · exact hmem
  · rw [hrow] at hfound
    obtain rfl := Option.some.inj hfound
    exact absurd hsame hversion

/-- A call that succeeds raises the version of its object. -/
theorem versionRaised_step (hstep : (oidc urls).step w ev w') : VersionRaised w ev w' := by
  intro object expected hsuccess
  obtain ⟨i, answer, call, rfl, hanswer, hcall, hentry⟩ := success_eq_some hsuccess
  rw [oidcShared_of_advance hstep hcall]
  exact (success_cases hanswer hentry).1

end Steps

/-- In a run from a start without calls, no expected version succeeds twice for an object, and
every call that succeeds raises the version, exactly when `updateOrganizationSsoPolicy` writes
each policy at the version that it has read. -/
theorem expected_version_once_iff {w : OidcWorld} {run : List (OidcEvent × OidcWorld)}
    (hkeyed : OidcKeyed w.shared) (hquiet : w.Quiescent) (hrun : Run (oidc urls).step w run) :
    (logged success? w run).Nodup ∧ AllSteps VersionRaised w run ↔
      StepsMeet PolicyVersionAsRead w run := by
  have hnone : ∀ call, call ∉ w.locals := by
    intro call hmem
    rw [show w.locals = [] from hquiet] at hmem
    exact List.not_mem_nil hmem
  have hstart : SucceededBelow [] w :=
    ⟨⟨hkeyed, fun call hmem => absurd hmem (hnone call)⟩,
      fun object expected hmem => absurd hmem List.not_mem_nil, fun call hmem => absurd hmem (hnone call)⟩
  have hraised : AllSteps VersionRaised w run :=
    allSteps_of_step (fun _ _ _ h hstep => oidcConsistent_step h hstep)
      (fun _ _ _ _ hstep => versionRaised_step hstep) hrun hstart.consistent
  have honce : (logged success? w run).Nodup ↔ StepsMeet PolicyVersionAsRead w run :=
    nodup_logged_iff SucceededBelow
      (fun _ _ _ _ h hstep hlog => succeededBelow_none h hstep hlog)
      (fun _ _ _ _ _ h hstep hlog hok => succeededBelow_new h hstep hlog hok)
      (fun _ _ _ _ _ h _ hlog hnot => succeeded_again h hlog hnot) hrun hstart
  rw [honce]
  exact and_iff_left hraised

/-! ## Two administrators -/

section TwoAdministrators

/-- The company has a policy without sign-on. -/
def optionalPolicy : OidcWorld where
  shared := { policies := [{ companyId := "company" }] }
  locals := []

/-- The input of an administrator that has seen version 1. -/
def graceOf (gracePeriodDays : Int) : SsoPolicyInput where
  session := sampleSession
  requirement := .disabled
  providerId := none
  enforcementAt := none
  gracePeriodDays := gracePeriodDays
  localLoginAllowed := true
  expectedVersion := 1

/-- Two administrators change the policy side by side. -/
def sideBySide : List OidcEvent :=
  [.spawn (.policy (graceOf 7) .load), .spawn (.policy (graceOf 30) .load),
   .advance 0 .made, .advance 0 .made, .advance 1 .made, .advance 1 .made, .advance 0 .made,
   .advance 0 .made]

theorem expected_version_once_iff_sideBySide :
    (logged success? optionalPolicy (trace (oidc sampleUrls).next optionalPolicy sideBySide)).Nodup ∧
        AllSteps VersionRaised optionalPolicy
          (trace (oidc sampleUrls).next optionalPolicy sideBySide) ↔
      StepsMeet PolicyVersionAsRead optionalPolicy
        (trace (oidc sampleUrls).next optionalPolicy sideBySide) :=
  expected_version_once_iff
    ⟨by simp [KeyedList.Distinct, optionalPolicy], by simp [optionalPolicy],
      by simp [KeyedList.Distinct, optionalPolicy]⟩ rfl (run_trace _ _)

/-- Both succeed with version 1, and the update of the first one is lost. -/
theorem expected_version_twice :
    ∃ run, Run (oidc sampleUrls).step optionalPolicy run ∧
      logged success? optionalPolicy run = [(.policy "company", 1), (.policy "company", 1)] :=
  ⟨trace (oidc sampleUrls).next optionalPolicy sideBySide, run_trace _ _, by decide⟩

end TwoAdministrators

end AvantimePlatform.Identity
