import AvantimePlatform.Identity.LiveProviders

/-!
# Required sign-on

`updateOrganizationSsoPolicy` accepts a required policy only for a provider that is enabled
and validated, which it reads two steps before it writes the policy.  Editing a provider and
switching it off do not look at the policies.

* `RequiredSsoUsable`: when the policy of the company is required, its provider is enabled
  and validated, so that some login method is left.
* `KeepsRequired`: the steps that leave it so.
* `required_sso_usable_iff`: it holds along a run exactly when all steps of the run are such.
-/

namespace AvantimePlatform.Identity

open AvantimePlatform AvantimePlatform.Checked AvantimePlatform.Interleaving
  AvantimePlatform.Transition

variable {urls : UrlRules} {db db' : OidcTables} {companyId : String}

/-! ## The property -/

/-- Enabled and validated. -/
def IdentityProvider.IsUsable (row : IdentityProvider) : Prop :=
  row.enabled = true ∧ row.validationStatus = .tenantValidated

instance (row : IdentityProvider) : Decidable row.IsUsable :=
  inferInstanceAs (Decidable (_ ∧ _))

/-- The policy of the company requires sign-on with this provider. -/
def RequiresProvider (companyId : String) (db : OidcTables) (id : Nat) : Prop :=
  ∃ policy, db.policy? companyId = some policy ∧ policy.ssoRequirement = .required ∧
    policy.ssoProviderId = some id

/-- The policy admits a login that can be made: a local one, or one with a usable
provider. -/
def AdmitsUsableMethod (db : OidcTables) (policy : OrganizationIdentityPolicy) (now : Int) : Prop :=
  isOrganizationLoginMethodAllowed (some policy) .localLogin none now = true ∨
    ∃ id row, db.provider? id = some row ∧ row.IsUsable ∧
      isOrganizationLoginMethodAllowed (some policy) .oidc (some id) now = true

/-- The provider of the policy is usable. -/
def HasUsableProvider (db : OidcTables) (policy : OrganizationIdentityPolicy) : Prop :=
  ∃ id row, policy.ssoProviderId = some id ∧ db.provider? id = some row ∧ row.IsUsable

/-- When the policy of the company is required, its provider is usable, and the policy
admits a login. -/
def RequiredSsoUsable (companyId : String) (db : OidcTables) : Prop :=
  ∀ policy, db.policy? companyId = some policy → policy.ssoRequirement = .required →
    HasUsableProvider db policy ∧ ∀ now, AdmitsUsableMethod db policy now

/-- A required policy admits its provider. -/
theorem admitsUsableMethod_of_usable {policy : OrganizationIdentityPolicy} (now : Int)
    (hrequired : policy.ssoRequirement = .required) (h : HasUsableProvider db policy) :
    AdmitsUsableMethod db policy now := by
  obtain ⟨id, row, hid, hrow, husable⟩ := h
  refine Or.inr ⟨id, row, hrow, husable, ?_⟩
  simp [isOrganizationLoginMethodAllowed, hrequired, hid]

theorem requiredSsoUsable_iff :
    RequiredSsoUsable companyId db ↔
      ∀ policy, db.policy? companyId = some policy → policy.ssoRequirement = .required →
        HasUsableProvider db policy := by
  constructor
  · intro h policy hpolicy hrequired
    exact (h policy hpolicy hrequired).1
  · intro h policy hpolicy hrequired
    have husable := h policy hpolicy hrequired
    exact ⟨husable, fun now => admitsUsableMethod_of_usable now hrequired husable⟩

/-! ## The condition -/

/-- An update of the session at the expected version finds its provider. -/
def OidcTables.FindsVersion (db : OidcTables) (session : OidcSession) (id : Nat)
    (expectedVersion : Int) : Prop :=
  ∃ tenant row, session.requirePermissionTenant session.mayManageProviders = .ok tenant ∧
    db.provider? id = some row ∧ row.configurationVersion = expectedVersion ∧
    row.companyId = some tenant

/-- The step of the call does not edit or switch off the provider of a required policy, and
does not require sign-on with a provider that is not usable. -/
def CallKeepsRequired (companyId : String) (db : OidcTables) : OidcCall → Prop
  | .update input (.write current) =>
    db.FindsVersion input.session current.id input.expectedVersion →
      (∀ row ∈ db.providers, row.key = input.configuration.key → row.id = current.id) →
      ¬RequiresProvider companyId db current.id
  | .setEnabled input (.write provider) =>
    db.FindsVersion input.session provider.id input.expectedVersion →
      input.enabled = false → ¬RequiresProvider companyId db provider.id
  | .policy input (.write existing) =>
    input.checks = .ok companyId → existing = (db.policy? companyId).isSome →
      input.requirement = .required →
        ∃ id row, input.providerId = some id ∧ db.provider? id = some row ∧ row.IsUsable
  | _ => True

/-- The condition on a step of the system. -/
def KeepsRequired (companyId : String) (w : OidcWorld) (ev : OidcEvent) : Prop :=
  ∀ i answer call, ev = .advance i answer → answer ≠ .failed → w.locals[i]? = some call →
    CallKeepsRequired companyId w.shared call

/-! ## One step -/

theorem provider_setProvider {row old : IdentityProvider} (hold : db.provider? row.id = some old)
    (id : Nat) : (db.setProvider row).provider? id = if id = row.id then some row else db.provider? id :=
  KeyedList.find_put hold

/-- A provider that is written leaves required sign-on usable exactly when it is not the
required one, or is usable itself. -/
theorem requiredSsoUsable_setProvider_iff {row old : IdentityProvider}
    (hold : db.provider? row.id = some old) (hbefore : RequiredSsoUsable companyId db) :
    RequiredSsoUsable companyId (db.setProvider row) ↔
      (RequiresProvider companyId db row.id → row.IsUsable) := by
  rw [requiredSsoUsable_iff] at hbefore ⊢
  constructor
  · rintro hafter ⟨policy, hpolicy, hrequired, hid⟩
    obtain ⟨id, found, hid', hfound, husable⟩ := hafter policy hpolicy hrequired
    rw [hid] at hid'
    rw [provider_setProvider hold, if_pos (Option.some.inj hid').symm] at hfound
    rw [Option.some.inj hfound]
    exact husable
  · intro hrow policy hpolicy hrequired
    obtain ⟨id, found, hid, hfound, husable⟩ := hbefore policy hpolicy hrequired
    by_cases hsame : id = row.id
    · refine ⟨id, row, hid, ?_, hrow ⟨policy, hpolicy, hrequired, by rw [hid, hsame]⟩⟩
      rw [provider_setProvider hold, if_pos hsame]
    · refine ⟨id, found, hid, ?_, husable⟩
      rw [provider_setProvider hold, if_neg hsame]
      exact hfound

/-- A provider that is required is usable. -/
theorem isUsable_of_requires {id : Nat} {row : IdentityProvider}
    (hbefore : RequiredSsoUsable companyId db) (hrow : db.provider? id = some row)
    (h : RequiresProvider companyId db id) : row.IsUsable := by
  obtain ⟨policy, hpolicy, hrequired, hid⟩ := h
  obtain ⟨⟨id', found, hid', hfound, husable⟩, -⟩ := hbefore policy hpolicy hrequired
  rw [hid] at hid'
  rw [← Option.some.inj hid', hrow] at hfound
  rw [Option.some.inj hfound]
  exact husable

/-- An update that finds its provider commits. -/
theorem updateProvider_of_finds {tenant : String} {id : Nat} {expectedVersion : Int}
    {p : IdentityProvider → Bool} {row : IdentityProvider}
    (f : IdentityProvider → IdentityProvider) (hrow : db.provider? id = some row)
    (hversion : row.configurationVersion = expectedVersion) (hcompany : row.companyId = some tenant)
    (hp : p row = true) :
    db.updateProvider tenant id expectedVersion p f = .ok (db.setProvider (f row)) := by
  have hwrite : Versioned.guardedWrite IdentityProvider.id IdentityProvider.configurationVersion id
      expectedVersion (fun row => row.companyId = some tenant && p row) f db.providers =
        some (KeyedList.put IdentityProvider.id (f row) db.providers) := by
    refine Versioned.guardedWrite_eq_some.mpr ⟨row, hrow, hversion, ?_, rfl⟩
    simp [hcompany, hp]
  unfold OidcTables.updateProvider
  rw [hwrite]
  rfl

/-- The update of a provider leaves required sign-on usable exactly when it does not find
the required one. -/
theorem requiredSsoUsable_update_iff {input : UpdateProviderInput} {current : IdentityProvider}
    (hbefore : RequiredSsoUsable companyId db) :
    RequiredSsoUsable companyId (writes db none (input.write db current)).1 ↔
      (db.FindsVersion input.session current.id input.expectedVersion →
        (∀ row ∈ db.providers, row.key = input.configuration.key → row.id = current.id) →
        ¬RequiresProvider companyId db current.id) := by
  cases hwrite : input.write db current with
  | error e =>
      refine iff_of_true hbefore ?_
      rintro ⟨tenant, row, htenant, hrow, hversion, hcompany⟩ hkey
      have hok : input.write db current =
          .ok (db.setProvider (input.configuration.updated current row)) := by
        unfold UpdateProviderInput.write
        rw [bind_eq_ok]
        refine ⟨tenant, htenant, ?_⟩
        rw [seq_eq_ok, require_eq_ok]
        exact ⟨hkey, updateProvider_of_finds _ hrow hversion hcompany rfl⟩
      rw [hok] at hwrite
      cases hwrite
  | ok db' =>
      obtain ⟨tenant, htenant, hrest⟩ := bind_eq_ok.mp hwrite
      rw [seq_eq_ok, require_eq_ok] at hrest
      obtain ⟨row, hrow, hversion, hcompany, -, rfl⟩ := updateProvider_eq_ok hrest.2
      have hid : row.id = current.id := provider_id hrow
      have hself : db.provider? (input.configuration.updated current row).id = some row := by
        show db.provider? row.id = some row
        rwa [hid]
      show RequiredSsoUsable companyId (db.setProvider (input.configuration.updated current row)) ↔ _
      rw [requiredSsoUsable_setProvider_iff hself hbefore]
      constructor
      · intro h _ _ hrequires
        have husable := h (by show RequiresProvider companyId db row.id; rwa [hid])
        cases husable.1
      · intro h hrequires
        have hrequires' : RequiresProvider companyId db current.id := by rwa [← hid]
        exact absurd hrequires' (h ⟨tenant, row, htenant, hrow, hversion, hcompany⟩ hrest.1)

/-- Switching a provider leaves required sign-on usable exactly when it does not switch the
required one off. -/
theorem requiredSsoUsable_setEnabled_iff {input : SetEnabledInput} {provider : IdentityProvider}
    (hbefore : RequiredSsoUsable companyId db) :
    RequiredSsoUsable companyId (writes db none (input.write db provider)).1 ↔
      (db.FindsVersion input.session provider.id input.expectedVersion →
        input.enabled = false → ¬RequiresProvider companyId db provider.id) := by
  cases hwrite : input.write db provider with
  | error e =>
      refine iff_of_true hbefore ?_
      rintro ⟨tenant, row, htenant, hrow, hversion, hcompany⟩
      have hok : input.write db provider = .ok (db.setProvider (row.switched input.enabled)) := by
        unfold SetEnabledInput.write
        rw [bind_eq_ok]
        exact ⟨tenant, htenant, updateProvider_of_finds _ hrow hversion hcompany rfl⟩
      rw [hok] at hwrite
      cases hwrite
  | ok db' =>
      obtain ⟨tenant, htenant, hrest⟩ := bind_eq_ok.mp hwrite
      obtain ⟨row, hrow, hversion, hcompany, -, rfl⟩ := updateProvider_eq_ok hrest
      have hid : row.id = provider.id := provider_id hrow
      have hself : db.provider? (row.switched input.enabled).id = some row := by
        show db.provider? row.id = some row
        rwa [hid]
      show RequiredSsoUsable companyId (db.setProvider (row.switched input.enabled)) ↔ _
      rw [requiredSsoUsable_setProvider_iff hself hbefore]
      constructor
      · intro h _ hdisabled hrequires
        have husable := h (by show RequiresProvider companyId db row.id; rwa [hid])
        have henabled : input.enabled = true := husable.1
        rw [hdisabled] at henabled
        cases henabled
      · intro h hrequires
        have hrequires' : RequiresProvider companyId db provider.id := by rwa [← hid]
        have husable : row.IsUsable := isUsable_of_requires hbefore hrow hrequires'
        refine ⟨?_, husable.2⟩
        show input.enabled = true
        by_contra hnot
        exact h ⟨tenant, row, htenant, hrow, hversion, hcompany⟩ (by simpa using hnot) hrequires'

/-- The policies that a write leaves: that of the tenant says what the input says. -/
theorem ssoPolicyWrite_eq_ok {input : SsoPolicyInput} {existing : Bool}
    (h : input.write db existing = .ok db') :
    ∃ tenant policy, input.checks = .ok tenant ∧ existing = (db.policy? tenant).isSome ∧
      policy.ssoRequirement = input.requirement ∧ policy.ssoProviderId = input.providerId ∧
      db'.providers = db.providers ∧
      ∀ id, db'.policy? id = if id = tenant then some policy else db.policy? id := by
  obtain ⟨tenant, hchecks, hrest⟩ := bind_eq_ok.mp h
  cases hpolicy : db.policy? tenant with
  | none =>
      rw [hpolicy] at hrest
      cases existing with
      | true => cases hrest
      | false =>
          rw [← Except.ok.inj hrest]
          refine ⟨tenant, input.written { companyId := tenant }, hchecks, by rw [hpolicy]; rfl, rfl, rfl,
            rfl, ?_⟩
          intro id
          exact KeyedList.find_append_new (x := input.written { companyId := tenant }) hpolicy
  | some row =>
      rw [hpolicy] at hrest
      cases existing with
      | false => cases hrest
      | true =>
          have hcompany : row.companyId = tenant := (KeyedList.find_eq_some hpolicy).2
          let policy : OrganizationIdentityPolicy :=
            { input.written row with configurationVersion := row.configurationVersion + 1 }
          have hself : KeyedList.find OrganizationIdentityPolicy.companyId policy.companyId
              db.policies = some row := by
            show db.policy? row.companyId = some row
            rwa [hcompany]
          rw [← Except.ok.inj hrest]
          refine ⟨tenant, policy, hchecks, by rw [hpolicy]; rfl, rfl, rfl, rfl, fun id => ?_⟩
          rw [← hcompany]
          exact KeyedList.find_put hself

/-- A policy that is found as it was looked for is written. -/
theorem ssoPolicyWrite_of_existing {input : SsoPolicyInput} {existing : Bool}
    (hchecks : input.checks = .ok companyId)
    (hexisting : existing = (db.policy? companyId).isSome) :
    ∃ db', input.write db existing = .ok db' := by
  unfold SsoPolicyInput.write
  cases hpolicy : db.policy? companyId with
  | none =>
      rw [hpolicy] at hexisting
      exact ⟨_, bind_eq_ok.mpr ⟨companyId, hchecks, by rw [hpolicy, hexisting]; rfl⟩⟩
  | some row =>
      rw [hpolicy] at hexisting
      exact ⟨_, bind_eq_ok.mpr ⟨companyId, hchecks, by rw [hpolicy, hexisting]; rfl⟩⟩

theorem hasUsableProvider_congr {policy : OrganizationIdentityPolicy}
    (h : db'.providers = db.providers) :
    HasUsableProvider db' policy ↔ HasUsableProvider db policy := by
  have hprovider : ∀ id, db'.provider? id = db.provider? id := by
    intro id
    unfold OidcTables.provider?
    rw [h]
  simp only [HasUsableProvider, hprovider]

/-- Writing a policy leaves required sign-on usable exactly when it does not require a
provider that is not usable. -/
theorem requiredSsoUsable_policy_iff {input : SsoPolicyInput} {existing : Bool}
    (hbefore : RequiredSsoUsable companyId db) :
    RequiredSsoUsable companyId (writes db none (input.write db existing)).1 ↔
      (input.checks = .ok companyId → existing = (db.policy? companyId).isSome →
        input.requirement = .required →
          ∃ id row, input.providerId = some id ∧ db.provider? id = some row ∧ row.IsUsable) := by
  cases hwrite : input.write db existing with
  | error e =>
      refine iff_of_true hbefore ?_
      intro hchecks hexisting
      obtain ⟨db', hok⟩ := ssoPolicyWrite_of_existing hchecks hexisting
      rw [hok] at hwrite
      cases hwrite
  | ok db' =>
      obtain ⟨tenant, policy, hchecks, hexisting, hrequirement, hprovider, hproviders, hfind⟩ :=
        ssoPolicyWrite_eq_ok hwrite
      show RequiredSsoUsable companyId db' ↔ _
      rw [requiredSsoUsable_iff] at hbefore ⊢
      simp only [hasUsableProvider_congr hproviders, hfind]
      by_cases htenant : companyId = tenant
      · subst htenant
        simp only [if_true]
        constructor
        · intro h _ _ hrequired
          obtain ⟨id, row, hid, hrow, husable⟩ :=
            h policy rfl (hrequirement.trans hrequired)
          exact ⟨id, row, hprovider.symm.trans hid, hrow, husable⟩
        · rintro h policy' hpolicy' hrequired
          obtain rfl : policy = policy' := Option.some.inj hpolicy'
          obtain ⟨id, row, hid, hrow, husable⟩ :=
            h hchecks hexisting (hrequirement.symm.trans hrequired)
          exact ⟨id, row, hprovider.trans hid, hrow, husable⟩
      · rw [if_neg htenant]
        refine iff_of_true hbefore fun hchecks' => ?_
        rw [hchecks] at hchecks'
        exact absurd (Except.ok.inj hchecks').symm htenant

/-- The other steps leave required sign-on usable. -/
theorem requiredSsoUsable_wrote {call : OidcCall} (hheld : OidcHeld db call) (hkeyed : OidcKeyed db)
    (hupdate : ∀ input current, call ≠ .update input (.write current))
    (hswitch : ∀ input provider, call ≠ .setEnabled input (.write provider))
    (hpolicy : ∀ input existing, call ≠ .policy input (.write existing))
    (hbefore : RequiredSsoUsable companyId db) (h : OidcWrote db call db') :
    RequiredSsoUsable companyId db' := by
  cases h with
  | nothing => exact hbefore
  | created input tenant =>
      rw [requiredSsoUsable_iff] at hbefore ⊢
      intro policy hfound hrequired
      obtain ⟨id, row, hid, hrow, husable⟩ := hbefore policy hfound hrequired
      refine ⟨id, row, hid, ?_, husable⟩
      have hne : id ≠ db.serial := by
        intro hsame
        rw [hsame, hkeyed.fresh] at hrow
        cases hrow
      have hnew : KeyedList.find IdentityProvider.id
          (input.configuration.created db.serial tenant).id db.providers = none := hkeyed.fresh
      exact (KeyedList.find_append_new hnew).trans ((if_neg hne).trans hrow)
  | updated input current row hrow hversion => exact absurd rfl (hupdate input current)
  | switched input provider row hrow hversion => exact absurd rfl (hswitch input provider)
  | refreshed input provider row metadata hrow hversion =>
      obtain ⟨hread, hexpected, -⟩ := hheld
      have hsame : row = provider := eq_read_of_version hread hrow (hversion.trans hexpected.symm)
      have hself : db.provider? (metadata.refreshed provider input.now row).id = some row := by
        show db.provider? row.id = some row
        rwa [provider_id hrow]
      refine (requiredSsoUsable_setProvider_iff hself hbefore).mpr fun hrequires => ?_
      have husable : row.IsUsable := isUsable_of_requires hbefore hself hrequires
      refine ⟨husable.1, ?_⟩
      show provider.validationStatus.afterRefresh = .tenantValidated
      rw [← hsame, husable.2]
      rfl
  | recorded input request provider loaded row session hrow hversion hstatus evidence hrecord =>
      have hself : db.provider? (row.validated evidence).id = some row := by
        show db.provider? row.id = some row
        rwa [provider_id hrow]
      refine (requiredSsoUsable_setProvider_iff hself hbefore).mpr fun hrequires => ?_
      exact ⟨(isUsable_of_requires hbefore hself hrequires).1, rfl⟩
  | requests input place rows => exact hbefore
  | policyUpdated input existing tenant hchecks row hrow hwrite =>
      exact absurd rfl (hpolicy input existing)
  | policyCreated input existing tenant hchecks hnone hwrite =>
      exact absurd rfl (hpolicy input existing)

theorem requiredSsoUsable_change (e : OidcEnv) (hbefore : RequiredSsoUsable companyId db) :
    RequiredSsoUsable companyId (db.change e) := by
  rw [requiredSsoUsable_iff] at hbefore ⊢
  intro policy hfound hrequired
  rw [hasUsableProvider_congr (providers_change db e)]
  refine hbefore policy ?_ hrequired
  cases e with
  | authorizationRequests rows => exact hfound
  | mfaPolicy tenant =>
      dsimp only [OidcTables.change] at hfound
      split at hfound
      · exact hfound
      · next hnone =>
        have hfind : KeyedList.find OrganizationIdentityPolicy.companyId companyId
            (db.policies ++ [{ companyId := tenant }]) =
              if companyId = tenant then some { companyId := tenant }
              else KeyedList.find OrganizationIdentityPolicy.companyId companyId db.policies :=
          KeyedList.find_append_new hnone
        by_cases htenant : companyId = tenant
        · rw [if_pos htenant] at hfind
          have hsame := hfind.symm.trans hfound
          rw [← Option.some.inj hsame] at hrequired
          cases hrequired
        · rw [if_neg htenant] at hfind
          exact hfind.symm.trans hfound

/-- A step of a call leaves required sign-on usable exactly when it meets the condition. -/
theorem requiredSsoUsable_advance_iff {answer : OidcAnswer} {call : OidcCall}
    (hheld : OidcHeld db call) (hkeyed : OidcKeyed db) (hbefore : RequiredSsoUsable companyId db)
    (hanswer : answer ≠ .failed) :
    RequiredSsoUsable companyId (call.advance urls db answer).1 ↔
      CallKeepsRequired companyId db call := by
  have hothers : (∀ input current, call ≠ .update input (.write current)) →
      (∀ input provider, call ≠ .setEnabled input (.write provider)) →
      (∀ input existing, call ≠ .policy input (.write existing)) →
      RequiredSsoUsable companyId (call.advance urls db answer).1 :=
    fun hupdate hswitch hpolicy => requiredSsoUsable_wrote hheld hkeyed hupdate hswitch hpolicy
      hbefore (oidcWrote_advance urls db answer call)
  cases call with
  | create input =>
      refine iff_of_true (hothers ?_ ?_ ?_) trivial
      all_goals
        intro _ _ h
        cases h
  | update input place =>
      cases place with
      | load =>
          refine iff_of_true (hothers ?_ ?_ ?_) trivial
          all_goals
            intro _ _ h
            cases h
      | write current =>
          unfold OidcCall.advance
          rw [if_neg hanswer]
          exact requiredSsoUsable_update_iff hbefore
  | setEnabled input place =>
      cases place with
      | load =>
          refine iff_of_true (hothers ?_ ?_ ?_) trivial
          all_goals
            intro _ _ h
            cases h
      | resolveSecret provider =>
          refine iff_of_true (hothers ?_ ?_ ?_) trivial
          all_goals
            intro _ _ h
            cases h
      | write provider =>
          unfold OidcCall.advance
          rw [if_neg hanswer]
          exact requiredSsoUsable_setEnabled_iff hbefore
  | refresh input place =>
      refine iff_of_true (hothers ?_ ?_ ?_) trivial
      all_goals
        intro _ _ h
        cases h
  | callback input place =>
      refine iff_of_true (hothers ?_ ?_ ?_) trivial
      all_goals
        intro _ _ h
        cases h
  | policy input place =>
      cases place with
      | load =>
          refine iff_of_true (hothers ?_ ?_ ?_) trivial
          all_goals
            intro _ _ h
            cases h
      | findPolicy =>
          refine iff_of_true (hothers ?_ ?_ ?_) trivial
          all_goals
            intro _ _ h
            cases h
      | write existing =>
          unfold OidcCall.advance
          rw [if_neg hanswer]
          exact requiredSsoUsable_policy_iff hbefore

/-- A step leaves required sign-on usable exactly when it meets the condition. -/
theorem requiredSsoUsable_step_iff {w w' : OidcWorld} {ev : OidcEvent}
    (hconsistent : OidcConsistent w) (hbefore : RequiredSsoUsable companyId w.shared)
    (hstep : (oidc urls).step w ev w') :
    RequiredSsoUsable companyId w'.shared ↔ KeepsRequired companyId w ev := by
  rcases Program.step_cases hstep with ⟨e, rfl, rfl⟩ | ⟨call, rfl, -, rfl⟩ |
    ⟨i, answer, call, sh, next, rfl, hcall, -, -⟩
  · refine iff_of_true (requiredSsoUsable_change e hbefore) ?_
    intro i answer call hev
    cases hev
  · refine iff_of_true hbefore ?_
    intro i answer call hev
    cases hev
  · rw [oidcShared_of_advance hstep hcall]
    have hheld : OidcHeld w.shared call := hconsistent.2 call (List.mem_of_getElem? hcall)
    by_cases hanswer : answer = .failed
    · refine iff_of_true ?_ ?_
      · rw [hanswer]
        exact hbefore
      · intro i' answer' call' hev hanswer'
        cases hev
        exact absurd hanswer hanswer'
    · rw [requiredSsoUsable_advance_iff hheld hconsistent.1 hbefore hanswer]
      constructor
      · intro h i' answer' call' hev _ hcall'
        cases hev
        rw [hcall] at hcall'
        cases hcall'
        exact h
      · intro h
        exact h i answer call rfl hanswer hcall

/-! ## Runs -/

/-- The tables are keyed, every call in progress knows what it has read, and required
sign-on is usable. -/
def StartsUsable (companyId : String) (w : OidcWorld) : Prop :=
  OidcConsistent w ∧ RequiredSsoUsable companyId w.shared

/-- Required sign-on stays usable along a run exactly when no step of the run edits or
switches off the required provider, or requires one that is not usable. -/
theorem required_sso_usable_iff {w : OidcWorld} {run : List (OidcEvent × OidcWorld)}
    (hstart : StartsUsable companyId w) (hrun : Run (oidc urls).step w run) :
    AlwaysHolds (fun w => RequiredSsoUsable companyId w.shared) w run ↔
      StepsMeet (KeepsRequired companyId) w run := by
  have hgood : ∀ w, Reachable (StartsUsable companyId)
      (Guarded (KeepsRequired companyId) (oidc urls).step) w → StartsUsable companyId w := by
    intro w hr
    refine hr.invariant (StartsUsable companyId) (fun _ h => h) ?_
    rintro w ev w' ⟨hconsistent, husable⟩ ⟨hok, hstep⟩
    exact ⟨oidcConsistent_step hconsistent hstep,
      (requiredSsoUsable_step_iff hconsistent husable hstep).mpr hok⟩
  refine alwaysHolds_iff_stepsMeet (fun w hr => (hgood w hr).2) ?_ hrun (Reachable.start hstart)
  intro w ev w' hr hstep hnot husable
  obtain ⟨hconsistent, hbefore⟩ := hgood w hr
  exact hnot ((requiredSsoUsable_step_iff hconsistent hbefore hstep).mp husable)

/-! ## A required provider that is switched off -/

/-- The provider of the run above, enabled and required. -/
def requiredProvider : OidcWorld where
  shared :=
    { serial := 1
      providers :=
        [{ sampleConfiguration.created 0 "company" with
           authorizationEndpoint := some sampleMetadata.authorizationEndpoint
           tokenEndpoint := some sampleMetadata.tokenEndpoint
           jwksUri := some sampleMetadata.jwksUri
           metadataExpiresAt := some 86401000
           validationStatus := .tenantValidated
           validationEvidenceRef := some "oidc-validation:7"
           configurationVersion := 4
           enabled := true }]
      policies :=
        [{ companyId := "company", ssoRequirement := .required, ssoProviderId := some 0
           localLoginAllowed := false }] }
  locals := []

def switchOff : List OidcEvent :=
  [.spawn (.setEnabled { session := sampleSession, providerId := 0, enabled := false
                         expectedVersion := 4, now := 3000 } .load),
   .advance 0 .made, .advance 0 .made]

theorem startsUsable_requiredProvider : StartsUsable "company" requiredProvider := by
  refine ⟨⟨⟨?_, by decide, ?_⟩, ?_⟩, requiredSsoUsable_iff.mpr ?_⟩
  · simp [KeyedList.Distinct, requiredProvider]
  · simp [KeyedList.Distinct, requiredProvider]
  · simp [requiredProvider]
  · intro policy hpolicy hrequired
    have hsame : { companyId := "company", ssoRequirement := .required, ssoProviderId := some 0
                   localLoginAllowed := false } = policy := Option.some.inj hpolicy
    rw [← hsame]
    exact ⟨0, _, rfl, rfl, rfl, rfl⟩

theorem required_sso_usable_iff_switchOff :
    AlwaysHolds (fun w => RequiredSsoUsable "company" w.shared) requiredProvider
        (trace (oidc sampleUrls).next requiredProvider switchOff) ↔
      StepsMeet (KeepsRequired "company") requiredProvider
        (trace (oidc sampleUrls).next requiredProvider switchOff) :=
  required_sso_usable_iff startsUsable_requiredProvider (run_trace _ _)

/-- The company is left with a required provider that is switched off, and without local
login. -/
theorem required_provider_switched_off :
    ∃ w, Reachable (StartsUsable "company") (oidc sampleUrls).step w ∧
      ∃ policy ∈ w.shared.policies, policy.companyId = "company" ∧
        policy.ssoRequirement = .required ∧ (∀ row ∈ w.shared.providers, ¬row.IsUsable) ∧
        isOrganizationLoginMethodAllowed (some policy) .localLogin none 3000 = false :=
  exists_reachable_of_exec
    (fun w : OidcWorld => ∃ policy ∈ w.shared.policies, policy.companyId = "company" ∧
      policy.ssoRequirement = .required ∧ (∀ row ∈ w.shared.providers, ¬row.IsUsable) ∧
      isOrganizationLoginMethodAllowed (some policy) .localLogin none 3000 = false)
    (oidc sampleUrls).next switchOff startsUsable_requiredProvider (by decide)

end AvantimePlatform.Identity
