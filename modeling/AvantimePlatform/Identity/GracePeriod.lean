import AvantimePlatform.Identity.RequiredSso

/-!
# The grace period of required sign-on

A required policy has an enforcement date and a grace period of some days.
`updateOrganizationSsoPolicy` stores them, and `isOrganizationLoginMethodAllowed` compares
them with the clock, but only where local login is allowed at all.

* `HonoursGrace`: local login ends with the grace period, and login with the provider is
  open before and after.
* `honours_grace_iff`: at an instant an accepted policy does so exactly when the grace
  period is over, since a required policy is accepted without local login only.
-/

namespace AvantimePlatform.Identity

open AvantimePlatform AvantimePlatform.Checked

variable {db db' : OidcTables} {companyId : String} {input : SsoPolicyInput} {existing : Bool}
  {policy : OrganizationIdentityPolicy}

/-- The end of the grace period, when there is an enforcement date. -/
def SsoPolicyInput.graceEndsAt (input : SsoPolicyInput) : Option Int :=
  input.enforcementAt.map fun enforcementAt => enforcementAt + input.gracePeriodDays * 86400000

/-- The grace period is over. -/
def SsoPolicyInput.GraceIsOver (input : SsoPolicyInput) (now : Int) : Prop :=
  ∃ instant ∈ input.graceEndsAt, instant ≤ now

instance (input : SsoPolicyInput) (now : Int) : Decidable (input.GraceIsOver now) :=
  inferInstanceAs (Decidable (∃ instant ∈ input.graceEndsAt, instant ≤ now))

/-- At `now` the policy refuses local login exactly when the grace period of the input is
over, and admits its provider. -/
def HonoursGrace (input : SsoPolicyInput) (policy : OrganizationIdentityPolicy) (now : Int) : Prop :=
  (isOrganizationLoginMethodAllowed (some policy) .localLogin none now = false ↔
      input.GraceIsOver now) ∧
    isOrganizationLoginMethodAllowed (some policy) .oidc input.providerId now = true

instance (input : SsoPolicyInput) (policy : OrganizationIdentityPolicy) (now : Int) :
    Decidable (HonoursGrace input policy now) :=
  inferInstanceAs (Decidable (_ ∧ _))

/-! ## What is accepted and stored -/

theorem ssoPolicyChecks_eq_ok (h : input.checks = .ok companyId) :
    (input.requirement ≠ .disabled → input.providerId ≠ none) ∧
      (input.requirement = .required → input.localLoginAllowed = false) := by
  unfold SsoPolicyInput.checks at h
  rw [bind_eq_ok] at h
  obtain ⟨tenant, -, hrest⟩ := h
  rw [seq_eq_ok, require_eq_ok] at hrest
  obtain ⟨-, -, -, -, hprovider, hlocal⟩ := hrest.1
  exact ⟨hprovider, hlocal⟩

/-- The policy that is stored has the fields of the input. -/
theorem policy_of_ssoPolicyWrite (h : input.write db existing = .ok db')
    (hcompany : input.checks = .ok companyId) (hpolicy : db'.policy? companyId = some policy) :
    ∃ row version, policy = { input.written row with configurationVersion := version } := by
  obtain ⟨tenant, htenant, hrest⟩ := bind_eq_ok.mp h
  obtain rfl : companyId = tenant := Except.ok.inj (hcompany.symm.trans htenant)
  cases hrow : db.policy? companyId with
  | none =>
      rw [hrow] at hrest
      cases existing with
      | true => cases hrest
      | false =>
          let stored := input.written { companyId := companyId }
          have hfind : db'.policy? companyId = some stored := by
            rw [← Except.ok.inj hrest]
            exact (KeyedList.find_append_new (x := stored) hrow).trans (if_pos rfl)
          rw [hfind] at hpolicy
          exact ⟨{ companyId := companyId }, stored.configurationVersion,
            (Option.some.inj hpolicy).symm⟩
  | some row =>
      rw [hrow] at hrest
      cases existing with
      | false => cases hrest
      | true =>
          let stored : OrganizationIdentityPolicy :=
            { input.written row with configurationVersion := row.configurationVersion + 1 }
          have hsame : row.companyId = companyId := (KeyedList.find_eq_some hrow).2
          have hold : db.policy? stored.companyId = some row := by
            show db.policy? row.companyId = some row
            rw [hsame]
            exact hrow
          have hfind : db'.policy? companyId = some stored := by
            rw [← Except.ok.inj hrest]
            exact (KeyedList.find_put hold).trans (if_pos hsame.symm)
          rw [hfind] at hpolicy
          exact ⟨row, row.configurationVersion + 1, (Option.some.inj hpolicy).symm⟩

/-! ## The grace period -/

/-- A required policy refuses local login at every instant. -/
theorem localLogin_refused (hrequired : policy.ssoRequirement = .required)
    (hlocal : policy.localLoginAllowed = false) (now : Int) :
    isOrganizationLoginMethodAllowed (some policy) .localLogin none now = false := by
  simp [isOrganizationLoginMethodAllowed, hrequired, hlocal]

/-- A policy with a provider admits it at every instant. -/
theorem provider_admitted {providerId : Nat} (hrequired : policy.ssoRequirement ≠ .disabled)
    (hprovider : policy.ssoProviderId = some providerId) (now : Int) :
    isOrganizationLoginMethodAllowed (some policy) .oidc (some providerId) now = true := by
  simp [isOrganizationLoginMethodAllowed, hrequired, hprovider]

/-- An accepted policy honours its grace period exactly where that is over. -/
theorem honours_grace_iff (now : Int) (h : input.write db existing = .ok db')
    (hcompany : input.checks = .ok companyId) (hpolicy : db'.policy? companyId = some policy)
    (hrequired : input.requirement = .required) :
    HonoursGrace input policy now ↔ input.GraceIsOver now := by
  obtain ⟨row, version, rfl⟩ := policy_of_ssoPolicyWrite h hcompany hpolicy
  obtain ⟨hprovider, hlocal⟩ := ssoPolicyChecks_eq_ok hcompany
  have hnot : input.requirement ≠ .disabled := by rw [hrequired]; decide
  obtain ⟨providerId, hid⟩ := Option.ne_none_iff_exists'.mp (hprovider hnot)
  let stored : OrganizationIdentityPolicy :=
    { input.written row with configurationVersion := version }
  have hclosed : stored.localLoginAllowed = false := (if_neg hnot).trans (hlocal hrequired)
  have hrefused : isOrganizationLoginMethodAllowed (some stored) .localLogin none now = false :=
    localLogin_refused hrequired hclosed now
  have hadmitted :
      isOrganizationLoginMethodAllowed (some stored) .oidc (some providerId) now = true :=
    provider_admitted hnot hid now
  unfold HonoursGrace
  rw [hrefused, hid, hadmitted]
  simp

/-- Sign-on is required from 1970 on, after a week of grace. -/
def weekOfGrace : SsoPolicyInput where
  session := sampleSession
  requirement := .required
  providerId := some 0
  enforcementAt := some 0
  gracePeriodDays := 7
  localLoginAllowed := false
  expectedVersion := 1

/-- The policy that is stored for it. -/
def weekOfGracePolicy : OrganizationIdentityPolicy where
  companyId := "company"
  ssoRequirement := .required
  ssoProviderId := some 0
  ssoEnforcementAt := some 0
  ssoGracePeriodDays := 7
  localLoginAllowed := false
  configurationVersion := 2

theorem honours_grace_iff_weekOfGrace :
    HonoursGrace weekOfGrace weekOfGracePolicy (7 * 86400000) ↔
      weekOfGrace.GraceIsOver (7 * 86400000) :=
  have hwrite : weekOfGrace.write requiredProvider.shared true =
      .ok { requiredProvider.shared with policies := [weekOfGracePolicy] } := rfl
  have hcompany : weekOfGrace.checks = .ok "company" := rfl
  honours_grace_iff (7 * 86400000) hwrite hcompany rfl rfl

/-- On the first day of the week local login is refused, though all checks accept the
policy. -/
theorem grace_not_honoured_weekOfGrace :
    weekOfGrace.load requiredProvider.shared = .ok () ∧
      weekOfGrace.findPolicy requiredProvider.shared = .ok true ∧
      weekOfGrace.write requiredProvider.shared true =
        .ok { requiredProvider.shared with policies := [weekOfGracePolicy] } ∧
      ¬HonoursGrace weekOfGrace weekOfGracePolicy 86400000 := by
  refine ⟨by decide, by decide, by decide, by decide⟩

end AvantimePlatform.Identity
