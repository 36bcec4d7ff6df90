import AvantimePlatform.Identity.OidcWrites

/-!
# Only a validated configuration is live

A provider is validated by a callback: the token of the callback is checked against the
provider that was read with its request, and the validation is recorded at the version that
was read.  Editing a provider takes the validation away, refreshing its metadata does not.

* `IsLive`: an enabled provider is validated, and has endpoints and a client secret.
* `WasValidated`: some callback has recorded its validation under the configuration that the
  provider has now, and has checked its token against that configuration.
* `live_configuration_is_validated`: in every reachable state both hold of every provider.
-/

namespace AvantimePlatform.Identity

open AvantimePlatform AvantimePlatform.Interleaving AvantimePlatform.Transition

variable {urls : UrlRules} {db db' : OidcTables}

/-- An enabled OIDC provider is validated, and has endpoints and a client secret. -/
def IdentityProvider.IsLive (row : IdentityProvider) : Prop :=
  row.kind = .oidc → row.enabled = true →
    row.validationStatus = .tenantValidated ∧ row.HasContract

/-- The provider that a callback has validated with, and the one whose validation it
records. -/
structure ProviderValidation where
  validatedWith : IdentityProvider
  inForce : IdentityProvider
deriving DecidableEq

/-- The validation that the step records. -/
def validationIn (w : OidcWorld) : OidcEvent → Option ProviderValidation
  | .advance i answer =>
    match w.locals[i]? with
    | some (.callback _ (.record request provider loaded session)) =>
      if answer = .failed then none
      else
        match session.record w.shared request provider loaded, w.shared.provider? loaded.id with
        | .ok _, some row => some { validatedWith := provider, inForce := row }
        | _, _ => none
    | _ => none
  | _ => none

/-- A callback has succeeded under the configuration that the provider has. -/
def WasValidated (past : History OidcWorld OidcEvent) (row : IdentityProvider) : Prop :=
  ∃ entry ∈ past, ∃ validation, validationIn entry.1 entry.2 = some validation ∧
    validation.inForce.id = row.id ∧
    validation.inForce.tenantConfiguration = row.tenantConfiguration ∧
    validation.validatedWith.tenantConfiguration = row.tenantConfiguration

/-! ## One step -/

theorem mem_setProvider {row found : IdentityProvider} (h : found ∈ (db.setProvider row).providers) :
    found = row ∨ found ∈ db.providers := by
  rcases KeyedList.mem_put h with rfl | ⟨hmem, -⟩
  · exact Or.inl rfl
  · exact Or.inr hmem

/-- At the version that was read, the row is the one that was read. -/
theorem eq_read_of_version {read row : IdentityProvider} (hread : db.HasRead read)
    (hrow : db.provider? read.id = some row)
    (hversion : row.configurationVersion = read.configurationVersion) : row = read :=
  hread.eq_read hrow hversion

theorem isText_some {value : String} (h : value ≠ "") : isText (some value) = true := by
  simpa [isText] using h

/-- What a step of a call leaves live is live. -/
theorem OidcWrote.isLive {call : OidcCall} (hheld : OidcHeld db call)
    (hlive : ∀ row ∈ db.providers, row.IsLive) (h : OidcWrote db call db') :
    ∀ row ∈ db'.providers, row.IsLive := by
  intro found hfound
  cases h with
  | nothing => exact hlive found hfound
  | created input companyId =>
      rcases List.mem_append.mp hfound with hold | hnew
      · exact hlive found hold
      · rw [List.mem_singleton.mp hnew]
        intro _ henabled
        cases henabled
  | updated input current row hrow hversion =>
      rcases mem_setProvider hfound with rfl | hold
      · intro _ henabled
        cases henabled
      · exact hlive found hold
  | switched input provider row hrow hversion =>
      rcases mem_setProvider hfound with rfl | hold
      · obtain ⟨hread, hexpected, hready⟩ := hheld
        have hsame : row = provider :=
          eq_read_of_version hread hrow (hversion.trans hexpected.symm)
        intro _ henabled
        rw [hsame]
        exact hready henabled
      · exact hlive found hold
  | refreshed input provider row metadata hrow hversion =>
      rcases mem_setProvider hfound with rfl | hold
      · obtain ⟨hread, hexpected, hauthorization, htoken, hjwks⟩ := hheld
        have hsame : row = provider :=
          eq_read_of_version hread hrow (hversion.trans hexpected.symm)
        intro hkind henabled
        obtain ⟨hstatus, -, -, -, hsecret⟩ :=
          hlive row (KeyedList.find_eq_some hrow).1 hkind henabled
        refine ⟨?_, isText_some hauthorization, isText_some htoken, isText_some hjwks, hsecret⟩
        show provider.validationStatus.afterRefresh = .tenantValidated
        rw [← hsame, hstatus]
        rfl
      · exact hlive found hold
  | recorded input request provider loaded row session hrow hversion hstatus evidence hrecord =>
      rcases mem_setProvider hfound with rfl | hold
      · intro hkind henabled
        obtain ⟨hvalidated, hcontract⟩ :=
          hlive row (KeyedList.find_eq_some hrow).1 hkind henabled
        exact ⟨rfl, hcontract⟩
      · exact hlive found hold
  | requests input place rows => exact hlive found hfound
  | policyUpdated input existing companyId hchecks row hrow hwrite => exact hlive found hfound
  | policyCreated input existing companyId hchecks hnone hwrite => exact hlive found hfound

theorem WasValidated.earlier {past : History OidcWorld OidcEvent} {row : IdentityProvider}
    (entry : OidcWorld × OidcEvent) (h : WasValidated past row) : WasValidated (entry :: past) row := by
  obtain ⟨found, hmem, hvalidated⟩ := h
  exact ⟨found, List.mem_cons_of_mem entry hmem, hvalidated⟩

/-- A row that keeps its id and its configuration has been validated when the old one has. -/
theorem WasValidated.of_eq {past : History OidcWorld OidcEvent} {row row' : IdentityProvider}
    (h : WasValidated past row) (hid : row'.id = row.id)
    (hsame : row'.tenantConfiguration = row.tenantConfiguration) : WasValidated past row' := by
  obtain ⟨entry, hmem, validation, hvalidation, hentry, hinForce, hvalidatedWith⟩ := h
  exact ⟨entry, hmem, validation, hvalidation, hentry.trans hid.symm, hinForce.trans hsame.symm,
    hvalidatedWith.trans hsame.symm⟩

/-- The validation that is recorded is of the configuration that the callback has read. -/
theorem wasValidated_of_record {w : OidcWorld} {past : History OidcWorld OidcEvent} {i : Nat}
    {answer : OidcAnswer} {input : CallbackInput} {request : OidcAuthorizationRequest}
    {provider loaded row : IdentityProvider} {session : OidcSession}
    (hcall : w.locals[i]? = some (.callback input (.record request provider loaded session)))
    (hanswer : answer ≠ .failed) (hrow : w.shared.provider? loaded.id = some row)
    (hrecord : session.record w.shared request provider loaded = .ok db') (hsame : row = provider) :
    WasValidated ((w, .advance i answer) :: past) row := by
  refine ⟨(w, .advance i answer), List.mem_cons_self,
    { validatedWith := provider, inForce := row }, ?_, rfl, rfl, ?_⟩
  · simp only [validationIn, hcall, if_neg hanswer, hrecord, hrow]
  · rw [hsame]

/-- What a step of a call leaves validated has been validated. -/
theorem wasValidated_advance {w : OidcWorld} {past : History OidcWorld OidcEvent} {i : Nat}
    {answer : OidcAnswer} {call : OidcCall} (hcall : w.locals[i]? = some call)
    (hanswer : answer ≠ .failed) (hheld : OidcHeld w.shared call)
    (hpast : ∀ row ∈ w.shared.providers, row.kind = .oidc →
      row.validationStatus = .tenantValidated → WasValidated past row)
    (h : OidcWrote w.shared call db') :
    ∀ row ∈ db'.providers, row.kind = .oidc → row.validationStatus = .tenantValidated →
      WasValidated ((w, .advance i answer) :: past) row := by
  have hold : ∀ row ∈ w.shared.providers, row.kind = .oidc →
      row.validationStatus = .tenantValidated →
        WasValidated ((w, .advance i answer) :: past) row :=
    fun row hrow hkind hstatus => (hpast row hrow hkind hstatus).earlier _
  intro found hfound hkind hstatus
  cases h with
  | nothing => exact hold found hfound hkind hstatus
  | created input companyId =>
      rcases List.mem_append.mp hfound with hmem | hnew
      · exact hold found hmem hkind hstatus
      · rw [List.mem_singleton.mp hnew] at hstatus
        cases hstatus
  | updated input current row hrow hversion =>
      rcases mem_setProvider hfound with rfl | hmem
      · dsimp only [OidcProviderConfiguration.updated] at hstatus
        split at hstatus
        · cases hstatus
        · cases hstatus
      · exact hold found hmem hkind hstatus
  | switched input provider row hrow hversion =>
      rcases mem_setProvider hfound with rfl | hmem
      · exact (hold row (KeyedList.find_eq_some hrow).1 hkind hstatus).of_eq rfl rfl
      · exact hold found hmem hkind hstatus
  | refreshed input provider row metadata hrow hversion =>
      rcases mem_setProvider hfound with rfl | hmem
      · obtain ⟨hread, hexpected, -⟩ := hheld
        have hsame : row = provider :=
          eq_read_of_version hread hrow (hversion.trans hexpected.symm)
        have hbefore : row.validationStatus = .tenantValidated := by
          have hafter : provider.validationStatus.afterRefresh = .tenantValidated := hstatus
          rw [hsame]
          cases hprovider : provider.validationStatus with
          | tenantValidated => rfl
          | notValidated =>
              rw [hprovider] at hafter
              cases hafter
          | metadataValidated =>
              rw [hprovider] at hafter
              cases hafter
          | revalidationRequired =>
              rw [hprovider] at hafter
              cases hafter
          | failed =>
              rw [hprovider] at hafter
              cases hafter
        exact (hold row (KeyedList.find_eq_some hrow).1 hkind hbefore).of_eq rfl rfl
      · exact hold found hmem hkind hstatus
  | recorded input request provider loaded row session hrow hversion hmetadata evidence hrecord =>
      rcases mem_setProvider hfound with rfl | hmem
      · obtain ⟨hread, hid⟩ := hheld
        have hrow' : w.shared.provider? provider.id = some row := by rwa [← hid]
        have hsame : row = provider := eq_read_of_version hread hrow' hversion
        exact (wasValidated_of_record hcall hanswer hrow hrecord hsame).of_eq rfl rfl
      · exact hold found hmem hkind hstatus
  | requests input place rows => exact hold found hfound hkind hstatus
  | policyUpdated input existing companyId hchecks row hrow hwrite =>
      exact hold found hfound hkind hstatus
  | policyCreated input existing companyId hchecks hnone hwrite =>
      exact hold found hfound hkind hstatus

/-! ## Runs -/

/-- No call is in progress, and no OIDC provider is enabled or validated. -/
structure StartsUnvalidated (w : OidcWorld) : Prop where
  keyed : OidcKeyed w.shared
  quiescent : w.Quiescent
  unvalidated : ∀ row ∈ w.shared.providers, row.kind = .oidc →
    row.enabled = false ∧ row.validationStatus ≠ .tenantValidated

/-- What holds of the providers wherever a history leads. -/
structure ValidatedSoFar (past : History OidcWorld OidcEvent) (w : OidcWorld) : Prop where
  consistent : OidcConsistent w
  live : ∀ row ∈ w.shared.providers, row.IsLive
  validated : ∀ row ∈ w.shared.providers, row.kind = .oidc →
    row.validationStatus = .tenantValidated → WasValidated past row

theorem providers_change (db : OidcTables) (e : OidcEnv) :
    (db.change e).providers = db.providers := by
  cases e with
  | authorizationRequests rows => rfl
  | mfaPolicy companyId =>
      dsimp only [OidcTables.change]
      split
      · rfl
      · rfl

theorem validatedSoFar_start {w : OidcWorld} (h : StartsUnvalidated w) : ValidatedSoFar [] w := by
  refine ⟨⟨h.keyed, fun call hcall => ?_⟩, fun row hrow hkind henabled => ?_,
    fun row hrow hkind hstatus => ?_⟩
  · rw [h.quiescent] at hcall
    cases hcall
  · rw [(h.unvalidated row hrow hkind).1] at henabled
    cases henabled
  · exact absurd hstatus (h.unvalidated row hrow hkind).2

theorem validatedSoFar_step {past : History OidcWorld OidcEvent} {w w' : OidcWorld} {ev : OidcEvent}
    (h : ValidatedSoFar past w) (hstep : (oidc urls).step w ev w') :
    ValidatedSoFar ((w, ev) :: past) w' := by
  have hconsistent : OidcConsistent w' := oidcConsistent_step h.consistent hstep
  have hsame : w'.shared.providers = w.shared.providers → ValidatedSoFar ((w, ev) :: past) w' := by
    intro hproviders
    refine ⟨hconsistent, fun row hrow => ?_, fun row hrow hkind hstatus => ?_⟩
    · rw [hproviders] at hrow
      exact h.live row hrow
    · rw [hproviders] at hrow
      exact (h.validated row hrow hkind hstatus).earlier _
  rcases Program.step_cases hstep with ⟨e, rfl, rfl⟩ | ⟨call, rfl, -, rfl⟩ |
    ⟨i, answer, call, sh, next, rfl, hcall, -, -⟩
  · exact hsame (providers_change w.shared e)
  · exact hsame rfl
  · have hshared := oidcShared_of_advance hstep hcall
    by_cases hanswer : answer = .failed
    · refine hsame ?_
      rw [hshared, hanswer]
      rfl
    · have hwrote := oidcWrote_advance urls w.shared answer call
      have hheld : OidcHeld w.shared call := h.consistent.2 call (List.mem_of_getElem? hcall)
      refine ⟨hconsistent, ?_, ?_⟩
      · rw [hshared]
        exact hwrote.isLive hheld h.live
      · rw [hshared]
        exact wasValidated_advance hcall hanswer hheld h.validated hwrote

/-- In every reachable state an enabled provider is validated and has what it needs, and a
validated provider has the configuration that a callback has validated. -/
theorem live_configuration_is_validated {past : History OidcWorld OidcEvent} {w : OidcWorld}
    (h : ReachedBy StartsUnvalidated (fun _ _ _ => True) (oidc urls).step past w) :
    ∀ row ∈ w.shared.providers, row.kind = .oidc →
      (row.enabled = true → row.validationStatus = .tenantValidated ∧ row.HasContract) ∧
        (row.validationStatus = .tenantValidated → WasValidated past row) := by
  have hgood : ValidatedSoFar past w :=
    h.invariant ValidatedSoFar (fun _ hstart => validatedSoFar_start hstart)
      fun _ _ _ _ hbefore _ hstep => validatedSoFar_step hbefore hstep
  intro row hrow hkind
  exact ⟨hgood.live row hrow hkind, hgood.validated row hrow hkind⟩

/-! ## A provider that is created, validated and enabled -/

/-- `validHttpsUrl`, on the texts of the run below. -/
def sampleUrls : UrlRules where
  validHttpsUrl value :=
    ["https://idp.test", "https://idp.test/authorize", "https://idp.test/token",
     "https://idp.test/keys", "https://app.test/api/auth/oidc/callback"].contains value
  validHttpsUrl_empty := by decide

def sampleMetadata : OidcMetadata where
  issuer := "https://idp.test"
  authorizationEndpoint := "https://idp.test/authorize"
  tokenEndpoint := "https://idp.test/token"
  jwksUri := "https://idp.test/keys"

def sampleConfiguration : OidcProviderConfiguration where
  key := "idp"
  oidcProfile := .genericOidc
  issuer := "https://idp.test"
  discoveryUrl := "https://idp.test/.well-known/openid-configuration"
  clientId := "client"
  clientSecretRefEncrypted := some "encrypted"
  redirectUri := "https://app.test/api/auth/oidc/callback"
  allowedDomains := []
  organizationMappingMode := .static
  tenantMappingPolicy := []
  claimMapping := {}
  sessionPolicy := .revokeOnDisable

def sampleSession : OidcSession where
  userId := "admin"
  companyId := some "company"
  authenticationAt := some 1000

def noProvider : OidcWorld where
  shared := {}
  locals := []

/-- A provider is created, its metadata is fetched, a callback validates it, and it is
enabled. -/
def validateAndEnable : List OidcEvent :=
  [.spawn (.create { session := sampleSession, configuration := sampleConfiguration }),
   .advance 0 .made,
   .spawn (.refresh { session := sampleSession, providerId := 0, expectedVersion := 1, now := 1000 }
     .load),
   .advance 0 .made, .advance 0 (.metadata sampleMetadata), .advance 0 .made,
   .env (.authorizationRequests
     [{ id := 7, providerId := 0, userId := some "admin", purpose := .providerValidation
        stateHash := "state", redirectUri := "https://app.test/api/auth/oidc/callback"
        expiresAt := 301000 }]),
   .spawn (.callback { stateHash := "state", redirectUri := "https://app.test/api/auth/oidc/callback"
                       currentSession := some sampleSession, now := 2000 } .findRequest),
   .advance 0 .made, .advance 0 .made,
   .advance 0 (.identity { subject := "subject", emailNormalized := "admin@company.test" }),
   .advance 0 .made, .advance 0 .made, .advance 0 .made, .advance 0 .made,
   .spawn (.setEnabled { session := sampleSession, providerId := 0, enabled := true
                         expectedVersion := 3, now := 3000 } .load),
   .advance 0 .made, .advance 0 .made, .advance 0 .made]

theorem startsUnvalidated_noProvider : StartsUnvalidated noProvider := by
  refine ⟨⟨?_, ?_, ?_⟩, rfl, ?_⟩
  · simp [KeyedList.Distinct, noProvider]
  · simp [noProvider]
  · simp [KeyedList.Distinct, noProvider]
  · simp [noProvider]

theorem live_configuration_is_validated_validateAndEnable :
    ∃ (past : History OidcWorld OidcEvent) (w : OidcWorld),
      (∃ row ∈ w.shared.providers, row.kind = .oidc ∧ row.enabled = true) ∧
        ∀ row ∈ w.shared.providers, row.kind = .oidc →
          (row.enabled = true → row.validationStatus = .tenantValidated ∧ row.HasContract) ∧
            (row.validationStatus = .tenantValidated → WasValidated past row) := by
  obtain ⟨past, w, hreached, henabled⟩ :=
    exists_reachedBy_of_exec
      (fun _ w => ∃ row ∈ w.shared.providers, row.kind = .oidc ∧ row.enabled = true)
      (oidc sampleUrls).next validateAndEnable startsUnvalidated_noProvider (by decide)
  exact ⟨past, w, henabled, live_configuration_is_validated hreached⟩

end AvantimePlatform.Identity
