import AvantimePlatform.Identity.OidcCalls

/-!
# What the operations on OIDC providers write

For each update, what it has found when it commits, and the row it leaves.  `OidcWrote`
collects them: what one step of a call may do to the tables.

`OidcHeld` is what a call knows of the provider that it has read: the row is still there, or
a later version of it is.  An update at the expected version therefore changes the row that
was read.
-/

namespace AvantimePlatform.Identity

open AvantimePlatform AvantimePlatform.Checked AvantimePlatform.Interleaving
  AvantimePlatform.Transition AvantimePlatform.Versioned

variable {urls : UrlRules} {db db' : OidcTables}

/-! ## The updates -/

/-- Write a provider back. -/
def OidcTables.setProvider (db : OidcTables) (row : IdentityProvider) : OidcTables :=
  { db with providers := KeyedList.put IdentityProvider.id row db.providers }

/-- What was read is still there, or a later version is. -/
def OidcTables.HasRead (db : OidcTables) (read : IdentityProvider) : Prop :=
  Snapshot IdentityProvider.id IdentityProvider.configurationVersion db.providers read

theorem loadProvider_eq_ok {companyId : String} {id : Nat} {row : IdentityProvider}
    (h : db.loadProvider companyId id = .ok row) :
    db.provider? id = some row ∧ row.companyId = some companyId ∧ row.kind = .oidc := by
  unfold OidcTables.loadProvider at h
  cases hfind : db.provider? id with
  | none =>
      rw [hfind] at h
      cases h
  | some found =>
      rw [hfind] at h
      dsimp only at h
      split at h
      · next hguard =>
        obtain rfl := Except.ok.inj h
        exact ⟨rfl, hguard⟩
      · cases h

/-- What an update of a provider has found, and what it leaves. -/
theorem updateProvider_eq_ok {companyId : String} {id : Nat} {expectedVersion : Int}
    {p : IdentityProvider → Bool} {f : IdentityProvider → IdentityProvider}
    (h : db.updateProvider companyId id expectedVersion p f = .ok db') :
    ∃ row, db.provider? id = some row ∧ row.configurationVersion = expectedVersion ∧
      row.companyId = some companyId ∧ p row = true ∧ db' = db.setProvider (f row) := by
  unfold OidcTables.updateProvider at h
  split at h
  · cases h
  · next rows hrows =>
    obtain ⟨row, hrow, hversion, hp, rfl⟩ := guardedWrite_eq_some.mp hrows
    rw [Bool.and_eq_true, decide_eq_true_eq] at hp
    exact ⟨row, hrow, hversion, hp.1, hp.2, (Except.ok.inj h).symm⟩

theorem provider_id {id : Nat} {row : IdentityProvider} (h : db.provider? id = some row) :
    row.id = id :=
  (KeyedList.find_eq_some h).2

theorem hasRead_of_provider {id : Nat} {row : IdentityProvider} (h : db.provider? id = some row) :
    db.HasRead row :=
  Snapshot.of_find h

/-! ## One step -/

/-- What one step of a call may write. -/
inductive OidcWrote (db : OidcTables) : OidcCall → OidcTables → Prop where
  | nothing (call : OidcCall) : OidcWrote db call db
  | created (input : CreateProviderInput) (companyId : String) :
      OidcWrote db (.create input)
        { db with
          serial := db.serial + 1
          providers := db.providers ++ [input.configuration.created db.serial companyId] }
  | updated (input : UpdateProviderInput) (current row : IdentityProvider)
      (hrow : db.provider? current.id = some row)
      (hversion : row.configurationVersion = input.expectedVersion) :
      OidcWrote db (.update input (.write current))
        (db.setProvider (input.configuration.updated current row))
  | switched (input : SetEnabledInput) (provider row : IdentityProvider)
      (hrow : db.provider? provider.id = some row)
      (hversion : row.configurationVersion = input.expectedVersion) :
      OidcWrote db (.setEnabled input (.write provider))
        (db.setProvider (row.switched input.enabled))
  | refreshed (input : RefreshInput) (provider row : IdentityProvider) (metadata : OidcMetadata)
      (hrow : db.provider? provider.id = some row)
      (hversion : row.configurationVersion = input.expectedVersion) :
      OidcWrote db (.refresh input (.write provider metadata))
        (db.setProvider (metadata.refreshed provider input.now row))
  | recorded (input : CallbackInput) (request : OidcAuthorizationRequest)
      (provider loaded row : IdentityProvider) (session : OidcSession)
      (hrow : db.provider? loaded.id = some row)
      (hversion : row.configurationVersion = provider.configurationVersion)
      (hstatus : row.validationStatus = .metadataValidated) (evidenceReference : String)
      (hrecord : session.record db request provider loaded =
        .ok (db.setProvider (row.validated evidenceReference))) :
      OidcWrote db (.callback input (.record request provider loaded session))
        (db.setProvider (row.validated evidenceReference))
  | requests (input : CallbackInput) (place : CallbackPlace)
      (rows : List OidcAuthorizationRequest) :
      OidcWrote db (.callback input place) { db with authorizationRequests := rows }
  | policyUpdated (input : SsoPolicyInput) (existing : Bool) (companyId : String)
      (hchecks : input.checks = .ok companyId) (row : OrganizationIdentityPolicy)
      (hrow : db.policy? companyId = some row) (hwrite : existing = true) :
      OidcWrote db (.policy input (.write existing))
        { db with
          policies := KeyedList.put OrganizationIdentityPolicy.companyId
            { input.written row with configurationVersion := row.configurationVersion + 1 }
            db.policies }
  | policyCreated (input : SsoPolicyInput) (existing : Bool) (companyId : String)
      (hchecks : input.checks = .ok companyId) (hnone : db.policy? companyId = none)
      (hwrite : existing = false) :
      OidcWrote db (.policy input (.write existing))
        { db with policies := db.policies ++ [input.written { companyId := companyId }] }

@[simp] theorem reads_fst (db : OidcTables) (result : Except String OidcCall) :
    (reads db result).1 = db := by
  cases result with
  | error e => rfl
  | ok next => rfl

/-- A call goes on from a query that has succeeded. -/
theorem reads_snd {result : Except String OidcCall} {next : OidcCall}
    (h : (reads db result).2 = some next) : result = .ok next := by
  cases result with
  | error e => cases h
  | ok found => rw [Option.some.inj h]

/-- An update that fails leaves the tables. -/
theorem writes_fst (db : OidcTables) (next : Option OidcCall) (result : Except String OidcTables) :
    (writes db next result).1 = db ∨ result = .ok (writes db next result).1 := by
  cases result with
  | error e => exact Or.inl rfl
  | ok db' => exact Or.inr rfl

theorem writes_snd {next : Option OidcCall} {result : Except String OidcTables} {call : OidcCall}
    (h : (writes db next result).2 = some call) : next = some call := by
  cases result with
  | error e => cases h
  | ok db' => exact h

/-- The tables after an update are those before it, or those of the update. -/
theorem oidcWrote_writes {call : OidcCall} (next : Option OidcCall)
    {result : Except String OidcTables} (h : ∀ db', result = .ok db' → OidcWrote db call db') :
    OidcWrote db call (writes db next result).1 := by
  rcases writes_fst db next result with hsame | hok
  · rw [hsame]
    exact OidcWrote.nothing call
  · exact h _ hok

theorem oidcWrote_create (input : CreateProviderInput) (h : input.create db = .ok db') :
    OidcWrote db (.create input) db' := by
  obtain ⟨companyId, -, hrest⟩ := bind_eq_ok.mp h
  rw [seq_eq_ok] at hrest
  rw [← Except.ok.inj hrest.2]
  exact OidcWrote.created input companyId

theorem oidcWrote_update (input : UpdateProviderInput) (current : IdentityProvider)
    (h : input.write db current = .ok db') : OidcWrote db (.update input (.write current)) db' := by
  obtain ⟨companyId, -, hrest⟩ := bind_eq_ok.mp h
  rw [seq_eq_ok] at hrest
  obtain ⟨row, hrow, hversion, -, -, rfl⟩ := updateProvider_eq_ok hrest.2
  exact OidcWrote.updated input current row hrow hversion

theorem oidcWrote_setEnabled (input : SetEnabledInput) (provider : IdentityProvider)
    (h : input.write db provider = .ok db') :
    OidcWrote db (.setEnabled input (.write provider)) db' := by
  obtain ⟨companyId, -, hrest⟩ := bind_eq_ok.mp h
  obtain ⟨row, hrow, hversion, -, -, rfl⟩ := updateProvider_eq_ok hrest
  exact OidcWrote.switched input provider row hrow hversion

theorem oidcWrote_refresh (input : RefreshInput) (provider : IdentityProvider)
    (metadata : OidcMetadata) (h : input.write db provider metadata = .ok db') :
    OidcWrote db (.refresh input (.write provider metadata)) db' := by
  obtain ⟨companyId, -, hrest⟩ := bind_eq_ok.mp h
  obtain ⟨row, hrow, hversion, -, -, rfl⟩ := updateProvider_eq_ok hrest
  exact OidcWrote.refreshed input provider row metadata hrow hversion

theorem oidcWrote_record (input : CallbackInput) (request : OidcAuthorizationRequest)
    (provider loaded : IdentityProvider) (session : OidcSession)
    (h : session.record db request provider loaded = .ok db') :
    OidcWrote db (.callback input (.record request provider loaded session)) db' := by
  have hrecord := h
  obtain ⟨companyId, -, hrest⟩ := bind_eq_ok.mp h
  obtain ⟨row, hrow, hversion, -, hstatus, rfl⟩ := updateProvider_eq_ok hrest
  exact OidcWrote.recorded input request provider loaded row session hrow hversion
    (of_decide_eq_true hstatus) _ hrecord

theorem oidcWrote_updateRequest (input : CallbackInput) (place : CallbackPlace)
    {p : OidcAuthorizationRequest → Bool} {f : OidcAuthorizationRequest → OidcAuthorizationRequest}
    {code : String} (h : db.updateRequest p f code = .ok db') :
    OidcWrote db (.callback input place) db' := by
  unfold OidcTables.updateRequest at h
  rw [seq_eq_ok] at h
  rw [← Except.ok.inj h.2]
  exact OidcWrote.requests input place _

theorem oidcWrote_policy (input : SsoPolicyInput) (existing : Bool)
    (h : input.write db existing = .ok db') :
    OidcWrote db (.policy input (.write existing)) db' := by
  obtain ⟨companyId, hchecks, hrest⟩ := bind_eq_ok.mp h
  cases hpolicy : db.policy? companyId with
  | none =>
      rw [hpolicy] at hrest
      cases existing with
      | true => cases hrest
      | false =>
          rw [← Except.ok.inj hrest]
          exact OidcWrote.policyCreated input false companyId hchecks hpolicy rfl
  | some row =>
      rw [hpolicy] at hrest
      cases existing with
      | false => cases hrest
      | true =>
          rw [← Except.ok.inj hrest]
          exact OidcWrote.policyUpdated input true companyId hchecks row hpolicy rfl

theorem oidcWrote_callback (db : OidcTables) (input : CallbackInput) (answer : OidcAnswer)
    (place : CallbackPlace) : OidcWrote db (.callback input place) (place.run db input answer).1 := by
  cases place with
  | findRequest =>
      show OidcWrote db _ (reads db _).1
      rw [reads_fst]
      exact OidcWrote.nothing _
  | consume request provider =>
      exact oidcWrote_writes _ fun _ h => oidcWrote_updateRequest input _ h
  | exchange request provider =>
      have hsame : ((CallbackPlace.exchange request provider).run db input answer).1 = db := by
        unfold CallbackPlace.run
        cases answer with
        | identity identity =>
            dsimp only
            cases input.afterExchange request provider identity with
            | error e => rfl
            | ok next => rfl
        | made => rfl
        | metadata metadata => rfl
        | failed => rfl
      rw [hsame]
      exact OidcWrote.nothing _
  | mark request provider session =>
      exact oidcWrote_writes _ fun _ h => oidcWrote_updateRequest input _ h
  | loadProvider request provider session =>
      show OidcWrote db _ (reads db _).1
      rw [reads_fst]
      exact OidcWrote.nothing _
  | findAuthorization request provider loaded session =>
      show OidcWrote db _ (reads db _).1
      rw [reads_fst]
      exact OidcWrote.nothing _
  | record request provider loaded session =>
      exact oidcWrote_writes _ fun _ h => oidcWrote_record input request provider loaded session h

/-- What one step of a call writes. -/
theorem oidcWrote_advance (urls : UrlRules) (db : OidcTables) (answer : OidcAnswer)
    (call : OidcCall) : OidcWrote db call (call.advance urls db answer).1 := by
  unfold OidcCall.advance
  split
  · exact OidcWrote.nothing call
  · cases call with
    | create input => exact oidcWrote_writes _ fun _ h => oidcWrote_create input h
    | update input place =>
        cases place with
        | load =>
            show OidcWrote db _ (reads db _).1
            rw [reads_fst]
            exact OidcWrote.nothing _
        | write current => exact oidcWrote_writes _ fun _ h => oidcWrote_update input current h
    | setEnabled input place =>
        cases place with
        | load =>
            show OidcWrote db _ (reads db _).1
            rw [reads_fst]
            exact OidcWrote.nothing _
        | resolveSecret provider => exact OidcWrote.nothing _
        | write provider => exact oidcWrote_writes _ fun _ h => oidcWrote_setEnabled input provider h
    | refresh input place =>
        cases place with
        | load =>
            show OidcWrote db _ (reads db _).1
            rw [reads_fst]
            exact OidcWrote.nothing _
        | discover provider =>
            have hsame : ((RefreshPlace.discover provider).run urls db input answer).1 = db := by
              unfold RefreshPlace.run
              cases answer with
              | metadata metadata => exact reads_fst db _
              | made => rfl
              | identity identity => rfl
              | failed => rfl
            dsimp only
            rw [hsame]
            exact OidcWrote.nothing _
        | write provider metadata =>
            exact oidcWrote_writes _ fun _ h => oidcWrote_refresh input provider metadata h
    | callback input place => exact oidcWrote_callback db input answer place
    | policy input place =>
        cases place with
        | load =>
            show OidcWrote db _ (reads db _).1
            rw [reads_fst]
            exact OidcWrote.nothing _
        | findPolicy =>
            show OidcWrote db _ (reads db _).1
            rw [reads_fst]
            exact OidcWrote.nothing _
        | write existing => exact oidcWrote_writes _ fun _ h => oidcWrote_policy input existing h

/-! ## What is unique -/

/-- Ids are unique and below the next one, and a company has one policy. -/
structure OidcKeyed (db : OidcTables) : Prop where
  providers : KeyedList.Distinct IdentityProvider.id db.providers
  serial : ∀ row ∈ db.providers, row.id < db.serial
  policies : KeyedList.Distinct OrganizationIdentityPolicy.companyId db.policies

theorem OidcKeyed.fresh (h : OidcKeyed db) : db.provider? db.serial = none :=
  KeyedList.find_eq_none.mpr fun row hrow => ne_of_lt (h.serial row hrow)

theorem OidcKeyed.setProvider (h : OidcKeyed db) (row : IdentityProvider) {old : IdentityProvider}
    (hold : db.provider? row.id = some old) : OidcKeyed (db.setProvider row) := by
  refine ⟨KeyedList.distinct_put h.providers, fun found hfound => ?_, h.policies⟩
  rcases KeyedList.mem_put hfound with rfl | ⟨hmem, -⟩
  · have hid : old.id = found.id := provider_id hold
    rw [← hid]
    exact h.serial old (KeyedList.find_eq_some hold).1
  · exact h.serial found hmem

theorem OidcWrote.keyed {call : OidcCall} (hkeyed : OidcKeyed db) (h : OidcWrote db call db') :
    OidcKeyed db' := by
  cases h with
  | nothing => exact hkeyed
  | created input companyId =>
      refine ⟨KeyedList.distinct_append_new hkeyed.providers hkeyed.fresh, fun row hrow => ?_,
        hkeyed.policies⟩
      rcases List.mem_append.mp hrow with hold | hnew
      · exact Nat.lt_succ_of_lt (hkeyed.serial row hold)
      · rw [List.mem_singleton.mp hnew]
        exact Nat.lt_succ_self _
  | updated input current row hrow hversion =>
      have hself : db.provider? row.id = some row := by rwa [provider_id hrow]
      exact hkeyed.setProvider (input.configuration.updated current row) hself
  | switched input provider row hrow hversion =>
      have hself : db.provider? row.id = some row := by rwa [provider_id hrow]
      exact hkeyed.setProvider (row.switched input.enabled) hself
  | refreshed input provider row metadata hrow hversion =>
      have hself : db.provider? row.id = some row := by rwa [provider_id hrow]
      exact hkeyed.setProvider (metadata.refreshed provider input.now row) hself
  | recorded input request provider loaded row session hrow hversion hstatus evidence hrecord =>
      have hself : db.provider? row.id = some row := by rwa [provider_id hrow]
      exact hkeyed.setProvider (row.validated evidence) hself
  | requests input place rows => exact ⟨hkeyed.providers, hkeyed.serial, hkeyed.policies⟩
  | policyUpdated input existing companyId hchecks row hrow hwrite =>
      exact ⟨hkeyed.providers, hkeyed.serial, KeyedList.distinct_put hkeyed.policies⟩
  | policyCreated input existing companyId hchecks hnone hwrite =>
      exact ⟨hkeyed.providers, hkeyed.serial,
        KeyedList.distinct_append_new hkeyed.policies hnone⟩

theorem OidcKeyed.change (h : OidcKeyed db) (e : OidcEnv) : OidcKeyed (db.change e) := by
  cases e with
  | authorizationRequests rows => exact ⟨h.providers, h.serial, h.policies⟩
  | mfaPolicy companyId =>
      unfold OidcTables.change
      dsimp only
      split
      · exact h
      · next hpolicy =>
        exact ⟨h.providers, h.serial, KeyedList.distinct_append_new h.policies hpolicy⟩

/-! ## What a call holds -/

theorem OidcTables.HasRead.setProvider {read old : IdentityProvider} (h : db.HasRead read)
    (row : IdentityProvider) (hold : db.provider? row.id = some old)
    (hraise : row.configurationVersion = old.configurationVersion + 1) :
    (db.setProvider row).HasRead read := by
  refine Snapshot.put h hold ?_
  rw [hraise]
  omega

/-- No step takes a provider away that was read. -/
theorem OidcWrote.hasRead {call : OidcCall} {read : IdentityProvider} (hkeyed : OidcKeyed db)
    (h : OidcWrote db call db') (hread : db.HasRead read) : db'.HasRead read := by
  cases h with
  | nothing => exact hread
  | created input companyId => exact Snapshot.append hread hkeyed.fresh
  | updated input current row hrow hversion =>
      have hself : db.provider? row.id = some row := by rwa [provider_id hrow]
      exact hread.setProvider (input.configuration.updated current row) hself rfl
  | switched input provider row hrow hversion =>
      have hself : db.provider? row.id = some row := by rwa [provider_id hrow]
      exact hread.setProvider (row.switched input.enabled) hself rfl
  | refreshed input provider row metadata hrow hversion =>
      have hself : db.provider? row.id = some row := by rwa [provider_id hrow]
      exact hread.setProvider (metadata.refreshed provider input.now row) hself rfl
  | recorded input request provider loaded row session hrow hversion hstatus evidence hrecord =>
      have hself : db.provider? row.id = some row := by rwa [provider_id hrow]
      exact hread.setProvider (row.validated evidence) hself rfl
  | requests input place rows => exact hread
  | policyUpdated input existing companyId hchecks row hrow hwrite => exact hread
  | policyCreated input existing companyId hchecks hnone hwrite => exact hread

/-- What a call knows of the provider it has read. -/
def OidcHeld (db : OidcTables) : OidcCall → Prop
  | .update input (.write current) =>
    db.HasRead current ∧ current.configurationVersion = input.expectedVersion
  | .setEnabled input (.resolveSecret provider) | .setEnabled input (.write provider) =>
    db.HasRead provider ∧ provider.configurationVersion = input.expectedVersion ∧
      (input.enabled = true → provider.validationStatus = .tenantValidated ∧ provider.HasContract)
  | .refresh input (.discover provider) =>
    db.HasRead provider ∧ provider.configurationVersion = input.expectedVersion
  | .refresh input (.write provider metadata) =>
    db.HasRead provider ∧ provider.configurationVersion = input.expectedVersion ∧
      metadata.authorizationEndpoint ≠ "" ∧ metadata.tokenEndpoint ≠ "" ∧ metadata.jwksUri ≠ ""
  | .callback _ (.consume _ provider) | .callback _ (.exchange _ provider)
  | .callback _ (.mark _ provider _) | .callback _ (.loadProvider _ provider _) =>
    db.HasRead provider
  | .callback _ (.findAuthorization _ provider loaded _)
  | .callback _ (.record _ provider loaded _) =>
    db.HasRead provider ∧ loaded.id = provider.id
  | _ => True

theorem oidcHeld_of_isInitial {call : OidcCall} (h : call.isInitial = true) : OidcHeld db call := by
  cases call with
  | create input => trivial
  | update input place =>
      cases place with
      | load => trivial
      | write current => cases h
  | setEnabled input place =>
      cases place with
      | load => trivial
      | resolveSecret provider => cases h
      | write provider => cases h
  | refresh input place =>
      cases place with
      | load => trivial
      | discover provider => cases h
      | write provider metadata => cases h
  | callback input place =>
      cases place with
      | findRequest => trivial
      | consume request provider => cases h
      | exchange request provider => cases h
      | mark request provider session => cases h
      | loadProvider request provider session => cases h
      | findAuthorization request provider loaded session => cases h
      | record request provider loaded session => cases h
  | policy input place =>
      cases place with
      | load => trivial
      | findPolicy => cases h
      | write existing => cases h

/-- What a call knows stays true when no provider that was read is taken away. -/
theorem OidcHeld.mono {call : OidcCall} (hkeep : ∀ read, db.HasRead read → db'.HasRead read)
    (h : OidcHeld db call) : OidcHeld db' call := by
  cases call with
  | create input => trivial
  | update input place =>
      cases place with
      | load => trivial
      | write current => exact ⟨hkeep _ h.1, h.2⟩
  | setEnabled input place =>
      cases place with
      | load => trivial
      | resolveSecret provider => exact ⟨hkeep _ h.1, h.2⟩
      | write provider => exact ⟨hkeep _ h.1, h.2⟩
  | refresh input place =>
      cases place with
      | load => trivial
      | discover provider => exact ⟨hkeep _ h.1, h.2⟩
      | write provider metadata => exact ⟨hkeep _ h.1, h.2⟩
  | callback input place =>
      cases place with
      | findRequest => trivial
      | consume request provider => exact hkeep _ h
      | exchange request provider => exact hkeep _ h
      | mark request provider session => exact hkeep _ h
      | loadProvider request provider session => exact hkeep _ h
      | findAuthorization request provider loaded session => exact ⟨hkeep _ h.1, h.2⟩
      | record request provider loaded session => exact ⟨hkeep _ h.1, h.2⟩
  | policy input place =>
      cases place with
      | load => trivial
      | findPolicy => trivial
      | write existing => trivial

/-- The version that `SetEnabledInput.load` has checked, and what it asks of a provider that
is switched on. -/
theorem setEnabledLoad_eq_ok {input : SetEnabledInput} {provider : IdentityProvider}
    (h : input.load db = .ok provider) :
    db.provider? input.providerId = some provider ∧
      provider.configurationVersion = input.expectedVersion ∧
      (input.enabled = true →
        provider.validationStatus = .tenantValidated ∧ provider.HasContract) := by
  obtain ⟨companyId, -, hrest⟩ := bind_eq_ok.mp h
  obtain ⟨found, hfound, hchecks⟩ := bind_eq_ok.mp hrest
  rw [seq_eq_ok, seq_eq_ok, require_eq_ok, require_eq_ok] at hchecks
  obtain ⟨hversion, hready, hsame⟩ := hchecks
  obtain rfl : found = provider := Except.ok.inj hsame
  exact ⟨(loadProvider_eq_ok hfound).1, hversion, fun henabled =>
    ⟨(hready henabled).1, (hready henabled).2.1⟩⟩

theorem updateLoad_eq_ok {input : UpdateProviderInput} {current : IdentityProvider}
    (h : input.load db = .ok current) :
    db.provider? input.providerId = some current ∧
      current.configurationVersion = input.expectedVersion := by
  obtain ⟨companyId, -, hrest⟩ := bind_eq_ok.mp h
  obtain ⟨found, hfound, hchecks⟩ := bind_eq_ok.mp hrest
  rw [seq_eq_ok, seq_eq_ok, require_eq_ok, require_eq_ok] at hchecks
  obtain ⟨hversion, -, hsame⟩ := hchecks
  obtain rfl : found = current := Except.ok.inj hsame
  exact ⟨(loadProvider_eq_ok hfound).1, hversion⟩

theorem refreshLoad_eq_ok {input : RefreshInput} {provider : IdentityProvider}
    (h : input.load db = .ok provider) :
    db.provider? input.providerId = some provider ∧
      provider.configurationVersion = input.expectedVersion := by
  obtain ⟨companyId, -, hrest⟩ := bind_eq_ok.mp h
  obtain ⟨found, hfound, hchecks⟩ := bind_eq_ok.mp hrest
  rw [seq_eq_ok, require_eq_ok] at hchecks
  obtain ⟨hguard, hsame⟩ := hchecks
  obtain rfl : found = provider := Except.ok.inj hsame
  exact ⟨(loadProvider_eq_ok hfound).1, hguard.1⟩

theorem ne_empty_of_validHttpsUrl {value : String} (h : urls.validHttpsUrl value = true) :
    value ≠ "" := by
  intro hempty
  rw [hempty, urls.validHttpsUrl_empty] at h
  cases h

/-- A contract that is discovered has endpoints. -/
theorem discoverOidcProvider_eq_ok {provider : IdentityProvider} {metadata contract : OidcMetadata}
    (h : discoverOidcProvider urls provider metadata = .ok contract) :
    contract.authorizationEndpoint ≠ "" ∧ contract.tokenEndpoint ≠ "" ∧ contract.jwksUri ≠ "" := by
  unfold discoverOidcProvider at h
  rw [seq_eq_ok, seq_eq_ok, require_eq_ok, require_eq_ok] at h
  obtain ⟨-, ⟨-, -, -, hauthorization, htoken, hjwks, -⟩, hsame⟩ := h
  obtain rfl : metadata = contract := Except.ok.inj hsame
  exact ⟨ne_empty_of_validHttpsUrl hauthorization, ne_empty_of_validHttpsUrl htoken,
    ne_empty_of_validHttpsUrl hjwks⟩

/-- The provider that a callback goes on with is the one of its request. -/
theorem findRequest_eq_ok {input : CallbackInput} {request : OidcAuthorizationRequest}
    {provider : IdentityProvider} (h : input.findRequest db = .ok (request, provider)) :
    db.provider? request.providerId = some provider := by
  unfold CallbackInput.findRequest at h
  split at h
  · cases h
  · next found hfound =>
    split at h
    · cases h
    · next row hrow =>
      rw [seq_eq_ok] at h
      obtain ⟨rfl, rfl⟩ := Prod.mk.inj (Except.ok.inj h.2)
      exact hrow

/-- What a call knows where a callback's step has left it. -/
theorem oidcHeld_callback {input : CallbackInput} {answer : OidcAnswer} {place : CallbackPlace}
    {next : OidcCall} (hheld : OidcHeld db (.callback input place))
    (hnext : (place.run db input answer).2 = some next) : OidcHeld db next := by
  cases place with
  | findRequest =>
      obtain ⟨⟨request, provider⟩, hfound, rfl⟩ := map_eq_ok.mp (reads_snd hnext)
      exact hasRead_of_provider (findRequest_eq_ok hfound)
  | consume request provider =>
      rw [← Option.some.inj (writes_snd hnext)]
      exact hheld
  | exchange request provider =>
      unfold CallbackPlace.run at hnext
      cases answer with
      | identity identity =>
          dsimp only at hnext
          cases hafter : input.afterExchange request provider identity with
          | error e =>
              rw [hafter] at hnext
              cases hnext
          | ok found =>
              rw [hafter] at hnext
              obtain rfl : found = some next := hnext
              unfold CallbackInput.afterExchange at hafter
              rw [seq_eq_ok, seq_eq_ok] at hafter
              obtain ⟨-, -, hpurpose⟩ := hafter
              split at hpurpose
              · obtain ⟨session, -, hsession⟩ := bind_eq_ok.mp hpurpose
                rw [← Option.some.inj (Except.ok.inj hsession)]
                exact hheld
              · cases hpurpose
      | made => cases hnext
      | metadata metadata => cases hnext
      | failed => cases hnext
  | mark request provider session =>
      rw [← Option.some.inj (writes_snd hnext)]
      exact hheld
  | loadProvider request provider session =>
      obtain ⟨companyId, -, hrest⟩ := bind_eq_ok.mp (reads_snd hnext)
      obtain ⟨loaded, hloaded, hsame⟩ := bind_eq_ok.mp hrest
      rw [← Except.ok.inj hsame]
      exact ⟨hheld, provider_id (loadProvider_eq_ok hloaded).1⟩
  | findAuthorization request provider loaded session =>
      obtain ⟨u, -, rfl⟩ := map_eq_ok.mp (reads_snd hnext)
      exact hheld
  | record request provider loaded session => cases writes_snd hnext

/-- What a call knows where its step has left it. -/
theorem oidcHeld_next {answer : OidcAnswer} {call next : OidcCall} (hheld : OidcHeld db call)
    (hnext : (call.advance urls db answer).2 = some next) : OidcHeld db next := by
  unfold OidcCall.advance at hnext
  split at hnext
  · cases hnext
  · cases call with
    | create input => cases writes_snd hnext
    | update input place =>
        cases place with
        | load =>
            obtain ⟨current, hcurrent, rfl⟩ := map_eq_ok.mp (reads_snd hnext)
            obtain ⟨hfound, hversion⟩ := updateLoad_eq_ok hcurrent
            exact ⟨hasRead_of_provider hfound, hversion⟩
        | write current => cases writes_snd hnext
    | setEnabled input place =>
        cases place with
        | load =>
            obtain ⟨provider, hprovider, rfl⟩ := map_eq_ok.mp (reads_snd hnext)
            obtain ⟨hfound, hready⟩ := setEnabledLoad_eq_ok hprovider
            split
            · exact ⟨hasRead_of_provider hfound, hready⟩
            · exact ⟨hasRead_of_provider hfound, hready⟩
        | resolveSecret provider =>
            rw [← Option.some.inj hnext]
            exact hheld
        | write provider => cases writes_snd hnext
    | refresh input place =>
        cases place with
        | load =>
            obtain ⟨provider, hprovider, rfl⟩ := map_eq_ok.mp (reads_snd hnext)
            obtain ⟨hfound, hversion⟩ := refreshLoad_eq_ok hprovider
            exact ⟨hasRead_of_provider hfound, hversion⟩
        | discover provider =>
            dsimp only [RefreshPlace.run] at hnext
            cases answer with
            | metadata metadata =>
                obtain ⟨contract, hcontract, rfl⟩ := map_eq_ok.mp (reads_snd hnext)
                exact ⟨hheld.1, hheld.2, discoverOidcProvider_eq_ok hcontract⟩
            | made => cases hnext
            | identity identity => cases hnext
            | failed => cases hnext
        | write provider metadata => cases writes_snd hnext
    | callback input place => exact oidcHeld_callback hheld hnext
    | policy input place =>
        cases place with
        | load =>
            obtain ⟨u, -, rfl⟩ := map_eq_ok.mp (reads_snd hnext)
            trivial
        | findPolicy =>
            obtain ⟨existing, -, rfl⟩ := map_eq_ok.mp (reads_snd hnext)
            trivial
        | write existing => cases writes_snd hnext

/-! ## Runs -/

/-- The tables are keyed, and every call knows what it has read. -/
def OidcConsistent (w : OidcWorld) : Prop :=
  OidcKeyed w.shared ∧ ∀ call ∈ w.locals, OidcHeld w.shared call

theorem hasRead_change {read : IdentityProvider} (e : OidcEnv) (h : db.HasRead read) :
    (db.change e).HasRead read := by
  cases e with
  | authorizationRequests rows => exact h
  | mfaPolicy companyId =>
      unfold OidcTables.change
      dsimp only
      split
      · exact h
      · exact h

theorem oidcConsistent_step {w w' : OidcWorld} {ev : OidcEvent} (h : OidcConsistent w)
    (hstep : (oidc urls).step w ev w') : OidcConsistent w' := by
  refine @Program.step_inv _ _ _ _ (oidc urls) w w' (fun _ _ => True) OidcKeyed OidcHeld
    ?_ ?_ ?_ ev h.1 h.2 trivial hstep
  · intro db e hkeyed
    exact ⟨hkeyed.change e, fun call hcall => hcall.mono fun _ => hasRead_change e⟩
  · intro w call _ _ hinitial
    exact oidcHeld_of_isInitial hinitial
  · intro w i answer call db next hkeyed hheld _ _ hcall hadvance
    obtain ⟨rfl, rfl⟩ := Prod.mk.inj (Option.some.inj hadvance)
    have hwrote := oidcWrote_advance urls w.shared answer call
    have hkeep : ∀ read, w.shared.HasRead read →
        (call.advance urls w.shared answer).1.HasRead read :=
      fun read hread => hwrote.hasRead hkeyed hread
    refine ⟨hwrote.keyed hkeyed, fun next hnext => ?_, fun other _ hother => hother.mono hkeep⟩
    exact (oidcHeld_next (hheld call hcall) hnext).mono hkeep

/-- What a step of a call leaves. -/
theorem oidcShared_of_advance {w w' : OidcWorld} {i : Nat} {answer : OidcAnswer} {call : OidcCall}
    (hstep : (oidc urls).step w (.advance i answer) w') (hcall : w.locals[i]? = some call) :
    w'.shared = (call.advance urls w.shared answer).1 := by
  obtain ⟨found, hfound, hrest⟩ := Option.bind_eq_some_iff.mp hstep
  rw [hcall] at hfound
  obtain ⟨next, hnext, rfl⟩ := Option.map_eq_some_iff.mp hrest
  rw [← Option.some.inj hfound] at hnext
  rw [← Option.some.inj hnext]

end AvantimePlatform.Identity
