import FederationRegistry.Proofs.Relational.Lawful

/-!
# What becomes of every row

What loads accounts for every row (`IdentityProvider.AccountsFor`), with one exception. The rows of
properties go through the same updates as the properties that a caller sets, and these pass over a
blank key and a `null`. Such a row is lawful, and nothing is seen of it: all rows are accounted for
exactly when all properties among them can be set.

**Theorem (`Tables.rows_reported`).** Rows that are as the schema demands load when they are lawful
and fail as corrupt when they are not, and what loads accounts for all of them but the properties
that cannot be set. `Tables.rows_hidden` shows such properties disappear.
-/

namespace FederationRegistry

/-! ## Accounts -/

namespace PropertyMap

/-- Every row is seen: the value of its text stands under its key. -/
def Shows (m : PropertyMap) (texts : Dict String String) : Prop :=
  ∀ key text, texts.find? key = some text →
    ∃ v, PropertyValue.ofText text = .ok v ∧ m.find? key = some v

/-- The rows are seen that can be set, and nothing stands under the keys of the others. -/
def ShowsSettable (m : PropertyMap) (texts : Dict String String) : Prop :=
  ∀ key text, texts.find? key = some text →
    ∃ v, PropertyValue.ofText text = .ok v ∧
      m.find? key = if settable key v = true then some v else none

/-- The values of all texts can be set under their keys. -/
def SettableTexts (texts : Dict String String) : Prop :=
  ∀ key text, texts.find? key = some text →
    ∀ v, PropertyValue.ofText text = .ok v → settable key v = true

/-- Where the settable rows are seen, all are exactly when all can be set. -/
theorem ShowsSettable.shows_iff {m : PropertyMap} {texts : Dict String String}
    (h : m.ShowsSettable texts) : m.Shows texts ↔ SettableTexts texts := by
  constructor
  · intro hshows key text htext v hv
    obtain ⟨w, hw, hfind⟩ := hshows key text htext
    obtain ⟨u, hu, hif⟩ := h key text htext
    obtain rfl : w = v := Except.ok.inj (hw.symm.trans hv)
    obtain rfl : u = w := Except.ok.inj (hu.symm.trans hw)
    by_contra hset
    rw [if_neg hset, hfind] at hif
    cases hif
  · intro hset key text htext
    obtain ⟨v, hv, hif⟩ := h key text htext
    exact ⟨v, hv, by rw [hif, if_pos (hset key text htext v hv)]⟩

end PropertyMap

/-- The connectors account for every record, and their properties for its properties in the sense
of `shows`. -/
def ConnectorMap.AccountsFor (shows : PropertyMap → Dict String String → Prop) (m : ConnectorMap)
    (records : Dict Int ConnectorRecord) : Prop :=
  ∀ r ∈ records.values, ∃ c, m.find? r.1.name = some c ∧ c.name = r.1.name ∧
    c.enabled = r.1.enabled ∧ shows c.properties r.2

/-- The provider accounts for every row: each is seen in the provider, the properties in the sense
of `shows`. -/
structure IdentityProvider.AccountsFor (shows : PropertyMap → Dict String String → Prop)
    (p : IdentityProvider) (r : ProviderRows) : Prop where
  row : ∀ row, r.row = some row →
    p.enabled = row.enabled ∧ p.name = row.name ∧ p.metadata.displayLabel = row.displayLabel ∧
      p.metadata.description = row.description ∧ p.variant.homeRealm = row.homeRealm ∧
      p.variant.isHub = row.isHub ∧
      ∀ i, row.dialectId = .integer i →
        ∃ n : Nat, (n : Int) = i ∧ p.metadata.claimDialect = some ⟨n, row.dialectIsLocal⟩
  certificates : p.metadata.certificates = r.certificates
  roleMappings : ∀ role external, r.roleMappings.find? (.integer role) = some external →
    ∃ n : Nat, (n : Int) = role ∧ p.metadata.roleMappings.find? n = some external
  requestedClaims : (p.authentication.getD {}).requestedClaims = r.requestedClaims
  authenticators : (p.authentication.getD {}).authenticators.AccountsFor shows r.authenticators
  provisioningClaims : ∀ uri defaultValue, r.provisioningClaims.find? uri = some defaultValue →
    p.provisioning.claims.find? uri = some ⟨uri, defaultValue⟩
  provisioningRoles : p.provisioning.roles = r.provisioningRoles
  jitProviders : p.provisioning.jitProviders = r.jitProviders
  provisioners : p.provisioning.provisioners.AccountsFor shows r.provisioners
  properties : shows p.properties r.properties

/-- Every property among the rows can be set. -/
structure ProviderRows.Settable (r : ProviderRows) : Prop where
  properties : PropertyMap.SettableTexts r.properties
  authenticators : ∀ record ∈ r.authenticators.values, PropertyMap.SettableTexts record.2
  provisioners : ∀ record ∈ r.provisioners.values, PropertyMap.SettableTexts record.2

open PropertyMap (Shows ShowsSettable SettableTexts)

theorem ConnectorMap.AccountsFor.shows_iff {m : ConnectorMap}
    {records : Dict Int ConnectorRecord} (h : m.AccountsFor ShowsSettable records) :
    m.AccountsFor Shows records ↔ ∀ r ∈ records.values, SettableTexts r.2 := by
  constructor
  · intro hshows r hr
    obtain ⟨c, hc, -, -, hsettable⟩ := h r hr
    obtain ⟨d, hd, -, -, hall⟩ := hshows r hr
    obtain rfl : c = d := Option.some.inj (hc.symm.trans hd)
    exact hsettable.shows_iff.mp hall
  · intro hset r hr
    obtain ⟨c, hc, hname, henabled, hsettable⟩ := h r hr
    exact ⟨c, hc, hname, henabled, hsettable.shows_iff.mpr (hset r hr)⟩

/-- All rows are accounted for exactly when all properties among them can be set. -/
theorem IdentityProvider.AccountsFor.shows_iff {p : IdentityProvider} {r : ProviderRows}
    (h : p.AccountsFor ShowsSettable r) : p.AccountsFor Shows r ↔ r.Settable := by
  constructor
  · intro hshows
    exact ⟨h.properties.shows_iff.mp hshows.properties,
      h.authenticators.shows_iff.mp hshows.authenticators,
      h.provisioners.shows_iff.mp hshows.provisioners⟩
  · intro hset
    exact { h with
      authenticators := h.authenticators.shows_iff.mpr hset.authenticators
      provisioners := h.provisioners.shows_iff.mpr hset.provisioners
      properties := h.properties.shows_iff.mpr hset.properties }

namespace ConnectorMap

theorem find?_addMany_of_not_mem {cs : List Connector} {name : String}
    (h : name ∉ cs.map (·.name)) (m : ConnectorMap) :
    (addMany m cs).find? name = m.find? name := by
  induction cs generalizing m with
  | nil => rfl
  | cons c cs ih =>
    obtain ⟨hc, hcs⟩ : name ≠ c.name ∧ name ∉ cs.map (·.name) := by simpa using h
    rw [addMany, List.foldl_cons, ← addMany, ih hcs, add, Dict.find?_insert, if_neg (Ne.symm hc)]

/-- Of connectors with different names each stands under its own. -/
theorem find?_addMany_of_mem {cs : List Connector} (h : (cs.map (·.name)).Nodup)
    (m : ConnectorMap) {c : Connector} (hc : c ∈ cs) : (addMany m cs).find? c.name = some c := by
  induction cs generalizing m with
  | nil => cases hc
  | cons d cs ih =>
    obtain ⟨hd, hcs⟩ := List.nodup_cons.mp h
    rw [addMany, List.foldl_cons, ← addMany]
    rcases List.mem_cons.mp hc with rfl | hc
    · rw [find?_addMany_of_not_mem hd, add, Dict.find?_insert, if_pos rfl]
    · exact ih hcs (add m d) hc

end ConnectorMap

namespace Tables

variable {t : Tables} {number : Int} {kind : ConnectorKind}

/-- Of decoded properties those are kept that can be set. -/
theorem showsSettable_of_decodeProperties {texts : Dict String String} {m : PropertyMap}
    (h : decodeProperties texts = .ok m) : ((∅ : PropertyMap).replace m).ShowsSettable texts := by
  intro key text htext
  obtain ⟨v, hv, hfind⟩ := Dict.find?_of_traverse h htext
  refine ⟨v, (mapError_eq_ok_iff _).mp hv, ?_⟩
  rw [find?_replace_empty, hfind]
  rfl

/-- No two connectors of a kind have the same owner and name. -/
theorem Conforms.nodup_ownedNames (h : t.Conforms) (kind : ConnectorKind) :
    ((t.connectors kind).connectors.rows.values.map fun row => (row.owner, row.name)).Nodup := by
  have hdistinct := h.distinct
  simp only [repeatedName?] at hdistinct
  repeat' split at hdistinct
  iterate 4 cases hdistinct
  rename_i hauthenticators hprovisioners
  cases kind with
  | authenticator => exact nodup_of_areDistinct (by simpa using hauthenticators)
  | provisioner => exact nodup_of_areDistinct (by simpa using hprovisioners)

/-- No two connectors of a provider have the same name. -/
theorem Conforms.nodup_names_rowsOf (h : t.Conforms) (kind : ConnectorKind) (number : Int) :
    (((t.connectors kind).rowsOf number).values.map fun r => r.1.name).Nodup := by
  have hall := h.nodup_ownedNames kind
  simp only [Dict.values, List.map_map, List.Nodup, List.pairwise_map] at hall
  simp only [ConnectorTables.rowsOf, Dict.mapValues, ConnectorTables.ownedBy, Dict.filter,
    Dict.values, List.map_map, List.Nodup, List.pairwise_map]
  refine (hall.sublist List.filter_sublist).imp_of_mem fun ha hb hne hname => hne ?_
  have howner {e : Int × ConnectorRow}
      (he : e ∈ (t.connectors kind).connectors.rows.entries.filter fun e => e.2.owner == number) :
      e.2.owner = number := by simpa using (List.mem_filter.mp he).2
  exact Prod.ext ((howner ha).trans (howner hb).symm) hname

theorem accountsFor_of_loadConnectors (ht : t.Conforms) {m : ConnectorMap}
    (h : t.loadConnectors kind number = .ok m) :
    m.AccountsFor ShowsSettable ((t.connectors kind).rowsOf number) := by
  obtain ⟨loaded, hloaded, rfl⟩ := loadConnectors_eq_ok_iff.mp h
  have hnames : loaded.values.map (·.name) =
      ((t.connectors kind).rowsOf number).values.map fun r => r.1.name :=
    names_of_loadRecords ((List.map_map ..).trans (Dict.map_of_traverse hloaded))
  intro r hr
  obtain ⟨i, hi⟩ := Dict.mem_values_iff.mp hr
  obtain ⟨c, hc, hfind⟩ := Dict.find?_of_traverse hloaded hi
  obtain ⟨m, hm, -, rfl⟩ := loadRecord_eq_ok_iff.mp hc
  refine ⟨_, ConnectorMap.find?_addMany_of_mem (hnames ▸ ht.nodup_names_rowsOf kind number) ∅
    (Dict.mem_values_iff.mpr ⟨i, hfind⟩), rfl, rfl, showsSettable_of_decodeProperties hm⟩

/-- What loads accounts for every row but for the properties that cannot be set. -/
theorem accountsFor_of_loadProvider (ht : t.Conforms) {p : IdentityProvider}
    (h : t.loadProvider number = .ok (some p)) :
    p.AccountsFor ShowsSettable (t.rowsOf number) := by
  obtain ⟨row, d, q, id, hrow, hd, hq, -, rfl⟩ := loadProvider_eq_some_iff.mp h
  obtain ⟨dialect, roles, provisioning, properties, authentication, hdialect, hroles,
    hprovisioning, hproperties, hauthentication, rfl⟩ := loadDraft_eq_ok_iff.mp hd
  obtain ⟨v, -, -, -, hv, rfl, -⟩ := IdentityProvider.Draft.build_eq_ok_iff.mp hq
  obtain ⟨-, hhome, hhub⟩ := IdentityProvider.Draft.buildVariant_eq_ok_iff.mp hv
  obtain ⟨claims, provisioners, hclaims, hprovisioners, -, rfl⟩ :=
    loadProvisioning_eq_ok_iff.mp hprovisioning
  obtain ⟨m, hm, hsection, -⟩ := section_of_loadAuthentication hauthentication
  -- the section is dropped when it is empty, and then its tables are empty too
  have hshown : (authentication.bind Authentication.nonempty?).getD {} =
      ⟨t.requestedClaims.slice number, m⟩ := by
    rw [← hsection, Authentication.getD_nonempty]
  exact
    { row := fun row' hrow' => by
        obtain rfl : row = row' := Option.some.inj (hrow.symm.trans hrow')
        refine ⟨rfl, rfl, rfl, rfl, hhome, hhub, fun i hi => ?_⟩
        rcases exists_loadDialect_iff.mp hdialect with ⟨hnull, -⟩ | ⟨n, hn, hsome⟩
        · rw [hi] at hnull
          cases hnull
        · exact ⟨n, Cell.integer.inj (hn.symm.trans hi), hsome⟩
      certificates := rfl
      roleMappings := fun role external hrole => by
        obtain ⟨n, hn⟩ := exists_decodeRoles_iff.mp ⟨_, hroles⟩ (.integer role)
          (Dict.mem_keys_iff.mpr ⟨external, hrole⟩)
        obtain rfl := Cell.integer.inj hn
        exact ⟨n, rfl, (find?_of_decodeRoles hroles).mpr hrole⟩
      requestedClaims := congrArg Authentication.requestedClaims hshown
      authenticators := by
        show ((authentication.bind Authentication.nonempty?).getD {}).authenticators.AccountsFor
          ShowsSettable _
        rw [hshown]
        exact accountsFor_of_loadConnectors ht hm
      provisioningClaims := fun uri defaultValue hclaim => by
        obtain ⟨c, hc, hfind⟩ := Dict.find?_of_traverse hclaims hclaim
        obtain ⟨-, rfl⟩ := ProvisioningClaim.check_eq_ok_iff.mp (uncorrupted_eq_ok_iff.mp hc)
        exact hfind
      provisioningRoles := rfl
      jitProviders := rfl
      provisioners := accountsFor_of_loadConnectors ht hprovisioners
      properties := showsSettable_of_decodeProperties hproperties }

/-- **Corrupt rows are reported, but for properties that cannot be set.** -/
theorem rows_reported (t : Tables) (ht : t.Conforms) (htyped : t.Typed) (number : Int) :
    (t.loadProvider number = .ok none ↔ (t.rowsOf number).row = none) ∧
    (∀ p, t.loadProvider number = .ok (some p) →
      p.AccountsFor ShowsSettable (t.rowsOf number) ∧
      (p.AccountsFor Shows (t.rowsOf number) ↔ (t.rowsOf number).Settable)) ∧
    ((t.rowsOf number).row ≠ none →
      (0 < number ∧ (t.rowsOf number).Lawful → ∃ p, t.loadProvider number = .ok (some p)) ∧
      (¬(0 < number ∧ (t.rowsOf number).Lawful) →
        ∃ c, t.loadProvider number = .error (.corrupt c))) := by
  refine ⟨loadProvider_eq_none_iff, fun p hp => ?_, fun hrow => ?_⟩
  · have haccounts := accountsFor_of_loadProvider ht hp
    exact ⟨haccounts, haccounts.shows_iff⟩
  · -- the load fails only by what it finds in the rows, so whatever does not load is corrupt
    obtain ⟨row, hrow⟩ := Option.ne_none_iff_exists'.mp hrow
    have hloads := exists_loadProvider_iff ht htyped hrow
    refine ⟨hloads.mpr, fun hbroken => ?_⟩
    cases hload : t.loadProvider number with
    | error err =>
      obtain ⟨c, rfl⟩ := blamesRows_loadProvider htyped number err hload
      exact ⟨c, rfl⟩
    | ok found =>
      cases found with
      | none =>
        have hnone := loadProvider_eq_none_iff.mp hload
        rw [show t.providers.rows.find? number = some row from hrow] at hnone
        cases hnone
      | some p => exact absurd (hloads.mp ⟨p, hload⟩) hbroken

/-! ## Rows that are passed over -/

/-- A provider with rows of every kind. Of its own properties and of those of its connectors some
cannot be set. -/
def passedOver : Tables where
  providers := ({} : SerialTable ProviderRow).append 1
    { IdentityProvider.storedRow { metadata := { name := "acme" }, variant := .federated {} } with
      dialectId := .integer 3, dialectIsLocal := true }
  certificates := (∅ : Dict (Int × String) String).insert (1, "signing") "ab:cd"
  roleMappings := (∅ : Dict (Int × Cell) String).insert (1, .integer 7) "admin"
  properties := ((((∅ : Dict (Int × String) String).insert (1, "region") "\"eu\"").insert
    (1, "tier") "null").insert (1, " ") "true")
  requestedClaims := (∅ : KeySet (Int × String)).add (1, "email")
  authenticators :=
    { connectors := ({} : SerialTable ConnectorRow).append 4 ⟨1, "totp", true⟩
      properties := ((∅ : Dict (Int × String) String).insert (4, "digits") "6").insert
        (4, "skew") "null" }
  provisioningClaims := (∅ : Dict (Int × String) (Option String)).insert (1, "mail") none
  provisioningRoles := (∅ : KeySet (Int × String)).add (1, "user")
  jitProviders := (∅ : KeySet (Int × String)).add (1, "LOCAL")
  provisioners :=
    { connectors := ({} : SerialTable ConnectorRow).append 9 ⟨1, "scim", true⟩
      properties := (∅ : Dict (Int × String) String).insert (9, "") "[1]" }

theorem conforms_passedOver : passedOver.Conforms :=
  ⟨by decide +kernel, by decide +kernel, by decide +kernel⟩

theorem typed_passedOver : passedOver.Typed := ⟨by decide +kernel, by decide +kernel⟩

/-- What the provider loads as: of its rows four are not seen. -/
def seenOfPassedOver : IdentityProvider where
  id := some (.nth 0)
  metadata :=
    { name := "acme"
      certificates := (∅ : Dict String String).insert "signing" "ab:cd"
      claimDialect := some ⟨3, true⟩
      roleMappings := (∅ : Dict Nat String).insert 7 "admin" }
  authentication := some
    { requestedClaims := (∅ : KeySet String).add "email"
      authenticators := ConnectorMap.ofList
        [⟨"totp", true, PropertyMap.put ∅ "digits" (.ofJson (.ofInt 6))⟩] }
  provisioning :=
    { jitProviders := (∅ : KeySet String).add "LOCAL"
      claims := Provisioning.putClaim ∅ ⟨"mail", none⟩
      roles := (∅ : KeySet String).add "user"
      provisioners := ConnectorMap.ofList [⟨"scim", true, ∅⟩] }
  properties := PropertyMap.put ∅ "region" (.ofJson (.string "eu"))
  variant := .federated {}

theorem loadProvider_passedOver : passedOver.loadProvider 1 = .ok (some seenOfPassedOver) := by
  decide +kernel

/-- The provider accounts for all rows that can be set, and the rows say that some cannot. -/
theorem rows_reported_passedOver :
    passedOver.Conforms ∧ passedOver.Typed ∧
      passedOver.loadProvider 1 = .ok (some seenOfPassedOver) ∧
      seenOfPassedOver.AccountsFor ShowsSettable (passedOver.rowsOf 1) ∧
      (seenOfPassedOver.AccountsFor Shows (passedOver.rowsOf 1) ↔
        (passedOver.rowsOf 1).Settable) := by
  obtain ⟨-, hloaded, -⟩ := rows_reported passedOver conforms_passedOver typed_passedOver 1
  exact ⟨conforms_passedOver, typed_passedOver, loadProvider_passedOver,
    hloaded _ loadProvider_passedOver⟩

/-- **Rows disappear.** The rows are as the schema demands and the provider loads, yet neither the
row of the blank key nor that of the `null` is seen in it. -/
theorem rows_hidden :
    passedOver.Conforms ∧ passedOver.Typed ∧
      passedOver.loadProvider 1 = .ok (some seenOfPassedOver) ∧
      passedOver.properties.find? (1, " ") = some "true" ∧
      seenOfPassedOver.properties.find? " " = none ∧
      passedOver.properties.find? (1, "tier") = some "null" ∧
      seenOfPassedOver.properties.find? "tier" = none ∧
      ¬seenOfPassedOver.AccountsFor Shows (passedOver.rowsOf 1) := by
  have htier : seenOfPassedOver.properties.find? "tier" = none := by decide +kernel
  refine ⟨conforms_passedOver, typed_passedOver, loadProvider_passedOver, by decide +kernel,
    by decide +kernel, by decide +kernel, htier, fun haccounts => ?_⟩
  obtain ⟨v, -, hfind⟩ := haccounts.properties "tier" "null" (by decide +kernel)
  rw [htier] at hfind
  cases hfind

end Tables

end FederationRegistry
