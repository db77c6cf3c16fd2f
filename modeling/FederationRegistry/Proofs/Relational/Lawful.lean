import FederationRegistry.Proofs.Relational.Blame
import FederationRegistry.Proofs.Relational.Untrusted

/-!
# Lawful rows

Rows are *lawful* (`ProviderRows.Lawful`) when each row by itself keeps the rules of the model:
names, keys and thumbprints are not blank, identifiers are in range, and every text of a property
stands for a value. A provider loads exactly when its rows are lawful and its number is positive
(`Tables.exists_loadProvider_iff`).

Every loader has its own such condition (`exists_loadConnectors_iff` and its like), and the
conditions add up because no loader looks at the rows of another.
-/

namespace FederationRegistry

/-! ## Lawful rows -/

/-- The row of a provider keeps the rules of the model. -/
structure ProviderRow.Lawful (row : ProviderRow) : Prop where
  name : Text.isBlank row.name = false
  dialect : ∀ i, row.dialectId = .integer i → 0 ≤ i ∧ i ≤ maxReferenceId
  resident : row.name = residentName → row.homeRealm = none ∧ row.isHub = false
  homeRealm : ∀ realm, row.homeRealm = some realm → Text.isBlank realm = false

/-- A connector has a name, and its properties have values. -/
structure ConnectorRecord.Lawful (r : ConnectorRecord) : Prop where
  name : Text.isBlank r.1.name = false
  properties : ∀ text ∈ r.2.values, PropertyValue.Decodes text

/-- Every row of a provider keeps the rules of the model. -/
structure ProviderRows.Lawful (r : ProviderRows) : Prop where
  row : ∀ row, r.row = some row → row.Lawful
  certificates : ∀ certAlias thumbprint, r.certificates.find? certAlias = some thumbprint →
    Text.isBlank certAlias = false ∧ Text.isBlank thumbprint = false
  roleMappings : ∀ role external, r.roleMappings.find? (.integer role) = some external →
    0 ≤ role ∧ role ≤ maxReferenceId ∧ Text.isBlank external = false
  requestedClaims : ∀ claim ∈ r.requestedClaims.keys, Text.isBlank claim = false
  authenticators : ∀ record ∈ r.authenticators.values, ConnectorRecord.Lawful record
  provisioningClaims : ∀ uri ∈ r.provisioningClaims.keys, Text.isBlank uri = false
  provisioningRoles : ∀ role ∈ r.provisioningRoles.keys, Text.isBlank role = false
  jitProviders : ∀ name ∈ r.jitProviders.keys, Text.isBlank name = false
  provisioners : ∀ record ∈ r.provisioners.values, ConnectorRecord.Lawful record
  properties : ∀ text ∈ r.properties.values, PropertyValue.Decodes text

namespace Tables

open PropertyValue (Decodes)

variable {t : Tables} {number : Int} {kind : ConnectorKind}

/-! ## Properties -/

theorem exists_decodeProperties_iff {texts : Dict String String} :
    (∃ m, decodeProperties texts = .ok m) ↔ ∀ text ∈ texts.values, Decodes text := by
  constructor
  · rintro ⟨m, hm⟩ text htext
    exact decodes_of_decodeProperties hm htext
  · intro h
    refine Dict.exists_traverse_iff.mpr fun key text htext => ?_
    obtain ⟨v, hv⟩ := h text (Dict.mem_values_iff.mpr ⟨key, htext⟩)
    exact ⟨v, (mapError_eq_ok_iff _).mpr hv⟩

/-! ## Role mappings -/

theorem natural_eq_ok_iff {i : Int} {n : Nat} : natural i = .ok n ↔ (n : Int) = i := by
  unfold natural
  split
  · simp only [reduceCtorEq, false_iff]
    omega
  · simp only [Except.ok.injEq]
    omega

theorem integerIn_eq_ok_iff {index : Nat} {column : String} {c : Cell} {i : Int} :
    integerIn index column c = .ok i ↔ c = .integer i := by
  cases c <;> simp [integerIn]

/-- Role mappings that were decoded, before they are collected by role. -/
theorem decodeRoles_eq_ok_iff {rows : Dict Cell String} {m : Dict Nat String} :
    decodeRoles rows = .ok m ↔
      ∃ checked, (rows.traverse fun role external => do
        let n ← natural (← integerIn 0 "local_role_id" role)
        return (n, external)) = .ok checked ∧ Dict.ofList checked.values = m := by
  rw [decodeRoles, except_bind_eq_ok_iff]
  exact exists_congr fun _ => and_congr_right fun _ => ⟨Except.ok.inj, congrArg Except.ok⟩

theorem decodeRole_eq_ok_iff {role : Cell} {external : String} {e : Nat × String} :
    (do let n ← natural (← integerIn 0 "local_role_id" role)
        return (n, external) : Except StoreError (Nat × String)) = .ok e ↔
      role = .integer e.1 ∧ external = e.2 := by
  simp only [except_bind_eq_ok_iff, integerIn_eq_ok_iff, natural_eq_ok_iff]
  constructor
  · rintro ⟨-, rfl, n, rfl, ⟨⟩⟩
    exact ⟨rfl, rfl⟩
  · rintro ⟨rfl, rfl⟩
    exact ⟨_, rfl, _, rfl, rfl⟩

theorem exists_decodeRoles_iff {rows : Dict Cell String} :
    (∃ m, decodeRoles rows = .ok m) ↔ ∀ role ∈ rows.keys, ∃ n : Nat, role = .integer n := by
  simp only [decodeRoles_eq_ok_iff]
  constructor
  · rintro ⟨-, checked, hchecked, -⟩ role hrole
    obtain ⟨external, hfind⟩ := Dict.mem_keys_iff.mp hrole
    obtain ⟨e, he, -⟩ := Dict.find?_of_traverse hchecked hfind
    exact ⟨e.1, (decodeRole_eq_ok_iff.mp he).1⟩
  · intro h
    obtain ⟨checked, hchecked⟩ := Dict.exists_traverse_iff.mpr fun role external hrole => by
      obtain ⟨n, hn⟩ := h role (Dict.mem_keys_iff.mpr ⟨external, hrole⟩)
      exact ⟨(n, external), decodeRole_eq_ok_iff.mpr ⟨hn, rfl⟩⟩
    exact ⟨_, checked, hchecked, rfl⟩

/-- Decoded role mappings are those of the rows. -/
theorem find?_of_decodeRoles {rows : Dict Cell String} {m : Dict Nat String}
    (h : decodeRoles rows = .ok m) {n : Nat} {external : String} :
    m.find? n = some external ↔ rows.find? (.integer n) = some external := by
  obtain ⟨checked, hchecked, rfl⟩ := decodeRoles_eq_ok_iff.mp h
  have hentry {role : Cell} {e : Nat × String} (he : (role, e) ∈ checked.entries) :
      rows.find? role = some e.2 ∧ role = .integer e.1 := by
    obtain ⟨external, hrow, hstep⟩ := Dict.exists_of_traverse hchecked (Dict.mem_entries_iff.mp he)
    obtain ⟨hrole, rfl⟩ := decodeRole_eq_ok_iff.mp hstep
    exact ⟨hrow, hrole⟩
  -- integers stand in the order of the numbers they are decoded as
  have hincreasing : Increasing checked.values :=
    List.pairwise_map.mpr (checked.increasing.imp_of_mem fun ha hb hab => by
      rw [(hentry ha).2, (hentry hb).2, Cell.before_integer] at hab
      simpa [Key.before] using hab)
  have hcollected : Dict.ofList checked.values = ⟨checked.values, hincreasing⟩ :=
    Dict.ofList_entries ⟨checked.values, hincreasing⟩
  rw [hcollected, ← Dict.mem_entries_iff]
  constructor
  · intro hmem
    obtain ⟨⟨role, e⟩, he, rfl⟩ := List.mem_map.mp hmem
    obtain ⟨hrow, rfl⟩ := hentry he
    exact hrow
  · intro hrow
    obtain ⟨e, hstep, hfind⟩ := Dict.find?_of_traverse hchecked hrow
    obtain ⟨hrole, rfl⟩ := decodeRole_eq_ok_iff.mp hstep
    obtain rfl : n = e.1 := Int.ofNat_inj.mp (Cell.integer.inj hrole)
    exact Dict.mem_values_iff.mpr ⟨_, hfind⟩

/-! ## Connectors -/

theorem exists_loadConnectors_iff :
    (∃ m, t.loadConnectors kind number = .ok m) ↔
      ∀ r ∈ ((t.connectors kind).rowsOf number).values, ConnectorRecord.Lawful r := by
  simp only [loadConnectors_eq_ok_iff]
  constructor
  · rintro ⟨-, loaded, hloaded, -⟩ r hr
    obtain ⟨i, hi⟩ := Dict.mem_values_iff.mp hr
    obtain ⟨c, hc, -⟩ := Dict.find?_of_traverse hloaded hi
    obtain ⟨m, hm, hname, -⟩ := loadRecord_eq_ok_iff.mp hc
    exact ⟨hname, exists_decodeProperties_iff.mp ⟨m, hm⟩⟩
  · intro h
    obtain ⟨loaded, hloaded⟩ := Dict.exists_traverse_iff (f := fun _ r => loadRecord kind r)
        |>.mpr fun i r hi => by
      have hr := h r (Dict.mem_values_iff.mpr ⟨i, hi⟩)
      obtain ⟨m, hm⟩ := exists_decodeProperties_iff.mpr hr.properties
      exact ⟨_, loadRecord_eq_ok_iff.mpr ⟨m, hm, hr.name, rfl⟩⟩
    exact ⟨_, loaded, hloaded, rfl⟩

/-! ## Sections -/

theorem exists_loadProvisioning_iff :
    (∃ p, t.loadProvisioning number = .ok p) ↔
      (∀ uri ∈ (t.provisioningClaims.slice number).keys, Text.isBlank uri = false) ∧
      (∀ r ∈ (t.provisioners.rowsOf number).values, ConnectorRecord.Lawful r) ∧
      (∀ name ∈ (t.jitProviders.slice number).keys, Text.isBlank name = false) ∧
      ∀ role ∈ (t.provisioningRoles.slice number).keys, Text.isBlank role = false := by
  constructor
  · rintro ⟨p, hp⟩
    obtain ⟨claims, provisioners, hclaims, hprovisioners, hvalid, rfl⟩ :=
      loadProvisioning_eq_ok_iff.mp hp
    obtain ⟨hjit, hroles, -⟩ := Provisioning.validate_ok_iff.mp hvalid
    refine ⟨fun uri huri => ?_, exists_loadConnectors_iff.mp ⟨_, hprovisioners⟩, hjit, hroles⟩
    obtain ⟨defaultValue, hrow⟩ := Dict.mem_keys_iff.mp huri
    obtain ⟨c, hc, -⟩ := Dict.find?_of_traverse hclaims hrow
    exact (ProvisioningClaim.check_eq_ok_iff.mp (uncorrupted_eq_ok_iff.mp hc)).1
  · rintro ⟨huris, hrecords, hjit, hroles⟩
    obtain ⟨provisioners, hprovisioners⟩ : ∃ m, t.loadConnectors .provisioner number = .ok m :=
      exists_loadConnectors_iff.mpr hrecords
    obtain ⟨claims, hclaims⟩ : ∃ claims, ((t.provisioningClaims.slice number).traverse
        fun uri defaultValue => uncorrupted (ProvisioningClaim.check ⟨uri, defaultValue⟩)) =
          .ok claims := by
      refine Dict.exists_traverse_iff.mpr fun uri defaultValue hrow => ⟨⟨uri, defaultValue⟩, ?_⟩
      refine uncorrupted_eq_ok_iff.mpr (ProvisioningClaim.check_eq_ok_iff.mpr ⟨?_, rfl⟩)
      exact huris uri (Dict.mem_keys_iff.mpr ⟨defaultValue, hrow⟩)
    -- connectors are filed under their names as they are loaded
    have hplaces : ∀ e ∈ provisioners.entries, e.1 = e.2.name := fun e he =>
      (formed_of_loadConnectors hprovisioners e.1 e.2 (Dict.mem_entries_iff.mp he)).1
    exact ⟨_, loadProvisioning_eq_ok_iff.mpr ⟨claims, provisioners, hclaims, hprovisioners,
      Provisioning.validate_ok_iff.mpr ⟨hjit, hroles, hplaces⟩, rfl⟩⟩

/-- An authentication section that loads is that of its rows, and absent only without rows. -/
theorem section_of_loadAuthentication {a : Option Authentication}
    (h : t.loadAuthentication number = .ok a) :
    ∃ m, t.loadConnectors .authenticator number = .ok m ∧
      a.getD {} = ⟨t.requestedClaims.slice number, m⟩ ∧ (a.getD {}).validate = .ok () := by
  unfold loadAuthentication at h
  dsimp only at h
  split at h
  · rename_i hempty
    cases h
    obtain ⟨hclaims, howned⟩ := Bool.and_eq_true_iff.mp hempty
    refine ⟨∅, ?_, ?_, rfl⟩
    · rw [loadConnectors, Dict.isEmpty_iff.mp howned]
      rfl
    · rw [Dict.isEmpty_iff.mp hclaims]
      rfl
  · simp only [except_bind_eq_ok_iff, uncorrupted_eq_ok_iff, Authentication.check_eq_ok_iff] at h
    obtain ⟨m, hm, s, ⟨hvalid, rfl⟩, ⟨⟩⟩ := h
    exact ⟨m, hm, rfl, hvalid⟩

theorem exists_loadAuthentication_iff :
    (∃ a, t.loadAuthentication number = .ok a) ↔
      (∀ claim ∈ (t.requestedClaims.slice number).keys, Text.isBlank claim = false) ∧
      ∀ r ∈ (t.authenticators.rowsOf number).values, ConnectorRecord.Lawful r := by
  constructor
  · rintro ⟨a, ha⟩
    obtain ⟨m, hm, hsection, hvalid⟩ := section_of_loadAuthentication ha
    rw [hsection] at hvalid
    exact ⟨(Authentication.validate_ok_iff.mp hvalid).1, exists_loadConnectors_iff.mp ⟨m, hm⟩⟩
  · rintro ⟨hclaims, hrecords⟩
    obtain ⟨m, hm⟩ : ∃ m, t.loadConnectors .authenticator number = .ok m :=
      exists_loadConnectors_iff.mpr hrecords
    -- the names are not blank because each connector was checked on its own
    have hvalid : (Authentication.mk (t.requestedClaims.slice number) m).validate = .ok () := by
      refine Authentication.validate_ok_iff.mpr ⟨hclaims, fun e he => ?_⟩
      obtain ⟨hname, hblank, -⟩ :=
        formed_of_loadConnectors hm e.1 e.2 (Dict.mem_entries_iff.mp he)
      exact ⟨hname ▸ hblank, hname⟩
    unfold loadAuthentication
    dsimp only
    split
    · exact ⟨none, rfl⟩
    · refine ⟨some ⟨t.requestedClaims.slice number, m⟩,
        except_bind_eq_ok_iff.mpr ⟨m, hm, except_bind_eq_ok_iff.mpr ⟨_, ?_, rfl⟩⟩⟩
      exact uncorrupted_eq_ok_iff.mpr (Authentication.check_eq_ok_iff.mpr ⟨hvalid, rfl⟩)

/-- What a dialect that loads was loaded from. -/
theorem exists_loadDialect_iff {c : Cell} {isLocal : Bool} {dialect : Option ClaimDialect} :
    (∃ i, integerIn? 5 "claim_dialect_id" c = .ok i ∧ loadDialect i isLocal = .ok dialect) ↔
      (c = .null ∧ dialect = none) ∨
        ∃ n : Nat, c = .integer n ∧ dialect = some ⟨n, isLocal⟩ := by
  cases c with
  | null => simp [integerIn?, loadDialect, eq_comm]
  | integer i =>
    simp only [integerIn?, integerIn, loadDialect, except_map_eq_ok_iff, natural_eq_ok_iff,
      Except.ok.injEq, exists_eq_left', reduceCtorEq, false_and, false_or, Cell.integer.injEq]
    exact exists_congr fun n => and_congr eq_comm eq_comm
  | real x => simp [integerIn?, integerIn, Except.map]
  | text s => simp [integerIn?, integerIn, Except.map]

/-! ## Providers -/

/-- What a draft that loads was loaded from, part by part. -/
theorem loadDraft_eq_ok_iff {row : ProviderRow} {d : IdentityProvider.Draft} :
    t.loadDraft number row = .ok d ↔
      ∃ claimDialect roleMappings provisioning properties authentication,
        (∃ i, integerIn? 5 "claim_dialect_id" row.dialectId = .ok i ∧
          loadDialect i row.dialectIsLocal = .ok claimDialect) ∧
        decodeRoles (t.roleMappings.slice number) = .ok roleMappings ∧
        t.loadProvisioning number = .ok provisioning ∧
        decodeProperties (t.properties.slice number) = .ok properties ∧
        t.loadAuthentication number = .ok authentication ∧
        d = { kind := .ofName row.name
              enabled := row.enabled
              metadata :=
                { name := row.name
                  displayLabel := row.displayLabel
                  description := row.description
                  certificates := t.certificates.slice number
                  claimDialect
                  roleMappings }
              authentication
              provisioning
              properties := (∅ : PropertyMap).replace properties
              homeRealm := row.homeRealm
              isHub := row.isHub } := by
  simp only [loadDraft, except_bind_eq_ok_iff]
  constructor
  · rintro ⟨i, hi, roles, hroles, provisioning, hprovisioning, properties, hproperties, dialect,
      hdialect, authentication, hauthentication, ⟨⟩⟩
    exact ⟨dialect, roles, provisioning, properties, authentication, ⟨i, hi, hdialect⟩, hroles,
      hprovisioning, hproperties, hauthentication, rfl⟩
  · rintro ⟨dialect, roles, provisioning, properties, authentication, ⟨i, hi, hdialect⟩, hroles,
      hprovisioning, hproperties, hauthentication, rfl⟩
    exact ⟨i, hi, roles, hroles, provisioning, hprovisioning, properties, hproperties, dialect,
      hdialect, authentication, hauthentication, rfl⟩

end Tables

namespace IdentityProvider.Draft

variable {d : Draft}

theorem exists_buildVariant_iff :
    (∃ v, d.buildVariant = .ok v) ↔
      (d.kind = .resident → d.homeRealm = none ∧ d.isHub = false) := by
  obtain ⟨kind, enabled, metadata, authentication, provisioning, properties, homeRealm, isHub⟩ := d
  cases kind with
  | resident => cases homeRealm <;> cases isHub <;> simp [buildVariant]
  | federated => simp [buildVariant]

/-- Which drafts can be built. -/
theorem exists_build_iff :
    (∃ p, d.build = .ok p) ↔
      d.metadata.validate = .ok () ∧ ProviderKind.ofName d.metadata.name = d.kind ∧
      (∀ a, d.authentication = some a → a.validate = .ok ()) ∧
      d.provisioning.validate = .ok () ∧
      (d.kind = .resident → d.homeRealm = none ∧ d.isHub = false) ∧
      ∀ realm, d.homeRealm = some realm → Text.isBlank realm = false := by
  have hrealm {v : ProviderVariant} : v.validate = .ok () ↔
      ∀ realm, v.homeRealm = some realm → Text.isBlank realm = false := by
    unfold ProviderVariant.validate
    cases v.homeRealm <;> simp [requireText_ok_iff]
  rw [← exists_buildVariant_iff]
  simp only [build_eq_ok_iff]
  constructor
  · rintro ⟨p, v, hmetadata, hauthentication, hprovisioning, hv, rfl, hvalid⟩
    obtain ⟨-, hname, -, -, hvariant⟩ := validate_ok_iff.mp hvalid
    obtain ⟨hkind, hhome, -⟩ := buildVariant_eq_ok_iff.mp hv
    exact ⟨hmetadata, hname.trans hkind, hauthentication, hprovisioning, ⟨v, hv⟩,
      hhome ▸ hrealm.mp hvariant⟩
  · rintro ⟨hmetadata, hname, hauthentication, hprovisioning, ⟨v, hv⟩, hhome⟩
    -- the realm of the variant is the one of the draft, so one rule serves both
    obtain ⟨hkind, hsame, -⟩ := buildVariant_eq_ok_iff.mp hv
    refine ⟨_, v, hmetadata, hauthentication, hprovisioning, hv, rfl, validate_ok_iff.mpr
      ⟨hmetadata, hname.trans hkind.symm, fun a ha => ?_, hprovisioning, hrealm.mpr ?_⟩⟩
    · obtain ⟨s, hs, hnonempty⟩ := Option.bind_eq_some_iff.mp ha
      obtain ⟨rfl, -⟩ := Authentication.nonempty?_eq_some hnonempty
      exact hauthentication s hs
    · exact hsame ▸ hhome

end IdentityProvider.Draft

namespace Tables

variable {t : Tables} {number : Int}

theorem exists_ofRowNumber_iff {e : Entity} (h : number ≤ maxColumnInteger) :
    (∃ id : Id e, Id.ofRowNumber number = .ok id) ↔ 0 < number := by
  simp only [Id.ofRowNumber_eq_ok_iff]
  constructor
  · rintro ⟨id, rfl⟩
    exact Int.natCast_pos.mpr id.inRange.1
  · intro hpositive
    have hlimit : maxColumnInteger < (Word.unsignedLimit : Int) := by decide
    exact ⟨⟨number.toNat, by omega, by omega⟩, Int.toNat_of_nonneg (by omega)⟩

/-- The rows of a provider that loads are lawful. -/
theorem lawful_of_loadProvider {p : IdentityProvider}
    (h : t.loadProvider number = .ok (some p)) : (t.rowsOf number).Lawful := by
  obtain ⟨row, d, q, id, hrow, hd, hq, -, rfl⟩ := loadProvider_eq_some_iff.mp h
  obtain ⟨dialect, roles, provisioning, properties, authentication, hdialect, hroles,
    hprovisioning, hproperties, hauthentication, rfl⟩ := loadDraft_eq_ok_iff.mp hd
  obtain ⟨hmetadata, -, -, -, hresident, hrealm⟩ :=
    IdentityProvider.Draft.exists_build_iff.mp ⟨q, hq⟩
  obtain ⟨hname, hcertificates, hid, hmappings⟩ := Metadata.validate_ok_iff.mp hmetadata
  obtain ⟨huris, hprovisioners, hjit, hprovisioningRoles⟩ :=
    exists_loadProvisioning_iff.mp ⟨_, hprovisioning⟩
  obtain ⟨hclaims, hauthenticators⟩ := exists_loadAuthentication_iff.mp ⟨_, hauthentication⟩
  -- each column is read by one step of the load, and its rule is what that step or the build checks
  exact
    { row := fun row' hrow' => by
        obtain rfl : row = row' := Option.some.inj (hrow.symm.trans hrow')
        refine ⟨hname, fun i hi => ?_, fun hlocal => hresident ?_, hrealm⟩
        · rcases exists_loadDialect_iff.mp hdialect with ⟨hnull, -⟩ | ⟨n, hn, hsome⟩
          · rw [hi] at hnull
            cases hnull
          · obtain rfl := Cell.integer.inj (hn.symm.trans hi)
            exact ⟨Int.natCast_nonneg n, Int.ofNat_le.mpr (hid _ hsome)⟩
        · exact ProviderKind.ofName_eq_resident_iff.mpr hlocal
      certificates := fun certAlias thumbprint hfind =>
        hcertificates _ (Dict.mem_entries_iff.mpr hfind)
      roleMappings := fun role external hrole => by
        obtain ⟨n, hn⟩ := exists_decodeRoles_iff.mp ⟨_, hroles⟩ (.integer role)
          (Dict.mem_keys_iff.mpr ⟨external, hrole⟩)
        obtain rfl := Cell.integer.inj hn
        obtain ⟨hbound, hblank⟩ :=
          hmappings _ (Dict.mem_entries_iff.mpr ((find?_of_decodeRoles hroles).mpr hrole))
        exact ⟨Int.natCast_nonneg n, Int.ofNat_le.mpr hbound, hblank⟩
      requestedClaims := hclaims
      authenticators := hauthenticators
      provisioningClaims := huris
      provisioningRoles := hprovisioningRoles
      jitProviders := hjit
      provisioners := hprovisioners
      properties := exists_decodeProperties_iff.mp ⟨_, hproperties⟩ }

/-- Lawful rows of the declared types load as a draft. -/
theorem exists_loadDraft_of_lawful (htyped : t.Typed) {row : ProviderRow}
    (hrow : t.providers.rows.find? number = some row) (h : (t.rowsOf number).Lawful) :
    ∃ d, t.loadDraft number row = .ok d := by
  -- the types of the cells make them integers, and the rules keep these in range
  obtain ⟨dialect, hdialect⟩ : ∃ dialect, ∃ i,
      integerIn? 5 "claim_dialect_id" row.dialectId = .ok i ∧
        loadDialect i row.dialectIsLocal = .ok dialect := by
    simp only [exists_loadDialect_iff]
    rcases htyped.dialect hrow with hnull | ⟨i, hi⟩
    · exact ⟨none, .inl ⟨hnull, rfl⟩⟩
    · obtain ⟨n, rfl⟩ := Int.eq_ofNat_of_zero_le ((h.row row hrow).dialect i hi).1
      exact ⟨_, .inr ⟨n, hi, rfl⟩⟩
  obtain ⟨roles, hroles⟩ : ∃ m, decodeRoles (t.roleMappings.slice number) = .ok m := by
    refine exists_decodeRoles_iff.mpr fun role hrole => ?_
    obtain ⟨i, rfl⟩ := htyped.role hrole
    obtain ⟨external, hfind⟩ := Dict.mem_keys_iff.mp hrole
    obtain ⟨n, rfl⟩ := Int.eq_ofNat_of_zero_le (h.roleMappings i external hfind).1
    exact ⟨n, rfl⟩
  obtain ⟨provisioning, hprovisioning⟩ := exists_loadProvisioning_iff.mpr
    ⟨h.provisioningClaims, h.provisioners, h.jitProviders, h.provisioningRoles⟩
  obtain ⟨properties, hproperties⟩ := exists_decodeProperties_iff.mpr h.properties
  obtain ⟨authentication, hauthentication⟩ :=
    exists_loadAuthentication_iff.mpr ⟨h.requestedClaims, h.authenticators⟩
  exact ⟨_, loadDraft_eq_ok_iff.mpr ⟨dialect, roles, provisioning, properties, authentication,
    hdialect, hroles, hprovisioning, hproperties, hauthentication, rfl⟩⟩

/-- The draft behind lawful rows can be built. -/
theorem exists_build_of_lawful {row : ProviderRow}
    (hrow : t.providers.rows.find? number = some row) (h : (t.rowsOf number).Lawful)
    {d : IdentityProvider.Draft} (hd : t.loadDraft number row = .ok d) :
    ∃ q, d.build = .ok q := by
  have hlawful := h.row row hrow
  obtain ⟨dialect, roles, provisioning, properties, authentication, hdialect, hroles,
    hprovisioning, -, hauthentication, rfl⟩ := loadDraft_eq_ok_iff.mp hd
  refine IdentityProvider.Draft.exists_build_iff.mpr ⟨Metadata.validate_ok_iff.mpr
    ⟨hlawful.name, fun e he => h.certificates e.1 e.2 (Dict.mem_entries_iff.mp he), ?_, ?_⟩, rfl,
    ?_, ?_, ?_, hlawful.homeRealm⟩
  · -- no dialect is no number to check
    rintro c hc
    rcases exists_loadDialect_iff.mp hdialect with ⟨-, rfl⟩ | ⟨n, hn, rfl⟩
    · cases hc
    · cases hc
      exact Int.ofNat_le.mp (hlawful.dialect n hn).2
  · intro e he
    obtain ⟨-, hbound, hblank⟩ := h.roleMappings e.1 e.2
      ((find?_of_decodeRoles hroles).mp (Dict.mem_entries_iff.mp he))
    exact ⟨Int.ofNat_le.mp hbound, hblank⟩
  · rintro a rfl
    obtain ⟨-, -, -, hvalid⟩ := section_of_loadAuthentication hauthentication
    exact hvalid
  · obtain ⟨-, -, -, -, hvalid, -⟩ := loadProvisioning_eq_ok_iff.mp hprovisioning
    exact hvalid
  · exact fun hkind => hlawful.resident (ProviderKind.ofName_eq_resident_iff.mp hkind)

/-- **Which rows load**: lawful ones at a positive number. -/
theorem exists_loadProvider_iff (ht : t.Conforms) (htyped : t.Typed)
    {row : ProviderRow} (hrow : t.providers.rows.find? number = some row) :
    (∃ p, t.loadProvider number = .ok (some p)) ↔ 0 < number ∧ (t.rowsOf number).Lawful := by
  have hbound := ht.numbers number (Dict.mem_keys_iff.mpr ⟨row, hrow⟩)
  constructor
  · rintro ⟨p, hp⟩
    obtain ⟨row', d, q, id, -, -, -, hid, -⟩ := loadProvider_eq_some_iff.mp hp
    exact ⟨(exists_ofRowNumber_iff hbound).mp ⟨id, hid⟩, lawful_of_loadProvider hp⟩
  · rintro ⟨hnumber, h⟩
    obtain ⟨id, hid⟩ := (exists_ofRowNumber_iff (e := .identityProvider) hbound).mpr hnumber
    obtain ⟨d, hd⟩ := exists_loadDraft_of_lawful htyped hrow h
    obtain ⟨q, hq⟩ := exists_build_of_lawful hrow h hd
    exact ⟨_, loadProvider_eq_some_iff.mpr ⟨row, d, q, id, hrow, hd, hq, hid, rfl⟩⟩

end Tables

end FederationRegistry
