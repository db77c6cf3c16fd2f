import FederationRegistry.Proofs.PropertyText
import FederationRegistry.Proofs.Relational.Effect
import FederationRegistry.Store.Relational.Load

/-!
# Rows are loaded back

A section is loaded from the rows of its provider alone, and what is loaded from the rows that a
section was written as is that section, provided that every property value in it is readable.

Connectors come back in the order of their numbers, which is not that of their names; since every
connector stands under its own name the map is the same.

Main statement: `Tables.loadProvider_of_hold`.
-/

namespace FederationRegistry

open PropertyValue (Readable)

namespace Tables

variable {t : Tables} {number : Int}

/-! ## Parts -/

theorem uncorrupted_eq_ok_iff {α : Type} {v : Checked α} {a : α} :
    uncorrupted v = .ok a ↔ v = .ok a := by
  cases v <;> simp [uncorrupted]

/-- A chain comes to a result in one way when its last step does. -/
theorem bind_eq_ok_iff_of_unique {ε α β : Type} {x : Except ε α} {f : α → Except ε β} {a : α}
    {b : β} (hf : ∀ a', f a' = .ok b ↔ a' = a) : x.bind f = .ok b ↔ x = .ok a := by
  cases x with
  | error err => simp [Except.bind]
  | ok a' => exact (hf a').trans ⟨congrArg Except.ok, Except.ok.inj⟩

theorem find?_replace_empty (m : PropertyMap) (key : String) :
    ((∅ : PropertyMap).replace m).find? key = (m.find? key).filter (PropertyMap.settable key) := by
  unfold PropertyMap.replace
  split
  · rename_i hempty
    rw [Dict.isEmpty_iff.mp hempty]
    rfl
  · rw [PropertyMap.find?_absorb, Dict.find?_empty, Option.or_none]

theorem replace_of_kept {m : PropertyMap} (h : m.Kept) : (∅ : PropertyMap).replace m = m :=
  Dict.ext_find? fun key => by
    rw [find?_replace_empty]
    cases hv : m.find? key with
    | none => rfl
    | some v => simp [PropertyMap.kept_iff.mp h key v hv]

/-- Readable values are decoded from their texts. -/
theorem decodeProperties_texts {m : PropertyMap} (h : m.HasValues Readable) :
    decodeProperties m.texts = .ok m := by
  rw [decodeProperties, PropertyMap.texts, Dict.traverse_mapValues]
  have hall : ∀ key v, m.find? key = some v → decodeProperty key v.text = .ok v :=
    fun key v hv => by rw [decodeProperty, h key v hv]; rfl
  rw [Dict.traverse_eq_ok (g := fun _ v => v) hall]
  exact congrArg Except.ok (Dict.ext_find? fun key => by rw [Dict.find?_mapValues]; simp)

/-- Values that come back from their texts are readable. -/
theorem readable_of_decodeProperties {m decoded : PropertyMap}
    (h : decodeProperties m.texts = .ok decoded) (hsame : (∅ : PropertyMap).replace decoded = m) :
    m.HasValues Readable := by
  intro key v hv
  obtain ⟨w, hw, hfind⟩ := Dict.find?_of_traverse h (k := key) (v := v.text)
    (by rw [PropertyMap.texts, Dict.find?_mapValues, hv]; rfl)
  have hback : ((∅ : PropertyMap).replace decoded).find? key = some v := by rw [hsame, hv]
  rw [find?_replace_empty, hfind] at hback
  obtain rfl : w = v := Option.some.inj (Option.filter_eq_some_iff.mp hback).1
  exact (mapError_eq_ok_iff _).mp hw

theorem natural_natCast (n : Nat) : natural (n : Int) = .ok n := by
  rw [natural, if_neg (by omega), Int.toNat_natCast]

/-- Role mappings are decoded from their rows. -/
theorem decodeRoles_roleRows (m : Metadata) : decodeRoles m.roleRows = .ok m.roleMappings := by
  obtain ⟨out, hout, hvalues⟩ : ∃ out, (m.roleRows.traverse fun role external => do
      let n ← natural (← integerIn 0 "local_role_id" role)
      return (n, external)) = .ok out ∧ out.values = m.roleMappings.entries := by
    refine Dict.values_traverse ?_
    rw [Metadata.roleRows, List.map_map]
    refine List.map_congr_left fun e _ => ?_
    simp only [Function.comp, integerIn, bind, Except.bind, natural_natCast]
    rfl
  have hdecode : decodeRoles m.roleRows = .ok (Dict.ofList out.values) :=
    congrArg (Except.map fun d : Dict Cell (Nat × String) => Dict.ofList d.values) hout
  rw [hdecode, hvalues, Dict.ofList_entries]

theorem loadDialect_dialectCells (m : Metadata) :
    ∃ i, integerIn? 5 "claim_dialect_id" m.dialectCells.1 = .ok i ∧
      loadDialect i m.dialectCells.2 = .ok m.claimDialect := by
  unfold Metadata.dialectCells
  cases m.claimDialect with
  | none => exact ⟨none, rfl, rfl⟩
  | some d =>
    refine ⟨some d.id, rfl, ?_⟩
    simp only [loadDialect, natural_natCast]
    rfl

/-! ## Connectors -/

/-- The connector behind its row and the texts of its properties. -/
def loadRecord (kind : ConnectorKind) (r : ConnectorRecord) : Except StoreError Connector := do
  let properties ← decodeProperties r.2
  uncorrupted
    (Connector.check kind
      { name := r.1.name
        enabled := r.1.enabled
        properties := (∅ : PropertyMap).replace properties })

theorem loadConnectors_eq (t : Tables) (kind : ConnectorKind) (owner : Int) :
    t.loadConnectors kind owner =
      (((t.connectors kind).rowsOf owner).traverse fun _ r => loadRecord kind r).map
        fun loaded => ConnectorMap.ofList loaded.values := by
  rw [ConnectorTables.rowsOf, Dict.traverse_mapValues]
  rfl

/-- A connector is loaded from its record exactly when its values are readable. -/
theorem loadRecord_record_iff (kind : ConnectorKind) {c : Connector} (owner : Int)
    (hname : Text.isBlank c.name = false) (hkept : c.properties.Kept) :
    loadRecord kind (c.record owner) = .ok c ↔ c.properties.HasValues Readable := by
  constructor
  · intro h
    cases hdecode : decodeProperties c.properties.texts with
    | error err =>
      simp only [loadRecord, Connector.record, hdecode, bind, Except.bind] at h
      cases h
    | ok decoded =>
      simp only [loadRecord, Connector.record, hdecode, bind, Except.bind, uncorrupted_eq_ok_iff,
        Connector.check_eq_ok_iff] at h
      exact readable_of_decodeProperties hdecode (congrArg Connector.properties h.2)
  · intro hvalues
    simp only [loadRecord, Connector.record, decodeProperties_texts hvalues, bind, Except.bind,
      replace_of_kept hkept, uncorrupted_eq_ok_iff, Connector.check_eq_ok_iff]
    exact ⟨hname, trivial⟩

theorem name_of_loadRecord {kind : ConnectorKind} {r : ConnectorRecord} {c : Connector}
    (h : loadRecord kind r = .ok c) : c.name = r.1.name := by
  cases hdecode : decodeProperties r.2 with
  | error err =>
    simp only [loadRecord, hdecode, bind, Except.bind] at h
    cases h
  | ok decoded =>
    simp only [loadRecord, hdecode, bind, Except.bind, uncorrupted_eq_ok_iff,
      Connector.check_eq_ok_iff] at h
    obtain ⟨-, rfl⟩ := h
    rfl

/-- Connectors that load have the names of their records. -/
theorem names_of_loadRecords {kind : ConnectorKind} {rs : List ConnectorRecord}
    {cs : List Connector} (h : rs.map (loadRecord kind) = cs.map Except.ok) :
    cs.map (·.name) = rs.map fun r => r.1.name := by
  induction rs generalizing cs with
  | nil =>
    obtain rfl : cs = [] := by simpa using h.symm
    rfl
  | cons r rs ih =>
    cases cs with
    | nil => cases h
    | cons c cs =>
      simp only [List.map_cons, List.cons.injEq] at h ⊢
      exact ⟨name_of_loadRecord h.1, ih h.2⟩

/-- The connectors of a provider are loaded from the records they were written as exactly when
their values are readable. -/
theorem loadConnectors_iff (kind : ConnectorKind) {m : ConnectorMap} (hm : m.Formed)
    (h : ((t.connectors kind).rowsOf number).values = m.values.map (Connector.record number)) :
    t.loadConnectors kind number = .ok m ↔ m.HasValues Readable := by
  have hmap (g : ConnectorRecord → Except StoreError Connector) :
      (((t.connectors kind).rowsOf number).entries.map fun e => g e.2) =
        m.values.map fun c => g (c.record number) := by
    have hvalues := congrArg (List.map g) h
    rw [Dict.values, List.map_map, List.map_map] at hvalues
    exact hvalues
  rw [loadConnectors_eq]
  constructor
  · intro hload
    obtain ⟨loaded, hloaded, hsame⟩ : ∃ loaded,
        (((t.connectors kind).rowsOf number).traverse fun _ r => loadRecord kind r) =
          .ok loaded ∧ ConnectorMap.ofList loaded.values = m := by
      cases htraverse : ((t.connectors kind).rowsOf number).traverse
          fun _ r => loadRecord kind r with
      | error err => rw [htraverse] at hload; cases hload
      | ok loaded => rw [htraverse] at hload; exact ⟨loaded, rfl, Except.ok.inj hload⟩
    have hrecords := Dict.map_of_traverse hloaded
    rw [hmap] at hrecords
    -- what was loaded has the names of `m` in the same order, so it is `m` connector by connector
    have hnames : loaded.values.map (·.name) = m.keys := by
      rw [names_of_loadRecords ((List.map_map ..).trans hrecords), List.map_map,
        ← ConnectorMap.names_values hm]
      rfl
    have hvalues : loaded.values = m.values := by
      rw [← hsame]
      refine (ConnectorMap.values_ofList (Dict.increasing_of_keys_eq m.increasing ?_)).symm
      rw [List.map_map]
      exact hnames
    rw [hvalues] at hrecords
    intro name c hc
    obtain ⟨-, hname, hkept⟩ := hm name c hc
    refine (loadRecord_record_iff kind number hname hkept).mp ?_
    exact List.map_eq_map_iff.mp hrecords c (Dict.mem_values_iff.mpr ⟨name, hc⟩)
  · intro hvalues
    have hrecords : (((t.connectors kind).rowsOf number).entries.map fun e =>
        loadRecord kind e.2) = m.values.map Except.ok := by
      rw [hmap]
      refine List.map_congr_left fun c hc => ?_
      obtain ⟨name, hfind⟩ := Dict.mem_values_iff.mp hc
      obtain ⟨-, hname, hkept⟩ := hm name c hfind
      exact (loadRecord_record_iff kind number hname hkept).mpr (hvalues name c hfind)
    obtain ⟨loaded, hloaded, hsame⟩ :=
      Dict.values_traverse (f := fun _ r => loadRecord kind r) hrecords
    rw [hloaded, Except.map, hsame, ConnectorMap.ofList_values hm]

/-- Connectors are loaded from their records, whatever numbers these have. -/
theorem loadConnectors_congr {t t' : Tables} {kind : ConnectorKind} {owner : Int}
    (h : ((t.connectors kind).rowsOf owner).values = ((t'.connectors kind).rowsOf owner).values) :
    t.loadConnectors kind owner = t'.loadConnectors kind owner := by
  have hvalues (t : Tables) : t.loadConnectors kind owner =
      (((t.connectors kind).rowsOf owner).values.mapM (loadRecord kind)).map
        ConnectorMap.ofList := by
    have hread := Dict.map_values_traverse (fun _ r => loadRecord kind r)
      ((t.connectors kind).rowsOf owner)
    rw [loadConnectors_eq, Dict.values, List.mapM_map]
    refine .trans ?_ (congrArg (Except.map ConnectorMap.ofList) hread)
    cases ((t.connectors kind).rowsOf owner).traverse fun _ r => loadRecord kind r <;> rfl
  rw [hvalues, hvalues, h]

/-! ## Sections -/

/-- A provisioning section is loaded from its rows exactly when its values are readable. -/
theorem loadProvisioning_iff {p : Provisioning} (hp : p.Formed) (hvalid : p.validate = .ok ())
    (h : (t.rowsOf number).HoldProvisioning number p) :
    t.loadProvisioning number = .ok p ↔ p.provisioners.HasValues Readable := by
  have hclaims : (t.provisioningClaims.slice number).traverse (fun uri defaultValue =>
      uncorrupted (ProvisioningClaim.check ⟨uri, defaultValue⟩)) = .ok p.claims := by
    rw [show t.provisioningClaims.slice number = p.defaults from h.provisioningClaims,
      Provisioning.defaults, Dict.traverse_mapValues,
      Dict.traverse_eq_ok (g := fun _ c => c) fun uri c hc => ?_]
    · exact congrArg Except.ok (Dict.ext_find? fun uri => by rw [Dict.find?_mapValues]; simp)
    · obtain ⟨rfl, huri⟩ := hp.claims uri c hc
      rw [ProvisioningClaim.check_eq_ok_iff.mpr ⟨huri, rfl⟩]
      rfl
  have hjit : t.jitProviders.slice number = p.jitProviders := h.jitProviders
  have hroles : t.provisioningRoles.slice number = p.roles := h.provisioningRoles
  rw [← loadConnectors_iff .provisioner hp.provisioners h.provisioners]
  simp only [loadProvisioning, hclaims, hjit, hroles]
  show ((t.loadConnectors .provisioner number).bind fun m =>
    uncorrupted (Provisioning.check { p with provisioners := m })) = .ok p ↔ _
  -- all but the connectors is there as it was, so the section loads iff they do
  refine bind_eq_ok_iff_of_unique fun m => ?_
  rw [uncorrupted_eq_ok_iff, Provisioning.check_eq_ok_iff]
  constructor
  · rintro ⟨-, hsame⟩
    exact congrArg (·.provisioners) hsame
  · rintro rfl
    exact ⟨hvalid, rfl⟩

/-- An authentication section is loaded from its rows exactly when its values are readable. -/
theorem loadAuthentication_iff {a : Option Authentication}
    (ha : ∀ s, a = some s → s.Formed ∧ s.isEmpty = false ∧ s.validate = .ok ())
    (h : (t.rowsOf number).HoldAuthentication number a) :
    t.loadAuthentication number = .ok a ↔
      ∀ s, a = some s → s.authenticators.HasValues Readable := by
  have hclaims : t.requestedClaims.slice number = (a.getD {}).requestedClaims :=
    h.requestedClaims
  -- the load skips the section iff it has neither claims nor connectors
  have hempty : ((t.connectors .authenticator).ownedBy number).isEmpty =
      (a.getD {}).authenticators.isEmpty := by
    have hlength := congrArg List.length h.authenticators
    simp only [rowsOf, Dict.values, ConnectorTables.rowsOf, Dict.mapValues, List.length_map]
      at hlength
    rw [Bool.eq_iff_iff]
    simp only [Dict.isEmpty, List.isEmpty_iff_length_eq_zero]
    exact Eq.congr_left hlength
  simp only [loadAuthentication, hclaims, hempty]
  cases a with
  | none =>
    constructor
    · intro _ s hs
      cases hs
    · intro _
      rfl
  | some s =>
    obtain ⟨hformed, hnonempty, hvalid⟩ := ha s rfl
    have hcond : (s.requestedClaims.isEmpty && s.authenticators.isEmpty) = false := hnonempty
    simp only [Option.getD_some, hcond, Bool.false_eq_true, if_false, Option.some.injEq,
      forall_eq']
    rw [← loadConnectors_iff .authenticator hformed h.authenticators]
    show ((t.loadConnectors .authenticator number).bind fun m =>
      (uncorrupted (Authentication.check { s with authenticators := m })).bind fun s =>
        .ok (some s)) = .ok (some s) ↔ _
    refine bind_eq_ok_iff_of_unique fun m => ?_
    rw [bind_eq_ok_iff_of_unique (a := s) (by simp), uncorrupted_eq_ok_iff,
      Authentication.check_eq_ok_iff]
    constructor
    · rintro ⟨-, hsame⟩
      exact congrArg (·.authenticators) hsame
    · rintro rfl
      exact ⟨hvalid, rfl⟩

/-! ## Providers -/

/-- The draft behind the rows of a sound provider is the one it is built from. -/
theorem loadDraft_of_hold {p : IdentityProvider} (hp : p.Sound) (hvalues : p.HasValues Readable)
    (h : (t.rowsOf number).Hold number p) :
    t.loadDraft number p.storedRow = .ok p.toDraft := by
  obtain ⟨-, hkind, hauthentication, hprovisioning, -⟩ :=
    IdentityProvider.validate_ok_iff.mp hp.valid
  obtain ⟨dialect, hinteger, hdialect⟩ := loadDialect_dialectCells p.metadata
  have hroles : decodeRoles (t.roleMappings.slice number) = .ok p.metadata.roleMappings := by
    rw [show t.roleMappings.slice number = p.metadata.roleRows from h.roleMappings,
      decodeRoles_roleRows]
  have hprov : t.loadProvisioning number = .ok p.provisioning :=
    (loadProvisioning_iff hp.provisioning hprovisioning h.provisioning).mpr hvalues.provisioning
  have hprops : decodeProperties (t.properties.slice number) = .ok p.properties := by
    rw [show t.properties.slice number = p.properties.texts from h.properties,
      decodeProperties_texts hvalues.properties]
  have hauth : t.loadAuthentication number = .ok p.authentication :=
    (loadAuthentication_iff (fun a ha => ⟨(hp.authentication a ha).1,
      (hp.authentication a ha).2, hauthentication a ha⟩) h.authentication).mpr
      hvalues.authentication
  have hcertificates : t.certificates.slice number = p.metadata.certificates := h.certificates
  simp only [loadDraft, draftOf, IdentityProvider.storedRow, hinteger, hroles, hprov, hprops,
    hdialect, hauth, bind, Except.bind, hcertificates, replace_of_kept hp.properties]
  rw [show ProviderKind.ofName p.name = p.kind from hkind]
  rfl

/-- **Rows that hold a provider load as the provider.** -/
theorem loadProvider_of_hold {p : IdentityProvider} (hp : p.Sound)
    (hvalues : p.HasValues Readable) (h : (t.rowsOf number).Hold number p) {id : ProviderId}
    (hid : Id.ofRowNumber number = .ok id) :
    t.loadProvider number = .ok (some (p.withId id)) := by
  have hrow : t.providers.rows.find? number = some p.storedRow := h.row
  simp only [loadProvider, hrow, loadDraft_of_hold hp hvalues h, bind, Except.bind,
    hp.build_toDraft, mapError_ok, hid]
  rfl

/-! ## Rows alike -/

/-- Whether a provider has connectors shows in their records. -/
theorem isEmpty_ownedBy (c : ConnectorTables) (owner : Int) :
    (c.ownedBy owner).isEmpty = (c.rowsOf owner).values.isEmpty := by
  simp only [Dict.isEmpty, Dict.values, ConnectorTables.rowsOf, Dict.mapValues, List.isEmpty_map]

/-- **Rows that hold the same provider load alike**, also where they do not load. -/
theorem loadProvider_congr {t t' : Tables} {p : IdentityProvider}
    (h : (t.rowsOf number).Hold number p) (h' : (t'.rowsOf number).Hold number p) :
    t.loadProvider number = t'.loadProvider number := by
  have hrow : t.providers.rows.find? number = t'.providers.rows.find? number :=
    h.row.trans h'.row.symm
  have hcertificates : t.certificates.slice number = t'.certificates.slice number :=
    h.certificates.trans h'.certificates.symm
  have hroles : t.roleMappings.slice number = t'.roleMappings.slice number :=
    h.roleMappings.trans h'.roleMappings.symm
  have hproperties : t.properties.slice number = t'.properties.slice number :=
    h.properties.trans h'.properties.symm
  have hclaims : t.requestedClaims.slice number = t'.requestedClaims.slice number :=
    h.authentication.requestedClaims.trans h'.authentication.requestedClaims.symm
  have hauthenticators : ((t.connectors .authenticator).rowsOf number).values =
      ((t'.connectors .authenticator).rowsOf number).values :=
    h.authentication.authenticators.trans h'.authentication.authenticators.symm
  have hdefaults : t.provisioningClaims.slice number = t'.provisioningClaims.slice number :=
    h.provisioning.provisioningClaims.trans h'.provisioning.provisioningClaims.symm
  have hprovisioningRoles :
      t.provisioningRoles.slice number = t'.provisioningRoles.slice number :=
    h.provisioning.provisioningRoles.trans h'.provisioning.provisioningRoles.symm
  have hjit : t.jitProviders.slice number = t'.jitProviders.slice number :=
    h.provisioning.jitProviders.trans h'.provisioning.jitProviders.symm
  have hprovisioners : ((t.connectors .provisioner).rowsOf number).values =
      ((t'.connectors .provisioner).rowsOf number).values :=
    h.provisioning.provisioners.trans h'.provisioning.provisioners.symm
  -- the sections are loaded from these rows alone
  have hprovisioning : t.loadProvisioning number = t'.loadProvisioning number := by
    simp only [loadProvisioning, hdefaults, hjit, hprovisioningRoles,
      loadConnectors_congr hprovisioners]
  have hauthentication : t.loadAuthentication number = t'.loadAuthentication number := by
    simp only [loadAuthentication, hclaims, isEmpty_ownedBy, hauthenticators,
      loadConnectors_congr hauthenticators]
  simp only [loadProvider, loadDraft, hrow, hroles, hproperties, hcertificates, hprovisioning,
    hauthentication]

/-! ## Rows that do not load -/

/-- A provider with a property whose text is no JSON. -/
def damaged : Tables where
  providers := ({} : SerialTable ProviderRow).append 1
    (IdentityProvider.storedRow { metadata := { name := "broken" }, variant := .federated {} })
  properties := (∅ : Dict (Int × String) String).insert (1, "tier") "\x7b"

example : damaged.loadProvider 1 = .error (.corrupt (.propertyText "tier")) := by decide +kernel

end Tables

end FederationRegistry
