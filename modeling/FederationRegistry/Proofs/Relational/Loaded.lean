import FederationRegistry.Proofs.Relational.Load
import FederationRegistry.Proofs.Relational.Outcome

/-!
# What rows load as

`Tables.loadProvider_of_hold` starts from a provider and the rows that it was written as. Here the
rows come first and may hold anything: every loader is inverted, and its result says what it was
loaded from.

**Soundness.** A loader sends what it finds through the checks of the builders, so what loads is
sound (`sound_of_loadProvider`).

**Values.** A property value that loads stands in the text of one of the rows
(`hasValues_of_loadProvider`), and of a provider that loads every such text stands for a value
(`decodes_of_loadProvider`); the latter takes in the texts of connectors that another of the same
name replaces.
-/

namespace FederationRegistry

/-! ## Texts among rows -/

/-- The texts of all properties among the rows of a provider. -/
def ProviderRows.texts (r : ProviderRows) : List String :=
  r.properties.values ++
    (r.authenticators.values ++ r.provisioners.values).flatMap fun record => record.2.values

/-- The text stands for a value. -/
def PropertyValue.Decodes (text : String) : Prop := ∃ v, ofText text = .ok v

namespace ConnectorMap

/-- A connector in a map made from a list is one of the list, under its own name. -/
theorem mem_of_find?_addMany {cs : List Connector} {m : ConnectorMap} {name : String}
    {c : Connector} (h : (addMany m cs).find? name = some c) :
    (c ∈ cs ∧ name = c.name) ∨ m.find? name = some c := by
  induction cs generalizing m with
  | nil => exact .inr h
  | cons d cs ih =>
    rcases ih h with ⟨hc, hname⟩ | hm
    · exact .inl ⟨List.mem_cons_of_mem d hc, hname⟩
    · rw [add, Dict.find?_insert] at hm
      split at hm
      · rename_i hname
        cases hm
        exact .inl ⟨List.mem_cons_self, hname.symm⟩
      · exact .inr hm

/-- A map made from a list has no more connectors than the list. -/
theorem size_addMany_le (m : ConnectorMap) (cs : List Connector) :
    (addMany m cs).size ≤ m.size + cs.length := by
  induction cs generalizing m with
  | nil => exact Nat.le_refl _
  | cons c cs ih =>
    have hadd : (add m c).size ≤ m.size + 1 := by rw [add, Dict.size_insert]; split <;> omega
    have hall := ih (add m c)
    rw [List.length_cons]
    exact Nat.le_trans hall (by omega)

theorem mem_of_find?_ofList {cs : List Connector} {name : String} {c : Connector}
    (h : (ofList cs).find? name = some c) : c ∈ cs ∧ name = c.name :=
  (mem_of_find?_addMany h).resolve_right fun h => nomatch h

end ConnectorMap

theorem PropertyMap.HasValues.replace_empty {P : PropertyValue → Prop} {m : PropertyMap}
    (h : m.HasValues P) : ((∅ : PropertyMap).replace m).HasValues P := by
  intro key v hv
  rw [Tables.find?_replace_empty] at hv
  exact h key v (Option.filter_eq_some_iff.mp hv).1

namespace Tables

variable {t : Tables} {number : Int} {kind : ConnectorKind}

/-! ## Properties -/

theorem text_of_decodeProperties {texts : Dict String String} {m : PropertyMap}
    (h : decodeProperties texts = .ok m) {key : String} {v : PropertyValue}
    (hv : m.find? key = some v) : ∃ text ∈ texts.values, PropertyValue.ofText text = .ok v := by
  obtain ⟨text, htext, hdecode⟩ := Dict.exists_of_traverse h hv
  exact ⟨text, Dict.mem_values_iff.mpr ⟨key, htext⟩, mapError_eq_ok_iff _ |>.mp hdecode⟩

theorem decodes_of_decodeProperties {texts : Dict String String} {m : PropertyMap}
    (h : decodeProperties texts = .ok m) {text : String} (htext : text ∈ texts.values) :
    PropertyValue.Decodes text := by
  obtain ⟨key, hkey⟩ := Dict.mem_values_iff.mp htext
  obtain ⟨v, hv, -⟩ := Dict.find?_of_traverse h hkey
  exact ⟨v, mapError_eq_ok_iff _ |>.mp hv⟩

/-! ## Connectors -/

theorem loadRecord_eq_ok_iff {r : ConnectorRecord} {c : Connector} :
    loadRecord kind r = .ok c ↔
      ∃ m, decodeProperties r.2 = .ok m ∧ Text.isBlank r.1.name = false ∧
        c = ⟨r.1.name, r.1.enabled, (∅ : PropertyMap).replace m⟩ := by
  simp only [loadRecord, except_bind_eq_ok_iff, uncorrupted_eq_ok_iff, Connector.check_eq_ok_iff]
  exact exists_congr fun m => and_congr_right fun _ => and_congr_right fun _ => eq_comm

theorem loadConnectors_eq_ok_iff {m : ConnectorMap} :
    t.loadConnectors kind number = .ok m ↔
      ∃ loaded, (((t.connectors kind).rowsOf number).traverse fun _ r => loadRecord kind r) =
        .ok loaded ∧ ConnectorMap.ofList loaded.values = m := by
  rw [loadConnectors_eq, except_map_eq_ok_iff]

/-- A connector that loads comes from a row of its name. -/
theorem record_of_loadConnectors {m : ConnectorMap} (h : t.loadConnectors kind number = .ok m)
    {name : String} {c : Connector} (hc : m.find? name = some c) :
    name = c.name ∧
      ∃ r ∈ ((t.connectors kind).rowsOf number).values, loadRecord kind r = .ok c := by
  obtain ⟨loaded, hloaded, rfl⟩ := loadConnectors_eq_ok_iff.mp h
  obtain ⟨hmem, hname⟩ := ConnectorMap.mem_of_find?_ofList hc
  obtain ⟨i, hi⟩ := Dict.mem_values_iff.mp hmem
  obtain ⟨r, hr, hload⟩ := Dict.exists_of_traverse hloaded hi
  exact ⟨hname, r, Dict.mem_values_iff.mpr ⟨i, hr⟩, hload⟩

theorem formed_of_loadConnectors {m : ConnectorMap} (h : t.loadConnectors kind number = .ok m) :
    m.Formed := by
  intro name c hc
  obtain ⟨hname, r, -, hload⟩ := record_of_loadConnectors h hc
  obtain ⟨source, -, hblank, rfl⟩ := loadRecord_eq_ok_iff.mp hload
  exact ⟨hname, hblank, PropertyMap.kept_replace PropertyMap.kept_empty source⟩

theorem hasValues_of_loadConnectors {P : PropertyValue → Prop} {m : ConnectorMap}
    (h : t.loadConnectors kind number = .ok m)
    (hP : ∀ r ∈ ((t.connectors kind).rowsOf number).values, ∀ text ∈ r.2.values, ∀ v,
      PropertyValue.ofText text = .ok v → P v) : m.HasValues P := by
  intro name c hc
  obtain ⟨-, r, hr, hload⟩ := record_of_loadConnectors h hc
  obtain ⟨source, hsource, -, rfl⟩ := loadRecord_eq_ok_iff.mp hload
  refine PropertyMap.HasValues.replace_empty fun key v hv => ?_
  obtain ⟨text, htext, hread⟩ := text_of_decodeProperties hsource hv
  exact hP r hr text htext v hread

theorem decodes_of_loadConnectors {m : ConnectorMap} (h : t.loadConnectors kind number = .ok m)
    {r : ConnectorRecord} (hr : r ∈ ((t.connectors kind).rowsOf number).values) {text : String}
    (htext : text ∈ r.2.values) : PropertyValue.Decodes text := by
  obtain ⟨loaded, hloaded, -⟩ := loadConnectors_eq_ok_iff.mp h
  obtain ⟨i, hi⟩ := Dict.mem_values_iff.mp hr
  obtain ⟨c, hc, -⟩ := Dict.find?_of_traverse hloaded hi
  obtain ⟨source, hsource, -, -⟩ := loadRecord_eq_ok_iff.mp hc
  exact decodes_of_decodeProperties hsource htext

/-- No more connectors load than there are rows. -/
theorem size_of_loadConnectors {m : ConnectorMap} (h : t.loadConnectors kind number = .ok m) :
    m.size ≤ ((t.connectors kind).rowsOf number).size := by
  obtain ⟨loaded, hloaded, rfl⟩ := loadConnectors_eq_ok_iff.mp h
  have hsize := ConnectorMap.size_addMany_le ∅ loaded.values
  rw [show loaded.values.length = loaded.size from List.length_map ..,
    Dict.size_of_traverse hloaded] at hsize
  exact Nat.le_trans hsize (Nat.le_of_eq (Nat.zero_add _))

/-! ## Sections -/

/-- What a provisioning section that loads was loaded from. -/
theorem loadProvisioning_eq_ok_iff {p : Provisioning} :
    t.loadProvisioning number = .ok p ↔
      ∃ claims provisioners,
        ((t.provisioningClaims.slice number).traverse fun uri defaultValue =>
          uncorrupted (ProvisioningClaim.check ⟨uri, defaultValue⟩)) = .ok claims ∧
        t.loadConnectors .provisioner number = .ok provisioners ∧
        p.validate = .ok () ∧
        p = { jitProviders := t.jitProviders.slice number, claims
              roles := t.provisioningRoles.slice number, provisioners } := by
  simp only [loadProvisioning, except_bind_eq_ok_iff, uncorrupted_eq_ok_iff,
    Provisioning.check_eq_ok_iff]
  constructor
  · rintro ⟨claims, hclaims, provisioners, hprovisioners, hvalid, rfl⟩
    exact ⟨claims, provisioners, hclaims, hprovisioners, hvalid, rfl⟩
  · rintro ⟨claims, provisioners, hclaims, hprovisioners, hvalid, rfl⟩
    exact ⟨claims, hclaims, provisioners, hprovisioners, hvalid, rfl⟩

theorem formed_of_loadProvisioning {p : Provisioning} (h : t.loadProvisioning number = .ok p) :
    p.Formed := by
  obtain ⟨claims, provisioners, hclaims, hprovisioners, -, rfl⟩ :=
    loadProvisioning_eq_ok_iff.mp h
  refine ⟨fun uri c hc => ?_, formed_of_loadConnectors hprovisioners⟩
  obtain ⟨defaultValue, -, hcheck⟩ := Dict.exists_of_traverse hclaims hc
  obtain ⟨hblank, rfl⟩ := ProvisioningClaim.check_eq_ok_iff.mp (uncorrupted_eq_ok_iff.mp hcheck)
  exact ⟨rfl, hblank⟩

/-- What an authentication section that loads was loaded from; without rows it is absent. -/
theorem of_loadAuthentication {a : Option Authentication}
    (h : t.loadAuthentication number = .ok a) :
    (a = none ∧ t.authenticators.rowsOf number = ∅) ∨
      ∃ s, a = some s ∧ t.loadConnectors .authenticator number = .ok s.authenticators := by
  unfold loadAuthentication at h
  dsimp only at h
  split at h
  · rename_i hempty
    cases h
    have howned := Dict.isEmpty_iff.mp (Bool.and_eq_true_iff.mp hempty).2
    refine .inl ⟨rfl, ?_⟩
    rw [ConnectorTables.rowsOf, show t.authenticators.ownedBy number = ∅ from howned]
    rfl
  · simp only [except_bind_eq_ok_iff, uncorrupted_eq_ok_iff, Authentication.check_eq_ok_iff] at h
    obtain ⟨m, hm, s, ⟨-, rfl⟩, ⟨⟩⟩ := h
    exact .inr ⟨_, rfl, hm⟩

theorem formed_of_loadAuthentication {a : Option Authentication}
    (h : t.loadAuthentication number = .ok a) : ∀ s, a = some s → s.Formed := by
  rintro s rfl
  rcases of_loadAuthentication h with ⟨⟨⟩, -⟩ | ⟨s', ⟨⟩, hconnectors⟩
  exact formed_of_loadConnectors hconnectors

/-! ## Providers -/

/-- What a draft that loads was loaded from. -/
structure DraftLoads (t : Tables) (number : Int) (row : ProviderRow)
    (d : IdentityProvider.Draft) : Prop where
  name : d.metadata.name = row.name
  authentication : t.loadAuthentication number = .ok d.authentication
  provisioning : t.loadProvisioning number = .ok d.provisioning
  properties : ∃ m, decodeProperties (t.properties.slice number) = .ok m ∧
    d.properties = (∅ : PropertyMap).replace m

theorem draftLoads_of_loadDraft {row : ProviderRow} {d : IdentityProvider.Draft}
    (h : t.loadDraft number row = .ok d) : t.DraftLoads number row d := by
  simp only [loadDraft, except_bind_eq_ok_iff] at h
  obtain ⟨dialectId, -, roleMappings, -, provisioning, hprovisioning, properties, hproperties,
    dialect, -, authentication, hauthentication, ⟨⟩⟩ := h
  exact ⟨rfl, hauthentication, hprovisioning, properties, hproperties, rfl⟩

theorem DraftLoads.formed {row : ProviderRow} {d : IdentityProvider.Draft}
    (h : t.DraftLoads number row d) : d.Formed := by
  obtain ⟨m, -, hm⟩ := h.properties
  exact ⟨formed_of_loadAuthentication h.authentication, formed_of_loadProvisioning h.provisioning,
    hm ▸ PropertyMap.kept_replace PropertyMap.kept_empty m⟩

/-- A provider that loads was built from the draft behind its rows. -/
theorem loadProvider_eq_some_iff {p : IdentityProvider} :
    t.loadProvider number = .ok (some p) ↔
      ∃ row d q id, t.providers.rows.find? number = some row ∧ t.loadDraft number row = .ok d ∧
        d.build = .ok q ∧ Id.ofRowNumber number = .ok id ∧ p = q.withId id := by
  unfold loadProvider
  cases t.providers.rows.find? number with
  | none => simp
  | some row =>
    simp only [except_bind_eq_ok_iff, mapError_eq_ok_iff]
    constructor
    · rintro ⟨d, hd, q, hq, id, hid, ⟨⟩⟩
      exact ⟨row, d, q, id, rfl, hd, hq, hid, rfl⟩
    · rintro ⟨row', d, q, id, ⟨⟩, hd, hq, hid, rfl⟩
      exact ⟨d, hd, q, hq, id, hid, rfl⟩

/-- Nothing loads at a number exactly when no provider has it. -/
theorem loadProvider_eq_none_iff :
    t.loadProvider number = .ok none ↔ t.providers.rows.find? number = none := by
  unfold loadProvider
  cases t.providers.rows.find? number with
  | none => simp
  | some row =>
    simp only [except_bind_eq_ok_iff, reduceCtorEq, iff_false]
    rintro ⟨-, -, -, -, -, -, ⟨⟩⟩

theorem loadApplication_eq_none_iff :
    t.loadApplication number = .ok none ↔ t.applications.rows.find? number = none := by
  unfold loadApplication
  cases t.applications.rows.find? number with
  | none => simp
  | some row =>
    simp only [except_bind_eq_ok_iff, reduceCtorEq, iff_false]
    rintro ⟨-, -, -, -, -, -, ⟨⟩⟩

/-- **Whatever the rows hold, a provider that loads is sound.** -/
theorem sound_of_loadProvider {p : IdentityProvider}
    (h : t.loadProvider number = .ok (some p)) : p.Sound := by
  obtain ⟨row, d, q, id, -, hd, hq, -, rfl⟩ := loadProvider_eq_some_iff.mp h
  exact (IdentityProvider.Draft.sound_build (draftLoads_of_loadDraft hd).formed hq).withId id

theorem id_of_loadProvider {p : IdentityProvider} (h : t.loadProvider number = .ok (some p)) :
    ∃ id, p.id = some id ∧ (id.value : Int) = number := by
  obtain ⟨row, d, q, id, -, -, -, hid, rfl⟩ := loadProvider_eq_some_iff.mp h
  exact ⟨id, rfl, Id.ofRowNumber_eq_ok_iff.mp hid⟩

/-! ## Values and connectors of a provider -/

theorem mem_texts_iff {text : String} :
    text ∈ (t.rowsOf number).texts ↔
      text ∈ (t.properties.slice number).values ∨
        ∃ kind, ∃ r ∈ ((t.connectors kind).rowsOf number).values, text ∈ r.2.values := by
  simp only [ProviderRows.texts, rowsOf, List.mem_append, List.mem_flatMap]
  refine or_congr_right ⟨?_, ?_⟩
  · rintro ⟨r, hr | hr, htext⟩
    · exact ⟨.authenticator, r, hr, htext⟩
    · exact ⟨.provisioner, r, hr, htext⟩
  · rintro ⟨kind, r, hr, htext⟩
    cases kind with
    | authenticator => exact ⟨r, .inl hr, htext⟩
    | provisioner => exact ⟨r, .inr hr, htext⟩

/-- Where the properties and connectors of a provider that loads come from. -/
structure Loads (t : Tables) (number : Int) (p : IdentityProvider) : Prop where
  properties : ∃ m, decodeProperties (t.properties.slice number) = .ok m ∧
    p.properties = (∅ : PropertyMap).replace m
  authentication : ∀ a, p.authentication = some a →
    t.loadConnectors .authenticator number = .ok a.authenticators
  /-- Authenticators load also where their section is empty and left out. -/
  authenticators : t.authenticators.rowsOf number = ∅ ∨
    ∃ m, t.loadConnectors .authenticator number = .ok m
  provisioning : t.loadConnectors .provisioner number = .ok p.provisioning.provisioners

theorem loads_of_loadProvider {p : IdentityProvider}
    (h : t.loadProvider number = .ok (some p)) : t.Loads number p := by
  obtain ⟨row, d, q, id, -, hdraft, hq, -, rfl⟩ := loadProvider_eq_some_iff.mp h
  obtain ⟨variant, -, -, -, -, rfl, -⟩ := IdentityProvider.Draft.build_eq_ok_iff.mp hq
  have hd := draftLoads_of_loadDraft hdraft
  obtain ⟨claims, provisioners, -, hprovisioners, -, hprovisioning⟩ :=
    loadProvisioning_eq_ok_iff.mp hd.provisioning
  refine ⟨hd.properties, fun a ha => ?_, ?_, ?_⟩
  · obtain ⟨s, hs, hnonempty⟩ := Option.bind_eq_some_iff.mp ha
    obtain ⟨rfl, -⟩ := Authentication.nonempty?_eq_some hnonempty
    rcases of_loadAuthentication hd.authentication with ⟨hnone, -⟩ | ⟨s', hs', hload⟩
    · rw [hnone] at hs
      cases hs
    · rw [hs] at hs'
      cases hs'
      exact hload
  · -- a section that was not loaded has no rows
    rcases of_loadAuthentication hd.authentication with ⟨-, hempty⟩ | ⟨s, -, hload⟩
    · exact .inl hempty
    · exact .inr ⟨_, hload⟩
  · show t.loadConnectors .provisioner number = .ok d.provisioning.provisioners
    rw [hprovisioning]
    exact hprovisioners

/-- A value that loads stands in the text of a row. -/
theorem hasValues_of_loadProvider {P : PropertyValue → Prop} {p : IdentityProvider}
    (h : t.loadProvider number = .ok (some p))
    (hP : ∀ text ∈ (t.rowsOf number).texts, ∀ v, PropertyValue.ofText text = .ok v → P v) :
    p.HasValues P := by
  have hloads := loads_of_loadProvider h
  have hconnectors (kind : ConnectorKind) {m : ConnectorMap}
      (hm : t.loadConnectors kind number = .ok m) : m.HasValues P :=
    hasValues_of_loadConnectors hm fun r hr text htext =>
      hP text (mem_texts_iff.mpr (.inr ⟨kind, r, hr, htext⟩))
  refine ⟨?_, fun a ha => hconnectors .authenticator (hloads.authentication a ha),
    hconnectors .provisioner hloads.provisioning⟩
  obtain ⟨m, hm, hreplace⟩ := hloads.properties
  rw [hreplace]
  refine PropertyMap.HasValues.replace_empty fun key v hv => ?_
  obtain ⟨text, htext, hread⟩ := text_of_decodeProperties hm hv
  exact hP text (mem_texts_iff.mpr (.inl htext)) v hread

/-- Of a provider that loads, every text among the rows stands for a value. -/
theorem decodes_of_loadProvider {p : IdentityProvider}
    (h : t.loadProvider number = .ok (some p)) {text : String}
    (htext : text ∈ (t.rowsOf number).texts) : PropertyValue.Decodes text := by
  have hloads := loads_of_loadProvider h
  rcases mem_texts_iff.mp htext with htext | ⟨kind, r, hr, htext⟩
  · obtain ⟨m, hm, -⟩ := hloads.properties
    exact decodes_of_decodeProperties hm htext
  · cases kind with
    | authenticator =>
      rcases hloads.authenticators with hempty | ⟨m, hload⟩
      · rw [show (t.connectors .authenticator).rowsOf number = ∅ from hempty] at hr
        cases hr
      · exact decodes_of_loadConnectors hload hr htext
    | provisioner => exact decodes_of_loadConnectors hloads.provisioning hr htext

/-- A provider that loads has no more connectors than there are rows for them. -/
theorem count_of_loadProvider {p : IdentityProvider} (h : t.loadProvider number = .ok (some p))
    (kind : ConnectorKind) : p.count kind ≤ ((t.connectors kind).rowsOf number).size := by
  have hloads := loads_of_loadProvider h
  have hsize {kind : ConnectorKind} {m : ConnectorMap}
      (hm : t.loadConnectors kind number = .ok m) :
      m.values.length ≤ ((t.connectors kind).rowsOf number).size := by
    rw [show m.values.length = m.size from List.length_map ..]
    exact size_of_loadConnectors hm
  cases kind with
  | authenticator =>
    show (p.authentication.getD {}).authenticators.values.length ≤ _
    cases ha : p.authentication with
    | none => exact Nat.zero_le _
    | some a => exact hsize (hloads.authentication a ha)
  | provisioner => exact hsize hloads.provisioning

end Tables

end FederationRegistry
