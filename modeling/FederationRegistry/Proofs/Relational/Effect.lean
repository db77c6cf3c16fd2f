import FederationRegistry.Proofs.Relational.Write

/-!
# What a write leaves in the rows

A write of a section `Rewrites` the rows of one provider: the rows of all others stay, and so does
what the section does not own. After a write of all sections the rows of the provider `Hold` it:
they are the rows that its sections are written as, with the connectors under any numbers.

Main statement: `IdentityProvider.hold_putRows`.
-/

namespace FederationRegistry

/-! ## Changes that concern one provider -/

/-- The rows of other providers and all service providers stay, no property of a connector is left
without it, and as many numbers are given out to connectors as are added. -/
structure Tables.Rewrites (t t' : Tables) (number : Int) (added : ConnectorKind → Nat) : Prop where
  others : ∀ o, o ≠ number → t'.rowsOf o = t.rowsOf o
  applications : t'.applications = t.applications
  rooted : ∀ kind, (t'.connectors kind).Rooted
  tight : ∀ kind, (t.connectors kind).connectors.Tight →
    (t'.connectors kind).connectors.Tight ∧
      (t'.connectors kind).connectors.last = (t.connectors kind).connectors.last + added kind

theorem Tables.Rewrites.trans {t t' t'' : Tables} {number : Int} {m n : ConnectorKind → Nat}
    (h : t.Rewrites t' number m) (h' : t'.Rewrites t'' number n) :
    t.Rewrites t'' number fun kind => m kind + n kind where
  others o ho := by rw [h'.others o ho, h.others o ho]
  applications := by rw [h'.applications, h.applications]
  rooted := h'.rooted
  tight kind ht := by
    obtain ⟨htight, hlast⟩ := h.tight kind ht
    obtain ⟨htight', hlast'⟩ := h'.tight kind htight
    refine ⟨htight', ?_⟩
    rw [hlast', hlast]
    omega

/-- A change that leaves all connectors alone. -/
theorem Tables.Rewrites.of_connectors {t t' : Tables} {number : Int}
    (hrooted : ∀ kind, (t.connectors kind).Rooted)
    (hconnectors : ∀ kind, t'.connectors kind = t.connectors kind)
    (happlications : t'.applications = t.applications)
    (hothers : ∀ o, o ≠ number → t'.rowsOf o = t.rowsOf o) :
    t.Rewrites t' number fun _ => 0 where
  others := hothers
  applications := happlications
  rooted kind := hconnectors kind ▸ hrooted kind
  tight kind ht := by
    rw [hconnectors kind]
    exact ⟨ht, (Int.add_zero _).symm⟩

/-- The tables with a new provider row. -/
def Tables.appendProvider (t : Tables) (number : Int) (row : ProviderRow) : Tables :=
  { t with providers := t.providers.append number row }

/-- The tables with another row for a provider. -/
def Tables.putProvider (t : Tables) (number : Int) (row : ProviderRow) : Tables :=
  { t with providers := t.providers.withRows (t.providers.rows.insert number row) }

/-- The tables without a provider and all that it owns. -/
def Tables.dropProvider (t : Tables) (number : Int) : Tables :=
  { t with providers := t.providers.withRows (t.providers.rows.erase number) }.dropOwned number

namespace Tables

variable {t t' : Tables} {number : Int}

theorem connectors_appendProvider (t : Tables) (number : Int) (row : ProviderRow)
    (kind : ConnectorKind) : (t.appendProvider number row).connectors kind = t.connectors kind := by
  cases kind <;> rfl

theorem connectors_putProvider (t : Tables) (number : Int) (row : ProviderRow)
    (kind : ConnectorKind) : (t.putProvider number row).connectors kind = t.connectors kind := by
  cases kind <;> rfl

theorem connectors_dropProvider (t : Tables) (number : Int) (kind : ConnectorKind) :
    (t.dropProvider number).connectors kind = (t.connectors kind).dropOwner number := by
  cases kind <;> rfl

theorem rowsOf_putProvider (t : Tables) (number : Int) (row : ProviderRow) :
    (t.putProvider number row).rowsOf number = { t.rowsOf number with row := some row } := by
  simp only [rowsOf, putProvider, SerialTable.withRows, Dict.find?_insert, if_true]

theorem rewrites_appendProvider (hrooted : ∀ kind, (t.connectors kind).Rooted) (number : Int)
    (row : ProviderRow) : t.Rewrites (t.appendProvider number row) number fun _ => 0 :=
  .of_connectors hrooted (connectors_appendProvider t number row) rfl fun o ho => by
    simp only [rowsOf, appendProvider, SerialTable.append, Dict.find?_insert, if_neg (Ne.symm ho)]

theorem rewrites_putProvider (hrooted : ∀ kind, (t.connectors kind).Rooted) (number : Int)
    (row : ProviderRow) : t.Rewrites (t.putProvider number row) number fun _ => 0 :=
  .of_connectors hrooted (connectors_putProvider t number row) rfl fun o ho => by
    simp only [rowsOf, putProvider, SerialTable.withRows, Dict.find?_insert, if_neg (Ne.symm ho)]

/-- A provider that is dropped has no rows. -/
theorem rowsOf_dropProvider_self (t : Tables) (number : Int) :
    (t.dropProvider number).rowsOf number = {} := by
  simp only [rowsOf, dropProvider, dropOwned, SerialTable.withRows, Dict.find?_erase, if_true,
    Dict.slice_dropOwner_self, ConnectorTables.rowsOf_dropOwner_self]

theorem rewrites_dropProvider (hrooted : ∀ kind, (t.connectors kind).Rooted) (number : Int) :
    t.Rewrites (t.dropProvider number) number fun _ => 0 where
  others o ho := by
    simp only [rowsOf, dropProvider, dropOwned, SerialTable.withRows, Dict.find?_erase,
      if_neg (Ne.symm ho), Dict.slice_dropOwner_of_ne _ ho,
      ConnectorTables.rowsOf_dropOwner_of_ne _ ho]
  applications := rfl
  rooted kind := by
    rw [connectors_dropProvider]
    exact ConnectorTables.rooted_dropOwner (hrooted kind) number
  tight kind ht := by
    rw [connectors_dropProvider]
    exact ⟨ConnectorTables.tight_dropOwner ht number, (Int.add_zero _).symm⟩

/-- Rows keep their owners when those of one provider change, unless it goes and leaves rows. -/
theorem Referential.of_rewrites (h : t.Referential) {added : ConnectorKind → Nat}
    (hr : t.Rewrites t' number added)
    (hself : t'.providers.rows.find? number = none → t'.rowsOf number = {}) :
    t'.Referential where
  absent o ho := by
    by_cases hsame : o = number
    · exact hsame ▸ hself (hsame ▸ ho)
    · rw [hr.others o hsame]
      refine h.absent o ?_
      have hrow : (t'.rowsOf o).row = none := ho
      rw [hr.others o hsame] at hrow
      exact hrow
  rooted := hr.rooted

theorem Rewrites.referential {added : ConnectorKind → Nat} (hr : t.Rewrites t' number added)
    (h : t.Referential) {row : ProviderRow}
    (hrow : t'.providers.rows.find? number = some row) : t'.Referential :=
  h.of_rewrites hr fun hnone => by rw [hnone] at hrow; cases hrow

end Tables

/-! ## Sections -/

section Sections

variable {t t' : Tables} {owner : Int}

namespace Metadata

theorem rowsOf_putRows (m : Metadata) (t : Tables) (owner : Int) :
    (m.putRows t owner).rowsOf owner =
      { t.rowsOf owner with certificates := m.certificates, roleMappings := m.roleRows } := by
  simp only [Tables.rowsOf, putRows, Dict.slice_replaceOwner_self]

theorem rewrites_putRows (hrooted : ∀ kind, (t.connectors kind).Rooted) (m : Metadata)
    (owner : Int) : t.Rewrites (m.putRows t owner) owner fun _ => 0 :=
  .of_connectors hrooted (fun kind => by cases kind <;> rfl) rfl fun o ho => by
    simp only [Tables.rowsOf, putRows, Dict.slice_replaceOwner_of_ne _ ho]

end Metadata

theorem ConnectorTables.Added.last_of_tight {c c' : ConnectorTables} {cs : List Connector}
    (h : (c.dropOwner owner).Added c' owner cs) (hc : c.connectors.Tight) :
    c'.connectors.Tight ∧ c'.connectors.last = c.connectors.last + cs.length := by
  have hdropped := tight_dropOwner hc owner
  have htight := h.tight hdropped
  refine ⟨htight, ?_⟩
  have htop := h.top
  rw [SerialTable.top_of_tight htight, SerialTable.top_of_tight hdropped] at htop
  exact htop

namespace Authentication

variable {a : Option Authentication}

/-- The number of authenticators of a section that may be absent. -/
def count (a : Option Authentication) : Nat := (a.getD {}).authenticators.values.length

theorem rowsOf_putRows (hrooted : t.authenticators.Rooted) (h : putRows? a t owner = some t') :
    ∃ records,
      records.values = (a.getD {}).authenticators.values.map (Connector.record owner) ∧
      t'.rowsOf owner =
        { t.rowsOf owner with
          requestedClaims := (a.getD {}).requestedClaims
          authenticators := records } := by
  obtain ⟨c, hc, rfl⟩ := Option.map_eq_some_iff.mp h
  have heffect := ConnectorTables.replace_effect hrooted hc
  refine ⟨c.rowsOf owner, heffect.own_of_dropped, ?_⟩
  simp only [Tables.rowsOf, Dict.slice_replaceOwner_self]

theorem rewrites_putRows (hrooted : ∀ kind, (t.connectors kind).Rooted)
    (h : putRows? a t owner = some t') :
    t.Rewrites t' owner fun kind => if kind = .authenticator then count a else 0 := by
  obtain ⟨c, hc, rfl⟩ := Option.map_eq_some_iff.mp h
  have heffect := ConnectorTables.replace_effect (hrooted .authenticator) hc
  refine ⟨fun o ho => ?_, rfl, fun kind => ?_, fun kind ht => ?_⟩
  · simp only [Tables.rowsOf, Dict.slice_replaceOwner_of_ne _ ho, heffect.others_of_dropped ho]
    rfl
  · cases kind with
    | authenticator => exact heffect.rooted
    | provisioner => exact hrooted .provisioner
  · cases kind with
    | authenticator => exact heffect.last_of_tight ht
    | provisioner => exact ⟨ht, (Int.add_zero _).symm⟩

end Authentication

namespace Provisioning

variable {p : Provisioning}

/-- The number of provisioners of a section. -/
def count (p : Provisioning) : Nat := p.provisioners.values.length

theorem rowsOf_putRows (hrooted : t.provisioners.Rooted) (h : p.putRows? t owner = some t') :
    ∃ records,
      records.values = p.provisioners.values.map (Connector.record owner) ∧
      t'.rowsOf owner =
        { t.rowsOf owner with
          jitProviders := p.jitProviders
          provisioningClaims := p.defaults
          provisioningRoles := p.roles
          provisioners := records } := by
  obtain ⟨c, hc, rfl⟩ := Option.map_eq_some_iff.mp h
  have heffect := ConnectorTables.replace_effect hrooted hc
  refine ⟨c.rowsOf owner, heffect.own_of_dropped, ?_⟩
  simp only [Tables.rowsOf, Dict.slice_replaceOwner_self]

theorem rewrites_putRows (hrooted : ∀ kind, (t.connectors kind).Rooted)
    (h : p.putRows? t owner = some t') :
    t.Rewrites t' owner fun kind => if kind = .provisioner then p.count else 0 := by
  obtain ⟨c, hc, rfl⟩ := Option.map_eq_some_iff.mp h
  have heffect := ConnectorTables.replace_effect (hrooted .provisioner) hc
  refine ⟨fun o ho => ?_, rfl, fun kind => ?_, fun kind ht => ?_⟩
  · simp only [Tables.rowsOf, Dict.slice_replaceOwner_of_ne _ ho, heffect.others_of_dropped ho]
    rfl
  · cases kind with
    | authenticator => exact hrooted .authenticator
    | provisioner => exact heffect.rooted
  · cases kind with
    | authenticator => exact ⟨ht, (Int.add_zero _).symm⟩
    | provisioner => exact heffect.last_of_tight ht

end Provisioning

namespace PropertyMap

theorem rowsOf_putRows (m : PropertyMap) (t : Tables) (owner : Int) :
    (m.putRows t owner).rowsOf owner =
      { t.rowsOf owner with properties := m.settables.texts } := by
  simp only [Tables.rowsOf, putRows, Dict.slice_replaceOwner_self]

theorem rewrites_putRows (hrooted : ∀ kind, (t.connectors kind).Rooted) (m : PropertyMap)
    (owner : Int) : t.Rewrites (m.putRows t owner) owner fun _ => 0 :=
  .of_connectors hrooted (fun kind => by cases kind <;> rfl) rfl fun o ho => by
    simp only [Tables.rowsOf, putRows, Dict.slice_replaceOwner_of_ne _ ho]

theorem rowsOf_mergeRows (m : PropertyMap) (t : Tables) (owner : Int) :
    (m.mergeRows t owner).rowsOf owner =
      { t.rowsOf owner with
        properties := (t.rowsOf owner).properties.merge m.settables.texts } := by
  simp only [Tables.rowsOf, mergeRows, Dict.slice_mergeOwner_self]

theorem rewrites_mergeRows (hrooted : ∀ kind, (t.connectors kind).Rooted) (m : PropertyMap)
    (owner : Int) : t.Rewrites (m.mergeRows t owner) owner fun _ => 0 :=
  .of_connectors hrooted (fun kind => by cases kind <;> rfl) rfl fun o ho => by
    simp only [Tables.rowsOf, mergeRows, Dict.slice_mergeOwner_of_ne _ ho]

/-- Merging texts is merging properties. -/
theorem texts_absorb (m delta : PropertyMap) :
    (m.absorb delta).texts = m.texts.merge delta.settables.texts :=
  Dict.ext_find? fun key => by
    simp only [texts, Dict.find?_mapValues, find?_absorb, Dict.find?_merge, settables,
      Dict.find?_filter]
    cases (delta.find? key).filter (settable key) <;> rfl

end PropertyMap

end Sections

/-! ## Rows that hold a provider -/

/-- The row that a provider is written as. -/
def IdentityProvider.storedRow (p : IdentityProvider) : ProviderRow where
  name := p.name
  displayLabel := p.metadata.displayLabel
  description := p.metadata.description
  homeRealm := p.variant.homeRealm
  isHub := p.variant.isHub
  dialectId := p.metadata.dialectCells.1
  dialectIsLocal := p.metadata.dialectCells.2
  enabled := p.enabled

theorem IdentityProvider.row_eq {p : IdentityProvider} (h : p.metadata.validate = .ok ()) :
    p.row = .ok p.storedRow := by
  rw [row, Metadata.dialectColumns_eq h]
  rfl

namespace ProviderRows

variable {r : ProviderRows} {number : Int}

/-- The rows are those that an authentication section is written as. -/
structure HoldAuthentication (r : ProviderRows) (number : Int) (a : Option Authentication) :
    Prop where
  requestedClaims : r.requestedClaims = (a.getD {}).requestedClaims
  authenticators :
    r.authenticators.values = (a.getD {}).authenticators.values.map (Connector.record number)

/-- The rows are those that a provisioning section is written as. -/
structure HoldProvisioning (r : ProviderRows) (number : Int) (p : Provisioning) : Prop where
  jitProviders : r.jitProviders = p.jitProviders
  provisioningClaims : r.provisioningClaims = p.defaults
  provisioningRoles : r.provisioningRoles = p.roles
  provisioners : r.provisioners.values = p.provisioners.values.map (Connector.record number)

/-- The rows are those that a provider is written as, its connectors under any numbers. -/
structure Hold (r : ProviderRows) (number : Int) (p : IdentityProvider) : Prop where
  row : r.row = some p.storedRow
  certificates : r.certificates = p.metadata.certificates
  roleMappings : r.roleMappings = p.metadata.roleRows
  authentication : r.HoldAuthentication number p.authentication
  provisioning : r.HoldProvisioning number p.provisioning
  properties : r.properties = p.properties.texts

/-- Rows do not hold the identifier of a provider but stand under it. -/
theorem hold_withId {p : IdentityProvider} {id : ProviderId} :
    r.Hold number (p.withId id) ↔ r.Hold number p :=
  ⟨fun h => ⟨h.1, h.2, h.3, h.4, h.5, h.6⟩, fun h => ⟨h.1, h.2, h.3, h.4, h.5, h.6⟩⟩

end ProviderRows

namespace IdentityProvider

variable {p : IdentityProvider} {t t' : Tables} {number : Int}

/-- The number of connectors of each kind. -/
def count (p : IdentityProvider) : ConnectorKind → Nat
  | .authenticator => Authentication.count p.authentication
  | .provisioner => p.provisioning.count

/-- **A write of all sections** leaves rows that hold the provider, and concerns no other. -/
theorem hold_putRows (hp : p.Sound) (hrooted : ∀ kind, (t.connectors kind).Rooted)
    (hrow : t.providers.rows.find? number = some p.storedRow)
    (h : p.putRows? t number = some t') :
    (t'.rowsOf number).Hold number p ∧ t.Rewrites t' number p.count ∧
      t'.providers = t.providers := by
  simp only [putRows?, Option.bind_eq_some_iff, Option.map_eq_some_iff] at h
  obtain ⟨t₂, hauth, t₃, hprov, rfl⟩ := h
  have hmetadata := p.metadata.rewrites_putRows hrooted number
  have hauthentication := Authentication.rewrites_putRows hmetadata.rooted hauth
  have hprovisioning := Provisioning.rewrites_putRows hauthentication.rooted hprov
  have hproperties := p.properties.rewrites_putRows hprovisioning.rooted number
  obtain ⟨authenticators, hauthenticators, hrows₂⟩ :=
    Authentication.rowsOf_putRows (hmetadata.rooted .authenticator) hauth
  obtain ⟨provisioners, hprovisioners, hrows₃⟩ :=
    Provisioning.rowsOf_putRows (hauthentication.rooted .provisioner) hprov
  -- what the later sections write is in tables of their own, so the rows are those of each section
  have hrows := p.properties.rowsOf_putRows t₃ number
  rw [hrows₃, hrows₂, Metadata.rowsOf_putRows] at hrows
  have hproviders : t₃.providers = t.providers := by
    obtain ⟨c, -, rfl⟩ := Option.map_eq_some_iff.mp hprov
    obtain ⟨c, -, rfl⟩ := Option.map_eq_some_iff.mp hauth
    rfl
  refine ⟨?_, ?_, hproviders⟩
  · rw [hrows]
    exact {
      row := hrow
      certificates := rfl
      roleMappings := rfl
      authentication := ⟨rfl, hauthenticators⟩
      provisioning := ⟨rfl, rfl, rfl, hprovisioners⟩
      properties := by rw [PropertyMap.settables_of_kept hp.properties] }
  · have hall := ((hmetadata.trans hauthentication).trans hprovisioning).trans hproperties
    have hcount : p.count = fun kind => 0 + (if kind = .authenticator then
        Authentication.count p.authentication else 0) +
          (if kind = .provisioner then p.provisioning.count else 0) + 0 := by
      funext kind
      cases kind <;> simp [count]
    rw [hcount]
    exact hall

end IdentityProvider

end FederationRegistry
