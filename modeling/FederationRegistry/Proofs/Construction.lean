import FederationRegistry.Proofs.Validity
import FederationRegistry.Proofs.Dict

/-!
# What builders can make

Connectors, claims, sections and providers are made by builders alone: a draft is started, edited
by any script, and built if it is valid. `Built` says of a value that some script makes it, and
for a provider also that it may have been stored, updated and built again.

**Sound values.** A check at the end cannot see everything, since a map of connectors keeps what
its edits put there. What every edit preserves is `Formed`: connectors and claims stand under
their own names, which are not blank, and property maps hold nothing that cannot be set. A
provider that is formed and valid is `Sound`.

Main statement: `IdentityProvider.Built.sound`.
-/

namespace FederationRegistry

/-! ## Connectors and claims -/

/-- The connectors that a builder of a kind makes. -/
def Connector.Built (kind : ConnectorKind) (c : Connector) : Prop :=
  ∃ (name : String) (script : List Connector.Edit),
    (script.foldl Connector.edit (Connector.named kind name)).check kind = .ok c

/-- The claims that can be made. -/
def ProvisioningClaim.Built (c : ProvisioningClaim) : Prop := c.check = .ok c

theorem Connector.check_eq_ok_iff {kind : ConnectorKind} {c d : Connector} :
    c.check kind = .ok d ↔ Text.isBlank c.name = false ∧ c = d := by
  simp [check, Checked.map_eq_ok_iff, requireText_ok_iff]

theorem ProvisioningClaim.check_eq_ok_iff {c d : ProvisioningClaim} :
    c.check = .ok d ↔ Text.isBlank c.uri = false ∧ c = d := by
  simp [check, Checked.map_eq_ok_iff, requireText_ok_iff]

theorem Connector.kept_edit {c : Connector} (h : c.properties.Kept) (e : Edit) :
    (c.edit e).properties.Kept := by
  cases e with
  | setEnabled enabled => exact h
  | setProperties properties => exact PropertyMap.kept_replace h properties
  | addProperty key value => exact PropertyMap.kept_put h key value
  | addProperties properties => exact PropertyMap.kept_absorb h properties

theorem Connector.Built.name_not_blank {kind : ConnectorKind} {c : Connector}
    (h : c.Built kind) : Text.isBlank c.name = false := by
  obtain ⟨name, script, h⟩ := h
  obtain ⟨hname, rfl⟩ := check_eq_ok_iff.mp h
  exact hname

theorem Connector.Built.kept {kind : ConnectorKind} {c : Connector} (h : c.Built kind) :
    c.properties.Kept := by
  obtain ⟨name, script, h⟩ := h
  obtain ⟨-, rfl⟩ := check_eq_ok_iff.mp h
  have hscript (script : List Edit) (c : Connector) (hc : c.properties.Kept) :
      (script.foldl edit c).properties.Kept := by
    induction script generalizing c with
    | nil => exact hc
    | cons e script ih => exact ih (c.edit e) (kept_edit hc e)
  exact hscript script _ PropertyMap.kept_empty

/-- Every connector stands under its own name, which is not blank, and has only properties that
can be set. -/
def ConnectorMap.Formed (m : ConnectorMap) : Prop :=
  ∀ name c, m.find? name = some c →
    name = c.name ∧ Text.isBlank c.name = false ∧ c.properties.Kept

namespace ConnectorMap

theorem formed_empty : Formed ∅ := by
  intro name c h
  cases h

theorem formed_add {kind : ConnectorKind} {m : ConnectorMap} (h : m.Formed) {c : Connector}
    (hc : c.Built kind) : (add m c).Formed := by
  intro name d hd
  rw [add, Dict.find?_insert] at hd
  split at hd
  · rename_i hname
    cases hd
    exact ⟨hname.symm, hc.name_not_blank, hc.kept⟩
  · exact h name d hd

theorem formed_addMany {kind : ConnectorKind} {cs : List Connector} {m : ConnectorMap}
    (h : m.Formed) (hcs : ∀ c ∈ cs, c.Built kind) : (addMany m cs).Formed := by
  induction cs generalizing m with
  | nil => exact h
  | cons c cs ih =>
    exact ih (formed_add h (hcs c (by simp))) fun d hd => hcs d (by simp [hd])

theorem ofList_eq (cs : List Connector) :
    ofList cs = Dict.ofList (cs.map fun c => (c.name, c)) := by
  rw [Dict.ofList, Dict.insertMany, List.foldl_map]
  rfl

/-- Connectors of a list in which every name stands before the next. -/
theorem values_ofList {cs : List Connector} (h : Increasing (cs.map fun c => (c.name, c))) :
    (ofList cs).values = cs := by
  rw [ofList_eq, Dict.ofList_entries ⟨cs.map fun c => (c.name, c), h⟩, Dict.values, List.map_map]
  exact List.map_id cs

/-- Connectors in the order of their names, under their names. -/
theorem ofList_values {m : ConnectorMap} (h : m.Formed) : ofList m.values = m := by
  have hentries : m.values.map (fun c => (c.name, c)) = m.entries := by
    rw [Dict.values, List.map_map]
    refine (List.map_congr_left fun e he => ?_).trans (List.map_id m.entries)
    obtain ⟨hname, -⟩ := h e.1 e.2 (Dict.mem_entries_iff.mp he)
    exact Prod.ext hname.symm rfl
  rw [ofList_eq, hentries, Dict.ofList_entries]

theorem names_values {m : ConnectorMap} (h : m.Formed) : m.values.map (·.name) = m.keys := by
  rw [Dict.values, Dict.keys, List.map_map]
  refine List.map_congr_left fun e he => ?_
  exact (h e.1 e.2 (Dict.mem_entries_iff.mp he)).1.symm

/-- No two connectors have the same name. -/
theorem nodup_names {m : ConnectorMap} (h : m.Formed) : (m.values.map (·.name)).Nodup := by
  rw [names_values h, List.Nodup, Dict.keys, List.pairwise_map]
  exact m.increasing.imp fun hab => Key.ne_of_before hab

end ConnectorMap

/-! ## Authentication -/

namespace Authentication

/-- The edit brings only authenticators that a builder made. -/
def Edit.Admissible : Edit → Prop
  | .setAuthenticators cs | .addAuthenticators cs => ∀ c ∈ cs, c.Built .authenticator
  | .addAuthenticator c => c.Built .authenticator
  | _ => True

/-- The drafts that scripts lead to. -/
inductive Drafted : Authentication → Prop
  | blank : Drafted {}
  | edit {a : Authentication} {e : Edit} : Drafted a → e.Admissible → Drafted (a.edit e)

/-- The authentication sections that a builder makes. -/
def Built (a : Authentication) : Prop := Drafted a ∧ a.check = .ok a

/-- The authenticators are formed. -/
def Formed (a : Authentication) : Prop := a.authenticators.Formed

theorem check_eq_ok_iff {a b : Authentication} :
    a.check = .ok b ↔ a.validate = .ok () ∧ a = b := by
  simp [check, Checked.map_eq_ok_iff]

theorem formed_edit {a : Authentication} (h : a.Formed) {e : Edit} (he : e.Admissible) :
    (a.edit e).Formed := by
  cases e with
  | setRequestedClaims claims => simp only [edit]; split <;> exact h
  | addRequestedClaim claim => exact h
  | addRequestedClaims claims => exact h
  | setAuthenticators cs =>
    simp only [edit]
    split
    · exact h
    · exact ConnectorMap.formed_addMany ConnectorMap.formed_empty he
  | addAuthenticator c => exact ConnectorMap.formed_add h he
  | addAuthenticators cs => exact ConnectorMap.formed_addMany h he

theorem Drafted.formed {a : Authentication} (h : Drafted a) : a.Formed := by
  induction h with
  | blank => exact ConnectorMap.formed_empty
  | edit _ he ih => exact formed_edit ih he

theorem Built.valid {a : Authentication} (h : a.Built) : a.validate = .ok () :=
  (check_eq_ok_iff.mp h.2).1

theorem nonempty?_eq_some {a b : Authentication} (h : a.nonempty? = some b) :
    a = b ∧ b.isEmpty = false := by
  unfold nonempty? at h
  split at h
  · cases h
  · rename_i hempty
    cases h
    exact ⟨rfl, Bool.eq_false_iff.mpr hempty⟩

/-- An empty section and an absent one are the same section. -/
theorem getD_nonempty (a : Option Authentication) :
    (a.bind nonempty?).getD {} = a.getD {} := by
  cases a with
  | none => rfl
  | some s =>
    show s.nonempty?.getD {} = s
    unfold nonempty?
    split
    · rename_i hempty
      obtain ⟨hclaims, hauthenticators⟩ := Bool.and_eq_true_iff.mp hempty
      obtain ⟨claims, authenticators⟩ := s
      obtain rfl : claims = ∅ := Dict.isEmpty_iff.mp hclaims
      obtain rfl : authenticators = ∅ := Dict.isEmpty_iff.mp hauthenticators
      rfl
    · rfl

end Authentication

/-! ## Provisioning -/

namespace Provisioning

/-- The edit brings only claims and provisioners that a builder made. -/
def Edit.Admissible : Edit → Prop
  | .setClaims cs | .addClaims cs => ∀ c ∈ cs, c.Built
  | .addClaim c => c.Built
  | .setProvisioners cs | .addProvisioners cs => ∀ c ∈ cs, c.Built .provisioner
  | .addProvisioner c => c.Built .provisioner
  | _ => True

/-- The drafts that scripts lead to. -/
inductive Drafted : Provisioning → Prop
  | blank : Drafted {}
  | edit {p : Provisioning} {e : Edit} : Drafted p → e.Admissible → Drafted (p.edit e)

/-- The provisioning sections that a builder makes. -/
def Built (p : Provisioning) : Prop := Drafted p ∧ p.check = .ok p

/-- Every claim stands under its own URI, which is not blank. -/
def ClaimsFormed (claims : Dict String ProvisioningClaim) : Prop :=
  ∀ uri c, claims.find? uri = some c → uri = c.uri ∧ Text.isBlank c.uri = false

/-- The claims and the provisioners are formed. -/
structure Formed (p : Provisioning) : Prop where
  claims : ClaimsFormed p.claims
  provisioners : p.provisioners.Formed

theorem check_eq_ok_iff {p q : Provisioning} :
    p.check = .ok q ↔ p.validate = .ok () ∧ p = q := by
  simp [check, Checked.map_eq_ok_iff]

theorem claimsFormed_empty : ClaimsFormed ∅ := by
  intro uri c h
  cases h

theorem claimsFormed_putClaim {claims : Dict String ProvisioningClaim} (h : ClaimsFormed claims)
    {c : ProvisioningClaim} (hc : c.Built) : ClaimsFormed (putClaim claims c) := by
  intro uri d hd
  rw [putClaim, Dict.find?_insert] at hd
  split at hd
  · rename_i huri
    cases hd
    exact ⟨huri.symm, (ProvisioningClaim.check_eq_ok_iff.mp hc).1⟩
  · exact h uri d hd

theorem claimsFormed_putClaims {cs : List ProvisioningClaim}
    {claims : Dict String ProvisioningClaim} (h : ClaimsFormed claims) (hcs : ∀ c ∈ cs, c.Built) :
    ClaimsFormed (cs.foldl putClaim claims) := by
  induction cs generalizing claims with
  | nil => exact h
  | cons c cs ih =>
    exact ih (claimsFormed_putClaim h (hcs c (by simp))) fun d hd => hcs d (by simp [hd])

theorem formed_edit {p : Provisioning} (h : p.Formed) {e : Edit} (he : e.Admissible) :
    (p.edit e).Formed := by
  cases e with
  | setJitProviders names => simp only [edit]; split <;> exact ⟨h.1, h.2⟩
  | addJitProvider name => exact ⟨h.1, h.2⟩
  | addJitProviders names => exact ⟨h.1, h.2⟩
  | setClaims claims =>
    simp only [edit]
    split
    · exact h
    · exact ⟨claimsFormed_putClaims claimsFormed_empty he, h.2⟩
  | addClaim claim => exact ⟨claimsFormed_putClaim h.1 he, h.2⟩
  | addClaims claims => exact ⟨claimsFormed_putClaims h.1 he, h.2⟩
  | setRoles roles => simp only [edit]; split <;> exact ⟨h.1, h.2⟩
  | addRole role => exact ⟨h.1, h.2⟩
  | addRoles roles => exact ⟨h.1, h.2⟩
  | setProvisioners cs =>
    simp only [edit]
    split
    · exact h
    · exact ⟨h.1, ConnectorMap.formed_addMany ConnectorMap.formed_empty he⟩
  | addProvisioner c => exact ⟨h.1, ConnectorMap.formed_add h.2 he⟩
  | addProvisioners cs => exact ⟨h.1, ConnectorMap.formed_addMany h.2 he⟩

theorem formed_empty : Formed {} := ⟨claimsFormed_empty, ConnectorMap.formed_empty⟩

theorem Drafted.formed {p : Provisioning} (h : Drafted p) : p.Formed := by
  induction h with
  | blank => exact formed_empty
  | edit _ he ih => exact formed_edit ih he

theorem Built.valid {p : Provisioning} (h : p.Built) : p.validate = .ok () :=
  (check_eq_ok_iff.mp h.2).1

end Provisioning

/-! ## Metadata and updates -/

/-- The metadata that a builder makes. A draft of metadata is any value at all. -/
def Metadata.Built (m : Metadata) : Prop := m.check = .ok m

theorem Metadata.check_eq_ok_iff {m n : Metadata} :
    m.check = .ok n ↔ m.validate = .ok () ∧ m = n := by
  simp [check, Checked.map_eq_ok_iff]

theorem Metadata.Built.valid {m : Metadata} (h : m.Built) : m.validate = .ok () :=
  (check_eq_ok_iff.mp h).1

/-- The updates whose content builders make. Properties to merge are any map. -/
def SectionUpdate.Built : SectionUpdate → Prop
  | .metadata m => m.Built
  | .authentication a => a.Built
  | .provisioning p => p.Built
  | .properties _ => True

theorem SectionUpdate.Built.valid {s : SectionUpdate} (h : s.Built) : s.validate = .ok () := by
  cases s with
  | metadata m => exact Metadata.Built.valid h
  | authentication a => exact Authentication.Built.valid h
  | provisioning p => exact Provisioning.Built.valid h
  | properties delta => rfl

/-! ## Identity providers -/

namespace IdentityProvider

/-- The edit brings only sections and connectors that builders made. -/
def Draft.Edit.Admissible : Draft.Edit → Prop
  | .setMetadata m => m.Built
  | .setAuthentication a => a.Built
  | .editAuthentication e => e.Admissible
  | .setProvisioning p => p.Built
  | .editProvisioning e => e.Admissible
  | _ => True

/-- A draft or a provider. -/
inductive Stage where
  | draft (d : Draft)
  | provider (p : IdentityProvider)

/-- The drafts and providers that scripts lead to, where a provider may be updated and turned into
a draft again. -/
inductive Made : Stage → Prop
  | resident : Made (.draft .resident)
  | federated (name : String) : Made (.draft (.federated name))
  | named (name : String) : Made (.draft (.named name))
  | edit {d : Draft} {e : Draft.Edit} : Made (.draft d) → e.Admissible → Made (.draft (d.edit e))
  | build {d : Draft} {p : IdentityProvider} :
      Made (.draft d) → d.build = .ok p → Made (.provider p)
  | withId {p : IdentityProvider} (id : ProviderId) :
      Made (.provider p) → Made (.provider (p.withId id))
  | withEnabled {p : IdentityProvider} (enabled : Bool) :
      Made (.provider p) → Made (.provider (p.withEnabled enabled))
  | withSection {p q : IdentityProvider} {s : SectionUpdate} :
      Made (.provider p) → s.Built → p.withSection s = .ok q → Made (.provider q)
  | toDraft {p : IdentityProvider} : Made (.provider p) → Made (.draft p.toDraft)

/-- The identity providers that builders make. -/
def Built (p : IdentityProvider) : Prop := Made (.provider p)

/-- What edits preserve in a draft. -/
structure Draft.Formed (d : Draft) : Prop where
  authentication : ∀ a, d.authentication = some a → a.Formed
  provisioning : d.provisioning.Formed
  properties : d.properties.Kept

/-- The provider is valid and formed, and has no empty authentication section. -/
structure Sound (p : IdentityProvider) : Prop where
  valid : p.validate = .ok ()
  authentication : ∀ a, p.authentication = some a → a.Formed ∧ a.isEmpty = false
  provisioning : p.provisioning.Formed
  properties : p.properties.Kept

theorem Draft.formed_edit {d : Draft} (h : d.Formed) {e : Edit} (he : e.Admissible) :
    (d.edit e).Formed := by
  cases e with
  | setEnabled enabled => exact ⟨h.1, h.2, h.3⟩
  | setMetadata metadata => exact ⟨h.1, h.2, h.3⟩
  | editMetadata e => exact ⟨h.1, h.2, h.3⟩
  | setHomeRealm realm => exact ⟨h.1, h.2, h.3⟩
  | setHub isHub => exact ⟨h.1, h.2, h.3⟩
  | setAuthentication a =>
    refine ⟨fun b hb => ?_, h.2, h.3⟩
    cases hb
    exact he.1.formed
  | editAuthentication e =>
    refine ⟨fun b hb => ?_, h.2, h.3⟩
    cases hb
    -- without a section the edit starts from an empty one
    refine Authentication.formed_edit ?_ he
    cases ha : d.authentication with
    | none => exact ConnectorMap.formed_empty
    | some a => exact h.1 a ha
  | setProvisioning p => exact ⟨h.1, he.1.formed, h.3⟩
  | editProvisioning e => exact ⟨h.1, Provisioning.formed_edit h.2 he, h.3⟩
  | setProperties properties => exact ⟨h.1, h.2, PropertyMap.kept_replace h.3 properties⟩
  | addProperty key value => exact ⟨h.1, h.2, PropertyMap.kept_put h.3 key value⟩
  | addProperties properties => exact ⟨h.1, h.2, PropertyMap.kept_absorb h.3 properties⟩

theorem Draft.formed_blank {d : Draft} (ha : d.authentication = none) (hp : d.provisioning = {})
    (hm : d.properties = ∅) : d.Formed :=
  ⟨fun _ h => (nomatch ha.symm.trans h), hp ▸ Provisioning.formed_empty,
    hm ▸ PropertyMap.kept_empty⟩

/-- A draft makes the variant that has its kind, its home realm and its hub flag. -/
theorem Draft.buildVariant_eq_ok_iff {d : Draft} {v : ProviderVariant} :
    d.buildVariant = .ok v ↔
      v.kind = d.kind ∧ v.homeRealm = d.homeRealm ∧ v.isHub = d.isHub := by
  obtain ⟨kind, enabled, metadata, authentication, provisioning, properties, homeRealm, isHub⟩ := d
  cases kind with
  | resident =>
    cases v <;> cases homeRealm <;> cases isHub <;>
      simp [buildVariant, ProviderVariant.kind, ProviderVariant.homeRealm, ProviderVariant.isHub]
  | federated =>
    cases v with
    | resident => simp [buildVariant, ProviderVariant.kind]
    | federated settings =>
      obtain ⟨realm, hub⟩ := settings
      simp [buildVariant, ProviderVariant.kind, ProviderVariant.homeRealm, ProviderVariant.isHub,
        eq_comm]

/-- What a draft that builds consists of, and what is built from it. -/
theorem Draft.build_eq_ok_iff {d : Draft} {p : IdentityProvider} :
    d.build = .ok p ↔
      ∃ variant, d.metadata.validate = .ok () ∧
        (∀ a, d.authentication = some a → a.validate = .ok ()) ∧
        d.provisioning.validate = .ok () ∧ d.buildVariant = .ok variant ∧
        p = { enabled := d.enabled, metadata := d.metadata,
              authentication := d.authentication.bind Authentication.nonempty?
              provisioning := d.provisioning, properties := d.properties, variant } ∧
        p.validate = .ok () := by
  -- an authentication section is checked if it is there, and dropped behind that if it is empty
  have hauth (b : Option Authentication) : buildAuthentication d.authentication = .ok b ↔
      (∀ a, d.authentication = some a → a.validate = .ok ()) ∧
        b = d.authentication.bind Authentication.nonempty? := by
    cases d.authentication with
    | none => simp [buildAuthentication, eq_comm]
    | some a =>
      cases hvalid : a.validate with
      | error err => simp [buildAuthentication, Authentication.check, hvalid, Except.map]
      | ok _ => simp [buildAuthentication, Authentication.check, hvalid, Except.map, eq_comm]
  simp only [build, Checked.bind_eq_ok_iff, Metadata.check_eq_ok_iff,
    Provisioning.check_eq_ok_iff, hauth]
  constructor
  · rintro ⟨-, ⟨hm, rfl⟩, -, ⟨ha, rfl⟩, -, ⟨hp, rfl⟩, variant, hv, ⟨⟩, hvalid, hpure⟩
    cases hpure
    exact ⟨variant, hm, ha, hp, hv, rfl, hvalid⟩
  · rintro ⟨variant, hm, ha, hp, hv, rfl, hvalid⟩
    exact ⟨_, ⟨hm, rfl⟩, _, ⟨ha, rfl⟩, _, ⟨hp, rfl⟩, variant, hv, (), hvalid, rfl⟩

theorem Draft.sound_build {d : Draft} (hd : d.Formed) {p : IdentityProvider}
    (h : d.build = .ok p) : p.Sound := by
  obtain ⟨variant, -, -, -, -, rfl, hvalid⟩ := build_eq_ok_iff.mp h
  refine ⟨hvalid, fun a ha => ?_, hd.provisioning, hd.properties⟩
  obtain ⟨b, hb, hnonempty⟩ := Option.bind_eq_some_iff.mp ha
  obtain ⟨rfl, hempty⟩ := Authentication.nonempty?_eq_some hnonempty
  exact ⟨hd.authentication b hb, hempty⟩

/-- A section update keeps a provider sound. -/
theorem Sound.withSection {p q : IdentityProvider} {s : SectionUpdate} (hp : p.Sound)
    (hs : s.Built) (h : p.withSection s = .ok q) : q.Sound := by
  -- what is checked of the other sections is known already, and carries over
  obtain ⟨hm, hname, ha, hprov, hvariant⟩ := validate_ok_iff.mp hp.valid
  cases s with
  | metadata m =>
    obtain ⟨hcheck, rfl⟩ := Checked.map_eq_ok_iff.mp h
    obtain ⟨hvalid, hkind⟩ := ProviderKind.checkMetadata_ok_iff.mp hcheck
    exact ⟨validate_ok_iff.mpr ⟨hvalid, hkind, ha, hprov, hvariant⟩, hp.authentication,
      hp.provisioning, hp.properties⟩
  | authentication a =>
    obtain ⟨hvalid, rfl⟩ := Checked.map_eq_ok_iff.mp h
    refine ⟨validate_ok_iff.mpr ⟨hm, hname, fun b hb => ?_, hprov, hvariant⟩, fun b hb => ?_,
      hp.provisioning, hp.properties⟩
    · obtain ⟨rfl, -⟩ := Authentication.nonempty?_eq_some hb
      exact hvalid
    · obtain ⟨rfl, hempty⟩ := Authentication.nonempty?_eq_some hb
      exact ⟨Authentication.Drafted.formed hs.1, hempty⟩
  | provisioning s =>
    obtain ⟨hvalid, rfl⟩ := Checked.map_eq_ok_iff.mp h
    exact ⟨validate_ok_iff.mpr ⟨hm, hname, ha, hvalid, hvariant⟩, hp.authentication,
      Provisioning.Drafted.formed hs.1, hp.properties⟩
  | properties delta =>
    cases h
    exact ⟨validate_ok_iff.mpr ⟨hm, hname, ha, hprov, hvariant⟩, hp.authentication,
      hp.provisioning, PropertyMap.kept_absorb hp.properties delta⟩

theorem Sound.withId {p : IdentityProvider} (hp : p.Sound) (id : ProviderId) :
    (p.withId id).Sound := ⟨hp.valid, hp.authentication, hp.provisioning, hp.properties⟩

theorem Sound.withEnabled {p : IdentityProvider} (hp : p.Sound) (enabled : Bool) :
    (p.withEnabled enabled).Sound := ⟨hp.valid, hp.authentication, hp.provisioning, hp.properties⟩

/-- What holds of a draft or a provider that was made. -/
def Stage.Invariant : Stage → Prop
  | .draft d => d.Formed
  | .provider p => p.Sound

theorem Made.invariant {s : Stage} (h : Made s) : s.Invariant := by
  induction h with
  | resident => exact Draft.formed_blank rfl rfl rfl
  | federated name => exact Draft.formed_blank rfl rfl rfl
  | named name => exact Draft.formed_blank rfl rfl rfl
  | edit _ he ih => exact Draft.formed_edit ih he
  | build _ hbuild ih => exact Draft.sound_build ih hbuild
  | withId id _ ih => exact Sound.withId ih id
  | withEnabled enabled _ ih => exact Sound.withEnabled ih enabled
  | withSection _ hs hq ih => exact Sound.withSection ih hs hq
  | toDraft _ ih => exact ⟨fun a ha => (ih.authentication a ha).1, ih.provisioning, ih.properties⟩

/-- **What builders make is sound.** -/
theorem Built.sound {p : IdentityProvider} (h : p.Built) : p.Sound := Made.invariant h

/-- The variant of a draft is that of the provider it comes from. -/
theorem buildVariant_toDraft (p : IdentityProvider) : p.toDraft.buildVariant = .ok p.variant := by
  obtain ⟨id, enabled, metadata, authentication, provisioning, properties, variant⟩ := p
  cases variant with
  | resident => rfl
  | federated settings => rfl

/-- **A sound provider is rebuilt as it is**, except that it loses its identifier. -/
theorem Sound.build_toDraft {p : IdentityProvider} (h : p.Sound) :
    p.toDraft.build = .ok { p with id := none } := by
  obtain ⟨hmetadata, -, hauthentication, hprovisioning, -⟩ := validate_ok_iff.mp h.valid
  have hnonempty : p.authentication.bind Authentication.nonempty? = p.authentication := by
    cases ha : p.authentication with
    | none => rfl
    | some a => simp [Authentication.nonempty?, (h.authentication a ha).2]
  refine Draft.build_eq_ok_iff.mpr ⟨p.variant, hmetadata, hauthentication, hprovisioning,
    buildVariant_toDraft p, ?_, h.valid⟩
  simp only [toDraft, hnonempty]

end IdentityProvider

/-! ## Service providers -/

namespace ServiceProvider

/-- The service providers that builders make. A draft is any value at all. -/
inductive Built : ServiceProvider → Prop
  | build {d p : ServiceProvider} : d.build = .ok p → Built p
  | withId {p : ServiceProvider} (id : ServiceProviderId) : Built p → Built (p.withId id)
  | withEnabled {p : ServiceProvider} (enabled : Bool) : Built p → Built (p.withEnabled enabled)

theorem Built.valid {p : ServiceProvider} (h : p.Built) : p.validate = .ok () := by
  induction h with
  | build h =>
    obtain ⟨hvalid, rfl⟩ := Checked.map_eq_ok_iff.mp h
    exact hvalid
  | withId id _ ih => exact ih
  | withEnabled enabled _ ih => exact ih

end ServiceProvider

/-! ## A provider that builders make -/

/-- An authenticator. -/
def Connector.totp : Connector :=
  ⟨"totp", true, PropertyMap.put ∅ "digits" (.ofJson (.string "six"))⟩

theorem Connector.built_totp : totp.Built .authenticator :=
  ⟨"totp", [.setEnabled true, .addProperty "digits" (.ofJson (.string "six"))],
    by decide +kernel⟩

/-- An authentication section with nothing but the authenticator. -/
def Authentication.byTotp : Authentication := { authenticators := ConnectorMap.ofList [.totp] }

theorem Authentication.built_byTotp : byTotp.Built :=
  ⟨.edit (e := .addAuthenticator .totp) .blank Connector.built_totp, by decide +kernel⟩

/-- A provider with the section and a property of its own. -/
def IdentityProvider.acme : IdentityProvider where
  metadata := { name := "acme" }
  authentication := some .byTotp
  properties := PropertyMap.put ∅ "tier" (.ofJson (.string "gold"))
  variant := .federated {}

theorem IdentityProvider.built_acme : acme.Built :=
  .build
    (.edit (e := .addProperty "tier" (.ofJson (.string "gold")))
      (.edit (e := .setAuthentication .byTotp) (.federated "acme") Authentication.built_byTotp)
      trivial)
    (by decide +kernel)

/-- A federated provider with nothing but a name. -/
def IdentityProvider.bare (name : String) : IdentityProvider :=
  { metadata := { name }, variant := .federated {} }

theorem IdentityProvider.built_bare {name : String}
    (h : (Draft.federated name).build = .ok (bare name)) : (bare name).Built :=
  .build (.federated name) h

theorem Id.inRange_nth (k : UInt8) :
    0 < k.toNat + 1 ∧ k.toNat + 1 < Word.unsignedLimit := by
  have hk : k.toNat < 256 := k.toNat_lt
  simp only [Word.unsignedLimit]
  omega

/-- The identifiers that are given out first. -/
def Id.nth {e : Entity} (k : UInt8) : Id e := ⟨k.toNat + 1, Id.inRange_nth k⟩

end FederationRegistry
