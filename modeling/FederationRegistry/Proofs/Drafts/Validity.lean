import FederationRegistry.Proofs.Drafts.Parts
import FederationRegistry.Proofs.History
import FederationRegistry.Proofs.Rules

/-!
# Which drafts can be built

**Theorem (`Draft.built_or_first_broken`).** A draft that a script leads to is built exactly if it
is `Valid` for the kind it was started as, and fails otherwise with the first rule it breaks in
the order of `rules`: those of the metadata (name, certificates, dialect, role mappings), the
requested claims, the providers and the roles of provisioning, then what the kind asks of home
realm, hub flag and name, and last that a home realm is not blank.

Three validators take part. The builders of the sections check these first, the draft checks its
kind against the rest, and `IdentityProvider.validate` goes through all of it again. Of that last
round only the name and the home realm are new. That connectors stand under their names is checked
as well, but no script can break it (`Draft.Formed`), so it is no rule here.
-/

namespace FederationRegistry

/-! ## Rules -/

/-- The rules of metadata. -/
def Metadata.rules (m : Metadata) : List Rule :=
  .text .metadataName m.name ::
    (m.certificates.entries.flatMap (fun c =>
        [.text .certificateAlias c.1, .text .certificateThumbprint c.2]) ++
      (m.claimDialect.toList.map (fun d => .referenceId .dialectId d.id) ++
        m.roleMappings.entries.flatMap fun r =>
          [.referenceId .localRoleId r.1, .text .externalRole r.2]))

/-- The rules of an authentication section. -/
def Authentication.rules (a : Authentication) : List Rule :=
  a.requestedClaims.keys.map (.text .requestedClaim)

/-- The rules of a provisioning section. -/
def Provisioning.rules (p : Provisioning) : List Rule :=
  p.jitProviders.keys.map (.text .jitProvider) ++ p.roles.keys.map (.text .provisioningRole)

/-- What is reported of a provider of this kind whose name stands for the other. -/
def ProviderKind.misnamed : ProviderKind → ModelError
  | .resident => .residentMisnamed
  | .federated => .nameReserved

namespace Rule

/-- The reserved name goes with the resident kind. -/
def reserved (kind : ProviderKind) (name : String) : Rule :=
  ⟨name = residentName ↔ kind = .resident, kind.misnamed⟩

/-- A resident provider has no home realm. -/
def noHomeRealm (kind : ProviderKind) (realm : Option String) : Rule :=
  ⟨kind = .resident → realm = none, .residentWithHomeRealm⟩

/-- A resident provider is no hub. -/
def noHub (kind : ProviderKind) (isHub : Bool) : Rule :=
  ⟨kind = .resident → isHub = false, .residentAsHub⟩

/-- A home realm is not blank. -/
def homeRealm (realm : Option String) : Rule :=
  ⟨∀ r, realm = some r → Text.isBlank r = false, .blank .homeRealm⟩

end Rule

namespace IdentityProvider

namespace Draft

/-- The rules of a draft that was started as a provider of this kind. -/
def rules (kind : ProviderKind) (d : Draft) : List Rule :=
  d.metadata.rules ++
    (d.authentication.toList.flatMap Authentication.rules ++
      (d.provisioning.rules ++
        ([.noHomeRealm kind d.homeRealm, .noHub kind d.isHub] ++
          [.reserved kind d.metadata.name, .homeRealm d.homeRealm])))

/-- The draft is good for a provider of this kind. -/
structure Valid (kind : ProviderKind) (d : Draft) : Prop where
  name : Text.isBlank d.metadata.name = false
  certificates : ∀ c ∈ d.metadata.certificates.entries,
    Text.isBlank c.1 = false ∧ Text.isBlank c.2 = false
  dialect : ∀ dialect, d.metadata.claimDialect = some dialect → dialect.id ≤ maxReferenceId
  roleMappings : ∀ r ∈ d.metadata.roleMappings.entries,
    r.1 ≤ maxReferenceId ∧ Text.isBlank r.2 = false
  requestedClaims : ∀ a, d.authentication = some a →
    ∀ claim ∈ a.requestedClaims.keys, Text.isBlank claim = false
  jitProviders : ∀ name ∈ d.provisioning.jitProviders.keys, Text.isBlank name = false
  roles : ∀ role ∈ d.provisioning.roles.keys, Text.isBlank role = false
  reserved : d.metadata.name = residentName ↔ kind = .resident
  resident : kind = .resident → d.homeRealm = none ∧ d.isHub = false
  homeRealm : kind = .federated →
    ∀ realm, d.homeRealm = some realm → Text.isBlank realm = false

end Draft

end IdentityProvider

/-! ## Sections -/

theorem Metadata.enforces_validate (m : Metadata) : Enforces m.validate m.rules := by
  have hcertificate : ∀ c ∈ m.certificates.entries, Enforces (checkCertificate c)
      [.text .certificateAlias c.1, .text .certificateThumbprint c.2] := by
    intro c _
    exact (Enforces.requireText .certificateAlias c.1).bind fun _ _ =>
      .requireText .certificateThumbprint c.2
  have hdialect : Enforces (checkDialect m.claimDialect)
      (m.claimDialect.toList.map fun d => .referenceId .dialectId d.id) := by
    cases m.claimDialect with
    | none => exact .of_ok rfl
    | some d => exact .requireReferenceId .dialectId d.id
  have hmapping : ∀ r ∈ m.roleMappings.entries, Enforces (checkRoleMapping r)
      [.referenceId .localRoleId r.1, .text .externalRole r.2] := by
    intro r _
    exact (Enforces.requireReferenceId .localRoleId r.1).bind fun _ _ =>
      .requireText .externalRole r.2
  exact (Enforces.requireText .metadataName m.name).bind fun _ _ =>
    (Enforces.requireAll hcertificate).bind fun _ _ =>
      hdialect.bind fun _ _ => Enforces.requireAll hmapping

/-- Connectors that stand under their names pass. -/
theorem ConnectorMap.Formed.checkPlaces {m : ConnectorMap} (h : m.Formed) (kind : ConnectorKind) :
    requireAll (ConnectorMap.checkPlace kind) m.entries = .ok () := by
  rw [requireAll_ok_iff]
  intro e he
  exact ConnectorMap.checkPlace_ok_iff.mpr (h e.1 e.2 (Dict.mem_entries_iff.mp he)).1

theorem Authentication.Formed.enforces_validate {a : Authentication} (h : a.Formed) :
    Enforces a.validate a.rules := by
  have hnames : requireAll checkAuthenticator a.authenticators.entries = .ok () := by
    rw [requireAll_ok_iff]
    intro e he
    obtain ⟨hplace, hblank⟩ := ConnectorMap.Formed.named h (Dict.mem_entries_iff.mp he)
    rw [checkAuthenticator, Checked.then_eq_ok_iff]
    exact ⟨requireText_ok_iff.mpr hblank, ConnectorMap.checkPlace_ok_iff.mpr hplace⟩
  have h := (Enforces.requireTexts .requestedClaim a.requestedClaims.keys).bind fun _ _ =>
    Enforces.of_ok hnames
  rwa [List.append_nil] at h

theorem Provisioning.Formed.enforces_validate {p : Provisioning} (h : p.Formed) :
    Enforces p.validate p.rules := by
  have hroles := (Enforces.requireTexts .provisioningRole p.roles.keys).bind fun _ _ =>
    Enforces.of_ok (h.provisioners.checkPlaces .provisioner)
  rw [List.append_nil] at hroles
  exact (Enforces.requireTexts .jitProvider p.jitProviders.keys).bind fun _ _ => hroles

/-! ## Kinds -/

theorem ProviderKind.enforces_checkName (kind : ProviderKind) (name : String) :
    Enforces (kind.checkName name) [.reserved kind name] := by
  have hcheck : kind.checkName name =
      if ¬ofName name = kind then .error kind.misnamed else .ok () := by
    unfold checkName
    cases kind <;> cases ofName name <;> rfl
  have hbroken : ¬ofName name = kind ↔ ¬(Rule.reserved kind name).holds := by
    cases kind <;> simp [ofName, Rule.reserved]
  rw [hcheck]
  exact Enforces.guard (r := .reserved kind name) hbroken fun _ => .of_ok rfl

theorem ProviderVariant.enforces_validate (v : ProviderVariant) :
    Enforces v.validate [.homeRealm v.homeRealm] := by
  unfold validate
  cases v.homeRealm with
  | none => exact .of_holds rfl (by simp [Rule.homeRealm])
  | some realm =>
    exact Enforces.guard (r := .homeRealm (some realm)) (by simp [Rule.homeRealm])
      fun _ => .of_ok rfl

namespace IdentityProvider

namespace Draft

theorem enforces_buildAuthentication {d : Draft} (h : d.Formed) :
    Enforces (buildAuthentication d.authentication)
      (d.authentication.toList.flatMap Authentication.rules) := by
  cases ha : d.authentication with
  | none => exact .of_ok rfl
  | some a =>
    have hcheck := ((h.authentication a ha).enforces_validate.map fun _ => a).map
      Authentication.nonempty?
    rw [← List.append_nil a.rules] at hcheck
    exact hcheck

theorem checkAuthentication_of_build {a b : Option Authentication}
    (h : buildAuthentication a = .ok b) : checkAuthentication b = .ok () := by
  rw [checkAuthentication_ok_iff]
  cases a with
  | none =>
    cases h
    simp
  | some a =>
    obtain ⟨c, hc, hb⟩ := except_map_eq_ok_iff.mp h
    obtain ⟨hvalid, rfl⟩ := Authentication.check_eq_ok_iff.mp hc
    intro s hs
    obtain ⟨rfl, -⟩ := Authentication.nonempty?_eq_some (hb.trans hs)
    exact hvalid

theorem enforces_buildVariant (d : Draft) :
    Enforces d.buildVariant [.noHomeRealm d.kind d.homeRealm, .noHub d.kind d.isHub] := by
  unfold buildVariant
  cases d.kind with
  | resident =>
    have hhub : Enforces
        (if d.isHub = true then .error .residentAsHub else .ok ProviderVariant.resident)
        [.noHub .resident d.isHub] :=
      Enforces.guard (r := .noHub .resident d.isHub) (by simp [Rule.noHub]) fun _ => .of_ok rfl
    exact Enforces.guard (r := .noHomeRealm .resident d.homeRealm)
      (by simp [Rule.noHomeRealm, Option.isSome_iff_ne_none]) fun _ => hhub
  | federated => exact .of_holds rfl (by simp [Rule.noHomeRealm, Rule.noHub])

end Draft

/-- Of a provider whose sections are valid, the name and the home realm are left to check. -/
theorem enforces_validate {p : IdentityProvider} (hm : p.metadata.validate = .ok ())
    (ha : checkAuthentication p.authentication = .ok ()) (hp : p.provisioning.validate = .ok ()) :
    Enforces p.validate [.reserved p.kind p.name, .homeRealm p.variant.homeRealm] :=
  (Enforces.of_ok hm).bind fun _ _ => (p.kind.enforces_checkName p.name).bind fun _ _ =>
    (Enforces.of_ok ha).bind fun _ _ => (Enforces.of_ok hp).bind fun _ _ =>
      p.variant.enforces_validate

namespace Draft

/-- **A draft that is formed is built if it keeps all rules of its kind.** -/
theorem Formed.enforces_build {d : Draft} (h : d.Formed) : Enforces d.build (d.rules d.kind) := by
  refine (d.metadata.enforces_validate.map fun _ => d.metadata).bind fun m hm => ?_
  refine (enforces_buildAuthentication h).bind fun a ha => ?_
  refine (h.provisioning.enforces_validate.map fun _ => d.provisioning).bind fun s hs => ?_
  refine d.enforces_buildVariant.bind fun v hv => ?_
  obtain ⟨hmetadata, rfl⟩ := Metadata.check_eq_ok_iff.mp hm
  obtain ⟨hprovisioning, rfl⟩ := Provisioning.check_eq_ok_iff.mp hs
  obtain ⟨hkind, hrealm, -⟩ := buildVariant_eq_ok_iff.mp hv
  rw [← hkind, ← hrealm]
  -- The provider repeats the checks that its sections have passed.
  let p : IdentityProvider :=
    { enabled := d.enabled, metadata := d.metadata, authentication := a
      provisioning := d.provisioning, properties := d.properties, variant := v }
  have hvalidate := enforces_validate (p := p) hmetadata (checkAuthentication_of_build ha)
    hprovisioning
  exact hvalidate.bind fun _ _ => .of_ok rfl

theorem forall_rules_iff {kind : ProviderKind} {d : Draft} :
    (∀ r ∈ d.rules kind, r.holds) ↔ d.Valid kind := by
  have hmetadata : (∀ r ∈ d.metadata.rules, r.holds) ↔
      Text.isBlank d.metadata.name = false ∧
      (∀ c ∈ d.metadata.certificates.entries, Text.isBlank c.1 = false ∧ Text.isBlank c.2 = false) ∧
      (∀ dialect, d.metadata.claimDialect = some dialect → dialect.id ≤ maxReferenceId) ∧
      ∀ r ∈ d.metadata.roleMappings.entries, r.1 ≤ maxReferenceId ∧ Text.isBlank r.2 = false := by
    rw [← d.metadata.enforces_validate.ok_iff, Metadata.validate_ok_iff]
  have hauthentication : (∀ r ∈ d.authentication.toList.flatMap Authentication.rules, r.holds) ↔
      ∀ a, d.authentication = some a →
        ∀ claim ∈ a.requestedClaims.keys, Text.isBlank claim = false := by
    simp only [List.forall_mem_flatMap, Option.mem_toList, Authentication.rules,
      List.forall_mem_map, Rule.text]
  have hprovisioning : (∀ r ∈ d.provisioning.rules, r.holds) ↔
      (∀ name ∈ d.provisioning.jitProviders.keys, Text.isBlank name = false) ∧
        ∀ role ∈ d.provisioning.roles.keys, Text.isBlank role = false := by
    simp only [Provisioning.rules, List.forall_mem_append, List.forall_mem_map, Rule.text]
  have hkind : (∀ r ∈ [Rule.noHomeRealm kind d.homeRealm, .noHub kind d.isHub], r.holds) ↔
      kind = .resident → d.homeRealm = none ∧ d.isHub = false := by
    simp [Rule.noHomeRealm, Rule.noHub, imp_and]
  -- the rules are those of the sections one behind the other
  rw [rules, List.forall_mem_append, List.forall_mem_append, List.forall_mem_append,
    List.forall_mem_append, hmetadata, hauthentication, hprovisioning, hkind,
    List.forall_mem_cons, List.forall_mem_singleton]
  constructor
  · rintro ⟨⟨hname, hcertificates, hdialect, hmappings⟩, hclaims, ⟨hjit, hroles⟩, hresident,
      hreserved, hrealm⟩
    exact ⟨hname, hcertificates, hdialect, hmappings, hclaims, hjit, hroles, hreserved, hresident,
      fun _ => hrealm⟩
  · intro h
    refine ⟨⟨h.name, h.certificates, h.dialect, h.roleMappings⟩, h.requestedClaims,
      ⟨h.jitProviders, h.roles⟩, h.resident, h.reserved, ?_⟩
    -- the realm of a resident provider is absent, so its own rule holds of it
    cases kind with
    | resident => simp [Rule.homeRealm, (h.resident rfl).1]
    | federated => exact h.homeRealm rfl

/-! ## Scripts -/

theorem kind_edits (d : Draft) (script : List Edit) : (d.edits script).kind = d.kind := by
  induction script generalizing d with
  | nil => rfl
  | cons e script ih => exact (ih (d.edit e)).trans (kind_edit d e)

end Draft

/-- The kind that a draft is started as. -/
def Start.kind : Start → ProviderKind
  | .resident => .resident
  | .federated _ => .federated
  | .named name => .ofName name

theorem Start.kind_draft (start : Start) : start.draft.kind = start.kind := by
  cases start <;> rfl

namespace Draft

/-- **Drafts are built or report the first broken rule.** The rules are about what the script
leaves, and the kind is that of the start. -/
theorem built_or_first_broken (start : Start) {script : List Edit}
    (hscript : ∀ e ∈ script, e.Admissible) :
    ((∃ p, (start.draft.edits script).build = .ok p) ↔
      (start.draft.edits script).Valid start.kind) ∧
    ∀ err, (start.draft.edits script).build = .error err ↔
      FirstBroken ((start.draft.edits script).rules start.kind) err := by
  have hformed : (start.draft.edits script).Formed := (Made.edits (.start start) hscript).invariant
  have henforces := hformed.enforces_build
  rw [kind_edits, Start.kind_draft] at henforces
  exact ⟨henforces.passes.trans forall_rules_iff, henforces.reports⟩

/-- A script that no draft of the resident provider survives: the requested claim is blank, the
provider becomes a hub, and it is renamed. A blank alias does no harm. -/
def misfitScript : List Edit :=
  [.editMetadata (.setName "acme"), .editMetadata (.addCertificate "\t" "0a1b"), .setHub true,
    .setAuthentication .byTotp, .editAuthentication (.addRequestedClaim " ")]

theorem admissible_misfitScript : ∀ e ∈ misfitScript, e.Admissible := by
  simp [misfitScript, Edit.Admissible, Authentication.Edit.Admissible, Authentication.built_byTotp]

theorem built_or_first_broken_misfit :
    (Draft.resident.edits misfitScript).build = .error (.blank .requestedClaim) ∧
    FirstBroken ((Draft.resident.edits misfitScript).rules .resident) (.blank .requestedClaim) ∧
    ((Draft.federated "zenith").edits acmeScript).Valid .federated := by
  have hbuild : (Draft.resident.edits misfitScript).build = .error (.blank .requestedClaim) := by
    decide +kernel
  have hmade : ((Draft.federated "zenith").edits acmeScript).build =
      .ok { acme with metadata := { name := "zenith" } } := by
    decide +kernel
  have hbroken := ((built_or_first_broken .resident admissible_misfitScript).2
    (.blank .requestedClaim)).mp hbuild
  have hvalid := (built_or_first_broken (.federated "zenith") admissible_acmeScript).1.mp
    ⟨_, hmade⟩
  exact ⟨hbuild, hbroken, hvalid⟩

end Draft

end IdentityProvider

end FederationRegistry
