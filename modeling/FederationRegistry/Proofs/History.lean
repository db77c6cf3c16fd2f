import FederationRegistry.Proofs.Service.Consistency

/-!
# Providers through their history

A provider begins as a blank draft, is edited by a script and built. From then on it goes through
*steps*: it is given an identifier, switched, one of its sections is updated, or it is turned into
a draft again, edited by another script and rebuilt.

**Theorem** (`orderly_after_steps`). Whatever succeeds of this leaves an *orderly* provider: it is
valid, its name fits its kind, nothing in it is blank, misplaced, empty or null that must not be,
and it can be rebuilt as it is.

`validate` by itself does not say so: it looks neither at the names of provisioners and claims nor
at properties. These rest on what every edit preserves (`Made.invariant`). That a rebuilt provider
is the same rests on validity: a valid section passes its builder unchanged, and the kind of a
draft with its realm and hub flag determines the variant that they came from.
-/

namespace FederationRegistry

/-- Connectors that are formed stand under their names, which are not blank. -/
theorem ConnectorMap.Formed.named {m : ConnectorMap} (h : m.Formed) {name : String} {c : Connector}
    (hc : m.find? name = some c) : name = c.name ∧ Text.isBlank name = false := by
  obtain ⟨rfl, hblank, -⟩ := h name c hc
  exact ⟨rfl, hblank⟩

namespace IdentityProvider

/-! ## Histories -/

/-- How a draft begins. -/
inductive Start where
  | resident
  | federated (name : String)
  | named (name : String)

/-- The blank draft. -/
def Start.draft : Start → Draft
  | .resident => .resident
  | .federated name => .federated name
  | .named name => .named name

/-- A step in the history of a provider. -/
inductive Step where
  | withId (id : ProviderId)
  | withEnabled (enabled : Bool)
  | withSection (s : SectionUpdate)
  | rebuild (script : List Draft.Edit)

/-- The step brings only what builders made. -/
def Step.Admissible : Step → Prop
  | .withId _ | .withEnabled _ => True
  | .withSection s => s.Built
  | .rebuild script => ∀ e ∈ script, e.Admissible

/-- The provider after a step. -/
def step (p : IdentityProvider) : Step → Checked IdentityProvider
  | .withId id => .ok (p.withId id)
  | .withEnabled enabled => .ok (p.withEnabled enabled)
  | .withSection s => p.withSection s
  | .rebuild script => (p.toDraft.edits script).build

/-- The provider after steps, of which none may fail. -/
def stepAll (p : IdentityProvider) (steps : List Step) : Checked IdentityProvider :=
  steps.foldlM step p

theorem Made.start (start : Start) : Made (.draft start.draft) := by
  cases start with
  | resident => exact .resident
  | federated name => exact .federated name
  | named name => exact .named name

theorem Made.edits {d : Draft} (h : Made (.draft d)) {script : List Draft.Edit}
    (hscript : ∀ e ∈ script, e.Admissible) : Made (.draft (d.edits script)) := by
  induction script generalizing d with
  | nil => exact h
  | cons e script ih =>
    exact ih (.edit h (hscript e (by simp))) fun e he => hscript e (by simp [he])

theorem Built.step {p q : IdentityProvider} (hp : p.Built) {s : Step} (hs : s.Admissible)
    (h : p.step s = .ok q) : q.Built := by
  cases s with
  | withId id =>
    cases h
    exact .withId id hp
  | withEnabled enabled =>
    cases h
    exact .withEnabled enabled hp
  | withSection s => exact .withSection hp hs h
  | rebuild script => exact .build (Made.edits (.toDraft hp) hs) h

theorem Built.stepAll {p q : IdentityProvider} (hp : p.Built) {steps : List Step}
    (hsteps : ∀ s ∈ steps, s.Admissible) (h : p.stepAll steps = .ok q) : q.Built := by
  induction steps generalizing p with
  | nil =>
    cases h
    exact hp
  | cons s steps ih =>
    obtain ⟨p', hp', h⟩ := Checked.bind_eq_ok_iff.mp (List.foldlM_cons.symm.trans h)
    exact ih (hp.step (hsteps s (by simp)) hp') (fun s hs => hsteps s (by simp [hs])) h

/-! ## Orderly providers -/

/-- A provider that is valid, in which everything stands in its place, and which can be rebuilt. -/
structure Orderly (p : IdentityProvider) : Prop where
  valid : p.validate = .ok ()
  reserved : p.name = residentName ↔ p.kind = .resident
  authentication : ∀ a, p.authentication = some a → a.isEmpty = false
  authenticators : ∀ a, p.authentication = some a →
    ∀ name c, a.authenticators.find? name = some c → name = c.name ∧ Text.isBlank name = false
  provisioners : ∀ name c, p.provisioning.provisioners.find? name = some c →
    name = c.name ∧ Text.isBlank name = false
  claims : ∀ uri c, p.provisioning.claims.find? uri = some c →
    uri = c.uri ∧ Text.isBlank uri = false
  properties : ∀ scope, ∀ m ∈ p.propertiesIn scope, ∀ key v, m.find? key = some v →
    Text.isBlank key = false ∧ v.isNull = false
  rebuilt : p.toDraft.build = .ok { p with id := none }

theorem Sound.orderly {p : IdentityProvider} (h : p.Sound) : p.Orderly where
  valid := h.valid
  reserved := (resident_iff h.valid).symm
  authentication a ha := (h.authentication a ha).2
  authenticators a ha _ _ hc := (h.authentication a ha).1.named hc
  provisioners _ _ hc := h.provisioning.provisioners.named hc
  claims uri c hc := by
    obtain ⟨rfl, hblank⟩ := h.provisioning.claims uri c hc
    exact ⟨rfl, hblank⟩
  properties scope m hm key v hv := by
    have hsettable := PropertyMap.kept_iff.mp (h.keptIn hm) key v hv
    simpa [PropertyMap.settable] using hsettable
  rebuilt := h.build_toDraft

/-- **Providers stay orderly.** A provider built from any script, after any steps that
succeed. -/
theorem orderly_after_steps {start : Start} {script : List Draft.Edit} {steps : List Step}
    {p q : IdentityProvider} (hscript : ∀ e ∈ script, e.Admissible)
    (hsteps : ∀ s ∈ steps, s.Admissible) (hp : (start.draft.edits script).build = .ok p)
    (hq : p.stepAll steps = .ok q) : q.Orderly := by
  have hbuilt : p.Built := .build (Made.edits (Made.start start) hscript) hp
  exact (hbuilt.stepAll hsteps hq).sound.orderly

/-- A script that makes `acme`. -/
def acmeScript : List Draft.Edit :=
  [.setAuthentication .byTotp, .addProperty "tier" (.ofJson (.string "gold"))]

theorem admissible_acmeScript : ∀ e ∈ acmeScript, e.Admissible := by
  simp [acmeScript, Draft.Edit.Admissible, Authentication.built_byTotp]

/-- The provider is stored, renamed and rebuilt as a hub without authentication. -/
def zenithSteps : List Step :=
  [.withId (Id.nth 0), .withSection (.metadata { name := "zenith" }),
    .withSection (.authentication {}), .rebuild [.setHub true]]

theorem admissible_zenithSteps : ∀ s ∈ zenithSteps, s.Admissible := by
  have hmetadata : Metadata.Built { name := "zenith" } := by
    unfold Metadata.Built
    decide +kernel
  have hnone : (SectionUpdate.authentication {}).Built := ⟨.blank, by decide +kernel⟩
  simpa [zenithSteps, Step.Admissible, Draft.Edit.Admissible] using ⟨hmetadata, hnone⟩

/-- What becomes of `acme`. -/
def zenith : IdentityProvider where
  metadata := { name := "zenith" }
  properties := acme.properties
  variant := .federated { isHub := true }

theorem orderly_zenith : ((Start.federated "acme").draft.edits acmeScript).build = .ok acme ∧
    acme.stepAll zenithSteps = .ok zenith ∧ zenith.Orderly :=
  have hbuild : ((Start.federated "acme").draft.edits acmeScript).build = .ok acme := by
    decide +kernel
  have hsteps : acme.stepAll zenithSteps = .ok zenith := by decide +kernel
  ⟨hbuild, hsteps,
    orderly_after_steps admissible_acmeScript admissible_zenithSteps hbuild hsteps⟩

end IdentityProvider

end FederationRegistry
