import FederationRegistry.Proofs.Dict
import FederationRegistry.Proofs.Rules
import FederationRegistry.ServiceProvider.Sections

/-!
# What valid sections of a service provider are

**Theorem (`Sections.valid_or_first_broken`).** `validate` accepts the sections that are `Valid`,
and reports of all others the first rule they break in the order of `rules`: the bindings, of each
its key, its type and that it repeats no earlier one, then the login steps, of each that it offers
something, its authenticators and its providers, then the targets of provisioning, the role claim
and the permissions.

The rules speak of positions: a binding is compared with those in front of it. The validator
instead carries a set of what it has met, so the induction is on the bindings left, with all the
others in front of them (`enforces_validateFrom`).
-/

namespace FederationRegistry

/-! ## Rules -/

namespace Rule

/-- A binding does not repeat an earlier one. -/
def unrepeated (earlier : List InboundBinding) (b : InboundBinding) : Rule :=
  ⟨∀ a ∈ earlier, a.identity ≠ b.identity, .duplicateBinding b.type b.key⟩

/-- A login step offers something. -/
def offering (s : LoginStep) : Rule :=
  ⟨s.localAuthenticators ≠ [] ∨ s.federatedProviders ≠ [], .emptyStep⟩

end Rule

/-- The rules of a binding that stands behind others. -/
def InboundBinding.rules (earlier : List InboundBinding) (b : InboundBinding) : List Rule :=
  [.text .inboundKey b.key, .text .inboundType b.type, .unrepeated earlier b]

/-- The rules of a login step. -/
def LoginStep.rules (s : LoginStep) : List Rule :=
  .offering s ::
    (s.localAuthenticators.map (fun a => .text .stepAuthenticatorName a.name) ++
      s.federatedProviders.map (.text .stepProvider))

namespace Sections

/-- The rules of the bindings, each of which is compared with those in front of it. -/
def bindingRules (bindings : List InboundBinding) : List Rule :=
  bindings.zipIdx.flatMap fun b => b.1.rules (bindings.take b.2)

/-- The rules of sections. -/
def rules (s : Sections) : List Rule :=
  bindingRules s.inbound ++
    (s.login.steps.flatMap LoginStep.rules ++
      (s.provisioning.providers.keys.map (.text .outboundProvider) ++
        (s.claims.roleClaim.toList.map (.text .roleClaim) ++
          s.permissions.permissions.keys.map (.text .permission))))

/-- Every binding has a key and a type, and no two have both in common; every login step offers
something, and all it offers has a name; provisioning targets, the role claim and permissions are
not blank. -/
structure Valid (s : Sections) : Prop where
  bindings : ∀ b ∈ s.inbound, Text.isBlank b.key = false ∧ Text.isBlank b.type = false
  distinct : (s.inbound.map fun b => (b.type, b.key)).Nodup
  steps : ∀ step ∈ s.login.steps,
    (step.localAuthenticators ≠ [] ∨ step.federatedProviders ≠ []) ∧
      (∀ a ∈ step.localAuthenticators, Text.isBlank a.name = false) ∧
      ∀ name ∈ step.federatedProviders, Text.isBlank name = false
  targets : ∀ name ∈ s.provisioning.providers.keys, Text.isBlank name = false
  roleClaim : ∀ uri, s.claims.roleClaim = some uri → Text.isBlank uri = false
  permissions : ∀ permission ∈ s.permissions.permissions.keys, Text.isBlank permission = false

end Sections

/-! ## Bindings -/

namespace InboundBinding

theorem enforces_validate (b : InboundBinding) :
    Enforces b.validate [.text .inboundKey b.key, .text .inboundType b.type] :=
  (Enforces.requireText .inboundKey b.key).bind fun _ _ => .requireText .inboundType b.type

/-- Bindings behind others, whose identities have been met. -/
theorem enforces_validateFrom {seen : KeySet (String × String)} {earlier bs : List InboundBinding}
    (hseen : ∀ i, seen.contains i = true ↔ ∃ a ∈ earlier, a.identity = i) :
    Enforces (validateFrom seen bs)
      ((bs.zipIdx earlier.length).flatMap fun b => b.1.rules ((earlier ++ bs).take b.2)) := by
  induction bs generalizing seen earlier with
  | nil => exact .of_ok rfl
  | cons b bs ih =>
    have hadd : ∀ i, (seen.add b.identity).contains i = true ↔
        ∃ a ∈ earlier ++ [b], a.identity = i := by
      intro i
      have hi := hseen i
      rw [Dict.contains] at hi
      rw [Dict.contains, KeySet.add, Dict.find?_insert]
      by_cases hb : b.identity = i
      · simp [hb]
      · simp [hb, hi]
    -- The rest comes behind `b` as well, and `b` is met.
    have hrest := ih hadd
    rw [List.length_append, List.length_singleton, List.append_assoc, List.singleton_append]
      at hrest
    rw [validateFrom, List.zipIdx_cons, List.flatMap_cons, List.take_left]
    have hmet : seen.contains b.identity = true ↔ ¬(Rule.unrepeated earlier b).holds := by
      simp [hseen, Rule.unrepeated]
    have hnext := Enforces.guard (r := .unrepeated earlier b) hmet fun _ => hrest
    exact (enforces_validate b).bind fun _ _ => hnext

theorem enforces_bindings (bs : List InboundBinding) :
    Enforces (validateFrom ∅ bs) (Sections.bindingRules bs) := by
  have hseen : ∀ i, (∅ : KeySet (String × String)).contains i = true ↔
      ∃ a ∈ ([] : List InboundBinding), a.identity = i := by
    simp [Dict.contains]
  exact enforces_validateFrom hseen

end InboundBinding

/-! ## Steps and claims -/

theorem LoginStep.enforces_validate (s : LoginStep) : Enforces s.validate s.rules := by
  have hnames := (Enforces.requireTexts .stepAuthenticatorName
    (s.localAuthenticators.map (·.name))).bind fun _ _ =>
      Enforces.requireTexts .stepProvider s.federatedProviders
  rw [List.map_map] at hnames
  have hempty : (s.localAuthenticators.isEmpty && s.federatedProviders.isEmpty) = true ↔
      ¬(Rule.offering s).holds := by
    simp [Rule.offering]
  exact Enforces.guard (r := .offering s) hempty fun _ => hnames

theorem ApplicationClaims.enforces_validate (c : ApplicationClaims) :
    Enforces c.validate (c.roleClaim.toList.map (.text .roleClaim)) := by
  unfold validate
  cases c.roleClaim with
  | none => exact .of_ok rfl
  | some uri => exact .requireText .roleClaim uri

/-! ## Sections -/

/-- A relation holds between any two members of a list if it holds between every member and those
in front of it. -/
theorem pairwise_iff_take {α : Type} {R : α → α → Prop} {l : List α} :
    l.Pairwise R ↔ ∀ b ∈ l.zipIdx, ∀ a ∈ l.take b.2, R a b.1 := by
  rw [List.pairwise_iff_getElem]
  constructor
  · rintro h b hb a ha
    obtain ⟨hj, hbj⟩ := List.getElem?_eq_some_iff.mp (List.mem_zipIdx_iff_getElem?.mp hb)
    obtain ⟨i, hi, rfl⟩ := List.mem_take_iff_getElem.mp ha
    rw [← hbj]
    exact h i b.2 (by omega) hj (by omega)
  · intro h i j hi hj hij
    have hb : (l[j], j) ∈ l.zipIdx :=
      List.mem_zipIdx_iff_getElem?.mpr (List.getElem?_eq_getElem hj)
    exact h _ hb l[i] (List.mem_take_iff_getElem.mpr ⟨i, by omega, rfl⟩)

namespace Sections

theorem enforces_validate (s : Sections) : Enforces s.validate s.rules :=
  (InboundBinding.enforces_bindings s.inbound).bind fun _ _ =>
    (Enforces.requireAll fun step _ => step.enforces_validate).bind fun _ _ =>
      (Enforces.requireTexts .outboundProvider s.provisioning.providers.keys).bind fun _ _ =>
        s.claims.enforces_validate.bind fun _ _ =>
          Enforces.requireTexts .permission s.permissions.permissions.keys

theorem forall_bindingRules_iff {bindings : List InboundBinding} :
    (∀ r ∈ bindingRules bindings, r.holds) ↔
      (∀ b ∈ bindings, Text.isBlank b.key = false ∧ Text.isBlank b.type = false) ∧
        (bindings.map fun b => (b.type, b.key)).Nodup := by
  -- a binding is compared with those before it, so all pairs are compared once
  have hone : ∀ (earlier : List InboundBinding) (b : InboundBinding),
      (∀ r ∈ b.rules earlier, r.holds) ↔
        (Text.isBlank b.key = false ∧ Text.isBlank b.type = false) ∧
          ∀ a ∈ earlier, a.identity ≠ b.identity := by
    intro earlier b
    simp [InboundBinding.rules, Rule.text, Rule.unrepeated, and_assoc]
  have hmem : ∀ b ∈ bindings, ∃ i, (b, i) ∈ bindings.zipIdx := by
    intro b hb
    obtain ⟨i, hi⟩ := List.mem_iff_getElem?.mp hb
    exact ⟨i, List.mem_zipIdx_iff_getElem?.mpr hi⟩
  rw [List.nodup_iff_pairwise_ne, List.pairwise_map, pairwise_iff_take, bindingRules]
  simp only [List.forall_mem_flatMap, hone]
  constructor
  · intro h
    refine ⟨fun b hb => ?_, fun b hb => (h b hb).2⟩
    obtain ⟨i, hi⟩ := hmem b hb
    exact (h _ hi).1
  · rintro ⟨hblank, hdistinct⟩ b hb
    exact ⟨hblank b.1 (List.fst_mem_of_mem_zipIdx hb), hdistinct b hb⟩

theorem forall_stepRules_iff {step : LoginStep} :
    (∀ r ∈ step.rules, r.holds) ↔
      (step.localAuthenticators ≠ [] ∨ step.federatedProviders ≠ []) ∧
        (∀ a ∈ step.localAuthenticators, Text.isBlank a.name = false) ∧
          ∀ name ∈ step.federatedProviders, Text.isBlank name = false := by
  simp only [LoginStep.rules, List.forall_mem_cons, List.forall_mem_append, List.forall_mem_map,
    Rule.text, Rule.offering]

theorem forall_rules_iff {s : Sections} : (∀ r ∈ s.rules, r.holds) ↔ s.Valid := by
  simp only [rules, List.forall_mem_append, forall_bindingRules_iff]
  have hsteps : (∀ r ∈ s.login.steps.flatMap LoginStep.rules, r.holds) ↔
      ∀ step ∈ s.login.steps, ∀ r ∈ step.rules, r.holds :=
    List.forall_mem_flatMap
  constructor
  · rintro ⟨⟨hbindings, hdistinct⟩, hs, htargets, hclaim, hpermissions⟩
    exact {
      bindings := hbindings
      distinct := hdistinct
      steps := fun step hstep => forall_stepRules_iff.mp (hsteps.mp hs step hstep)
      targets := List.forall_mem_map.mp htargets
      roleClaim := fun uri huri => List.forall_mem_map.mp hclaim uri (by simp [huri])
      permissions := List.forall_mem_map.mp hpermissions }
  · intro h
    exact ⟨⟨h.bindings, h.distinct⟩,
      hsteps.mpr fun step hstep => forall_stepRules_iff.mpr (h.steps step hstep),
      List.forall_mem_map.mpr h.targets,
      List.forall_mem_map.mpr fun uri huri => h.roleClaim uri (by simpa using huri),
      List.forall_mem_map.mpr h.permissions⟩

/-- **Valid sections and the first rule of others.** -/
theorem valid_or_first_broken (s : Sections) :
    (s.validate = .ok () ↔ s.Valid) ∧ ∀ err, s.validate = .error err ↔ FirstBroken s.rules err := by
  have henforces := s.enforces_validate
  exact ⟨henforces.ok_iff.trans forall_rules_iff, henforces.reports⟩

/-- The third binding repeats the first; the step without a method and the blank permission come
later. -/
example : Sections.validate {
      inbound := [⟨"a", "oidc", none, none, ∅⟩, ⟨"a", "saml", none, none, ∅⟩,
        ⟨"a", "oidc", none, some "again", ∅⟩]
      login := { steps := [{}] }
      permissions := { permissions := .ofList [" "] } } =
    .error (.duplicateBinding "oidc" "a") := by
  decide +kernel

end Sections

end FederationRegistry
