import FederationRegistry.Aggregate

/-!
# What validity says

A `validate` is a sequence of checks that stops at the first broken rule, so it passes exactly when
every rule holds. Each `validate_ok_iff` gives the rules of one section as propositions; the
proofs about aggregates use those and do not run the checks again.
-/

namespace FederationRegistry

section MapError

variable {ε ε' α : Type} (f : ε → ε')

@[simp] theorem mapError_ok (a : α) : (Except.ok a : Except ε α).mapError f = .ok a := rfl

@[simp] theorem mapError_error (err : ε) :
    (Except.error err : Except ε α).mapError f = .error (f err) := rfl

theorem mapError_eq_ok_iff {x : Except ε α} {a : α} : x.mapError f = .ok a ↔ x = .ok a := by
  cases x <;> simp

end MapError

section Chains

variable {ε α β : Type}

/-- A chain comes to a result when every step does. -/
theorem except_bind_eq_ok_iff {x : Except ε α} {f : α → Except ε β} {b : β} :
    (x >>= f) = .ok b ↔ ∃ a, x = .ok a ∧ f a = .ok b := by
  cases x <;> simp [bind, Except.bind]

theorem except_map_eq_ok_iff {x : Except ε α} {f : α → β} {b : β} :
    x.map f = .ok b ↔ ∃ a, x = .ok a ∧ f a = b := by
  cases x <;> simp [Except.map]

end Chains

namespace Checked

variable {α β : Type}

theorem bind_eq_ok_iff {a : Checked α} {f : α → Checked β} {b : β} :
    (a >>= f) = .ok b ↔ ∃ x, a = .ok x ∧ f x = .ok b := by
  cases a <;> simp [bind, Except.bind]

theorem then_eq_ok_iff {a b : Checked Unit} :
    (a >>= fun _ => b) = .ok () ↔ a = .ok () ∧ b = .ok () := by
  rw [bind_eq_ok_iff]
  exact ⟨fun ⟨_, ha, hb⟩ => ⟨ha, hb⟩, fun ⟨ha, hb⟩ => ⟨(), ha, hb⟩⟩

theorem map_eq_ok_iff {a : Checked Unit} {f : Unit → β} {b : β} :
    a.map f = .ok b ↔ a = .ok () ∧ f () = b := by
  cases a <;> simp [Except.map]

end Checked

/-! ## Sections -/

/-- The rules of metadata. -/
theorem Metadata.validate_ok_iff {m : Metadata} :
    m.validate = .ok () ↔
      Text.isBlank m.name = false ∧
      (∀ e ∈ m.certificates.entries, Text.isBlank e.1 = false ∧ Text.isBlank e.2 = false) ∧
      (∀ d, m.claimDialect = some d → d.id ≤ maxReferenceId) ∧
      (∀ e ∈ m.roleMappings.entries, e.1 ≤ maxReferenceId ∧ Text.isBlank e.2 = false) := by
  have hdialect : Metadata.checkDialect m.claimDialect = .ok () ↔
      ∀ d, m.claimDialect = some d → d.id ≤ maxReferenceId := by
    cases m.claimDialect <;> simp [checkDialect, requireReferenceId_ok_iff]
  simp only [validate, Checked.then_eq_ok_iff, requireText_ok_iff, requireAll_ok_iff,
    checkCertificate, checkRoleMapping, requireReferenceId_ok_iff, hdialect]

theorem ConnectorMap.checkPlace_ok_iff {kind : ConnectorKind} {e : String × Connector} :
    ConnectorMap.checkPlace kind e = .ok () ↔ e.1 = e.2.name := by
  unfold ConnectorMap.checkPlace; split <;> simp_all

/-- The rules of an authentication section. -/
theorem Authentication.validate_ok_iff {a : Authentication} :
    a.validate = .ok () ↔
      (∀ claim ∈ a.requestedClaims.keys, Text.isBlank claim = false) ∧
      (∀ e ∈ a.authenticators.entries, Text.isBlank e.1 = false ∧ e.1 = e.2.name) := by
  simp only [validate, Checked.then_eq_ok_iff, requireText_ok_iff, requireAll_ok_iff,
    checkAuthenticator, ConnectorMap.checkPlace_ok_iff]

/-- The rules of a provisioning section. -/
theorem Provisioning.validate_ok_iff {p : Provisioning} :
    p.validate = .ok () ↔
      (∀ name ∈ p.jitProviders.keys, Text.isBlank name = false) ∧
      (∀ role ∈ p.roles.keys, Text.isBlank role = false) ∧
      (∀ e ∈ p.provisioners.entries, e.1 = e.2.name) := by
  simp only [validate, Checked.then_eq_ok_iff, requireText_ok_iff, requireAll_ok_iff,
    ConnectorMap.checkPlace_ok_iff]

/-! ## Aggregates -/

/-- A name suits a kind when it stands for it. -/
theorem ProviderKind.checkName_ok_iff {kind : ProviderKind} {name : String} :
    kind.checkName name = .ok () ↔ ProviderKind.ofName name = kind := by
  unfold checkName
  cases kind <;> cases ProviderKind.ofName name <;> simp

theorem ProviderKind.ofName_eq_resident_iff {name : String} :
    ProviderKind.ofName name = .resident ↔ name = residentName := by
  unfold ofName; split <;> simp_all

theorem ProviderKind.checkMetadata_ok_iff {kind : ProviderKind} {m : Metadata} :
    kind.checkMetadata m = .ok () ↔ m.validate = .ok () ∧ ProviderKind.ofName m.name = kind := by
  rw [checkMetadata, Checked.then_eq_ok_iff, checkName_ok_iff]

theorem IdentityProvider.checkAuthentication_ok_iff {a : Option Authentication} :
    checkAuthentication a = .ok () ↔ ∀ s, a = some s → s.validate = .ok () := by
  cases a <;> simp [checkAuthentication]

/-- The rules of an identity provider. -/
theorem IdentityProvider.validate_ok_iff {p : IdentityProvider} :
    p.validate = .ok () ↔
      p.metadata.validate = .ok () ∧
      ProviderKind.ofName p.name = p.kind ∧
      (∀ a, p.authentication = some a → a.validate = .ok ()) ∧
      p.provisioning.validate = .ok () ∧
      p.variant.validate = .ok () := by
  simp only [validate, Checked.then_eq_ok_iff, ProviderKind.checkName_ok_iff,
    checkAuthentication_ok_iff]

/-- A provider is resident exactly when it has the reserved name. -/
theorem IdentityProvider.resident_iff {p : IdentityProvider} (h : p.validate = .ok ()) :
    p.kind = .resident ↔ p.name = residentName := by
  rw [← ProviderKind.ofName_eq_resident_iff, (validate_ok_iff.mp h).2.1]

end FederationRegistry
