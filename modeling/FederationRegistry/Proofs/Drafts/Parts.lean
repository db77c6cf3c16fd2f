import FederationRegistry.IdentityProvider
import Mathlib.Data.List.Lattice

/-!
# Parts of a draft

An edit changes the parts it is about, `setMetadata` six of them and every other edit one.

What an edit makes of a part depends on that part alone (`part_edit_congr`), and it leaves all
others as they are (`part_edit_of_not_mem`). Edits of different parts therefore commute
(`edit_comm_of_disjoint`).
-/

namespace FederationRegistry

namespace Metadata

/-- A part of metadata that is edited on its own. -/
inductive Part where
  | name
  | displayLabel
  | description
  | certificates
  | claimDialect
  | roleMappings
deriving DecidableEq

/-- What a part can be. -/
abbrev Part.Value : Part → Type
  | .name => String
  | .displayLabel => Option String
  | .description => Option String
  | .certificates => Dict String String
  | .claimDialect => Option ClaimDialect
  | .roleMappings => Dict Nat String

/-- A part of the section. -/
def part (m : Metadata) : (p : Part) → p.Value
  | .name => m.name
  | .displayLabel => m.displayLabel
  | .description => m.description
  | .certificates => m.certificates
  | .claimDialect => m.claimDialect
  | .roleMappings => m.roleMappings

/-- The part that an edit is about. -/
def Edit.part : Edit → Part
  | .setName _ => .name
  | .setDisplayLabel _ => .displayLabel
  | .setDescription _ => .description
  | .setCertificates _ | .addCertificate .. | .addCertificates _ => .certificates
  | .setClaimDialect _ => .claimDialect
  | .setRoleMappings _ | .addRoleMapping .. | .addRoleMappings _ => .roleMappings

theorem ext_part {m n : Metadata} (h : ∀ p, m.part p = n.part p) : m = n := by
  obtain ⟨name, label, description, certificates, dialect, mappings⟩ := m
  obtain ⟨name', label', description', certificates', dialect', mappings'⟩ := n
  obtain rfl : name = name' := h .name
  obtain rfl : label = label' := h .displayLabel
  obtain rfl : description = description' := h .description
  obtain rfl : certificates = certificates' := h .certificates
  obtain rfl : dialect = dialect' := h .claimDialect
  obtain rfl : mappings = mappings' := h .roleMappings
  rfl

theorem part_edit_of_ne {m : Metadata} {e : Edit} {p : Part} (h : p ≠ e.part) :
    (m.edit e).part p = m.part p := by
  cases e <;> cases p <;> first
    | rfl
    | exact absurd rfl h
    | simp only [edit]; split <;> rfl

theorem part_edit_self {m n : Metadata} {e : Edit} (h : m.part e.part = n.part e.part) :
    (m.edit e).part e.part = (n.edit e).part e.part := by
  cases e with
  | setName name => rfl
  | setDisplayLabel label => rfl
  | setDescription description => rfl
  | setCertificates certificates =>
    -- an empty collection replaces nothing
    simp only [edit]
    split
    · exact h
    · rfl
  | addCertificate certAlias thumbprint =>
    exact congrArg (fun d : Dict String String => putCertificate d certAlias thumbprint) h
  | addCertificates certificates =>
    have hcertificates : m.certificates = n.certificates := h
    change certificates.entries.foldl _ m.certificates = certificates.entries.foldl _ n.certificates
    rw [hcertificates]
  | setClaimDialect dialect => rfl
  | setRoleMappings mappings =>
    simp only [edit]
    split
    · exact h
    · rfl
  | addRoleMapping localRole externalRole =>
    exact congrArg (fun d : Dict Nat String => d.insert localRole externalRole) h
  | addRoleMappings mappings => exact congrArg (fun d : Dict Nat String => d.merge mappings) h

end Metadata

namespace IdentityProvider.Draft

/-- A part of a draft that is edited on its own. -/
inductive Part where
  | enabled
  | metadata (p : Metadata.Part)
  | homeRealm
  | hub
  | authentication
  | provisioning
  | properties
deriving DecidableEq

/-- What a part can be. -/
abbrev Part.Value : Part → Type
  | .enabled => Bool
  | .metadata p => p.Value
  | .homeRealm => Option String
  | .hub => Bool
  | .authentication => Option Authentication
  | .provisioning => Provisioning
  | .properties => PropertyMap

/-- A part of the draft. -/
def part (d : Draft) : (p : Part) → p.Value
  | .enabled => d.enabled
  | .metadata p => d.metadata.part p
  | .homeRealm => d.homeRealm
  | .hub => d.isHub
  | .authentication => d.authentication
  | .provisioning => d.provisioning
  | .properties => d.properties

/-- The parts that an edit is about. -/
def Edit.parts : Edit → List Part
  | .setEnabled _ => [.enabled]
  | .setMetadata _ => [.metadata .name, .metadata .displayLabel, .metadata .description,
      .metadata .certificates, .metadata .claimDialect, .metadata .roleMappings]
  | .editMetadata e => [.metadata e.part]
  | .setHomeRealm _ => [.homeRealm]
  | .setHub _ => [.hub]
  | .setAuthentication _ | .editAuthentication _ => [.authentication]
  | .setProvisioning _ | .editProvisioning _ => [.provisioning]
  | .setProperties _ | .addProperty .. | .addProperties _ => [.properties]

/-- The parts and the kind make up a draft. -/
theorem ext_part {d d' : Draft} (hkind : d.kind = d'.kind) (h : ∀ p, d.part p = d'.part p) :
    d = d' := by
  have hmetadata : d.metadata = d'.metadata := Metadata.ext_part fun p => h (.metadata p)
  obtain ⟨kind, enabled, metadata, authentication, provisioning, properties, realm, hub⟩ := d
  obtain ⟨kind', enabled', metadata', authentication', provisioning', properties', realm', hub'⟩ :=
    d'
  cases hkind
  cases hmetadata
  obtain rfl : enabled = enabled' := h .enabled
  obtain rfl : authentication = authentication' := h .authentication
  obtain rfl : provisioning = provisioning' := h .provisioning
  obtain rfl : properties = properties' := h .properties
  obtain rfl : realm = realm' := h .homeRealm
  obtain rfl : hub = hub' := h .hub
  rfl

/-- No edit changes the kind. -/
theorem kind_edit (d : Draft) (e : Edit) : (d.edit e).kind = d.kind := by
  cases e <;> rfl

/-- **An edit leaves all parts but its own.** -/
theorem part_edit_of_not_mem {d : Draft} {e : Edit} {p : Part} (h : p ∉ e.parts) :
    (d.edit e).part p = d.part p := by
  cases e with
  | setMetadata metadata =>
    cases p with
    | metadata p => cases p <;> simp [Edit.parts] at h
    | _ => rfl
  | editMetadata e =>
    cases p with
    | metadata p =>
      have hp : p ≠ e.part := by simpa [Edit.parts] using h
      exact Metadata.part_edit_of_ne hp
    | _ => rfl
  | _ => cases p <;> first | rfl | simp [Edit.parts] at h

/-- What an edit makes of a part of its own depends on that part alone. -/
theorem part_edit_of_mem {d d' : Draft} {e : Edit} {p : Part} (hp : p ∈ e.parts)
    (h : d.part p = d'.part p) : (d.edit e).part p = (d'.edit e).part p := by
  cases e with
  | setMetadata metadata =>
    cases p with
    | metadata p => rfl
    | _ => simp [Edit.parts] at hp
  | editMetadata e =>
    obtain rfl := List.mem_singleton.mp hp
    exact Metadata.part_edit_self h
  | editAuthentication e =>
    obtain rfl := List.mem_singleton.mp hp
    exact congrArg (fun a : Option Authentication => some ((a.getD {}).edit e)) h
  | editProvisioning e =>
    obtain rfl := List.mem_singleton.mp hp
    exact congrArg (fun s : Provisioning => s.edit e) h
  | setProperties properties =>
    obtain rfl := List.mem_singleton.mp hp
    exact congrArg (fun m : PropertyMap => m.replace properties) h
  | addProperty key value =>
    obtain rfl := List.mem_singleton.mp hp
    exact congrArg (fun m : PropertyMap => m.put key value) h
  | addProperties properties =>
    obtain rfl := List.mem_singleton.mp hp
    exact congrArg (fun m : PropertyMap => m.absorb properties) h
  | _ =>
    -- These set their part whatever it was.
    obtain rfl := List.mem_singleton.mp hp
    rfl

/-- **What an edit makes of a part depends on that part alone.** -/
theorem part_edit_congr {d d' : Draft} (e : Edit) {p : Part} (h : d.part p = d'.part p) :
    (d.edit e).part p = (d'.edit e).part p := by
  by_cases hp : p ∈ e.parts
  · exact part_edit_of_mem hp h
  · rw [part_edit_of_not_mem hp, part_edit_of_not_mem hp, h]

/-- **Edits of different parts commute.** -/
theorem edit_comm_of_disjoint (d : Draft) {a b : Edit} (h : a.parts.Disjoint b.parts) :
    (d.edit a).edit b = (d.edit b).edit a := by
  refine ext_part (by simp only [kind_edit]) fun p => ?_
  by_cases ha : p ∈ a.parts
  · have hb : p ∉ b.parts := h ha
    calc ((d.edit a).edit b).part p = (d.edit a).part p := part_edit_of_not_mem hb
      _ = ((d.edit b).edit a).part p := part_edit_congr a (part_edit_of_not_mem hb).symm
  · calc ((d.edit a).edit b).part p = (d.edit b).part p :=
        part_edit_congr b (part_edit_of_not_mem ha)
      _ = ((d.edit b).edit a).part p := (part_edit_of_not_mem ha).symm

end IdentityProvider.Draft

end FederationRegistry
