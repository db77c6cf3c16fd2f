import FederationRegistry.IdentityProvider
import FederationRegistry.ServiceProvider.Basic

/-!
# Aggregates

What the registry keeps of an entity is an aggregate: an identity provider or a service provider.
Both have a name, a switch and, once stored, an identifier, and a store treats them alike in that
regard. A *section update* replaces one section of an identity provider, or merges into its
properties.
-/

namespace FederationRegistry

namespace Entity

/-- The aggregates of an entity. -/
abbrev Aggregate : Entity → Type
  | .identityProvider => IdentityProvider
  | .serviceProvider => ServiceProvider

/-- The name of an aggregate. -/
def nameOf : (e : Entity) → e.Aggregate → String
  | .identityProvider, p => p.name
  | .serviceProvider, p => p.name

/-- The identifier of an aggregate. -/
def idOf : (e : Entity) → e.Aggregate → Option (Id e)
  | .identityProvider, p => p.id
  | .serviceProvider, p => p.id

/-- The aggregate under an identifier. -/
def withId : (e : Entity) → e.Aggregate → Id e → e.Aggregate
  | .identityProvider, p, id => p.withId id
  | .serviceProvider, p, id => p.withId id

/-- The aggregate is switched on. -/
def isEnabled : (e : Entity) → e.Aggregate → Bool
  | .identityProvider, p => p.enabled
  | .serviceProvider, p => p.enabled

/-- The aggregate switched on or off. -/
def withEnabled : (e : Entity) → e.Aggregate → Bool → e.Aggregate
  | .identityProvider, p, enabled => p.withEnabled enabled
  | .serviceProvider, p, enabled => p.withEnabled enabled

/-- The first rule that an aggregate breaks. -/
def validate : (e : Entity) → e.Aggregate → Checked Unit
  | .identityProvider, p => p.validate
  | .serviceProvider, p => p.validate

end Entity

/-- A part of an identity provider that is updated on its own. -/
inductive ProviderSection where
  | metadata
  | authentication
  | provisioning
  | properties
deriving DecidableEq

/-- New content for a section. -/
inductive SectionUpdate where
  | metadata (metadata : Metadata)
  | authentication (authentication : Authentication)
  | provisioning (provisioning : Provisioning)
  /-- Properties to merge; those that they do not name stay. -/
  | properties (delta : PropertyMap)
deriving DecidableEq

namespace SectionUpdate

/-- The section that is updated. -/
def target : SectionUpdate → ProviderSection
  | .metadata _ => .metadata
  | .authentication _ => .authentication
  | .provisioning _ => .provisioning
  | .properties _ => .properties

/-- The first rule that the content breaks by itself. -/
def validate : SectionUpdate → Checked Unit
  | .metadata m => m.validate
  | .authentication a => a.validate
  | .provisioning p => p.validate
  | .properties _ => .ok ()

end SectionUpdate

/-- The provider after a section update, or the first rule that would break. -/
def IdentityProvider.withSection (p : IdentityProvider) : SectionUpdate → Checked IdentityProvider
  | .metadata m => p.withMetadata m
  | .authentication a => p.withAuthentication a
  | .provisioning s => p.withProvisioning s
  | .properties delta => .ok (p.withMergedProperties delta)

end FederationRegistry
