import FederationRegistry.Authentication
import FederationRegistry.Metadata
import FederationRegistry.Provisioning
import FederationRegistry.Reference

/-!
# Identity providers

An identity provider is an aggregate of sections: metadata, authentication (absent when empty),
provisioning and extension properties, with a switch and, once stored, an identifier.

**Variants.** The *resident* provider is the registry itself and alone bears the reserved name;
*federated* providers may name a home realm and may be federation hubs. `validate` ties the
variant to the name.

**Section updates** (`withMetadata` and its like) check the incoming section and the variant
against it, and leave all other sections as they are.
-/

namespace FederationRegistry

/-- What only a federated provider has. -/
structure FederatedSettings where
  homeRealm : Option String := none
  isHub : Bool := false
deriving DecidableEq, BEq

/-- The variant of a provider. -/
inductive ProviderVariant where
  | resident
  | federated (settings : FederatedSettings)
deriving DecidableEq, BEq

namespace ProviderVariant

/-- The kind of the variant. -/
def kind : ProviderVariant → ProviderKind
  | .resident => .resident
  | .federated _ => .federated

/-- The home realm, which a resident provider has not. -/
def homeRealm : ProviderVariant → Option String
  | .resident => none
  | .federated settings => settings.homeRealm

/-- The provider is a federation hub; a resident one is not. -/
def isHub : ProviderVariant → Bool
  | .resident => false
  | .federated settings => settings.isHub

/-- A home realm is absent or not blank. -/
def validate (v : ProviderVariant) : Checked Unit :=
  match v.homeRealm with
  | none => .ok ()
  | some realm => requireText .homeRealm realm

end ProviderVariant

namespace ProviderKind

/-- A provider of this kind may have the name. -/
def checkName (kind : ProviderKind) (name : String) : Checked Unit :=
  match kind, ofName name with
  | .resident, .federated => .error .residentMisnamed
  | .federated, .resident => .error .nameReserved
  | _, _ => .ok ()

/-- A provider of this kind may have the metadata. -/
def checkMetadata (kind : ProviderKind) (m : Metadata) : Checked Unit := do
  m.validate
  kind.checkName m.name

end ProviderKind

/-- The identifier of an identity provider. -/
abbrev ProviderId := Id .identityProvider

/-- A reference to an identity provider. -/
abbrev ProviderRef := Ref .identityProvider

/-- An identity provider. -/
structure IdentityProvider where
  /-- Absent until the provider is stored. -/
  id : Option ProviderId := none
  enabled : Bool := true
  metadata : Metadata
  authentication : Option Authentication := none
  provisioning : Provisioning := {}
  properties : PropertyMap := ∅
  variant : ProviderVariant
deriving DecidableEq, BEq

namespace IdentityProvider

/-- The name of the provider. -/
def name (p : IdentityProvider) : String := p.metadata.name

/-- The kind of the provider. -/
def kind (p : IdentityProvider) : ProviderKind := p.variant.kind

/-- The provider has not been stored. -/
def isUnsaved (p : IdentityProvider) : Bool := p.id.isNone

/-- The provider as a resident one. -/
def asResident (p : IdentityProvider) : Checked Metadata :=
  match p.variant with
  | .resident => .ok p.metadata
  | .federated _ => .error (.kindMismatch .resident .federated)

/-- The settings of the provider as a federated one. -/
def asFederated (p : IdentityProvider) : Checked FederatedSettings :=
  match p.variant with
  | .federated settings => .ok settings
  | .resident => .error (.kindMismatch .federated .resident)

/-- An authentication section, if there is one, is valid. -/
def checkAuthentication : Option Authentication → Checked Unit
  | none => .ok ()
  | some a => a.validate

/-- The first rule that the provider breaks. -/
def validate (p : IdentityProvider) : Checked Unit := do
  p.metadata.validate
  p.kind.checkName p.name
  checkAuthentication p.authentication
  p.provisioning.validate
  p.variant.validate

/-! ## Updates -/

/-- The provider under an identifier. -/
def withId (p : IdentityProvider) (id : ProviderId) : IdentityProvider := { p with id := some id }

/-- The provider switched on or off. -/
def withEnabled (p : IdentityProvider) (enabled : Bool) : IdentityProvider := { p with enabled }

/-- The provider with other metadata, which have to suit its kind. -/
def withMetadata (p : IdentityProvider) (m : Metadata) : Checked IdentityProvider :=
  (p.kind.checkMetadata m).map fun _ => { p with metadata := m }

/-- The provider with another authentication section. -/
def withAuthentication (p : IdentityProvider) (a : Authentication) : Checked IdentityProvider :=
  a.validate.map fun _ => { p with authentication := a.nonempty? }

/-- The provider with another provisioning section. -/
def withProvisioning (p : IdentityProvider) (s : Provisioning) : Checked IdentityProvider :=
  s.validate.map fun _ => { p with provisioning := s }

/-- The provider with the settable properties of `delta` set. -/
def withMergedProperties (p : IdentityProvider) (delta : PropertyMap) : IdentityProvider :=
  { p with properties := p.properties.absorb delta }

/-! ## Drafts -/

/-- An identity provider in the making. Its kind is fixed by how the draft was started; whether
the other parts suit the kind shows when it is built. -/
structure Draft where
  kind : ProviderKind
  enabled : Bool := true
  metadata : Metadata
  authentication : Option Authentication := none
  provisioning : Provisioning := {}
  properties : PropertyMap := ∅
  homeRealm : Option String := none
  isHub : Bool := false
deriving DecidableEq, BEq

namespace Draft

/-- A draft of the resident provider. -/
def resident : Draft := { kind := .resident, metadata := { name := residentName } }

/-- A draft of a federated provider. -/
def federated (name : String) : Draft := { kind := .federated, metadata := { name } }

/-- A draft of the kind that the name stands for. -/
def named (name : String) : Draft := { kind := .ofName name, metadata := { name } }

/-- A change to a draft. -/
inductive Edit where
  | setEnabled (enabled : Bool)
  | setMetadata (metadata : Metadata)
  | editMetadata (edit : Metadata.Edit)
  | setHomeRealm (realm : String)
  | setHub (isHub : Bool)
  | setAuthentication (authentication : Authentication)
  | editAuthentication (edit : Authentication.Edit)
  | setProvisioning (provisioning : Provisioning)
  | editProvisioning (edit : Provisioning.Edit)
  | setProperties (properties : PropertyMap)
  | addProperty (key : String) (value : PropertyValue)
  | addProperties (properties : PropertyMap)

/-- The draft after an edit. -/
def edit (d : Draft) : Edit → Draft
  | .setEnabled enabled => { d with enabled }
  | .setMetadata metadata => { d with metadata }
  | .editMetadata e => { d with metadata := d.metadata.edit e }
  | .setHomeRealm realm => { d with homeRealm := some realm }
  | .setHub isHub => { d with isHub }
  | .setAuthentication authentication => { d with authentication := some authentication }
  | .editAuthentication e => { d with authentication := some ((d.authentication.getD {}).edit e) }
  | .setProvisioning provisioning => { d with provisioning }
  | .editProvisioning e => { d with provisioning := d.provisioning.edit e }
  | .setProperties properties => { d with properties := d.properties.replace properties }
  | .addProperty key value => { d with properties := d.properties.put key value }
  | .addProperties properties => { d with properties := d.properties.absorb properties }

/-- The draft after a script of edits. -/
def edits (d : Draft) (script : List Edit) : Draft := script.foldl edit d

/-- The authentication section of a draft, absent when it is empty. -/
def buildAuthentication : Option Authentication → Checked (Option Authentication)
  | none => .ok none
  | some a => a.check.map Authentication.nonempty?

/-- The variant of a draft. -/
def buildVariant (d : Draft) : Checked ProviderVariant :=
  match d.kind with
  | .resident =>
    if d.homeRealm.isSome then .error .residentWithHomeRealm
    else if d.isHub then .error .residentAsHub
    else .ok .resident
  | .federated => .ok (.federated ⟨d.homeRealm, d.isHub⟩)

/-- The provider of a draft, or the first rule it breaks. -/
def build (d : Draft) : Checked IdentityProvider := do
  let metadata ← d.metadata.check
  let authentication ← buildAuthentication d.authentication
  let provisioning ← d.provisioning.check
  let variant ← d.buildVariant
  let provider : IdentityProvider :=
    { enabled := d.enabled, metadata, authentication, provisioning
      properties := d.properties, variant }
  provider.validate
  return provider

end Draft

/-- The draft that the provider is built from; it has no identifier. -/
def toDraft (p : IdentityProvider) : Draft where
  kind := p.kind
  enabled := p.enabled
  metadata := p.metadata
  authentication := p.authentication
  provisioning := p.provisioning
  properties := p.properties
  homeRealm := p.variant.homeRealm
  isHub := p.variant.isHub

end IdentityProvider

end FederationRegistry
