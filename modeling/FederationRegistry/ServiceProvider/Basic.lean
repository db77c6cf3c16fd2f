import FederationRegistry.Reference
import FederationRegistry.ServiceProvider.Sections

/-!
# Service providers

A service provider is an application that logs its users in through the registry: a name, labels,
a switch and its sections. A value without identifier is also its own draft.
-/

namespace FederationRegistry

/-- The identifier of a service provider. -/
abbrev ServiceProviderId := Id .serviceProvider

/-- A service provider. -/
structure ServiceProvider where
  /-- Absent until the provider is stored. -/
  id : Option ServiceProviderId := none
  name : String
  displayLabel : Option String := none
  description : Option String := none
  enabled : Bool := true
  sections : Sections := {}
deriving DecidableEq, BEq

namespace ServiceProvider

/-- The first rule that the provider breaks. -/
def validate (p : ServiceProvider) : Checked Unit := do
  requireText .serviceProviderName p.name
  p.sections.validate

/-- The provider under an identifier. -/
def withId (p : ServiceProvider) (id : ServiceProviderId) : ServiceProvider :=
  { p with id := some id }

/-- The provider switched on or off. -/
def withEnabled (p : ServiceProvider) (enabled : Bool) : ServiceProvider := { p with enabled }

/-- A change to a draft. -/
inductive Edit where
  | setDisplayLabel (label : String)
  | setDescription (description : String)
  | setEnabled (enabled : Bool)
  | setSections (sections : Sections)
  | addInbound (binding : InboundBinding)
  | addStep (step : LoginStep)
  | setLogin (login : LoginFlow)
  | setProvisioning (provisioning : OutboundProvisioning)
  | setClaims (claims : ApplicationClaims)
  | setPermissions (permissions : ApplicationPermissions)
  | addProperty (key : String) (value : PropertyValue)
  | addProperties (properties : PropertyMap)

/-- The sections after an edit that is about them. -/
def editSections (s : Sections) : Edit → Sections
  | .setSections sections => sections
  | .addInbound binding => { s with inbound := s.inbound ++ [binding] }
  | .addStep step => { s with login := { s.login with steps := s.login.steps ++ [step] } }
  | .setLogin login => { s with login }
  | .setProvisioning provisioning => { s with provisioning }
  | .setClaims claims => { s with claims }
  | .setPermissions permissions => { s with permissions }
  | .addProperty key value => { s with properties := s.properties.put key value }
  | .addProperties properties => { s with properties := s.properties.absorb properties }
  | _ => s

/-- The draft after an edit. -/
def edit (p : ServiceProvider) (e : Edit) : ServiceProvider :=
  match e with
  | .setDisplayLabel label => { p with displayLabel := some label }
  | .setDescription description => { p with description := some description }
  | .setEnabled enabled => { p with enabled }
  | e => { p with sections := editSections p.sections e }

/-- The draft that the provider is built from; it has no identifier. -/
def toDraft (p : ServiceProvider) : ServiceProvider := { p with id := none }

/-- The provider of a draft, without an identifier, or the first rule it breaks. -/
def build (p : ServiceProvider) : Checked ServiceProvider := p.validate.map fun _ => p.toDraft

end ServiceProvider

end FederationRegistry
