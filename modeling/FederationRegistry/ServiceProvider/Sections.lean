import FederationRegistry.ModelError
import FederationRegistry.Property

/-!
# Sections of a service provider

What an application is configured with: the protocols through which requests come in, the login
steps, outbound provisioning, claims, permissions and extension properties. `validate` reports
the first rule that the sections break, in the order of the sections.
-/

namespace FederationRegistry

/-- A protocol binding through which requests of an application come in. -/
structure InboundBinding where
  key : String
  type : String
  configType : Option String := none
  friendlyName : Option String := none
  properties : PropertyMap := ∅
deriving DecidableEq, BEq

/-- When a login step shows a page and when it takes credentials from the request. -/
inductive LoginStrategy where
  | requestPathOnly
  | showAuthPage
  | requestPathOrShowAuth
  | showAuthWhenRequestPathFails
deriving DecidableEq, BEq

/-- An authenticator of the registry itself in a login step. -/
structure LocalAuthenticator where
  name : String
  displayName : Option String := none
  enabled : Bool := true
  properties : PropertyMap := ∅
deriving DecidableEq, BEq

/-- One step of a login. -/
structure LoginStep where
  strategy : LoginStrategy := .showAuthPage
  localAuthenticators : List LocalAuthenticator := []
  federatedProviders : List String := []
deriving DecidableEq, BEq

/-- How users log in. -/
structure LoginFlow where
  steps : List LoginStep := []
  sendAuthenticatedProviders : Bool := false
  useDomainInLocalSubject : Bool := false
  useLocalSubject : Bool := true
deriving DecidableEq, BEq

/-- The providers to which accounts are pushed. -/
structure OutboundProvisioning where
  providers : KeySet String := ∅
  roles : KeySet String := ∅
deriving DecidableEq, BEq

/-- The claims an application is given. -/
structure ApplicationClaims where
  localDialect : Bool := false
  roleClaim : Option String := none
  requestedClaims : KeySet String := ∅
  /-- Local claims by claim of the application. -/
  mappings : Dict String String := ∅
deriving DecidableEq, BEq

/-- What the users of an application may do. -/
structure ApplicationPermissions where
  permissions : KeySet String := ∅
  roleMappings : Dict String String := ∅
deriving DecidableEq, BEq

/-- The sections of a service provider. -/
structure Sections where
  inbound : List InboundBinding := []
  login : LoginFlow := {}
  provisioning : OutboundProvisioning := {}
  claims : ApplicationClaims := {}
  permissions : ApplicationPermissions := {}
  properties : PropertyMap := ∅
deriving DecidableEq, BEq

namespace InboundBinding

/-- What no two bindings of an application share. -/
def identity (b : InboundBinding) : String × String := (b.type, b.key)

/-- A binding has a key and a type. -/
def validate (b : InboundBinding) : Checked Unit := do
  requireText .inboundKey b.key
  requireText .inboundType b.type

/-- Bindings behind those with the identities in `seen`: each is valid and none repeats an
earlier one. -/
def validateFrom (seen : KeySet (String × String)) : List InboundBinding → Checked Unit
  | [] => .ok ()
  | b :: bs => do
    b.validate
    if seen.contains b.identity then .error (.duplicateBinding b.type b.key)
    else validateFrom (seen.add b.identity) bs

end InboundBinding

namespace LoginStep

/-- A step offers something to log in with, and all it offers has a name. -/
def validate (s : LoginStep) : Checked Unit := do
  if s.localAuthenticators.isEmpty && s.federatedProviders.isEmpty then throw .emptyStep
  requireAll (requireText .stepAuthenticatorName) (s.localAuthenticators.map (·.name))
  requireAll (requireText .stepProvider) s.federatedProviders

end LoginStep

/-- The role claim, if there is one, is not blank. -/
def ApplicationClaims.validate (c : ApplicationClaims) : Checked Unit :=
  match c.roleClaim with
  | none => .ok ()
  | some uri => requireText .roleClaim uri

/-- The first rule that the sections break. -/
def Sections.validate (s : Sections) : Checked Unit := do
  InboundBinding.validateFrom ∅ s.inbound
  requireAll LoginStep.validate s.login.steps
  requireAll (requireText .outboundProvider) s.provisioning.providers.keys
  s.claims.validate
  requireAll (requireText .permission) s.permissions.permissions.keys

end FederationRegistry
