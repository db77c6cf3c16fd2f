import FederationRegistry.Connector

/-!
# How an identity provider provisions accounts

The providers whose logins trigger just-in-time provisioning, the claims and roles that new
accounts get, and the provisioners that carry them out.
-/

namespace FederationRegistry

/-- A claim that new accounts get, with the value for those that bring none. -/
structure ProvisioningClaim where
  uri : String
  defaultValue : Option String := none
deriving DecidableEq, BEq

/-- The claim, if it has a URI. -/
def ProvisioningClaim.check (c : ProvisioningClaim) : Checked ProvisioningClaim :=
  (requireText .provisioningClaim c.uri).map fun _ => c

/-- The provisioning section of an identity provider. -/
structure Provisioning where
  /-- The providers whose logins create accounts. -/
  jitProviders : KeySet String := ∅
  /-- Claims by URI. -/
  claims : Dict String ProvisioningClaim := ∅
  roles : KeySet String := ∅
  provisioners : ConnectorMap := ∅
deriving DecidableEq, BEq

namespace Provisioning

instance : Inhabited Provisioning := ⟨{}⟩

/-- Nothing is provisioned. -/
def isEmpty (p : Provisioning) : Bool :=
  p.jitProviders.isEmpty && p.claims.isEmpty && p.roles.isEmpty && p.provisioners.isEmpty

/-- A login through the provider of this name creates an account. -/
def isTriggeredBy (p : Provisioning) (name : String) : Bool := p.jitProviders.contains name

/-- The first rule that the section breaks: providers, then roles, then provisioners. -/
def validate (p : Provisioning) : Checked Unit := do
  requireAll (requireText .jitProvider) p.jitProviders.keys
  requireAll (requireText .provisioningRole) p.roles.keys
  requireAll (ConnectorMap.checkPlace .provisioner) p.provisioners.entries

/-- The section, if it is valid. -/
def check (p : Provisioning) : Checked Provisioning := p.validate.map fun _ => p

/-- The claims with one more, in the place of one of the same URI. -/
def putClaim (claims : Dict String ProvisioningClaim) (c : ProvisioningClaim) :
    Dict String ProvisioningClaim := claims.insert c.uri c

/-- A change to a draft. The `set` edits keep what is there when they are given nothing. -/
inductive Edit where
  | setJitProviders (names : List String)
  | addJitProvider (name : String)
  | addJitProviders (names : List String)
  | setClaims (claims : List ProvisioningClaim)
  | addClaim (claim : ProvisioningClaim)
  | addClaims (claims : List ProvisioningClaim)
  | setRoles (roles : List String)
  | addRole (role : String)
  | addRoles (roles : List String)
  | setProvisioners (provisioners : List Connector)
  | addProvisioner (provisioner : Connector)
  | addProvisioners (provisioners : List Connector)

/-- The draft after an edit. -/
def edit (p : Provisioning) : Edit → Provisioning
  | .setJitProviders names => if names.isEmpty then p else { p with jitProviders := .ofList names }
  | .addJitProvider name => { p with jitProviders := p.jitProviders.add name }
  | .addJitProviders names => { p with jitProviders := p.jitProviders.addMany names }
  | .setClaims claims =>
    if claims.isEmpty then p else { p with claims := claims.foldl putClaim ∅ }
  | .addClaim claim => { p with claims := putClaim p.claims claim }
  | .addClaims claims => { p with claims := claims.foldl putClaim p.claims }
  | .setRoles roles => if roles.isEmpty then p else { p with roles := .ofList roles }
  | .addRole role => { p with roles := p.roles.add role }
  | .addRoles roles => { p with roles := p.roles.addMany roles }
  | .setProvisioners provisioners =>
    if provisioners.isEmpty then p
    else { p with provisioners := ConnectorMap.ofList provisioners }
  | .addProvisioner provisioner =>
    { p with provisioners := ConnectorMap.add p.provisioners provisioner }
  | .addProvisioners provisioners =>
    { p with provisioners := ConnectorMap.addMany p.provisioners provisioners }

end Provisioning

end FederationRegistry
