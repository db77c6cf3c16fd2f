import FederationRegistry.Dict
import FederationRegistry.ModelError

/-!
# Metadata of an identity provider

Name, labels, certificates, claim dialect and role mappings. Any value of `Metadata` is a
*draft*; `check` admits the valid ones. A draft is built by edits, of which `setCertificates` and
`setRoleMappings` keep what is there when they are given nothing, and `addCertificate` ignores a
blank alias or thumbprint.
-/

namespace FederationRegistry

/-- The claim dialect in which a provider issues claims. -/
structure ClaimDialect where
  id : Nat
  /-- The dialect is the registry's own. -/
  isLocal : Bool := false
deriving DecidableEq, BEq

/-- The descriptive section of an identity provider. -/
structure Metadata where
  name : String
  displayLabel : Option String := none
  description : Option String := none
  /-- Thumbprints by alias. -/
  certificates : Dict String String := ∅
  claimDialect : Option ClaimDialect := none
  /-- External roles by local role. -/
  roleMappings : Dict Nat String := ∅
deriving DecidableEq, BEq

namespace Metadata

/-! ## Queries -/

/-- The external role of a local one. -/
def externalRole? (m : Metadata) (localRole : Nat) : Option String := m.roleMappings.find? localRole

/-- The local roles that map to an external one, in order. -/
def localRolesFor (m : Metadata) (externalRole : String) : List Nat :=
  (m.roleMappings.filter fun _ external => external == externalRole).keys

/-! ## Validity -/

/-- A certificate has an alias and a thumbprint. -/
def checkCertificate (entry : String × String) : Checked Unit := do
  requireText .certificateAlias entry.1
  requireText .certificateThumbprint entry.2

/-- The dialect, if there is one, has an identifier in range. -/
def checkDialect : Option ClaimDialect → Checked Unit
  | none => .ok ()
  | some dialect => requireReferenceId .dialectId dialect.id

/-- A role mapping has a local role in range and an external role. -/
def checkRoleMapping (entry : Nat × String) : Checked Unit := do
  requireReferenceId .localRoleId entry.1
  requireText .externalRole entry.2

/-- The first rule that the section breaks: name, certificates by alias, dialect, role mappings by
role. -/
def validate (m : Metadata) : Checked Unit := do
  requireText .metadataName m.name
  requireAll checkCertificate m.certificates.entries
  checkDialect m.claimDialect
  requireAll checkRoleMapping m.roleMappings.entries

/-- The section, if it is valid. -/
def check (m : Metadata) : Checked Metadata := m.validate.map fun _ => m

/-! ## Edits -/

/-- A change to a draft. -/
inductive Edit where
  | setName (name : String)
  | setDisplayLabel (label : String)
  | setDescription (description : String)
  | setCertificates (certificates : Dict String String)
  | addCertificate (certAlias thumbprint : String)
  | addCertificates (certificates : Dict String String)
  | setClaimDialect (dialect : ClaimDialect)
  | setRoleMappings (mappings : Dict Nat String)
  | addRoleMapping (localRole : Nat) (externalRole : String)
  | addRoleMappings (mappings : Dict Nat String)

/-- The certificates with one set, unless a part of it is blank. -/
def putCertificate (certificates : Dict String String) (certAlias thumbprint : String) :
    Dict String String :=
  if Text.isBlank certAlias || Text.isBlank thumbprint then certificates
  else certificates.insert certAlias thumbprint

/-- The draft after an edit. -/
def edit (m : Metadata) : Edit → Metadata
  | .setName name => { m with name }
  | .setDisplayLabel label => { m with displayLabel := some label }
  | .setDescription description => { m with description := some description }
  | .setCertificates certificates =>
    if certificates.isEmpty then m else { m with certificates }
  | .addCertificate certAlias thumbprint =>
    { m with certificates := putCertificate m.certificates certAlias thumbprint }
  | .addCertificates certificates =>
    { m with
      certificates :=
        certificates.entries.foldl (fun d e => putCertificate d e.1 e.2) m.certificates }
  | .setClaimDialect dialect => { m with claimDialect := some dialect }
  | .setRoleMappings mappings => if mappings.isEmpty then m else { m with roleMappings := mappings }
  | .addRoleMapping localRole externalRole =>
    { m with roleMappings := m.roleMappings.insert localRole externalRole }
  | .addRoleMappings mappings => { m with roleMappings := m.roleMappings.merge mappings }

end Metadata

end FederationRegistry
