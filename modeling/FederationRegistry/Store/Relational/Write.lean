import FederationRegistry.Aggregate
import FederationRegistry.ServiceProvider.Codec
import FederationRegistry.Store.Relational.Statement

/-!
# Writing aggregates into rows

A section is written by deleting the rows it owns and inserting them anew, in the order of their
keys; properties alone are merged, key by key. The row of the aggregate itself is written first, so
that a taken name shows before anything else is touched.
-/

namespace FederationRegistry

/-- A natural number as an integer in a column. -/
def columnInteger (n : Nat) : Except StoreError Int :=
  if (n : Int) ≤ maxColumnInteger then .ok n else .error (.unfit (.beyondColumn n))

/-- The row number that an identifier stands for. Numbers are signed, so a large identifier stands
for none. -/
def Id.rowNumber? {e : Entity} (id : Id e) : Option Int :=
  if (id.value : Int) ≤ maxColumnInteger then some id.value else none

/-- The identifier that a row number stands for. -/
def Id.ofRowNumber {e : Entity} (number : Int) : Except StoreError (Id e) :=
  if number < 0 then .error (.corrupt (.negative number))
  else
    match Id.ofNat? number.toNat with
    | some id => .ok id
    | none => .error (.corrupt (.zeroId e))

namespace Transaction

variable {κ α : Type} [Key κ] [DecidableEq κ]

/-- Replaces the rows of an owner. -/
def replaceRows (t : OwnedTable κ α) (owner : Int) (rows : Dict κ α) : Transaction Unit := do
  step (t.clear owner)
  each rows.entries fun e => step (t.insert owner e.1 e.2)

end Transaction

open Transaction

/-! ## Sections of an identity provider -/

namespace Metadata

/-- The columns of the dialect: its identifier and whether it is the registry's own. -/
def dialectColumns (m : Metadata) : Except StoreError (Cell × Bool) :=
  match m.claimDialect with
  | none => .ok (.null, false)
  | some dialect => (columnInteger dialect.id).map fun i => (.integer i, dialect.isLocal)

/-- A row with the columns of the metadata. -/
def intoRow (m : Metadata) (dialect : Cell × Bool) (row : ProviderRow) : ProviderRow :=
  { row with
    name := m.name
    displayLabel := m.displayLabel
    description := m.description
    dialectId := dialect.1
    dialectIsLocal := dialect.2 }

/-- Replaces the certificates and role mappings of a provider. -/
def writeRows (m : Metadata) (owner : Int) : Transaction Unit := do
  replaceRows .certificates owner m.certificates
  step (OwnedTable.roleMappings.clear owner)
  each m.roleMappings.entries fun e => do
    let role ← lift (columnInteger e.1)
    step (OwnedTable.roleMappings.insert owner (.integer role) e.2)

end Metadata

namespace Connector

/-- Inserts a connector and its properties. -/
def write (kind : ConnectorKind) (owner : Int) (c : Connector) : Transaction Unit := do
  let number ← step (.insertConnector kind ⟨owner, c.name, c.enabled⟩)
  each c.properties.entries fun e =>
    step ((OwnedTable.connectorProperties kind).insert number e.1 e.2.text)

end Connector

namespace Authentication

/-- Replaces the requested claims and authenticators of a provider. -/
def write (owner : Int) (a : Option Authentication) : Transaction Unit := do
  step (OwnedTable.requestedClaims.clear owner)
  step (.clearConnectors .authenticator owner)
  match a with
  | none => return
  | some a => do
    each a.requestedClaims.entries fun e =>
      step (OwnedTable.requestedClaims.insert owner e.1 e.2)
    each a.authenticators.values (Connector.write .authenticator owner)

end Authentication

namespace Provisioning

/-- Replaces the provisioning of a provider. -/
def write (owner : Int) (p : Provisioning) : Transaction Unit := do
  step (OwnedTable.jitProviders.clear owner)
  step (OwnedTable.provisioningClaims.clear owner)
  step (OwnedTable.provisioningRoles.clear owner)
  step (.clearConnectors .provisioner owner)
  each p.jitProviders.entries fun e => step (OwnedTable.jitProviders.insert owner e.1 e.2)
  each p.claims.values fun c =>
    step (OwnedTable.provisioningClaims.insert owner c.uri c.defaultValue)
  each p.roles.entries fun e => step (OwnedTable.provisioningRoles.insert owner e.1 e.2)
  each p.provisioners.values (Connector.write .provisioner owner)

end Provisioning

namespace PropertyMap

/-- Sets the settable properties of a provider; others stay. -/
def writeMerged (owner : Int) (delta : PropertyMap) : Transaction Unit :=
  each delta.entries fun e =>
    if settable e.1 e.2 then step (OwnedTable.properties.upsert owner e.1 e.2.text)
    else pure ()

/-- Replaces the properties of a provider. -/
def writeAll (owner : Int) (m : PropertyMap) : Transaction Unit := do
  step (OwnedTable.properties.clear owner)
  m.writeMerged owner

end PropertyMap

/-! ## Aggregates -/

namespace IdentityProvider

/-- The row of the provider. -/
def row (p : IdentityProvider) : Except StoreError ProviderRow :=
  p.metadata.dialectColumns.map fun dialect =>
    p.metadata.intoRow dialect
      { name := ""
        displayLabel := none
        description := none
        homeRealm := p.variant.homeRealm
        isHub := p.variant.isHub
        dialectId := .null
        dialectIsLocal := false
        enabled := p.enabled }

/-- Replaces all sections of the provider. -/
def writeSections (p : IdentityProvider) (number : Int) : Transaction Unit := do
  p.metadata.writeRows number
  Authentication.write number p.authentication
  p.provisioning.write number
  p.properties.writeAll number

/-- Inserts the provider. -/
def insertRows (p : IdentityProvider) : Transaction ProviderId := do
  let row ← lift p.row
  let number ←
    execute (rowFailure .identityProvider p.name) (EntityTable.providers.insert row)
  p.writeSections number
  lift (Id.ofRowNumber number)

/-- Replaces the provider at an identifier. -/
def updateRows (p : IdentityProvider) (id : ProviderId) (number : Int) : Transaction Unit := do
  let row ← lift p.row
  let isThere ←
    execute (rowFailure .identityProvider p.name)
      (EntityTable.providers.update number fun _ => row)
  if isThere then p.writeSections number else throw (.noSuchId id)

end IdentityProvider

namespace ServiceProvider

/-- The row of the provider. -/
def row (p : ServiceProvider) : ApplicationRow where
  name := p.name
  displayLabel := p.displayLabel
  description := p.description
  enabled := p.enabled
  sections := p.sections.text

/-- Inserts the provider. -/
def insertRows (p : ServiceProvider) : Transaction ServiceProviderId := do
  let number ←
    execute (rowFailure .serviceProvider p.name) (EntityTable.applications.insert p.row)
  lift (Id.ofRowNumber number)

/-- Replaces the provider at an identifier. -/
def updateRows (p : ServiceProvider) (id : ServiceProviderId) (number : Int) :
    Transaction Unit := do
  let isThere ←
    execute (rowFailure .serviceProvider p.name)
      (EntityTable.applications.update number fun _ => p.row)
  if isThere then return else throw (.noSuchId id)

end ServiceProvider

/-! ## Section updates -/

namespace SectionUpdate

/-- Fails unless the provider is there. -/
def requireProvider (id : ProviderId) (number : Int) : Transaction Unit := do
  let isThere ← step (.query fun t => t.providers.rows.contains number)
  if isThere then return else throw (.noSuchId id)

/-- Replaces the metadata of a provider, which have to suit the kind that its name stands
for. -/
def writeMetadata (id : ProviderId) (number : Int) (m : Metadata) : Transaction Unit := do
  let stored ← step (.query fun t => (t.providers.rows.find? number).map (·.name))
  match stored with
  | none => throw (.noSuchId id)
  | some name => do
    match (ProviderKind.ofName name).checkMetadata m with
    | .error err => throw (.ofModel err)
    | .ok () => do
      let dialect ← lift m.dialectColumns
      let _ ←
        execute (rowFailure .identityProvider m.name)
          (EntityTable.providers.update number (m.intoRow dialect))
      m.writeRows number

/-- Writes the section of a provider. -/
def writeRows (id : ProviderId) (number : Int) : SectionUpdate → Transaction Unit
  | .metadata m => writeMetadata id number m
  | .authentication a => do
    requireProvider id number
    Authentication.write number a.nonempty?
  | .provisioning p => do
    requireProvider id number
    p.write number
  | .properties delta => do
    requireProvider id number
    delta.writeMerged number

/-- Writes the section of the provider with an identifier. -/
def writeAt (id : ProviderId) (s : SectionUpdate) : Transaction Unit :=
  match id.rowNumber? with
  | none => throw (.noSuchId id)
  | some number => s.writeRows id number

end SectionUpdate

end FederationRegistry
