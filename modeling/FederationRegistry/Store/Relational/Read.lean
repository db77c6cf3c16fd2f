import FederationRegistry.Store.Relational.Load

/-!
# Reading aggregates statement by statement

A read is a transaction too. The rows of an aggregate are in many tables, so it is read by many
statements, one for each table and one for the properties of each connector. The engine is asked
about every one of them, and corrupt rows end the read before the next statement.

Rows do not change during a read, so it comes to what the rows hold when it begins, which is what
`Tables.load` says of them.
-/

namespace FederationRegistry

open Transaction

namespace ConnectorMap

/-- Reads the connectors behind their rows, one after the other. -/
def readBehind (kind : ConnectorKind) (rows : Dict Int ConnectorRow) :
    Transaction ConnectorMap := do
  let connectors ← collect rows.entries fun e => fetch fun t => t.loadConnector kind e.1 e.2
  return ofList connectors

/-- Reads the connectors of a provider. -/
def read (kind : ConnectorKind) (owner : Int) : Transaction ConnectorMap := do
  let rows ← select fun t => (t.connectors kind).ownedBy owner
  readBehind kind rows

end ConnectorMap

/-- Reads the provisioning of a provider. -/
def Provisioning.read (owner : Int) : Transaction Provisioning := do
  let jitProviders ← select fun t => t.jitProviders.slice owner
  let roles ← select fun t => t.provisioningRoles.slice owner
  let claims ← fetch fun t =>
    (t.provisioningClaims.slice owner).traverse fun uri defaultValue =>
      uncorrupted (ProvisioningClaim.check ⟨uri, defaultValue⟩)
  let provisioners ← ConnectorMap.read .provisioner owner
  lift (uncorrupted (Provisioning.check { jitProviders, claims, roles, provisioners }))

/-- Reads the authentication of a provider. Without rows it is absent. -/
def Authentication.read (owner : Int) : Transaction (Option Authentication) := do
  let requestedClaims ← select fun t => t.requestedClaims.slice owner
  let rows ← select fun t => (t.connectors .authenticator).ownedBy owner
  if requestedClaims.isEmpty && rows.isEmpty then return none
  else do
    let authenticators ← ConnectorMap.readBehind .authenticator rows
    let authentication ←
      lift (uncorrupted (Authentication.check { requestedClaims, authenticators }))
    return some authentication

/-- Reads the draft of the provider at a row number behind its row. -/
def IdentityProvider.Draft.read (number : Int) (row : ProviderRow) :
    Transaction IdentityProvider.Draft := do
  let dialectId ← lift (Tables.integerIn? 5 "claim_dialect_id" row.dialectId)
  let certificates ← select fun t => t.certificates.slice number
  let roleMappings ← fetch fun t => Tables.decodeRoles (t.roleMappings.slice number)
  let provisioning ← Provisioning.read number
  let properties ← fetch fun t => Tables.decodeProperties (t.properties.slice number)
  let claimDialect ← lift (Tables.loadDialect dialectId row.dialectIsLocal)
  let authentication ← Authentication.read number
  return Tables.draftOf row certificates claimDialect roleMappings authentication provisioning
    properties

namespace IdentityProvider

/-- Reads the identity provider behind its row, if there is one. -/
def readBehind (number : Int) : Option ProviderRow → Transaction (Option IdentityProvider)
  | none => pure none
  | some row => do
    let draft ← Draft.read number row
    let provider ←
      lift (draft.build.mapError fun err => .corrupt (.aggregate .identityProvider number err))
    let id ← lift (Id.ofRowNumber number)
    return some (provider.withId id)

/-- Reads the identity provider at a row number, if it is there. -/
def read (number : Int) : Transaction (Option IdentityProvider) := do
  let row? ← select fun t => t.providers.rows.find? number
  readBehind number row?

end IdentityProvider

namespace Database

/-- Reads the aggregate at a row number, if it is there. A service provider is in one row. -/
def readAt : (e : Entity) → Int → Transaction (Option e.Aggregate)
  | .identityProvider, number => IdentityProvider.read number
  | .serviceProvider, number => fetch fun t => t.loadApplication number

/-- Reads the aggregate at a row number that was looked up, if the look-up found one. -/
def readFound (e : Entity) : Option Int → Transaction (Option e.Aggregate)
  | none => pure none
  | some number => readAt e number

/-- Reads the aggregate with a name. -/
def readNamed (e : Entity) (name : String) : Transaction (Option e.Aggregate) := do
  let number? ← select fun t => t.numberOf? e name
  readFound e number?

end Database

end FederationRegistry
