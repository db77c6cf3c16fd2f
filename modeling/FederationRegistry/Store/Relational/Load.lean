import FederationRegistry.Store.Relational.Write

/-!
# Reading aggregates from rows

Rows are not trusted. An aggregate is rebuilt from its rows through the checks that every aggregate
goes through, and rows that do not pass are reported as corrupt. A cell of another kind than an
integer where one is wanted is a failure of the engine, and comes as soon as its row is read. The
parts are read in a fixed order, so of several faults the first in that order is the one reported:
the provider's own row, certificates, role mappings, provisioning, properties, dialect,
authentication, and then the aggregate as a whole.
-/

namespace FederationRegistry

/-- A value that keeps the rules of the model, or a corrupt part. -/
def uncorrupted {α : Type} (value : Checked α) : Except StoreError α :=
  value.mapError fun err => .corrupt (.part err)

namespace Tables

/-! ## Parts -/

/-- The integer in a column as a natural number. -/
def natural (i : Int) : Except StoreError Nat :=
  if i < 0 then .error (.corrupt (.negative i)) else .ok i.toNat

/-- The integer in a cell. -/
def integerIn (index : Nat) (column : String) : Cell → Except StoreError Int
  | .integer i => .ok i
  | c => .error (.engine (.columnKind c.kind index column))

/-- The integer in a cell that may be missing. -/
def integerIn? (index : Nat) (column : String) : Cell → Except StoreError (Option Int)
  | .null => .ok none
  | c => (integerIn index column c).map some

/-- The value of a property behind its text. -/
def decodeProperty (key text : String) : Except StoreError PropertyValue :=
  (PropertyValue.ofText text).mapError fun _ => .corrupt (.propertyText key)

/-- The properties behind their texts. -/
def decodeProperties (texts : Dict String String) : Except StoreError PropertyMap :=
  texts.traverse decodeProperty

/-- The role mappings behind the rows of a provider. -/
def decodeRoles (rows : Dict Cell String) : Except StoreError (Dict Nat String) := do
  let checked ← rows.traverse fun role external => do
    let n ← natural (← integerIn 0 "local_role_id" role)
    return (n, external)
  return Dict.ofList checked.values

/-- The connector behind a row. -/
def loadConnector (t : Tables) (kind : ConnectorKind) (number : Int) (row : ConnectorRow) :
    Except StoreError Connector := do
  let properties ← decodeProperties ((t.connectors kind).properties.slice number)
  uncorrupted
    (Connector.check kind
      { name := row.name
        enabled := row.enabled
        properties := (∅ : PropertyMap).replace properties })

/-- The connectors of a provider. -/
def loadConnectors (t : Tables) (kind : ConnectorKind) (owner : Int) :
    Except StoreError ConnectorMap := do
  let loaded ← ((t.connectors kind).ownedBy owner).traverse (t.loadConnector kind)
  return ConnectorMap.ofList loaded.values

/-- The provisioning of a provider. -/
def loadProvisioning (t : Tables) (owner : Int) : Except StoreError Provisioning := do
  let claims ← (t.provisioningClaims.slice owner).traverse fun uri defaultValue =>
    uncorrupted (ProvisioningClaim.check ⟨uri, defaultValue⟩)
  let provisioners ← t.loadConnectors .provisioner owner
  uncorrupted
    (Provisioning.check
      { jitProviders := t.jitProviders.slice owner
        claims
        roles := t.provisioningRoles.slice owner
        provisioners })

/-- The authentication of a provider, absent when it has no rows. -/
def loadAuthentication (t : Tables) (owner : Int) :
    Except StoreError (Option Authentication) := do
  let requestedClaims := t.requestedClaims.slice owner
  if requestedClaims.isEmpty && ((t.connectors .authenticator).ownedBy owner).isEmpty then
    return none
  let authenticators ← t.loadConnectors .authenticator owner
  return some (← uncorrupted (Authentication.check { requestedClaims, authenticators }))

/-- The dialect behind the integer of a row, if there is one, and whether it is the registry's
own. -/
def loadDialect (dialectId : Option Int) (isLocal : Bool) :
    Except StoreError (Option ClaimDialect) :=
  match dialectId with
  | none => .ok none
  | some i => (natural i).map fun id => some ⟨id, isLocal⟩

/-! ## Aggregates -/

/-- The draft of a provider from its row and from what its other rows hold. -/
def draftOf (row : ProviderRow) (certificates : Dict String String)
    (claimDialect : Option ClaimDialect) (roleMappings : Dict Nat String)
    (authentication : Option Authentication) (provisioning : Provisioning)
    (properties : PropertyMap) : IdentityProvider.Draft where
  kind := .ofName row.name
  enabled := row.enabled
  metadata :=
    { name := row.name
      displayLabel := row.displayLabel
      description := row.description
      certificates
      claimDialect
      roleMappings }
  authentication
  provisioning
  properties := (∅ : PropertyMap).replace properties
  homeRealm := row.homeRealm
  isHub := row.isHub

/-- The draft of a provider behind its rows. -/
def loadDraft (t : Tables) (number : Int) (row : ProviderRow) :
    Except StoreError IdentityProvider.Draft := do
  let dialectId ← integerIn? 5 "claim_dialect_id" row.dialectId
  let roleMappings ← decodeRoles (t.roleMappings.slice number)
  let provisioning ← t.loadProvisioning number
  let properties ← decodeProperties (t.properties.slice number)
  let claimDialect ← loadDialect dialectId row.dialectIsLocal
  let authentication ← t.loadAuthentication number
  return draftOf row (t.certificates.slice number) claimDialect roleMappings authentication
    provisioning properties

/-- The identity provider at a row number. -/
def loadProvider (t : Tables) (number : Int) : Except StoreError (Option IdentityProvider) :=
  match t.providers.rows.find? number with
  | none => .ok none
  | some row => do
    let draft ← t.loadDraft number row
    let provider ← draft.build.mapError fun err =>
      .corrupt (.aggregate .identityProvider number err)
    let id ← Id.ofRowNumber number
    return some (provider.withId id)

/-- The service provider at a row number. -/
def loadApplication (t : Tables) (number : Int) : Except StoreError (Option ServiceProvider) :=
  match t.applications.rows.find? number with
  | none => .ok none
  | some row => do
    let sections ← (Sections.ofText row.sections).mapError fun _ => .corrupt (.sectionsText number)
    let draft : ServiceProvider :=
      { name := row.name
        displayLabel := row.displayLabel
        description := row.description
        enabled := row.enabled
        sections }
    let provider ← draft.build.mapError fun err =>
      .corrupt (.aggregate .serviceProvider number err)
    let id ← Id.ofRowNumber number
    return some (provider.withId id)

/-- The aggregate of an entity at a row number. -/
def load (t : Tables) : (e : Entity) → Int → Except StoreError (Option e.Aggregate)
  | .identityProvider => t.loadProvider
  | .serviceProvider => t.loadApplication

/-! ## Look-ups -/

/-- The names of the rows of an entity, or of the enabled ones, by ascending number. -/
def names (t : Tables) (e : Entity) (enabledOnly : Bool) : List String :=
  match e with
  | .identityProvider =>
    (t.providers.rows.values.filter fun r => !enabledOnly || r.enabled).map (·.name)
  | .serviceProvider =>
    (t.applications.rows.values.filter fun r => !enabledOnly || r.enabled).map (·.name)

/-- The row number behind a name. -/
def numberOf? (t : Tables) (e : Entity) (name : String) : Option Int :=
  match e with
  | .identityProvider => EntityTable.providers.numberOf? t name
  | .serviceProvider => EntityTable.applications.numberOf? t name

/-- The aggregate that a reference names. -/
def get (t : Tables) (e : Entity) (target : Ref e) : Except StoreError (Option e.Aggregate) :=
  let number? :=
    match target with
    | .id id => id.rowNumber?
    | .name name => t.numberOf? e name
  match number? with
  | none => .ok none
  | some number => t.load e number

/-- The identifier behind a name. -/
def resolve (t : Tables) (e : Entity) (name : String) : Except StoreError (Option (Id e)) :=
  match t.numberOf? e name with
  | none => .ok none
  | some number => (Id.ofRowNumber number).map some

/-- The owners of the rows with a key and a text. -/
def ownersOf (rows : Dict (Int × String) String) (key text : String) : List Int :=
  (KeySet.ofList
    ((rows.entries.filter fun e => e.1.2 == key && e.2 == text).map (·.1.1))).keys

/-- The numbers of the providers with a property of a text in a scope, ascending. -/
def providersWith (t : Tables) (scope : PropertyScope) (key text : String) : List Int :=
  match scope with
  | .provider => ownersOf t.properties key text
  | .authenticator => through t.authenticators
  | .provisioner => through t.provisioners
where
  /-- The owners of the connectors with the property. -/
  through (c : ConnectorTables) : List Int :=
    (KeySet.ofList
      ((ownersOf c.properties key text).filterMap fun number =>
        (c.connectors.rows.find? number).map (·.owner))).keys

end Tables

end FederationRegistry
