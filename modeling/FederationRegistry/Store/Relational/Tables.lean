import FederationRegistry.Connector
import FederationRegistry.Store.Relational.Cell

/-!
# Tables

The rows in which a relational store keeps its aggregates. An identity provider has one row of its
own and rows in many *owned tables*, which it owns by its row number; a service provider has a
single row.

**Numbers.** Rows of a `SerialTable` get ascending numbers, and a number that was given out is
never given out again. Numbers and other integers in columns are signed.

**Cells.** Every row can be seen as a list of cells under the names of the columns of its table
(`Table.columns`). A row keeps a cell as it is where the schema lets a value of any kind stand in
the column: the dialect of a provider and the local role of a role mapping.
-/

namespace FederationRegistry

/-! ## Rows -/

/-- The row of an identity provider. -/
structure ProviderRow where
  name : String
  displayLabel : Option String
  description : Option String
  homeRealm : Option String
  isHub : Bool
  dialectId : Cell
  dialectIsLocal : Bool
  enabled : Bool
deriving DecidableEq

/-- The row of a connector. -/
structure ConnectorRow where
  /-- The provider whose connector it is. -/
  owner : Int
  name : String
  enabled : Bool
deriving DecidableEq

/-- The row of a service provider. -/
structure ApplicationRow where
  name : String
  displayLabel : Option String
  description : Option String
  enabled : Bool
  /-- The sections as a JSON text. -/
  sections : String
deriving DecidableEq

/-- A table whose rows get ascending numbers. -/
structure SerialTable (ρ : Type) where
  rows : Dict Int ρ := ∅
  /-- The largest number given out, or zero. -/
  last : Int := 0

namespace SerialTable

variable {ρ : Type}

/-- What stands for the number of a row that has not been given one. -/
def unnumbered : Int := -1

/-- The number of the next row: beyond all that were given out and all that are there. -/
def next? (t : SerialTable ρ) : Option Int :=
  let top := max t.last (t.rows.keys.getLast?.getD 0)
  if top < maxColumnInteger then some (top + 1) else none

/-- The table with a row under a fresh number. -/
def append (t : SerialTable ρ) (number : Int) (row : ρ) : SerialTable ρ :=
  ⟨t.rows.insert number row, number⟩

/-- The table with other rows. -/
def withRows (t : SerialTable ρ) (rows : Dict Int ρ) : SerialTable ρ := { t with rows }

end SerialTable

/-- The connectors of one kind and their properties, which a connector owns by its row number. -/
structure ConnectorTables where
  connectors : SerialTable ConnectorRow := {}
  properties : Dict (Int × String) String := ∅

namespace ConnectorTables

/-- The connectors of a provider in the order of their numbers. -/
def ownedBy (t : ConnectorTables) (owner : Int) : Dict Int ConnectorRow :=
  t.connectors.rows.filter fun _ row => row.owner == owner

/-- The tables without the connectors of a provider and without their properties. -/
def dropOwner (t : ConnectorTables) (owner : Int) : ConnectorTables where
  connectors := t.connectors.withRows (t.connectors.rows.filter fun _ row => row.owner != owner)
  properties := t.properties.filter fun key _ => !(t.ownedBy owner).contains key.1

end ConnectorTables

/-- All rows of a store. -/
structure Tables where
  providers : SerialTable ProviderRow := {}
  /-- Thumbprints by alias. -/
  certificates : Dict (Int × String) String := ∅
  /-- External roles by local role. -/
  roleMappings : Dict (Int × Cell) String := ∅
  /-- Texts of properties by key. -/
  properties : Dict (Int × String) String := ∅
  requestedClaims : KeySet (Int × String) := ∅
  authenticators : ConnectorTables := {}
  /-- Default values by claim. -/
  provisioningClaims : Dict (Int × String) (Option String) := ∅
  provisioningRoles : KeySet (Int × String) := ∅
  jitProviders : KeySet (Int × String) := ∅
  provisioners : ConnectorTables := {}
  applications : SerialTable ApplicationRow := {}

namespace Tables

/-- The tables of the connectors of a kind. -/
def connectors (t : Tables) : ConnectorKind → ConnectorTables
  | .authenticator => t.authenticators
  | .provisioner => t.provisioners

/-- The tables with others for the connectors of a kind. -/
def withConnectors (t : Tables) : ConnectorKind → ConnectorTables → Tables
  | .authenticator, c => { t with authenticators := c }
  | .provisioner, c => { t with provisioners := c }

end Tables

/-! ## Names -/

/-- A table. -/
inductive Table where
  | provider
  | certificate
  | roleMapping
  | property
  | requestedClaim
  | authenticator
  | authenticatorProperty
  | provisioningClaim
  | provisioningRole
  | jitProvider
  | provisioner
  | provisionerProperty
  | application
deriving DecidableEq

namespace Table

/-- All tables. -/
def all : List Table :=
  [provider, certificate, roleMapping, property, requestedClaim, authenticator,
    authenticatorProperty, provisioningClaim, provisioningRole, jitProvider, provisioner,
    provisionerProperty, application]

/-- The name of the table in the schema. -/
def name : Table → String
  | .provider => "idp"
  | .certificate => "idp_certificate"
  | .roleMapping => "idp_role_mapping"
  | .property => "idp_property"
  | .requestedClaim => "idp_requested_claim"
  | .authenticator => "idp_authenticator"
  | .authenticatorProperty => "idp_authenticator_property"
  | .provisioningClaim => "idp_provisioning_claim"
  | .provisioningRole => "idp_provisioning_role"
  | .jitProvider => "idp_jit_provisioning_idp"
  | .provisioner => "idp_provisioner"
  | .provisionerProperty => "idp_provisioner_property"
  | .application => "sp"

/-- The table of a name. -/
def ofName? (name : String) : Option Table := all.find? fun t => t.name == name

/-- The columns of the table in order. -/
def columns : Table → List String
  | .provider =>
    ["id", "name", "display_name", "description", "home_realm_id", "is_federation_hub",
      "claim_dialect_id", "is_local_claim_dialect", "is_enabled"]
  | .certificate => ["idp_id", "alias", "certificate"]
  | .roleMapping => ["idp_id", "local_role_id", "external_role"]
  | .property => ["idp_id", "property_key", "property_value"]
  | .requestedClaim => ["idp_id", "claim_uri"]
  | .authenticator | .provisioner => ["id", "idp_id", "name", "is_enabled"]
  | .authenticatorProperty => ["authenticator_id", "property_key", "property_value"]
  | .provisioningClaim => ["idp_id", "claim_uri", "default_value"]
  | .provisioningRole => ["idp_id", "role_name"]
  | .jitProvider => ["idp_id", "provisioning_idp"]
  | .provisionerProperty => ["provisioner_id", "property_key", "property_value"]
  | .application =>
    ["id", "name", "display_name", "description", "is_enabled", "config_json"]

/-- The column with the number of a row. -/
def numberColumn : String := "id"

/-- The columns of integers. -/
def integerColumns : List String :=
  [numberColumn, "idp_id", "authenticator_id", "provisioner_id", "local_role_id",
    "claim_dialect_id", "is_federation_hub", "is_local_claim_dialect", "is_enabled"]

/-- The type of a column; it is the same in all tables that have one of the name. -/
def columnType (column : String) : ColumnType :=
  if integerColumns.contains column then .integer else .text

/-- A column with its table in front. -/
def qualified (t : Table) (column : String) : String := t.name ++ "." ++ column

/-- The table of the connectors of a kind. -/
def ofConnectors : ConnectorKind → Table
  | .authenticator => .authenticator
  | .provisioner => .provisioner

/-- The table of the properties of the connectors of a kind. -/
def ofConnectorProperties : ConnectorKind → Table
  | .authenticator => .authenticatorProperty
  | .provisioner => .provisionerProperty

end Table

/-! ## Cells -/

/-- The cells of a provider's row. -/
def ProviderRow.cells (number : Int) (r : ProviderRow) : List Cell :=
  [.integer number, .text r.name, .text? r.displayLabel, .text? r.description,
    .text? r.homeRealm, .flag r.isHub, r.dialectId, .flag r.dialectIsLocal,
    .flag r.enabled]

/-- The cells of a connector's row. -/
def ConnectorRow.cells (number : Int) (r : ConnectorRow) : List Cell :=
  [.integer number, .integer r.owner, .text r.name, .flag r.enabled]

/-- The cells of a service provider's row. -/
def ApplicationRow.cells (number : Int) (r : ApplicationRow) : List Cell :=
  [.integer number, .text r.name, .text? r.displayLabel, .text? r.description, .flag r.enabled,
    .text r.sections]

/-! ## Owned tables -/

/-- A table whose rows stand under an owner and a key. -/
structure OwnedTable (κ α : Type) [Key κ] where
  table : Table
  rows : Tables → Dict (Int × κ) α
  withRows : Tables → Dict (Int × κ) α → Tables
  /-- A row with the number is there to own rows. -/
  hasOwner : Tables → Int → Bool
  /-- The cells of a row behind the number of its owner. -/
  cells : κ → α → List Cell

namespace OwnedTable

/-- A provider has the row number. -/
def hasProvider (t : Tables) (owner : Int) : Bool := t.providers.rows.contains owner

/-- The certificates. -/
def certificates : OwnedTable String String where
  table := .certificate
  rows := Tables.certificates
  withRows := fun t rows => { t with certificates := rows }
  hasOwner := hasProvider
  cells := fun key value => [.text key, .text value]

/-- The role mappings. -/
def roleMappings : OwnedTable Cell String where
  table := .roleMapping
  rows := Tables.roleMappings
  withRows := fun t rows => { t with roleMappings := rows }
  hasOwner := hasProvider
  cells := fun key value => [key, .text value]

/-- The extension properties of providers. -/
def properties : OwnedTable String String where
  table := .property
  rows := Tables.properties
  withRows := fun t rows => { t with properties := rows }
  hasOwner := hasProvider
  cells := fun key value => [.text key, .text value]

/-- The requested claims. -/
def requestedClaims : OwnedTable String Unit where
  table := .requestedClaim
  rows := Tables.requestedClaims
  withRows := fun t rows => { t with requestedClaims := rows }
  hasOwner := hasProvider
  cells := fun key _ => [.text key]

/-- The provisioning claims. -/
def provisioningClaims : OwnedTable String (Option String) where
  table := .provisioningClaim
  rows := Tables.provisioningClaims
  withRows := fun t rows => { t with provisioningClaims := rows }
  hasOwner := hasProvider
  cells := fun key value => [.text key, .text? value]

/-- The provisioning roles. -/
def provisioningRoles : OwnedTable String Unit where
  table := .provisioningRole
  rows := Tables.provisioningRoles
  withRows := fun t rows => { t with provisioningRoles := rows }
  hasOwner := hasProvider
  cells := fun key _ => [.text key]

/-- The providers of just-in-time provisioning. -/
def jitProviders : OwnedTable String Unit where
  table := .jitProvider
  rows := Tables.jitProviders
  withRows := fun t rows => { t with jitProviders := rows }
  hasOwner := hasProvider
  cells := fun key _ => [.text key]

/-- The properties of the connectors of a kind, owned by connectors. -/
def connectorProperties (kind : ConnectorKind) : OwnedTable String String where
  table := .ofConnectorProperties kind
  rows := fun t => (t.connectors kind).properties
  withRows := fun t rows => t.withConnectors kind { t.connectors kind with properties := rows }
  hasOwner := fun t owner => (t.connectors kind).connectors.rows.contains owner
  cells := fun key value => [.text key, .text value]

end OwnedTable

end FederationRegistry
