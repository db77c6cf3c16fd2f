import FederationRegistry.ModelError
import FederationRegistry.Property

/-!
# Connectors

An identity provider authenticates through *authenticators* and pushes accounts through
*provisioners*. Both are connectors: a name, a switch and properties. A connector is kept under
its own name, and the last one added under a name stays.
-/

namespace FederationRegistry

/-- The two kinds of connector. -/
inductive ConnectorKind where
  | authenticator
  | provisioner
deriving DecidableEq

namespace ConnectorKind

/-- The kind in words. -/
def label : ConnectorKind → String
  | .authenticator => "authenticator"
  | .provisioner => "provisioner"

/-- The field that holds the name of a connector of this kind. -/
def nameField : ConnectorKind → ModelField
  | .authenticator => .authenticatorName
  | .provisioner => .provisionerName

end ConnectorKind

/-- An authenticator or a provisioner. -/
structure Connector where
  name : String
  enabled : Bool
  properties : PropertyMap := ∅
deriving DecidableEq, BEq

namespace Connector

/-- A new connector: authenticators start switched off, provisioners switched on. -/
def named (kind : ConnectorKind) (name : String) : Connector :=
  ⟨name, decide (kind = .provisioner), ∅⟩

/-- The connector, if it has a name. -/
def check (kind : ConnectorKind) (c : Connector) : Checked Connector :=
  (requireText kind.nameField c.name).map fun _ => c

/-- A change to a connector. -/
inductive Edit where
  | setEnabled (enabled : Bool)
  | setProperties (properties : PropertyMap)
  | addProperty (key : String) (value : PropertyValue)
  | addProperties (properties : PropertyMap)

/-- The connector after an edit. -/
def edit (c : Connector) : Edit → Connector
  | .setEnabled enabled => { c with enabled }
  | .setProperties properties => { c with properties := c.properties.replace properties }
  | .addProperty key value => { c with properties := c.properties.put key value }
  | .addProperties properties => { c with properties := c.properties.absorb properties }

end Connector

/-- Connectors by name. -/
abbrev ConnectorMap := Dict String Connector

namespace ConnectorMap

/-- The connectors with one more, in the place of one of the same name. -/
def add (m : ConnectorMap) (c : Connector) : ConnectorMap := m.insert c.name c

/-- The connectors with those of a list. -/
def addMany (m : ConnectorMap) (cs : List Connector) : ConnectorMap := cs.foldl add m

/-- The connectors of a list. -/
def ofList (cs : List Connector) : ConnectorMap := addMany ∅ cs

/-- A connector stands under its own name. -/
def checkPlace (kind : ConnectorKind) (entry : String × Connector) : Checked Unit :=
  if entry.1 = entry.2.name then .ok ()
  else .error (.misplaced kind.nameField kind.label entry.1 entry.2.name)

end ConnectorMap

end FederationRegistry
