import FederationRegistry.Property

/-!
# JSON forms of collections

How texts that may be missing, lists, sets and dictionaries stand in a JSON value: a missing text
as `null`, a set as the array of its members in order, a dictionary as the object with its
entries in order. The readers take the same forms; a set and a dictionary may come in any order.
-/

namespace FederationRegistry.Json

variable {α : Type}

/-- A value, or `null` where there is none. -/
def ofOption (form : α → Json) : Option α → Json
  | none => .null
  | some a => form a

/-- A text, or `null` where there is none. -/
def ofText? : Option String → Json := ofOption .string

/-- The elements of a list. -/
def ofList (form : α → Json) (as : List α) : Json := .array (as.map form)

/-- A list of texts. -/
def ofTexts : List String → Json := ofList .string

/-- The members of a set. -/
def ofNames (s : KeySet String) : Json := ofTexts s.keys

/-- The entries of a dictionary. -/
def ofDict (form : α → Json) (d : Dict String α) : Json :=
  .object (d.entries.map fun e => (e.1, form e.2))

/-- A natural number. -/
def ofNat (n : Nat) : Json := ofInt n

/-! ## Readers -/

/-- A text at a node. -/
def Node.readText (_ : Depth) (n : Node) : Decoded String := n.string

/-- A text or `null` at a node. -/
def Node.readText? (_ : Depth) (n : Node) : Decoded (Option String) := n.string?

/-- A truth value at a node. -/
def Node.readFlag (_ : Depth) (n : Node) : Decoded Bool := n.bool

/-- A set of texts at a node. -/
def Node.readNames (depth : Depth) (n : Node) : Decoded (KeySet String) := n.names depth

/-- Texts by key at a node. -/
def Node.readTexts (depth : Depth) (n : Node) : Decoded (Dict String String) :=
  n.dict Node.readText depth

end FederationRegistry.Json

namespace FederationRegistry.PropertyMap

/-- The properties as an object. -/
def toJson (m : PropertyMap) : Json := Json.ofDict (·.json) m

/-- The properties that a node gives. -/
def read (depth : Json.Depth) (n : Json.Node) : Json.Decoded PropertyMap :=
  n.dict PropertyValue.read depth

end FederationRegistry.PropertyMap
