import FederationRegistry.Json.Basic
import FederationRegistry.Decimal.Digits
import FederationRegistry.Word

/-!
# Identifiers and references

The registry keeps two kinds of entities, each with its own identifiers: positive numbers of 64
bits that a store hands out. A caller names an entity by identifier or by name (`Ref`).
-/

namespace FederationRegistry

/-- A kind of entity that the registry keeps. -/
inductive Entity where
  | identityProvider
  | serviceProvider
deriving DecidableEq

/-- The kind in words. -/
def Entity.label : Entity → String
  | .identityProvider => "identity provider"
  | .serviceProvider => "service provider"

/-- The identifier of an entity. -/
structure Id (e : Entity) where
  value : Nat
  inRange : 0 < value ∧ value < Word.unsignedLimit
deriving DecidableEq

namespace Id

variable {e : Entity}

/-- The identifier with a number, if the number is one. -/
def ofNat? (n : Nat) : Option (Id e) :=
  if h : 0 < n ∧ n < Word.unsignedLimit then some ⟨n, h⟩ else none

/-- The identifier in decimal digits. -/
def text (i : Id e) : String := Decimal.text i.value

@[ext] theorem ext {i j : Id e} (h : i.value = j.value) : i = j := by
  cases i; cases j; cases h; rfl

theorem ofNat?_eq_some_iff {n : Nat} {i : Id e} : ofNat? n = some i ↔ i.value = n := by
  unfold ofNat?
  constructor
  · intro h; split at h
    · cases h; rfl
    · cases h
  · rintro rfl; rw [dif_pos i.inRange]

end Id

/-- A reference to an entity. -/
inductive Ref (e : Entity) where
  | id (i : Id e)
  | name (s : String)
deriving DecidableEq

namespace Ref

variable {e : Entity}

/-- The reference in words. -/
def text : Ref e → String
  | .id i => "id " ++ i.text
  | .name s => "name '" ++ s ++ "'"

/-- The reference as a JSON value: its kind over its content. -/
def toJson : Ref e → Json
  | .id i => .object [("id", .ofInt i.value)]
  | .name s => .object [("name", .string s)]

/-- The reference that a JSON value gives: an object with one member, `id` over a positive integer
or `name` over a text. -/
def ofJson? : Json → Option (Ref e)
  | .object [("id", .number (.integer n))] => (Id.ofNat? n.value.toNat).map .id
  | .object [("name", .string s)] => some (.name s)
  | _ => none

end Ref

end FederationRegistry
