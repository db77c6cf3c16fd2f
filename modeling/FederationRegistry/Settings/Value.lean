import FederationRegistry.Json.Basic
import FederationRegistry.Word

/-!
# Values of settings

Settings come from documents of several formats. A `SettingValue` is what such a document holds: a
text, an integer, a list, a table, or something that no setting takes. A `SettingFormat` says in
what the formats differ when a value is read as a record or as a word.

**Records** stand as a table with their fields by name, or as a list with their fields in order, in
which trailing fields with defaults may be missing.
-/

namespace FederationRegistry

/-- A value in a settings document. -/
inductive SettingValue where
  /-- A missing value that is written out. -/
  | absent
  | text (s : String)
  | integer (i : Int)
  | list (values : List SettingValue)
  | table (entries : List (String × SettingValue))
  /-- A value of a kind that no setting has. -/
  | foreign
deriving Inhabited

namespace SettingValue

mutual

/-- The value that a JSON value stands for. -/
def ofJson : Json → SettingValue
  | .null => .absent
  | .string s => .text s
  | .number (.integer i) => .integer i.value
  | .array xs => .list (ofElements xs)
  | .object ms => .table (ofMembers ms)
  | .bool _ | .number (.double _) => .foreign

/-- The values of elements. -/
def ofElements : List Json → List SettingValue
  | [] => []
  | x :: xs => ofJson x :: ofElements xs

/-- The entries of members. -/
def ofMembers : List (String × Json) → List (String × SettingValue)
  | [] => []
  | (k, v) :: ms => (k, ofJson v) :: ofMembers ms

end

/-- A text. -/
def text? : SettingValue → Option String
  | .text s => some s
  | _ => none

/-- A text, or none where the value is missing. -/
def optionalText? : SettingValue → Option (Option String)
  | .absent => some none
  | v => v.text?.map some

/-- A natural number of 64 bits. -/
def word64? : SettingValue → Option Nat
  | .integer i => if 0 ≤ i ∧ i < Word.unsignedLimit then some i.toNat else none
  | _ => none

end SettingValue

/-- What differs between the formats of settings documents. -/
structure SettingFormat where
  /-- A list may hold more than the fields of a record. -/
  allowsSpare : Bool
  /-- The value says that a word comes with nothing. -/
  isNothing : SettingValue → Bool

namespace SettingFormat

/-- JSON: a list holds the fields and no more, and nothing is `null`. -/
def json : SettingFormat where
  allowsSpare := false
  isNothing
    | .absent => true
    | _ => false

/-- TOML: a list may go on, and nothing is an empty list or table. -/
def toml : SettingFormat where
  allowsSpare := true
  isNothing
    | .list [] | .table [] => true
    | _ => false

/-- One of finitely many words, alone or as the only key of a table over nothing. -/
def word? {α : Type} (format : SettingFormat) (words : List (String × α)) :
    SettingValue → Option α
  | .text s => words.lookup s
  | .table [(s, v)] => if format.isNothing v then words.lookup s else none
  | _ => none

end SettingFormat

/-- A field of a record of settings. -/
structure SettingField (ρ : Type) where
  name : String
  /-- The field has no default. -/
  required : Bool
  /-- The record with the field set to a value, if the value is of the right kind. -/
  set : SettingValue → ρ → Option ρ

namespace SettingField

variable {ρ : Type}

/-- The record that a table gives: every key names a field, and no required field is missing. -/
def ofTable (fields : List (SettingField ρ)) (entries : List (String × SettingValue))
    (blank : ρ) : Option ρ :=
  if (entries.all fun e => fields.any fun f => f.name == e.1) &&
      (fields.all fun f => !f.required || entries.any fun e => e.1 == f.name) then
    fields.foldlM (fun r f => (entries.lookup f.name).elim (some r) fun v => f.set v r) blank
  else none

/-- The record that a list gives. -/
def ofList (spare : Bool) : List (SettingField ρ) → List SettingValue → ρ → Option ρ
  | [], [], r => some r
  | [], _ :: _, r => if spare then some r else none
  | f :: fs, v :: vs, r => (f.set v r).bind (ofList spare fs vs)
  | f :: fs, [], r => if f.required then none else ofList spare fs [] r

/-- The record that a value gives. -/
def read? (format : SettingFormat) (fields : List (SettingField ρ)) (blank : ρ) :
    SettingValue → Option ρ
  | .table entries => ofTable fields entries blank
  | .list values => ofList format.allowsSpare fields values blank
  | _ => none

end SettingField

end FederationRegistry
