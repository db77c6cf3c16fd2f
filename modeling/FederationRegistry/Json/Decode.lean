import FederationRegistry.Json.Document

/-!
# Decoding nodes

Readers that turn a node into a value of a wanted shape. A reader walks the node in the order of
the text and stops at the first problem, be it a fault of the text or a value of another shape.

**Depth.** A text may nest 127 arrays and objects; a reader counts down and calls the next one
malformed. A value that is skipped is not counted.

**Records** are described by their fields (`Field`). An object gives them by name, each at most
once, and members of other names are skipped unless the record is closed; an array gives them
by position, and may stop early where the rest have defaults.
-/

namespace FederationRegistry.Json

/-- Why a node does not decode. -/
inductive DecodeError where
  | malformed
  | truncated
  /-- The text is JSON so far, but not of the wanted shape. -/
  | mismatch
deriving DecidableEq

/-- The fault of a text as a reason. -/
def Fault.toDecodeError : Fault → DecodeError
  | .malformed => .malformed
  | .truncated => .truncated

/-- A decoded value, or the first problem. -/
abbrev Decoded (α : Type) := Except DecodeError α

/-- What a leaf stands for. -/
def leaf {α : Type} (value : Except Fault α) : Decoded α := value.mapError Fault.toDecodeError

/-- How many more arrays and objects may open; `none` for no limit. -/
abbrev Depth := Option Nat

/-- The limit for texts. -/
def Depth.ofText : Depth := some 127

/-- The limit inside one more array or object. -/
def Depth.descend : Depth → Decoded Depth
  | none => .ok none
  | some 0 => .error .malformed
  | some (n + 1) => .ok (some n)

/-- A container is complete when it was closed. -/
def Ending.check : Ending → Decoded Unit
  | .closed => .ok ()
  | .cut f => .error f.toDecodeError
  | .dangling => .error .truncated

/-- The key that a member gives. -/
def MemberKey.decode : MemberKey → Decoded String
  | .name s => .ok s
  | .faulty f => .error f.toDecodeError

namespace Node

/-- The problem with a node where a value of another shape is wanted: a scalar is read before its
shape is refused, a container is refused where it opens. -/
def refusal : Node → DecodeError
  | .literal (.error f) | .number (.error f) | .text (.error f) | .absent f => f.toDecodeError
  | _ => .mismatch

/-! ## Skipping and reading any value -/

mutual

/-- The first fault in a value that is skipped. -/
def skip : Node → Decoded Unit
  | .literal (.error f) => .error f.toDecodeError
  | .array xs ending => do skipElements xs; ending.check
  | .object ms ending => do skipMembers ms; ending.check
  | .absent f => .error f.toDecodeError
  | _ => .ok ()

/-- The first fault among skipped elements. -/
def skipElements : List Node → Decoded Unit
  | [] => .ok ()
  | x :: xs => do x.skip; skipElements xs

/-- The first fault among skipped members. -/
def skipMembers : List (MemberKey × Node) → Decoded Unit
  | [] => .ok ()
  | (_, v) :: ms => do v.skip; skipMembers ms

end

mutual

/-- Any value. -/
def json (depth : Depth) : Node → Decoded Json
  | .literal value => do
    match ← leaf value with
    | none => return .null
    | some b => return .bool b
  | .number value => do return .number (← leaf value)
  | .text value => do return .string (← leaf value)
  | .array xs ending => do
    let inside ← depth.descend
    let elements ← jsonElements inside xs
    ending.check
    return .array elements
  | .object ms ending => do
    let inside ← depth.descend
    let members ← jsonMembers inside ms
    ending.check
    return .object members
  | .absent f => .error f.toDecodeError

/-- Elements of any shape. -/
def jsonElements (depth : Depth) : List Node → Decoded (List Json)
  | [] => .ok []
  | x :: xs => do
    let y ← x.json depth
    return y :: (← jsonElements depth xs)

/-- Members of any shape. -/
def jsonMembers (depth : Depth) : List (MemberKey × Node) → Decoded (List (String × Json))
  | [] => .ok []
  | (key, v) :: ms => do
    let k ← key.decode
    let w ← v.json depth
    return (k, w) :: (← jsonMembers depth ms)

end

mutual

/-- The node that a value is read from. -/
def ofJson : Json → Node
  | .null => .literal (.ok none)
  | .bool b => .literal (.ok (some b))
  | .number n => .number (.ok n)
  | .string s => .text (.ok s)
  | .array xs => .array (ofElements xs) .closed
  | .object ms => .object (ofMembers ms) .closed

/-- The nodes of elements. -/
def ofElements : List Json → List Node
  | [] => []
  | x :: xs => ofJson x :: ofElements xs

/-- The nodes of members. -/
def ofMembers : List (String × Json) → List (MemberKey × Node)
  | [] => []
  | (k, v) :: ms => (.name k, ofJson v) :: ofMembers ms

end

/-! ## Scalars -/

/-- A text. -/
def string : Node → Decoded String
  | .text value => leaf value
  | n => .error n.refusal

/-- A truth value. -/
def bool : Node → Decoded Bool
  | .literal (.ok (some b)) => .ok b
  | n => .error n.refusal

/-- A text or `null`. -/
def string? : Node → Decoded (Option String)
  | .literal (.ok none) => .ok none
  | n => n.string.map some

/-- One of finitely many words. A word may also stand as the only key of an object, over
`null`. -/
def word {α : Type} (words : List (String × α)) (depth : Depth) : Node → Decoded α
  | .text value => do
    match words.lookup (← leaf value) with
    | some a => return a
    | none => throw .mismatch
  | .object ms ending => do
    let _ ← depth.descend
    match ms with
    | [] =>
      match ending with
      | .closed => throw .malformed
      | ending => ending.check; throw .malformed
    | (key, v) :: more =>
      let name ← key.decode
      let some a := words.lookup name | throw .mismatch
      match v with
      | .literal (.ok none) => pure ()
      | v => throw v.refusal
      if more.isEmpty then
        match ending with
        | .closed => return a
        | .cut f => throw f.toDecodeError
        | .dangling => throw .malformed
      else throw .malformed
  | .absent f => .error f.toDecodeError
  | _ => .error .malformed

/-! ## Collections -/

/-- Every element read by the same reader. -/
def each {α : Type} (read : Node → Decoded α) : List Node → Decoded (List α)
  | [] => .ok []
  | x :: xs => do
    let a ← read x
    return a :: (← each read xs)

/-- An array of values of one shape. -/
def list {α : Type} (read : Depth → Node → Decoded α) (depth : Depth) : Node → Decoded (List α)
  | .array xs ending => do
    let inside ← depth.descend
    let out ← each (read inside) xs
    ending.check
    return out
  | n => .error n.refusal

/-- Every member read by the same reader, in the order of the text. -/
def eachMember {α : Type} (read : Node → Decoded α) :
    List (MemberKey × Node) → Decoded (List (String × α))
  | [] => .ok []
  | (key, v) :: ms => do
    let k ← key.decode
    let a ← read v
    return (k, a) :: (← eachMember read ms)

/-- An object with values of one shape; the last member of a key wins. -/
def dict {α : Type} (read : Depth → Node → Decoded α) (depth : Depth) :
    Node → Decoded (Dict String α)
  | .object ms ending => do
    let inside ← depth.descend
    let out ← eachMember (read inside) ms
    ending.check
    return Dict.ofList out
  | n => .error n.refusal

/-- An array of texts as a set. -/
def names (depth : Depth) (n : Node) : Decoded (KeySet String) :=
  (n.list (fun _ => string) depth).map KeySet.ofList

end Node

/-! ## Records -/

/-- A field of a record of type `ρ`. -/
structure Field (ρ : Type) where
  name : String
  /-- The field has no default. -/
  required : Bool
  /-- The record with the field set to what a node gives. -/
  set : Depth → Node → ρ → Decoded ρ

/-- A field with a default. -/
def Field.optional {ρ α : Type} (name : String) (read : Depth → Node → Decoded α)
    (put : α → ρ → ρ) : Field ρ :=
  ⟨name, false, fun depth n r => (read depth n).map fun a => put a r⟩

/-- A field without a default. -/
def Field.mandatory {ρ α : Type} (name : String) (read : Depth → Node → Decoded α)
    (put : α → ρ → ρ) : Field ρ :=
  ⟨name, true, fun depth n r => (read depth n).map fun a => put a r⟩

/-- The shape of a record. -/
structure RecordShape (ρ : Type) where
  /-- The fields, in the order in which an array gives them. -/
  fields : List (Field ρ)
  /-- Members of other names are refused. -/
  closed : Bool
  /-- The record of the defaults. -/
  blank : ρ

namespace RecordShape

variable {ρ : Type}

/-- The record that members give, behind the fields in `seen`. -/
def ofMembers (shape : RecordShape ρ) (depth : Depth) (ending : Ending) :
    List (MemberKey × Node) → List String → ρ → Decoded ρ
  | [], seen, r => do
    ending.check
    if shape.fields.all fun f => !f.required || seen.contains f.name then return r
    else throw .mismatch
  | (key, v) :: ms, seen, r => do
    let name ← key.decode
    match shape.fields.find? fun f => f.name == name with
    | some f =>
      if seen.contains name then throw .mismatch
      ofMembers shape depth ending ms (name :: seen) (← f.set depth v r)
    | none =>
      if shape.closed then throw .mismatch
      v.skip
      ofMembers shape depth ending ms seen r

/-- The record that elements give by position. -/
def ofElements (depth : Depth) (ending : Ending) :
    List (Field ρ) → List Node → ρ → Decoded ρ
  | [], [], r =>
    match ending with
    | .closed => .ok r
    | .cut f => .error f.toDecodeError
    | .dangling => .error .malformed
  | [], _ :: _, _ => .error .malformed
  | f :: fs, x :: xs, r => do ofElements depth ending fs xs (← f.set depth x r)
  | f :: fs, [], r => do
    ending.check
    if f.required then throw .mismatch
    ofElements depth ending fs [] r

/-- The record that a node gives. -/
def read (shape : RecordShape ρ) (depth : Depth) : Node → Decoded ρ
  | .object ms ending => do shape.ofMembers (← depth.descend) ending ms [] shape.blank
  | .array xs ending => do ofElements (← depth.descend) ending shape.fields xs shape.blank
  | n => .error n.refusal

end RecordShape

/-! ## Whole texts -/

/-- What a text stands for, read as a whole. -/
def decodeText {α : Type} (read : Depth → Node → Decoded α) (text : String) : Decoded α := do
  let document := Document.read text
  let value ← read Depth.ofText document.root
  match document.trailing with
  | none => return value
  | some f => throw f.toDecodeError

end FederationRegistry.Json
