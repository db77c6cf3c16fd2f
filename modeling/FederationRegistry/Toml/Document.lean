import FederationRegistry.Toml.Scalar

/-!
# TOML documents

A document is a sequence of lines that build one table. A line names a value by a key with dots, or
opens a table or a list of tables in which the following lines go on.

**Tables** remember how they came about (`TableOrigin`), since that decides what may still be added:
a table is opened once, a key is given once, dots go on in tables that dots made, and a table
between braces is finished with its closing brace.

Main definition: `Toml.read`.
-/

namespace FederationRegistry.Toml

/-! ## Tables in the making -/

/-- How a table came about. -/
inductive TableOrigin where
  /-- A header opened it, or it is the document itself. -/
  | opened
  /-- A header opened a table below it. -/
  | implied
  /-- A key with dots goes through it. -/
  | dotted
deriving DecidableEq

/-- A value in a document that is being read. -/
inductive Item where
  /-- A finished value. -/
  | value (v : SettingValue)
  | table (origin : TableOrigin) (entries : List (String × Item))
  /-- The tables of a list of tables; the first is the one opened last. -/
  | tables (elements : List (List (String × Item)))

/-- The entries of a table in the making. -/
abbrev Entries := List (String × Item)

/-- The entries with another item under a key that is there. -/
def replaceItem (key : String) (item : Item) (entries : Entries) : Entries :=
  entries.map fun e => if e.1 == key then (key, item) else e

/-- The entries with the table at a path changed; tables that the path lacks are made. The change
is given how the table came about. -/
def changeAt (dotted : Bool) (change : TableOrigin → Entries → Option Entries) :
    List String → TableOrigin → Entries → Option Entries
  | [], origin, entries => change origin entries
  | key :: path, _, entries =>
    match entries.lookup key with
    | none =>
      let origin : TableOrigin := if dotted then .dotted else .implied
      (changeAt dotted change path origin []).map fun inner =>
        entries ++ [(key, .table origin inner)]
    | some (.table origin inner) =>
      if dotted ∧ origin = .opened then none
      else
        (changeAt dotted change path origin inner).map fun inner =>
          replaceItem key (.table origin inner) entries
    | some (.tables (newest :: older)) =>
      (changeAt dotted change path .opened newest).map fun newest =>
        replaceItem key (.tables (newest :: older)) entries
    | some (.tables []) | some (.value _) => none

/-- The entries with a value under the last part of a key. -/
def addValue (throughDots : Bool) (key : String) (v : SettingValue) (origin : TableOrigin)
    (entries : Entries) : Option Entries :=
  if (origin = .dotted) ≠ throughDots then none
  else if (entries.lookup key).isSome then none
  else some (entries ++ [(key, .value v)])

/-- The path and the last part of a key. -/
def splitLast (key : List String) : List String × String := (key.dropLast, key.getLast?.getD "")

/-- The entries with a value under a key with dots. -/
def assign (key : List String) (v : SettingValue) (origin : TableOrigin) (entries : Entries) :
    Option Entries :=
  let (path, last) := splitLast key
  changeAt true (addValue (!path.isEmpty) last v) path origin entries

/-- The entries with a table opened under a key. -/
def openTable (key : List String) (entries : Entries) : Option Entries :=
  let (path, last) := splitLast key
  let add (_ : TableOrigin) (entries : Entries) : Option Entries :=
    match entries.lookup last with
    | none => some (entries ++ [(last, .table .opened [])])
    | some (.table .implied inner) => some (replaceItem last (.table .opened inner) entries)
    | some _ => none
  changeAt false add path .opened entries

/-- The entries with one more table in the list under a key. -/
def openElement (key : List String) (entries : Entries) : Option Entries :=
  let (path, last) := splitLast key
  let add (_ : TableOrigin) (entries : Entries) : Option Entries :=
    match entries.lookup last with
    | none => some (entries ++ [(last, .tables [[]])])
    | some (.tables elements) => some (replaceItem last (.tables ([] :: elements)) entries)
    | some _ => none
  changeAt false add path .opened entries

mutual

/-- The value that an item stands for. -/
def Item.finish : Item → SettingValue
  | .value v => v
  | .table _ entries => .table (finishEntries entries)
  | .tables elements => .list (finishTables elements).reverse

/-- The values of entries. -/
def finishEntries : List (String × Item) → List (String × SettingValue)
  | [] => []
  | (key, item) :: entries => (key, item.finish) :: finishEntries entries

/-- The values of tables. -/
def finishTables : List (List (String × Item)) → List SettingValue
  | [] => []
  | entries :: elements => .table (finishEntries entries) :: finishTables elements

end

/-! ## Values -/

mutual

/-- A value in which so many lists and tables may stand one in another; twice the number of
characters is fuel enough. -/
def scanValue : Nat → Nat → List Char → Option (SettingValue × List Char)
  | _, 0, _ => none
  | room, fuel + 1, cs =>
    match cs with
    | '"' :: '"' :: '"' :: cs => (scanLines '"' fuel cs).map fun s => (.text s.1, s.2)
    | '"' :: cs => (scanLine '"' fuel cs).map fun s => (.text s.1, s.2)
    | '\'' :: '\'' :: '\'' :: cs => (scanLines '\'' fuel cs).map fun s => (.text s.1, s.2)
    | '\'' :: cs => (scanLine '\'' fuel cs).map fun s => (.text s.1, s.2)
    | '[' :: cs =>
      match room with
      | 0 => none
      | room + 1 => (scanElements room fuel cs []).map fun s => (.list s.1, s.2)
    | '{' :: cs =>
      match room with
      | 0 => none
      | room + 1 => (scanEntries room fuel cs []).map fun s => (.table (finishEntries s.1), s.2)
    | cs => scanScalar cs

/-- The elements of a list up to its closing bracket; `read` is what came so far, backwards. -/
def scanElements (room : Nat) :
    Nat → List Char → List SettingValue → Option (List SettingValue × List Char)
  | 0, _, _ => none
  | fuel + 1, cs, read =>
    match skipLines cs with
    | ']' :: rest => some (read.reverse, rest)
    | cs => do
      let (v, rest) ← scanValue room fuel cs
      match skipLines rest with
      | ',' :: rest => scanElements room fuel rest (v :: read)
      | ']' :: rest => some ((v :: read).reverse, rest)
      | _ => none

/-- The entries of a table up to its closing brace. Lines may end between key, sign and value. -/
def scanEntries (room : Nat) : Nat → List Char → Entries → Option (Entries × List Char)
  | 0, _, _ => none
  | fuel + 1, cs, read =>
    match skipLines cs with
    | '}' :: rest => some (read, rest)
    | cs => do
      let (key, rest) ← scanDottedKey fuel cs
      match skipLines rest with
      | '=' :: rest => do
        let (v, rest) ← scanValue room fuel (skipLines rest)
        let read ← assign key v .opened read
        match skipLines rest with
        | ',' :: rest => scanEntries room fuel rest read
        | '}' :: rest => some (read, rest)
        | _ => none
      | _ => none

end

/-! ## Lines -/

/-- A document so far: what it holds, and where the following lines go. -/
structure Draft where
  entries : Entries := []
  /-- The key of the header that the lines are under, if there is one. -/
  header : List String := []

/-- The document with a value under a key below the header. -/
def Draft.assign (d : Draft) (key : List String) (v : SettingValue) : Option Draft :=
  (changeAt false (Toml.assign key v) d.header .opened d.entries).map fun entries =>
    { d with entries }

/-- The document behind a header, and what is left of the line. -/
def scanHeader (fuel : Nat) (d : Draft) (cs : List Char) : Option (Draft × List Char) :=
  match cs with
  | '[' :: cs => do
    let (key, rest) ← scanDottedKey fuel cs
    match rest with
    | ']' :: ']' :: rest => (openElement key d.entries).map fun entries => (⟨entries, key⟩, rest)
    | _ => none
  | cs => do
    let (key, rest) ← scanDottedKey fuel cs
    match rest with
    | ']' :: rest => (openTable key d.entries).map fun entries => (⟨entries, key⟩, rest)
    | _ => none

/-- The document behind a key and its value, and what is left of the line. -/
def scanAssignment (fuel : Nat) (d : Draft) (cs : List Char) : Option (Draft × List Char) := do
  let (key, rest) ← scanDottedKey fuel cs
  match rest with
  | '=' :: rest => do
    let (v, rest) ← scanValue maxDepth fuel (skipBlanks rest)
    (d.assign key v).map fun d => (d, rest)
  | _ => none

/-- The document behind all lines; twice the number of characters and two more is fuel enough. -/
def scanLinesInto : Nat → Draft → List Char → Option Draft
  | 0, _, _ => none
  | fuel + 1, d, cs =>
    match skipLines cs with
    | [] => some d
    | '[' :: cs => do
      let (d, rest) ← scanHeader fuel d cs
      scanLinesInto fuel d (← endLine rest)
    | cs => do
      let (d, rest) ← scanAssignment fuel d cs
      scanLinesInto fuel d (← endLine rest)

/-- The table that a text stands for, if it is a TOML document. A mark of the byte order may come
first. -/
def read (text : String) : Option SettingValue :=
  let cs :=
    match text.toList with
    | c :: cs => if c.toNat = 0xFEFF then cs else c :: cs
    | [] => []
  (scanLinesInto (2 * cs.length + 2) {} cs).map fun d => .table (finishEntries d.entries)

end FederationRegistry.Toml
