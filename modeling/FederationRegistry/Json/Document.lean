import FederationRegistry.Json.Numeral

/-!
# JSON texts, read up to their first fault

Reading a text gives a tree of *nodes*, whether or not the text is JSON. Where the text stops
being JSON the tree ends, and the place is marked: a container that is not closed says why
(`Ending`), a value that does not start is `absent`.

**Two readings of a scalar.** A reader that wants the value of a text or a numeral refuses a lone
surrogate or a number out of range; a reader that skips the value does not look at it. So these
leaves hold what they stand for *or* their fault, and the text behind them is read on either way.

**First problem first.** The nodes stand in the order of the text, so a decoder that walks them
meets a fault of the text and a value of the wrong shape in the order in which they are written.

The reader counts down from a bound that exceeds the length of the text (`Document.read`).
-/

namespace FederationRegistry.Json

open Decimal (hexValue?)

/-- What is wrong with a text that is not JSON. -/
inductive Fault where
  /-- A character stands where it cannot. -/
  | malformed
  /-- The text ends too early. -/
  | truncated
deriving DecidableEq

/-- How the reading of an array or object ended. -/
inductive Ending where
  /-- With its bracket. -/
  | closed
  /-- With a fault. -/
  | cut (fault : Fault)
  /-- With the end of the text behind a comma. -/
  | dangling
deriving DecidableEq

/-- The text that stands as a key. -/
inductive MemberKey where
  | name (s : String)
  /-- The text stands for nothing. -/
  | faulty (fault : Fault)

/-- A value in a text, as far as the text goes. -/
inductive Node where
  /-- `null` or a truth value. -/
  | literal (value : Except Fault (Option Bool))
  | number (value : Except Fault Number)
  | text (value : Except Fault String)
  | array (elements : List Node) (ending : Ending)
  | object (members : List (MemberKey × Node)) (ending : Ending)
  /-- No value starts here. -/
  | absent (fault : Fault)

/-- The text behind what was read, or the fault that stopped the reading. -/
abbrev Rest := Except Fault (List Char)

/-- The fault of a text that has `rest` where something else is wanted. -/
def Fault.at (rest : List Char) : Fault := if rest.isEmpty then .truncated else .malformed

/-! ## Scalars -/

/-- The four characters that JSON calls white space. -/
def isSpace (c : Char) : Bool := c = ' ' || c = '\n' || c = '\r' || c = '\t'

/-- The text from its first character that is not white space. -/
def skipSpace (cs : List Char) : List Char := cs.dropWhile isSpace

/-- The text behind a word. -/
def readWord : List Char → List Char → Rest
  | [], cs => .ok cs
  | _ :: _, [] => .error .truncated
  | w :: ws, c :: cs => if w = c then readWord ws cs else .error .malformed

/-- What a scalar stands for, and the text behind it for a reader that skips it. -/
structure Scan (α : Type) where
  value : Except Fault α
  rest : Rest

namespace Scan

variable {α β : Type}

/-- Both readings stop with the same fault. -/
def fault (f : Fault) : Scan α := ⟨.error f, .error f⟩

/-- The value under a function. -/
def map (f : α → β) (s : Scan α) : Scan β := ⟨s.value.map f, s.rest⟩

/-- The scalar stands for nothing, whatever follows. -/
def spoiled (s : Scan α) : Scan α := ⟨.error .malformed, s.rest⟩

end Scan

/-- The number that four digits in base sixteen stand for. -/
def hexQuad? (a b c d : Char) : Option Nat := do
  return (((← hexValue? a) * 16 + (← hexValue? b)) * 16 + (← hexValue? c)) * 16 + (← hexValue? d)

/-- The fault of an escape with fewer than four characters behind its `u`: the text counts as
ended when fewer than four bytes are left. -/
def shortQuad (cs : List Char) : Fault :=
  if (String.ofList cs).utf8ByteSize < 4 then .truncated else .malformed

/-- The character of a two-character escape. -/
def simpleEscape? (c : Char) : Option Char :=
  if c = '"' then some '"'
  else if c = '\\' then some '\\'
  else if c = '/' then some '/'
  else if c = 'b' then some '\x08'
  else if c = 'f' then some '\x0C'
  else if c = 'n' then some '\n'
  else if c = 'r' then some '\r'
  else if c = 't' then some '\t'
  else none

/-- The code unit is the first of a surrogate pair. -/
def isHighSurrogate (n : Nat) : Bool := 0xD800 ≤ n && n ≤ 0xDBFF

/-- The code unit is the second of a surrogate pair. -/
def isLowSurrogate (n : Nat) : Bool := 0xDC00 ≤ n && n ≤ 0xDFFF

/-- The character of a surrogate pair. -/
def surrogatePair (high low : Nat) : Char :=
  Char.ofNat (0x10000 + (high - 0xD800) * 0x400 + (low - 0xDC00))

/-- The characters of a text behind its opening quote. Half a surrogate pair spoils the text, but
does not end it. -/
def scanText : List Char → Scan (List Char)
  | [] => .fault .truncated
  | '"' :: rest => ⟨.ok [], .ok rest⟩
  | '\\' :: rest =>
    match rest with
    | [] => .fault .truncated
    | 'u' :: quad =>
      match quad with
      | a :: b :: c :: d :: more =>
        match hexQuad? a b c d with
        | none => .fault .malformed
        | some n =>
          if isLowSurrogate n then (scanText more).spoiled
          else if isHighSurrogate n then
            match more with
            | '\\' :: 'u' :: a' :: b' :: c' :: d' :: more' =>
              match hexQuad? a' b' c' d' with
              | none => .fault .malformed
              | some m =>
                if isLowSurrogate m then (scanText more').map (surrogatePair n m :: ·)
                else (scanText more').spoiled
            | '\\' :: 'u' :: short => .fault (shortQuad short)
            | ['\\'] => .fault .truncated
            | [] => .fault .truncated
            | other => (scanText other).spoiled
          else (scanText more).map (Char.ofNat n :: ·)
      | short => .fault (shortQuad short)
    | c :: more =>
      match simpleEscape? c with
      | some x => (scanText more).map (x :: ·)
      | none => .fault .malformed
  | c :: rest =>
    if c.toNat < 0x20 then .fault .malformed else (scanText rest).map (c :: ·)

/-- The exponent part of a numeral, with the text behind the numeral. -/
def scanExponent (negative : Bool) (whole : List Char) (fraction : Option (List Char))
    (cs : List Char) : Scan Numeral :=
  match cs with
  | 'e' :: rest | 'E' :: rest =>
    let (minus, rest) := match rest with
      | '-' :: rest => (true, rest)
      | '+' :: rest => (false, rest)
      | rest => (false, rest)
    let (ds, rest) := rest.span Decimal.isDigit
    if ds.isEmpty then ⟨.error (.at rest), .error .malformed⟩
    else ⟨.ok ⟨negative, whole, fraction, some (minus, ds)⟩, .ok rest⟩
  | rest => ⟨.ok ⟨negative, whole, fraction, none⟩, .ok rest⟩

/-- A numeral. A reader that skips it calls every unfinished numeral malformed, also at the end
of the text. -/
def scanNumeral (cs : List Char) : Scan Numeral :=
  let (negative, cs) := match cs with
    | '-' :: rest => (true, rest)
    | rest => (false, rest)
  let (whole, rest) := cs.span Decimal.isDigit
  match whole with
  | [] => ⟨.error (.at rest), .error .malformed⟩
  | '0' :: _ :: _ => .fault .malformed
  | _ =>
    match rest with
    | '.' :: rest =>
      let (ds, rest) := rest.span Decimal.isDigit
      if ds.isEmpty then ⟨.error (.at rest), .error .malformed⟩
      else scanExponent negative whole (some ds) rest
    | rest => scanExponent negative whole none rest

/-- The number of a numeral; one out of range is malformed. -/
def Numeral.toNumber (n : Numeral) : Except Fault Number :=
  match n.number? with
  | some x => .ok x
  | none => .error .malformed

/-- The node of a word, with the text behind it. -/
def readLiteral (value : Option Bool) (word cs : List Char) : Node × Rest :=
  let rest := readWord word cs
  (.literal (rest.map fun _ => value), rest)

/-- The node of a text behind its opening quote, with the text behind it. -/
def readText (cs : List Char) : Node × Rest :=
  let s := scanText cs
  (.text (s.value.map String.ofList), s.rest)

/-- The node of a numeral, with the text behind it. -/
def readNumber (cs : List Char) : Node × Rest :=
  let s := scanNumeral cs
  (.number (s.value.bind Numeral.toNumber), s.rest)

/-! ## Values -/

mutual

/-- The node at the start of a text, with the text behind it. -/
def readValue : Nat → List Char → Node × Rest
  | 0, _ => (.absent .malformed, .error .malformed)
  | fuel + 1, cs =>
    match skipSpace cs with
    | [] => (.absent .truncated, .error .truncated)
    | c :: rest =>
      if c = 'n' then readLiteral none "ull".toList rest
      else if c = 't' then readLiteral (some true) "rue".toList rest
      else if c = 'f' then readLiteral (some false) "alse".toList rest
      else if c = '"' then readText rest
      else if c = '[' then
        let (xs, ending, rest) := readElements fuel true rest
        (.array xs ending, rest)
      else if c = '{' then
        let (ms, ending, rest) := readMembers fuel true rest
        (.object ms ending, rest)
      else if c = '-' || Decimal.isDigit c then readNumber (c :: rest)
      else (.absent .malformed, .error .malformed)

/-- The elements of an array, behind its bracket (`first`) or behind a comma. -/
def readElements : Nat → Bool → List Char → List Node × Ending × Rest
  | 0, _, _ => ([], .cut .malformed, .error .malformed)
  | fuel + 1, first, cs =>
    match skipSpace cs with
    | [] => ([], if first then .cut .truncated else .dangling, .error .truncated)
    | c :: rest =>
      if c = ']' then
        if first then ([], .closed, .ok rest) else ([], .cut .malformed, .error .malformed)
      else
        match readValue fuel (c :: rest) with
        | (x, .error f) => ([x], .cut f, .error f)
        | (x, .ok rest) =>
          match skipSpace rest with
          | [] => ([x], .cut .truncated, .error .truncated)
          | c :: rest =>
            if c = ',' then
              let (xs, ending, rest) := readElements fuel false rest
              (x :: xs, ending, rest)
            else if c = ']' then ([x], .closed, .ok rest)
            else ([x], .cut .malformed, .error .malformed)

/-- The members of an object, behind its bracket (`first`) or behind a comma. Where a key is due
that is no text, the object ends at its first character. -/
def readMembers : Nat → Bool → List Char → List (MemberKey × Node) × Ending × Rest
  | 0, _, _ => ([], .cut .malformed, .error .malformed)
  | fuel + 1, first, cs =>
    match skipSpace cs with
    | [] => ([], if first then .cut .truncated else .dangling, .error .truncated)
    | c :: rest =>
      if c = '"' then
        let key := scanText rest
        let name := match key.value with
          | .ok s => MemberKey.name (String.ofList s)
          | .error f => .faulty f
        match key.rest with
        | .error f => ([(name, .absent f)], .cut f, .error f)
        | .ok rest =>
          match skipSpace rest with
          | [] => ([(name, .absent .truncated)], .cut .truncated, .error .truncated)
          | c :: rest =>
            if c = ':' then
              match readValue fuel rest with
              | (v, .error f) => ([(name, v)], .cut f, .error f)
              | (v, .ok rest) =>
                match skipSpace rest with
                | [] => ([(name, v)], .cut .truncated, .error .truncated)
                | c :: rest =>
                  if c = ',' then
                    let (ms, ending, rest) := readMembers fuel false rest
                    ((name, v) :: ms, ending, rest)
                  else if c = '}' then ([(name, v)], .closed, .ok rest)
                  else ([(name, v)], .cut .malformed, .error .malformed)
            else ([(name, .absent .malformed)], .cut .malformed, .error .malformed)
      else if c = '}' then
        if first then ([], .closed, .ok rest) else ([], .cut .malformed, .error .malformed)
      else ([], .cut .malformed, .error .malformed)

end

/-- A whole text: its value, and whether anything but white space follows it. -/
structure Document where
  root : Node
  /-- The fault behind a complete value, if there is one. -/
  trailing : Option Fault

/-- The document of a text. -/
def Document.read (text : String) : Document :=
  let cs := text.toList
  let (root, rest) := readValue (2 * cs.length + 2) cs
  match rest with
  | .error f => ⟨root, some f⟩
  | .ok rest => ⟨root, if (skipSpace rest).isEmpty then none else some .malformed⟩

end FederationRegistry.Json
