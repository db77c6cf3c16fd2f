import FederationRegistry.Decimal.Digits

/-!
# Words, texts and keys of TOML

The smallest parts of a TOML document, read from the front of a list of characters. White space is
blanks and tabs; lines end with a line feed, with or without a carriage return before it. Other
controls stand nowhere in a document. A scanner gives what it read and what is left, or nothing
where the document is not TOML. Where a scanner takes fuel, more of it than there are characters is
enough.
-/

namespace FederationRegistry.Toml

/-! ## White space -/

/-- White space inside a line. -/
def isBlank (c : Char) : Bool := c = ' ' || c = '\t'

/-- The text behind white space. -/
def skipBlanks (cs : List Char) : List Char := cs.dropWhile isBlank

/-- The character may stand in comments and literal texts. -/
def isPlain (c : Char) : Bool := c = '\t' || (0x20 ≤ c.toNat && c.toNat != 0x7F)

/-- The text behind the end of a line. -/
def newline? : List Char → Option (List Char)
  | '\n' :: cs => some cs
  | '\r' :: '\n' :: cs => some cs
  | _ => none

/-- The text behind a comment, if there is one; the end of the line stays. -/
def skipComment : List Char → List Char
  | '#' :: cs => cs.dropWhile isPlain
  | cs => cs

/-- The text behind the end of a line that holds nothing more but white space and a comment. -/
def endLine (cs : List Char) : Option (List Char) :=
  match skipComment (skipBlanks cs) with
  | [] => some []
  | cs => newline? cs

/-- The text behind white space, comments and ends of lines, from inside a comment or not. -/
def skipLinesFrom (inComment : Bool) : List Char → List Char
  | [] => []
  | '\n' :: cs => skipLinesFrom false cs
  | '\r' :: '\n' :: cs => skipLinesFrom false cs
  | c :: cs =>
    if inComment then
      if isPlain c then skipLinesFrom true cs else c :: cs
    else if isBlank c then skipLinesFrom false cs
    else if c = '#' then skipLinesFrom true cs
    else c :: cs

/-- The text behind white space, comments and ends of lines. -/
def skipLines (cs : List Char) : List Char := skipLinesFrom false cs

/-! ## Texts -/

/-- The character whose code has `digits` hexadecimal digits. -/
def scanCode (digits : Nat) (cs : List Char) : Option (Char × List Char) := do
  let code ← cs.take digits |>.foldlM (fun n c => (Decimal.hexValue? c).map fun d => 16 * n + d) 0
  if (cs.take digits).length = digits ∧ code.isValidChar then
    some (Char.ofNat code, cs.drop digits)
  else none

/-- The character behind a backslash. -/
def scanEscape : List Char → Option (Char × List Char)
  | 'b' :: cs => some (Char.ofNat 0x08, cs)
  | 't' :: cs => some ('\t', cs)
  | 'n' :: cs => some ('\n', cs)
  | 'f' :: cs => some (Char.ofNat 0x0C, cs)
  | 'r' :: cs => some ('\r', cs)
  | 'e' :: cs => some (Char.ofNat 0x1B, cs)
  | '"' :: cs => some ('"', cs)
  | '\\' :: cs => some ('\\', cs)
  | 'x' :: cs => scanCode 2 cs
  | 'u' :: cs => scanCode 4 cs
  | 'U' :: cs => scanCode 8 cs
  | _ => none

/-- The rest of a text on one line, behind its opening quote; `read` is what came so far,
backwards. Backslashes escape in texts between double quotes alone. -/
def scanLineText (quote : Char) : Nat → List Char → List Char → Option (String × List Char)
  | 0, _, _ => none
  | _ + 1, [], _ => none
  | fuel + 1, c :: cs, read =>
    if c = quote then some (String.ofList read.reverse, cs)
    else if c = '\\' ∧ quote = '"' then do
      let (d, rest) ← scanEscape cs
      scanLineText quote fuel rest (d :: read)
    else if isPlain c then scanLineText quote fuel cs (c :: read)
    else none

/-- The text behind white space and ends of lines, in which every carriage return stands before a
line feed. -/
def skipEmptyLines : List Char → Option (List Char)
  | [] => some []
  | '\r' :: '\n' :: cs => skipEmptyLines cs
  | '\r' :: _ => none
  | c :: cs => if isBlank c || c = '\n' then skipEmptyLines cs else some (c :: cs)

/-- The text behind a backslash at the end of a line: white space and empty lines are
dropped. -/
def skipContinuation (cs : List Char) : Option (List Char) :=
  (newline? (skipBlanks cs)).bind skipEmptyLines

/-- The rest of a text on many lines, behind its opening quotes. It ends with three quotes, and up
to two more before them belong to it. -/
def scanLinesText (quote : Char) : Nat → List Char → List Char → Option (String × List Char)
  | 0, _, _ => none
  | _ + 1, [], _ => none
  | fuel + 1, c :: cs, read =>
    if c = quote then
      let quotes := 1 + (cs.takeWhile (· = quote)).length
      if quotes < 3 then scanLinesText quote fuel cs (c :: read)
      else if quotes ≤ 5 then
        some (String.ofList (List.replicate (quotes - 3) quote ++ read).reverse,
          cs.drop (quotes - 1))
      else none
    else if c = '\\' ∧ quote = '"' then
      match skipContinuation cs with
      | some rest => scanLinesText quote fuel rest read
      | none => do
        let (d, rest) ← scanEscape cs
        scanLinesText quote fuel rest (d :: read)
    else if c = '\r' then
      match cs with
      | '\n' :: rest => scanLinesText quote fuel rest ('\n' :: '\r' :: read)
      | _ => none
    else if isPlain c || c = '\n' then scanLinesText quote fuel cs (c :: read)
    else none

/-- A text on many lines, behind its opening quotes; the end of the first line is dropped. -/
def scanLines (quote : Char) (fuel : Nat) (cs : List Char) : Option (String × List Char) :=
  scanLinesText quote fuel ((newline? cs).getD cs) []

/-- A text on one line, behind its opening quote. -/
def scanLine (quote : Char) (fuel : Nat) (cs : List Char) : Option (String × List Char) :=
  scanLineText quote fuel cs []

/-! ## Keys -/

/-- The character may stand in a key without quotes. -/
def isKeyChar (c : Char) : Bool :=
  ('a' ≤ c && c ≤ 'z') || ('A' ≤ c && c ≤ 'Z') || Decimal.isDigit c || c = '_' || c = '-'

/-- A single key. -/
def scanKey (fuel : Nat) : List Char → Option (String × List Char)
  | '"' :: cs => scanLine '"' fuel cs
  | '\'' :: cs => scanLine '\'' fuel cs
  | cs =>
    let key := cs.takeWhile isKeyChar
    if key.isEmpty then none else some (String.ofList key, cs.drop key.length)

/-- The parts of a key with dots, of which there is at least one. -/
def scanKeyParts : Nat → List Char → Option (List String × List Char)
  | 0, _ => none
  | fuel + 1, cs => do
    let (part, rest) ← scanKey fuel (skipBlanks cs)
    match skipBlanks rest with
    | '.' :: more => do
      let (parts, rest) ← scanKeyParts fuel more
      some (part :: parts, rest)
    | rest => some ([part], rest)

/-- How many parts a key may have, and how many lists and tables may stand one in another. -/
def maxDepth : Nat := 80

/-- A key with dots: its parts, which are not too many. -/
def scanDottedKey (fuel : Nat) (cs : List Char) : Option (List String × List Char) :=
  (scanKeyParts fuel cs).filter fun key => key.1.length ≤ maxDepth

end FederationRegistry.Toml
