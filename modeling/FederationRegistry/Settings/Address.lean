import FederationRegistry.Decimal.Digits

/-!
# Addresses of databases

An address says where a database is and how it is opened: an authority, which may only be this
machine; a path; and options behind a question mark, divided by `&`, each a name and behind the
first `=` a value. A fragment behind `#` says nothing.

**Escapes.** A percent sign with two digits in base sixteen stands for a byte. Parts are divided
first and unescaped then, so an escaped mark divides nothing. An escaped NUL ends its part.

**Repeated options.** Of several modes none may allow more than the one before it. Of several
systems the last one counts, and of several values of any other option the first.
-/

namespace FederationRegistry

/-! ## Modes -/

/-- What an address allows the engine to do. -/
inductive AddressMode where
  | read
  | write
  | create
  | memory
deriving DecidableEq

namespace AddressMode

/-- The mode behind a word. -/
def ofWord? : String → Option AddressMode
  | "ro" => some .read
  | "rw" => some .write
  | "rwc" => some .create
  | "memory" => some .memory
  | _ => none

/-- Another mode may take the place of this one: it allows no more. Memory may always be used, and
then anything else. -/
def admits : AddressMode → AddressMode → Bool
  | .memory, _ | .create, _ | _, .memory | .write, .write | _, .read => true
  | .write, .create | .read, .write | .read, .create => false

end AddressMode

/-! ## Switches -/

/-- The number with which a text starts, in base sixteen behind `0x` and in base ten otherwise. -/
def leadingNumber (cs : List Char) : Nat :=
  match cs with
  | '0' :: x :: c :: cs =>
    if (x = 'x' || x = 'X') && (Decimal.hexValue? c).isSome then
      ((c :: cs).takeWhile fun c => (Decimal.hexValue? c).isSome).foldl
        (fun n c => 16 * n + (Decimal.hexValue? c).getD 0) 0
    else Decimal.ofDigits (('0' :: x :: c :: cs).takeWhile Decimal.isDigit)
  | cs => Decimal.ofDigits (cs.takeWhile Decimal.isDigit)

/-- A value switches something on: it is a word that says so, or starts with a number of 31 bits of
which the lowest eight are not all zero. -/
def switchesOn (value : String) : Bool :=
  let cs := value.toList
  if cs.head?.any Decimal.isDigit then
    let number := leadingNumber cs
    decide (number < 2147483648) && number % 256 != 0
  else ["on", "yes", "true"].contains value.toLower

/-! ## Parts -/

/-- The bytes of a part of an address. -/
def unescaped : List Char → List UInt8
  | '%' :: a :: b :: cs =>
    match Decimal.hexValue? a, Decimal.hexValue? b with
    | some 0, some 0 => []
    | some high, some low => UInt8.ofNat (16 * high + low) :: unescaped cs
    | _, _ => String.utf8EncodeChar '%' ++ unescaped (a :: b :: cs)
  | c :: cs => String.utf8EncodeChar c ++ unescaped cs
  | [] => []

/-- The text of bytes. Where they are not UTF-8, a substitute of one byte stands for each byte
beyond ASCII. -/
def textOfBytes (bytes : List UInt8) : String :=
  (String.fromUTF8? ⟨bytes.toArray⟩).getD
    (.ofList (bytes.map fun b => if b < 128 then Char.ofNat b.toNat else '\x1a'))

/-- The text before the first of a character, and the text behind it. -/
def splitAtFirst (c : Char) (cs : List Char) : List Char × List Char :=
  (cs.takeWhile (· != c), (cs.dropWhile (· != c)).tail)

/-! ## Addresses -/

/-- An address, without its authority. -/
structure Address where
  path : List UInt8
  options : List (String × String)

namespace Address

/-- The name and the value of an option. -/
def readOption (cs : List Char) : String × String :=
  let (name, value) := splitAtFirst '=' cs
  (textOfBytes (unescaped name), textOfBytes (unescaped value))

/-- The options in a text; one without a name is none. -/
def readOptions (cs : List Char) : List (String × String) :=
  ((cs.splitOn '&').map readOption).filter (·.1 != "")

/-- The text behind the authority. -/
def withoutAuthority? : List Char → Option (List Char)
  | '/' :: '/' :: cs =>
    if ["", "localhost"].contains (String.ofList (cs.takeWhile (· != '/'))) then
      some (cs.dropWhile (· != '/'))
    else none
  | cs => some cs

/-- The address in a text behind its scheme. -/
def read? (cs : List Char) : Option Address := do
  let (path, options) := splitAtFirst '?' ((← withoutAuthority? cs).takeWhile (· != '#'))
  return ⟨unescaped path, readOptions options⟩

/-- The path as a text. -/
def text (a : Address) : String := textOfBytes a.path

/-- The values of an option in order. -/
def values (a : Address) (name : String) : List String :=
  (a.options.filter (·.1 == name)).map (·.2)

/-- The mode, if all modes are words that the ones before them admit. -/
def mode? (a : Address) : Option AddressMode :=
  (a.values "mode").foldlM (fun m word => (AddressMode.ofWord? word).filter m.admits) .create

/-- Whether connections share what they read, if every option about that is a word for it. -/
def isShared? (a : Address) : Option Bool :=
  (a.values "cache").foldlM
    (fun _ word => [("shared", true), ("private", false)].lookup word) false

/-- The name of the part of the engine that reads and writes files. -/
def system (a : Address) : String := (a.values "vfs").getLastD "unix"

/-- An option is switched on. -/
def isOn (a : Address) (name : String) : Bool := (a.values name).head?.any switchesOn

end Address

end FederationRegistry
