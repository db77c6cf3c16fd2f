import FederationRegistry.Json.Basic
import FederationRegistry.Decimal.Shortest

/-!
# Compact JSON texts

A value is written without white space, members in the order in which the object lists them. In
a text only the quote, the backslash and the controls below U+0020 are escaped, the controls by
a letter where JSON has one.
-/

namespace FederationRegistry.Json

/-- A digit in base sixteen, in lower case. -/
def hexDigit (n : Nat) : Char := if n < 10 then Char.ofNat (48 + n) else Char.ofNat (87 + n)

/-- One character inside a text. -/
def escapeChar (c : Char) : List Char :=
  if c = '"' then ['\\', '"']
  else if c = '\\' then ['\\', '\\']
  else if c.toNat = 0x08 then ['\\', 'b']
  else if c.toNat = 0x0C then ['\\', 'f']
  else if c = '\n' then ['\\', 'n']
  else if c = '\r' then ['\\', 'r']
  else if c = '\t' then ['\\', 't']
  else if c.toNat < 0x20 then
    ['\\', 'u', '0', '0', hexDigit (c.toNat / 16), hexDigit (c.toNat % 16)]
  else [c]

/-- A text between its quotes. -/
def renderText (s : String) : List Char := '"' :: (s.toList.flatMap escapeChar ++ ['"'])

/-- An integer in decimal digits, a double in its shortest decimal. -/
def renderNumber : Number → List Char
  | .integer i => Decimal.intDigits i.value
  | .double x => (Decimal.propertyLayout.writeDouble x).toList

mutual

/-- The compact text of a value. -/
def render : Json → List Char
  | .null => "null".toList
  | .bool true => "true".toList
  | .bool false => "false".toList
  | .number n => renderNumber n
  | .string s => renderText s
  | .array [] => ['[', ']']
  | .array (x :: xs) => '[' :: (x.render ++ renderElements xs)
  | .object [] => ['{', '}']
  | .object ((k, v) :: ms) => '{' :: (renderText k ++ ':' :: (v.render ++ renderMembers ms))

/-- The elements behind the first, and the closing bracket. -/
def renderElements : List Json → List Char
  | [] => [']']
  | x :: xs => ',' :: (x.render ++ renderElements xs)

/-- The members behind the first, and the closing brace. -/
def renderMembers : List (String × Json) → List Char
  | [] => ['}']
  | (k, v) :: ms => ',' :: (renderText k ++ ':' :: (v.render ++ renderMembers ms))

end

/-- The compact text of a value, as a string. -/
def compact (j : Json) : String := String.ofList j.render

end FederationRegistry.Json
