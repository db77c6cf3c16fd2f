import FederationRegistry.Text.Printable

/-!
# Quoted texts in diagnostics

A diagnostic shows a text between double quotes. A quote and a backslash are written behind a
backslash, the common controls by their letters, and every other character without a look of
its own by its code point in braces.
-/

namespace FederationRegistry.Text

/-- The digits of a number in base sixteen, in lower case. -/
def hexDigits (n : Nat) : String := String.ofList (Nat.toDigits 16 n)

/-- One character of a quoted text. -/
def quotedChar (c : Char) : String :=
  if c = '"' then "\\\""
  else if c = '\\' then "\\\\"
  else if c = '\n' then "\\n"
  else if c = '\r' then "\\r"
  else if c = '\t' then "\\t"
  else if c.toNat = 0 then "\\0"
  else if isSeen c then c.toString
  else "\\u\x7b" ++ hexDigits c.toNat ++ "\x7d"

/-- The text between double quotes, every character in its quoted form. -/
def quoted (s : String) : String :=
  "\"" ++ String.join (s.toList.map quotedChar) ++ "\""

end FederationRegistry.Text
