/-!
# Blank texts

A text is *blank* when every character in it is white space in the Unicode sense (the property
`White_Space`); the empty text is blank. Names, aliases, claim URIs and property keys that are
blank count as not given.
-/

namespace FederationRegistry.Text

/-- The character has the Unicode property `White_Space`. -/
def isSpace (c : Char) : Bool :=
  let n := c.toNat
  (0x09 ≤ n && n ≤ 0x0D) || n == 0x20 || n == 0x85 || n == 0xA0 || n == 0x1680 ||
    (0x2000 ≤ n && n ≤ 0x200A) || n == 0x2028 || n == 0x2029 || n == 0x202F || n == 0x205F ||
    n == 0x3000

/-- The text holds nothing but white space. -/
def isBlank (s : String) : Bool := s.toList.all isSpace

@[simp] theorem isBlank_empty : isBlank "" = true := rfl

end FederationRegistry.Text
