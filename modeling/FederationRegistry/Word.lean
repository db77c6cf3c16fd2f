/-!
# Integers of 64 bits

The bounds of the integers that identifiers, columns and numerals may hold.
-/

namespace FederationRegistry.Word

/-- Unsigned integers lie below this number, the 64th power of two. -/
abbrev unsignedLimit : Nat := 18446744073709551616

/-- Signed integers lie below this number, the 63rd power of two, and not below its negative. -/
abbrev signedLimit : Nat := 9223372036854775808

end FederationRegistry.Word
