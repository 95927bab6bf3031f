import MetricQuery.Text.Basic

/-!
UTF-16 units. A character beyond the basic plane takes two of them; a count that ends inside such
a pair, or inside the bytes of a character, is taken as the start of the character.
-/

set_option autoImplicit false

namespace MetricQuery.Text

/-- How many units a character takes. -/
def charUnits (c : Char) : Nat := if c.toNat < 0x10000 then 1 else 2

/-- How many units a text takes. -/
def units : Text → Nat
  | [] => 0
  | c :: t => charUnits c + units t

/-- The bytes of as many whole characters as fit in `n` units. -/
def bytesOfUnits : Text → Nat → Nat
  | [], _ => 0
  | c :: t, n => if charUnits c ≤ n then c.utf8Size + bytesOfUnits t (n - charUnits c) else 0

/-- The units of as many whole characters as fit in `n` bytes. -/
def unitsOfBytes : Text → Nat → Nat
  | [], _ => 0
  | c :: t, n => if c.utf8Size ≤ n then charUnits c + unitsOfBytes t (n - c.utf8Size) else 0

end MetricQuery.Text
