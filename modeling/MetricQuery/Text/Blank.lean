import MetricQuery.Text.Basic

/-!
The characters with the Unicode property `White_Space`: they separate tokens and are trimmed
from gaps.
-/

set_option autoImplicit false

namespace MetricQuery.Text

/-- Ranges of the property `White_Space`, first and last code point. -/
def blankRanges : List (Nat × Nat) :=
  [(0x9, 0xd), (0x20, 0x20), (0x85, 0x85), (0xa0, 0xa0), (0x1680, 0x1680), (0x2000, 0x200a),
    (0x2028, 0x2029), (0x202f, 0x202f), (0x205f, 0x205f), (0x3000, 0x3000)]

/-- Whether a character has the property `White_Space`. -/
def isBlank (c : Char) : Bool :=
  blankRanges.any fun (first, last) => first ≤ c.toNat && c.toNat ≤ last

theorem isBlank_newline : isBlank '\n' = true := by decide

/-- Drops blanks from both ends. -/
def trim (t : Text) : Text := trimBy isBlank t

end MetricQuery.Text
