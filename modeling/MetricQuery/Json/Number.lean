import MetricQuery.Decimal.Shortest
import MetricQuery.Json.Basic

/-!
The numbers of JSON. Digits alone write an integer as long as it fits into 64 bits; everything
else, and a zero with a minus, is a floating point number. It is computed from the leading digits
that fit into 64 bits, in one step of rounding for the power of ten.
-/

set_option autoImplicit false

namespace MetricQuery

/-- What a number stands for. -/
inductive JsonNumber where
  | integer (value : Int)
  | float (value : Float)

namespace JsonNumber

/-- One more than the largest natural number of 64 bits. -/
def limit : Nat := 0x10000000000000000

/-- Appends digits to a number as long as it fits; the number, and how many digits are left. -/
def absorb : Nat → Text → Nat × Nat
  | n, [] => (n, 0)
  | n, c :: t =>
    let more := n * 10 + (c.toNat - '0'.toNat)
    if more < limit then absorb more t else (n, t.length + 1)

/-- The powers of ten that floating point numbers have go so far. -/
def largestPower : Nat := 308

/-- A power of ten. -/
def tenTo (n : Nat) : Float := Float.ofScientific 1 false n

/-- Divides by a power of ten, in steps of the largest. Three steps leave nothing. -/
def shrink : Nat → Float → Nat → Float
  | 0, _, _ => 0
  | steps + 1, x, power =>
    if power ≤ largestPower then x / tenTo power
    else shrink steps (x / tenTo largestPower) (power - largestPower)

/-- The number `n * 10 ^ power`, unless it is out of range. -/
def scaled? (n : Nat) : Int → Option Float
  | .ofNat power =>
    if n = 0 then some 0
    else if power ≤ largestPower then
      some (n.toUInt64.toFloat * tenTo power) |>.filter Float.isFinite
    else none
  | .negSucc power => some (shrink 3 n.toUInt64.toFloat (power + 1))

/-- The digits and the sign of an exponent, behind its mark. -/
def exponentOf : Text → Int
  | '-' :: digits => -Int.ofNat ((Json.ofDigits? digits).getD 0)
  | '+' :: digits => Int.ofNat ((Json.ofDigits? digits).getD 0)
  | digits => Int.ofNat ((Json.ofDigits? digits).getD 0)

/-- What a well-formed number without a sign stands for, unless it is out of range; a negative one
is `negative`. -/
def ofUnsigned? (negative : Bool) (t : Text) : Option JsonNumber :=
  let (whole, t) := t.span Char.isDigit
  let (n, left) := absorb 0 whole
  let float (n : Nat) (power : Int) : Option JsonNumber :=
    (scaled? n power).map fun x => .float (if negative then -x else x)
  match t with
  | [] =>
    if left ≠ 0 then float n left
    else if !negative then some (.integer n)
    else if n = 0 || limit / 2 < n then float n 0
    else some (.integer (-Int.ofNat n))
  | '.' :: t =>
    let (fraction, t) := t.span Char.isDigit
    let (m, skipped) := absorb n fraction
    float m (Int.ofNat left - Int.ofNat (fraction.length - skipped) + exponentOf (t.drop 1))
  | _ :: t => float n (left + exponentOf t)

/-- What a well-formed number stands for, unless it is out of range. -/
def ofLiteral? (literal : String) : Option JsonNumber :=
  match literal.toList with
  | '-' :: t => ofUnsigned? true t
  | t => ofUnsigned? false t

/-- The digits of a decimal with its point: written out as long as the point is near the digits,
and else with an exponent. -/
def layOut (d : Decimal) : String :=
  let digits := Nat.toDigits 10 d.digits
  let point := Int.ofNat digits.length + d.scale
  let zeros (n : Nat) : Text := List.replicate n '0'
  if 0 ≤ d.scale && point ≤ 16 then String.ofList (digits ++ zeros d.scale.toNat ++ ['.', '0'])
  else if 0 < point && point ≤ 16 then
    String.ofList (digits.take point.toNat ++ ['.'] ++ digits.drop point.toNat)
  else if -5 < point && point ≤ 0 then
    String.ofList (['0', '.'] ++ zeros (-point).toNat ++ digits)
  else
    let fraction := if digits.length = 1 then [] else '.' :: digits.drop 1
    String.ofList (digits.take 1 ++ fraction ++ ['e']) ++ toString (point - 1)

/-- The text of a floating point number: the fewest digits that stand for it, with a point or an
exponent. -/
def floatText (x : Float) : String :=
  let bits := x.toBits.toNat
  let sign := if limit / 2 ≤ bits then "-" else ""
  let fraction := BinaryFraction.ofBits bits
  sign ++ (if fraction.mantissa = 0 then "0.0" else layOut (.shortest fraction))

/-- The text of a number. -/
def text : JsonNumber → String
  | .integer value => toString value
  | .float value => floatText value

end JsonNumber

end MetricQuery
