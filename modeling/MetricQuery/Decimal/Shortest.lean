/-!
The shortest decimal of a binary fraction. A 64-bit floating point number stands for all reals that
round to it; of the decimals among them those with the fewest digits count, and of these the
nearest, with an even last digit where two are equally near.
-/

set_option autoImplicit false

namespace MetricQuery

/-- A binary fraction `mantissa * 2 ^ scale`, not negative. -/
structure BinaryFraction where
  mantissa : Nat
  scale : Int
  /-- Whether the gap to the fraction below is half the gap to the one above. -/
  narrowBelow : Bool
  deriving DecidableEq, Repr

/-- A decimal `digits * 10 ^ scale`. -/
structure Decimal where
  digits : Nat
  scale : Int
  deriving DecidableEq, Repr

/-- The fraction in the bits of a floating point number, its sign aside. -/
def BinaryFraction.ofBits (bits : Nat) : BinaryFraction :=
  let exponent := bits / 0x10000000000000 % 0x800
  let fraction := bits % 0x10000000000000
  if exponent = 0 then ⟨fraction, -1074, false⟩
  else ⟨0x10000000000000 + fraction, Int.ofNat exponent - 1075, fraction = 0 && 1 < exponent⟩

namespace Decimal

/-- How `d` compares with `n * 2 ^ scale`. -/
def compareBinary (d : Decimal) (n : Nat) (scale : Int) : Ordering :=
  compare (d.digits * Nat.pow 10 d.scale.toNat * Nat.pow 2 (-scale).toNat)
    (n * Nat.pow 2 scale.toNat * Nat.pow 10 (-d.scale).toNat)

/-- Whether a decimal rounds to a fraction: it lies no farther than halfway to the neighbours, and
a decimal just halfway rounds to an even mantissa. -/
def roundsTo (d : Decimal) (x : BinaryFraction) : Bool :=
  let below := d.compareBinary (if x.narrowBelow then 4 * x.mantissa - 1 else 4 * x.mantissa - 2)
    (x.scale - 2)
  let above := d.compareBinary (4 * x.mantissa + 2) (x.scale - 2)
  let even := x.mantissa % 2 = 0
  (below = .gt || even && below = .eq) && (above = .lt || even && above = .eq)

/-- The whole part of a fraction in units of `10 ^ scale`. -/
def wholeIn (x : BinaryFraction) (scale : Int) : Nat :=
  x.mantissa * Nat.pow 2 x.scale.toNat * Nat.pow 10 (-scale).toNat
    / (Nat.pow 2 (-x.scale).toNat * Nat.pow 10 scale.toNat)

/-- More places than the smallest fraction has zeros behind its point. -/
def places : Nat := 330

/-- How many digits a fraction has before its point; below zero, how many zeros it has behind. -/
def magnitude (x : BinaryFraction) : Int :=
  Int.ofNat (Nat.toDigits 10 (wholeIn x (-Int.ofNat places))).length - Int.ofNat places

/-- The decimal of so many digits that is nearest to a fraction, of those that round to it. -/
def ofLength? (x : BinaryFraction) (length : Nat) : Option Decimal :=
  let scale := magnitude x - Int.ofNat length
  let lower : Decimal := ⟨wholeIn x scale, scale⟩
  let upper : Decimal := ⟨lower.digits + 1, scale⟩
  match lower.roundsTo x, upper.roundsTo x with
  | false, false => none
  | true, false => some lower
  | false, true => some upper
  | true, true =>
    let middle : Decimal := ⟨(lower.digits + upper.digits) * 5, scale - 1⟩
    match middle.compareBinary x.mantissa x.scale with
    | .gt => some lower
    | .lt => some upper
    | .eq => some (if lower.digits % 2 = 0 then lower else upper)

/-- Moves zeros at the end of the digits, at most so many, to the scale. -/
def strip : Nat → Decimal → Decimal
  | 0, d => d
  | n + 1, d =>
    if d.digits ≠ 0 && d.digits % 10 = 0 then strip n ⟨d.digits / 10, d.scale + 1⟩ else d

/-- The digits that always suffice. -/
def enough : Nat := 17

/-- The shortest decimal of a fraction. -/
def shortest (x : BinaryFraction) : Decimal :=
  match (List.range' 1 enough).findSome? (ofLength? x) with
  | some d => strip enough d
  | none => ⟨wholeIn x (-1100), -1100⟩

end Decimal

end MetricQuery
