import MetricQuery.Text.Basic

/-!
Labels in ASCII. The code points beyond ASCII are taken out of a label and written behind it as
distances, each in digits of base 36 whose last one is told by a bound that adapts to what came
before.
-/

set_option autoImplicit false

namespace MetricQuery.Domain.Punycode

/-- The character of a digit: letters, then figures. -/
def digitChar (d : Nat) : Char :=
  if d < 26 then Char.ofNat ('a'.toNat + d) else Char.ofNat ('0'.toNat + (d - 26))

/-- The digit of a character. -/
def digitValue? (c : Char) : Option Nat :=
  if c.isLower then some (c.toNat - 'a'.toNat)
  else if c.isUpper then some (c.toNat - 'A'.toNat)
  else if c.isDigit then some (c.toNat - '0'.toNat + 26)
  else none

/-- The bound of the digit at place `k`, counted in steps of 36: a digit below it is the last. -/
def bound (bias k : Nat) : Nat :=
  if k ≤ bias then 1 else if bias + 26 ≤ k then 26 else k - bias

theorem bound_pos (bias k : Nat) : 0 < bound bias k := by
  unfold bound
  split
  · omega
  · split <;> omega

/-- Divides a distance until it is small; how many steps of 36 that took, and what is left. -/
def settle (k distance : Nat) : Nat × Nat :=
  if 455 < distance then settle (k + 36) (distance / 35) else (k, distance)
termination_by distance
decreasing_by omega

/-- The bias after a distance, which was the first one or not, when there are `count` code
points. -/
def adapt (first : Bool) (distance count : Nat) : Nat :=
  let scaled := if first then distance / 700 else distance / 2
  let (k, left) := settle 0 (scaled + scaled / count)
  k + 36 * left / (left + 38)

/-- The bias at the beginning. -/
def startBias : Nat := 72

/-- The first code point beyond ASCII. -/
def startCode : Nat := 0x80

/-- The digits of a distance, from place `k` on. -/
def digits (bias k distance : Nat) : Text :=
  let t := bound bias k
  if distance < t then [digitChar distance]
  else
    digitChar (t + (distance - t) % (36 - t))
      :: digits bias (k + 36) ((distance - t) / (36 - t))
termination_by distance
decreasing_by
  have positive := bound_pos bias k
  have smaller := Nat.div_le_self (distance - bound bias k) (36 - bound bias k)
  omega

/-- How far an encoding has come. -/
structure Progress where
  written : Text
  /-- How many code points have been dealt with. -/
  done : Nat
  bias : Nat
  distance : Nat

/-- Passes a code point of the label while those equal to `code` are written. -/
def pass (basic code : Nat) (p : Progress) (c : Nat) : Progress :=
  if c < code then { p with distance := p.distance + 1 }
  else if c = code then
    { written := p.written ++ digits p.bias 36 p.distance
      done := p.done + 1
      bias := adapt (p.done = basic) p.distance (p.done + 1)
      distance := 0 }
  else p

/-- Writes code points in increasing order; `next` is the least that has not been considered. -/
def writeCodes (label : List Nat) (basic : Nat) : Nat → Progress → List Nat → Progress
  | _, p, [] => p
  | next, p, code :: codes =>
    let reached := { p with distance := p.distance + (code - next) * (p.done + 1) }
    let passed := label.foldl (pass basic code) reached
    writeCodes label basic (code + 1) { passed with distance := passed.distance + 1 } codes

/-- Puts a code point among others in increasing order, each once. -/
def insertCode (c : Nat) : List Nat → List Nat
  | [] => [c]
  | d :: ds => if c < d then c :: d :: ds else if d < c then d :: insertCode c ds else d :: ds

/-- Writes a label. -/
def encode (label : List Nat) : Text :=
  let basic := (label.filter (· < startCode)).map Char.ofNat
  let codes := (label.filter (startCode ≤ ·)).foldr insertCode []
  let start : Progress := ⟨[], basic.length, startBias, 0⟩
  basic ++ (if basic.isEmpty then [] else ['-'])
    ++ (writeCodes label basic.length startCode start codes).written

/-- Reads a distance from place `k` on, with the weight of its next digit; the distance and what
follows. -/
def readDistance (bias : Nat) : Nat → Nat → Text → Option (Nat × Text)
  | _, _, [] => none
  | k, weight, c :: t => do
    let d ← digitValue? c
    let b := bound bias k
    if d < b then some (d * weight, t)
    else
      let (more, rest) ← readDistance bias (k + 36) (weight * (36 - b)) t
      some (d * weight + more, rest)

/-- Whether a number is a code point of a character. -/
def isCode (n : Nat) : Bool := n < 0xd800 || 0xdfff < n && n < 0x110000

/-- A label that is being read. -/
structure Reading where
  /-- How many code points of the label are ASCII. -/
  basic : Nat
  label : List Nat
  bias : Nat
  /-- The code point that was read last. -/
  code : Nat
  /-- The place behind it. -/
  place : Nat

/-- Puts the code point that a distance leads to into a label. -/
def Reading.advance? (r : Reading) (distance : Nat) : Option Reading :=
  let count := r.label.length + 1
  let code := r.code + (r.place + distance) / count
  let place := (r.place + distance) % count
  if isCode code then
    some { r with
      label := r.label.take place ++ [code] ++ r.label.drop place
      bias := adapt (r.label.length = r.basic) distance count
      code := code
      place := place + 1 }
  else none

/-- Reads distances, at most so many, into a label. -/
def readCodes : Nat → Reading → Text → Option (List Nat)
  | _, r, [] => some r.label
  | 0, _, _ => none
  | steps + 1, r, t => do
    let (distance, rest) ← readDistance r.bias 36 1 t
    readCodes steps (← r.advance? distance) rest

/-- Reads a label. A dash that nothing comes before belongs to the distances. -/
def decode? (t : Text) : Option (List Nat) :=
  let (tail, head) := t.reverse.span (· != '-')
  let basic := ((head.drop 1).reverse).map Char.toNat
  readCodes t.length ⟨basic.length, basic, startBias, startCode, 0⟩
    (if basic.isEmpty then t else tail.reverse)

end MetricQuery.Domain.Punycode
