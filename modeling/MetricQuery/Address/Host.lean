import MetricQuery.Domain.Basic
import MetricQuery.Json.Basic

/-!
Hosts: domains, and numbers of four or sixteen bytes. A number of four bytes may be written in
parts of base 8, 10 or 16, of which the last one fills what is left; a number of sixteen bytes is
written in brackets, in pieces of two bytes, and one run of zeros may be left out of it.
-/

set_option autoImplicit false

namespace MetricQuery

/-- Why a text is no address. -/
inductive AddressFault where
  /-- No scheme is named. -/
  | relative
  | emptyHost
  | badPort
  /-- A number of four bytes that is none. -/
  | badQuad
  /-- A number of sixteen bytes that is none. -/
  | badLong
  /-- A character that no host has. -/
  | badCharacter
  | badDomain
  deriving DecidableEq, Repr

/-- The text of a fault. -/
def AddressFault.message : AddressFault → String
  | .relative => "relative URL without a base"
  | .emptyHost => "empty host"
  | .badPort => "invalid port number"
  | .badQuad => "invalid IPv4 address"
  | .badLong => "invalid IPv6 address"
  | .badCharacter => "invalid domain character"
  | .badDomain => "invalid international domain name"

namespace Address

/-- Splits at every occurrence of a character. -/
def splitAt (mark : Char) : Text → List Text
  | [] => [[]]
  | c :: t =>
    let rest := splitAt mark t
    if c = mark then [] :: rest else (c :: rest.head?.getD []) :: rest.tail

/-- The number that digits of a base write; nothing for a text that is no run of such digits. -/
def inBase? (base : Nat) (t : Text) : Option Nat := do
  let digits ← t.mapM Text.hexValue?
  if digits.all (· < base) && !digits.isEmpty then
    some (digits.foldl (fun n d => n * base + d) 0)
  else none

/-- The number that a part writes: in base 16 behind `0x`, in base 8 behind `0`, and else in base
10. -/
def part? : Text → Option Nat
  | '0' :: 'x' :: t | '0' :: 'X' :: t => if t.isEmpty then some 0 else inBase? 16 t
  | '0' :: c :: t => inBase? 8 (c :: t)
  | t => inBase? 10 t

/-- The parts of a host, without an empty one at the end. -/
def parts (host : Text) : List Text :=
  let parts := splitAt '.' host
  if parts.getLast? = some [] && 1 < parts.length then parts.dropLast else parts

/-- Whether a host means to be a number: its last part is one, or has just digits. -/
def meansNumber (host : Text) : Bool :=
  match (parts host).getLast? with
  | none => false
  | some last => !last.isEmpty && last.all Char.isDigit || (part? last).isSome

/-- The four bytes of numbers: one each, and the last one fills what is left. -/
def fill? (numbers : List Nat) : Option Nat :=
  match numbers.reverse with
  | [] => none
  | last :: front =>
    if front.length < 4 && front.all (· < 256) && last < Nat.pow 256 (4 - front.length) then
      some (front.reverse.foldl (fun n b => n * 256 + b) 0 * Nat.pow 256 (4 - front.length) + last)
    else none

/-- The four bytes that a host writes. -/
def quad? (host : Text) : Option Nat := ((parts host).mapM part?).bind fill?

/-- A number of four bytes: its bytes with dots between them. -/
def writeQuad (n : Nat) : Text :=
  ['.'].intercalate
    ([n / 0x1000000, n / 0x10000 % 256, n / 256 % 256, n % 256].map (Nat.toDigits 10))

/-- The two bytes that up to four digits write. -/
def piece? (t : Text) : Option Nat := if t.length ≤ 4 then inBase? 16 t else none

/-- The byte that digits write, without zeros in front. -/
def byte? (t : Text) : Option Nat :=
  if 1 < t.length && t.head? = some '0' then none else (inBase? 10 t).filter (· < 256)

/-- The two pieces that four bytes with dots between them write. -/
def tail? (t : Text) : Option (List Nat) := do
  match ← (splitAt '.' t).mapM byte? with
  | [a, b, c, d] => some [a * 256 + b, c * 256 + d]
  | _ => none

/-- The pieces of parts; the last part may be four bytes. -/
def pieces? : List Text → Option (List Nat)
  | [] => some []
  | [last] => ((piece? last).map ([·])).orElse fun _ => tail? last
  | part :: parts => do return (← piece? part) :: (← pieces? parts)

/-- The pieces of a text with colons between them, which may be empty. -/
def row? (t : Text) : Option (List Nat) := if t.isEmpty then some [] else pieces? (splitAt ':' t)

/-- How many pieces there are. -/
def pieceCount : Nat := 8

/-- The pieces that a text in brackets writes. -/
def long? (t : Text) : Option (List Nat) :=
  match Text.cutAt? [':', ':'] t with
  | none => (row? t).filter (·.length = pieceCount)
  | some (front, back) => do
    let front ← if front.contains '.' then none else row? front
    let back ← row? back
    if front.length + back.length < pieceCount then
      some (front ++ List.replicate (pieceCount - front.length - back.length) 0 ++ back)
    else none

/-- How many zeros pieces begin with. -/
def zeros (pieces : List Nat) : Nat := (pieces.takeWhile (· = 0)).length

/-- The longest run of zeros in pieces, as its place and length; of equal ones the first. -/
def longestZeros (pieces : List Nat) : Nat × Nat :=
  (List.range pieces.length).foldl
    (fun best place =>
      let length := zeros (pieces.drop place)
      if best.2 < length then (place, length) else best) (0, 0)

/-- A number of sixteen bytes in brackets. Its longest run of zeros, if it is two or more, is left
out. -/
def writeLong (pieces : List Nat) : Text :=
  let write (pieces : List Nat) : Text := [':'].intercalate (pieces.map (Nat.toDigits 16))
  let (place, length) := longestZeros pieces
  let body :=
    if length < 2 then write pieces
    else write (pieces.take place) ++ [':', ':'] ++ write (pieces.drop (place + length))
  '[' :: body ++ [']']

/-- The bytes of a text, where an escape is the byte that it tells. -/
def unescape : Text → List UInt8
  | '%' :: a :: b :: t =>
    match Text.hexValue? a, Text.hexValue? b with
    | some high, some low => UInt8.ofNat (high * 16 + low) :: unescape t
    | _, _ => 0x25 :: unescape (a :: b :: t)
  | c :: t => String.utf8EncodeChar c ++ unescape t
  | [] => []

/-- Reads a host in brackets. -/
def readLong (host : Text) : Except AddressFault Text :=
  match if host.getLast? = some ']' then long? ((host.drop 1).dropLast) else none with
  | some pieces => .ok (writeLong pieces)
  | none => .error .badLong

/-- Reads a domain or a number of four bytes. -/
def readDomain (host : Text) : Except AddressFault Text :=
  match (String.fromUTF8? ⟨(unescape host).toArray⟩).bind fun s => Domain.toAscii? s.toList with
  | none => .error .badDomain
  | some [] => .error .emptyHost
  | some domain =>
    if meansNumber domain then
      match quad? domain with
      | some n => .ok (writeQuad n)
      | none => .error .badQuad
    else .ok domain

end Address

end MetricQuery
