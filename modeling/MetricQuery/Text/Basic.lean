/-!
Texts and their byte offsets. A text is a list of characters; every position into it is a count
of UTF-8 bytes, so a position may fall inside a character, and cutting there gives nothing.
-/

set_option autoImplicit false

namespace MetricQuery

/-- A text, character by character. Offsets into it count UTF-8 bytes. -/
abbrev Text := List Char

namespace Text

/-- Length in UTF-8 bytes. -/
def size : Text → Nat
  | [] => 0
  | c :: t => c.utf8Size + size t

@[simp] theorem size_nil : size [] = 0 := rfl

@[simp] theorem size_cons (c : Char) (t : Text) : size (c :: t) = c.utf8Size + size t := rfl

@[simp] theorem size_append (s t : Text) : size (s ++ t) = size s + size t := by
  induction s with
  | nil => simp
  | cons c s ih => simp [ih, Nat.add_assoc]

/-- What follows the first `n` bytes; nothing when byte `n` is no character boundary. -/
def dropBytes? : Text → Nat → Option Text
  | t, 0 => some t
  | [], _ + 1 => none
  | c :: t, n + 1 => if c.utf8Size ≤ n + 1 then dropBytes? t (n + 1 - c.utf8Size) else none

/-- What follows some bytes is no longer than the text. -/
theorem length_dropBytes? {t rest : Text} {n : Nat} (h : dropBytes? t n = some rest) :
    rest.length ≤ t.length := by
  fun_induction dropBytes? t n generalizing rest with
  | case1 t => simp_all
  | case2 => simp at h
  | case3 c t n fits ih =>
    have shorter := ih h
    simp only [List.length_cons]
    omega
  | case4 => simp at h

/-- The first `n` bytes; nothing when byte `n` is no character boundary. -/
def takeBytes? : Text → Nat → Option Text
  | _, 0 => some []
  | [], _ + 1 => none
  | c :: t, n + 1 =>
    if c.utf8Size ≤ n + 1 then (takeBytes? t (n + 1 - c.utf8Size)).map (c :: ·) else none

/-- Whether byte `n` stands between two characters, or at either end. -/
def isBoundary (t : Text) (n : Nat) : Bool := (dropBytes? t n).isSome

/-- The bytes of `[start, stop)`; nothing when an end is no boundary or the range is reversed. -/
def slice? (t : Text) (start stop : Nat) : Option Text :=
  if start ≤ stop then (dropBytes? t start).bind (takeBytes? · (stop - start)) else none

/-- The bytes of `[start, stop)` as a string, empty where no slice exists. -/
def sliceString (t : Text) (start stop : Nat) : String :=
  String.ofList ((slice? t start stop).getD [])

/-- The greatest character boundary at or below `n`; the size when `n` lies beyond it. -/
def floor : Text → Nat → Nat
  | [], _ => 0
  | c :: t, n => if c.utf8Size ≤ n then c.utf8Size + floor t (n - c.utf8Size) else 0

/-- Equality up to the case of ASCII letters. -/
def sameLetters (s t : Text) : Bool := s.map Char.toLower == t.map Char.toLower

/-- The value of a hexadecimal digit. -/
def hexValue? (c : Char) : Option Nat :=
  if c.isDigit then some (c.toNat - '0'.toNat)
  else if 'a' ≤ c && c ≤ 'f' then some (c.toNat - 'a'.toNat + 10)
  else if 'A' ≤ c && c ≤ 'F' then some (c.toNat - 'A'.toNat + 10)
  else none

/-- Splits at the first occurrence of `pattern`: what stands before it and what follows it. -/
def cutAt? (pattern : Text) : Text → Option (Text × Text)
  | [] => if pattern.isEmpty then some ([], []) else none
  | c :: t =>
    if pattern.isPrefixOf (c :: t) then some ([], (c :: t).drop pattern.length)
    else (cutAt? pattern t).map fun (before, after) => (c :: before, after)

/-- What a cut leaves behind is no longer than the text, and shorter once the pattern is not
empty. -/
theorem length_cutAt? {pattern t before after : Text}
    (h : cutAt? pattern t = some (before, after)) :
    after.length + pattern.length ≤ t.length := by
  induction t generalizing before with
  | nil =>
    cases pattern <;> simp_all [cutAt?]
  | cons c t ih =>
    rw [cutAt?] at h
    split at h
    · rename_i matched
      have fits := (List.isPrefixOf_iff_prefix.1 matched).length_le
      simp only [Option.some.injEq, Prod.mk.injEq] at h
      rw [← h.2, List.length_drop]
      omega
    · obtain ⟨⟨b, a⟩, found, same⟩ := Option.map_eq_some_iff.1 h
      simp only [Prod.mk.injEq] at same
      obtain ⟨-, rfl⟩ := same
      have shorter := ih found
      simp only [List.length_cons]
      omega

/-- Joins `pieces` with `separator` between neighbours. -/
def join (separator : String) (pieces : List String) : String :=
  String.intercalate separator pieces

/-- Drops the characters of a class from both ends. -/
def trimBy (drop : Char → Bool) (t : Text) : Text :=
  ((t.dropWhile drop).reverse.dropWhile drop).reverse

/-- Drops the characters of a class from the end. -/
def trimEndBy (drop : Char → Bool) (t : Text) : Text :=
  (t.reverse.dropWhile drop).reverse

end Text

end MetricQuery
