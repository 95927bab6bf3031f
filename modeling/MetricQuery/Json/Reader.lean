import MetricQuery.Json.Basic

/-!
Reading JSON. The whole text must be one value, with blanks around it and nothing else. Strings
may be unusable, see `Json.garbled`, but must be well-formed.
-/

set_option autoImplicit false

namespace MetricQuery.Json

/-- Whether a character may stand between tokens. -/
def isBlank (c : Char) : Bool := c == ' ' || c == '\t' || c == '\n' || c == '\r'

/-- Drops blanks. -/
def skipBlanks (t : Text) : Text := t.dropWhile isBlank

/-- A piece of a string: a character, or a unit of UTF-16 given by its number. -/
inductive Piece where
  | char (c : Char)
  | unit (n : Nat)

/-- The character of an escape of one letter. -/
def escaped? : Char → Option Char
  | '"' => some '"'
  | '\\' => some '\\'
  | '/' => some '/'
  | 'b' => some '\x08'
  | 'f' => some '\x0c'
  | 'n' => some '\n'
  | 'r' => some '\r'
  | 't' => some '\t'
  | _ => none

/-- Reads a string from behind its opening quote through its closing one. -/
def readPieces : Text → Option (List Piece × Text)
  | [] => none
  | '"' :: t => some ([], t)
  | '\\' :: 'u' :: a :: b :: c :: d :: t => do
    let unit := (← Text.hexValue? a) * 4096 + (← Text.hexValue? b) * 256 + (← Text.hexValue? c) * 16
      + (← Text.hexValue? d)
    let (pieces, rest) ← readPieces t
    some (.unit unit :: pieces, rest)
  | '\\' :: c :: t => do
    let c ← escaped? c
    let (pieces, rest) ← readPieces t
    some (.char c :: pieces, rest)
  | c :: t =>
    if c.toNat < 0x20 || c == '\\' then none
    else do
      let (pieces, rest) ← readPieces t
      some (.char c :: pieces, rest)

/-- Whether a unit is the first half of a surrogate pair. -/
def isHighHalf (n : Nat) : Bool := 0xd800 ≤ n && n < 0xdc00

/-- Whether a unit is the second half of a surrogate pair. -/
def isLowHalf (n : Nat) : Bool := 0xdc00 ≤ n && n < 0xe000

/-- Joins pieces to a text; half a surrogate pair has none. -/
def joinPieces : List Piece → Option Text
  | [] => some []
  | .char c :: ps => (joinPieces ps).map (c :: ·)
  | .unit high :: .unit low :: ps =>
    if isHighHalf high then
      if isLowHalf low then
        (joinPieces ps).map
          (Char.ofNat (0x10000 + (high - 0xd800) * 1024 + (low - 0xdc00)) :: ·)
      else none
    else if isLowHalf high then none
    else (joinPieces (.unit low :: ps)).map (Char.ofNat high :: ·)
  | .unit n :: ps =>
    if isHighHalf n || isLowHalf n then none else (joinPieces ps).map (Char.ofNat n :: ·)

/-- Reads digits, one or more. -/
def readDigits (t : Text) : Option (Text × Text) :=
  let digits := t.takeWhile Char.isDigit
  if digits.isEmpty then none else some (digits, t.dropWhile Char.isDigit)

/-- Reads the whole part of a number: a zero, or digits that start with none. -/
def readWhole : Text → Option (Text × Text)
  | '0' :: t => if (t.head?.map Char.isDigit).getD false then none else some (['0'], t)
  | t => readDigits t

/-- Reads a point and digits, if a point comes next. -/
def readFraction : Text → Option (Text × Text)
  | '.' :: t => (readDigits t).map fun (digits, rest) => ('.' :: digits, rest)
  | t => some ([], t)

/-- Reads a sign, if one comes next. -/
def readSign : Text → Text × Text
  | '+' :: t => (['+'], t)
  | '-' :: t => (['-'], t)
  | t => ([], t)

/-- Reads an exponent, if its mark comes next. -/
def readExponent (t : Text) : Option (Text × Text) :=
  match t with
  | [] => some ([], [])
  | c :: r =>
    if c == 'e' || c == 'E' then
      let (sign, r) := readSign r
      (readDigits r).map fun (digits, rest) => (c :: sign ++ digits, rest)
    else some ([], t)

/-- Reads a number. -/
def readNumber (t : Text) : Option (Text × Text) := do
  let (minus, t) :=
    match t with
    | '-' :: r => (['-'], r)
    | _ => ([], t)
  let (whole, t) ← readWhole t
  let (fraction, t) ← readFraction t
  let (exponent, t) ← readExponent t
  some (minus ++ whole ++ fraction ++ exponent, t)

/-- Reads a word. -/
def readWord (word : Text) (value : Json) (t : Text) : Option (Json × Text) :=
  if word.isPrefixOf t then some (value, t.drop word.length) else none

/-- Reads a string from behind its opening quote; the text is absent for half a surrogate pair. -/
def readString (t : Text) : Option (Option String × Text) :=
  (readPieces t).map fun (pieces, rest) => ((joinPieces pieces).map String.ofList, rest)

/-- An object of the members read; garbled when a name is. -/
def ofMembers (members : List (Option String × Json)) : Json :=
  let named := members.filterMap fun (name, value) => name.map (·, value)
  if named.length = members.length then .object named else .garbled

mutual

/-- Reads a value. A value takes a character or more, so as many steps as characters suffice. -/
def readValue : Nat → Text → Option (Json × Text)
  | 0, _ => none
  | steps + 1, t =>
    match skipBlanks t with
    | [] => none
    | '"' :: r => (readString r).map fun (text, rest) => ((text.map .string).getD .garbled, rest)
    | '[' :: r =>
      match skipBlanks r with
      | ']' :: rest => some (.array [], rest)
      | r => (readItems steps r).map fun (items, rest) => (.array items, rest)
    | '{' :: r =>
      match skipBlanks r with
      | '}' :: rest => some (.object [], rest)
      | r => (readMembers steps r).map fun (members, rest) => (ofMembers members, rest)
    | 'n' :: r => readWord ['u', 'l', 'l'] .null r
    | 't' :: r => readWord ['r', 'u', 'e'] (.bool true) r
    | 'f' :: r => readWord ['a', 'l', 's', 'e'] (.bool false) r
    | r => (readNumber r).map fun (literal, rest) => (.number (String.ofList literal), rest)

/-- Reads items through the closing bracket. -/
def readItems : Nat → Text → Option (List Json × Text)
  | 0, _ => none
  | steps + 1, t =>
    match readValue steps t with
    | none => none
    | some (item, r) =>
      match skipBlanks r with
      | ',' :: r => (readItems steps r).map fun (items, rest) => (item :: items, rest)
      | ']' :: rest => some ([item], rest)
      | _ => none

/-- Reads members through the closing brace. -/
def readMembers : Nat → Text → Option (List (Option String × Json) × Text)
  | 0, _ => none
  | steps + 1, t =>
    match skipBlanks t with
    | '"' :: r =>
      match readString r with
      | none => none
      | some (name, r) =>
        match skipBlanks r with
        | ':' :: r =>
          match readValue steps r with
          | none => none
          | some (value, r) =>
            match skipBlanks r with
            | ',' :: r =>
              (readMembers steps r).map fun (members, rest) => ((name, value) :: members, rest)
            | '}' :: rest => some ([(name, value)], rest)
            | _ => none
        | _ => none
    | _ => none

end

/-- The value that a text begins with, and what follows it. -/
def readFirst? (t : Text) : Option (Json × Text) := readValue (2 * t.length + 2) t

/-- The value that a text writes. -/
def parse? (t : Text) : Option Json :=
  match readFirst? t with
  | some (value, rest) => if (skipBlanks rest).isEmpty then some value else none
  | none => none

end MetricQuery.Json
