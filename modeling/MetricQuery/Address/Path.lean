import MetricQuery.Address.Host

/-!
Paths of addresses: what is escaped in them, and how dots in them are resolved.
-/

set_option autoImplicit false

namespace MetricQuery.Address

/-- The families of schemes. -/
inductive Family where
  | file
  /-- The schemes of the web, which have a host. -/
  | web
  | other
  deriving DecidableEq, Repr

/-- Whether a character separates segments. -/
def Family.isSlash (f : Family) (c : Char) : Bool := c == '/' || c == '\\' && f != .other

/-- Whether a character is escaped everywhere: it is a control character or not ASCII. -/
def isUnsafe (c : Char) : Bool := c.toNat < 0x20 || 0x7f ≤ c.toNat

/-- The characters that are escaped behind the mark of a fragment. -/
def fragmentEscapes : Text := [' ', '"', '<', '>', '\x60']

/-- The characters that are escaped in a path. -/
def pathEscapes : Text := fragmentEscapes ++ ['#', '?', '{', '}']

/-- The characters that are escaped in a query. -/
def Family.queryEscapes (f : Family) : Text :=
  [' ', '"', '#', '<', '>'] ++ (if f = .other then [] else ['\x27'])

/-- The characters that are escaped in the name and the password of a user. -/
def userEscapes : Text := pathEscapes ++ ['/', ':', ';', '=', '@', '[', '\\', ']', '^', '|']

/-- An upper-case hexadecimal digit. -/
def upperHex (n : Nat) : Char := (Nat.digitChar n).toUpper

/-- The escape of a byte. -/
def escapeByte (b : UInt8) : Text := ['%', upperHex (b.toNat / 16), upperHex (b.toNat % 16)]

/-- Escapes unsafe characters and some more. -/
def escape (more : Text) (t : Text) : Text :=
  t.flatMap fun c =>
    if isUnsafe c || more.contains c then (String.utf8EncodeChar c).flatMap escapeByte else [c]

/-- Whether a segment stands for its own folder. -/
def isDot (segment : Text) : Bool :=
  [".", "%2e"].contains (String.ofList (segment.map Char.toLower))

/-- Whether a segment stands for the folder above. -/
def isDotDot (segment : Text) : Bool :=
  ["..", ".%2e", "%2e.", "%2e%2e"].contains (String.ofList (segment.map Char.toLower))

/-- Whether a segment is the letter of a drive. -/
def isDrive : Text → Bool
  | [c, mark] => c.isAlpha && (mark == ':' || mark == '|')
  | _ => false

/-- Splits a path at its slashes. -/
def segments (f : Family) : Text → List Text
  | [] => [[]]
  | c :: t =>
    let rest := segments f t
    if f.isSlash c then [] :: rest else (c :: rest.head?.getD []) :: rest.tail

/-- Whether a path ends with a slash. -/
def endsOpen (path : Text) : Bool := path.getLast? = some '/'

/-- The last segment of a path. -/
def lastSegment (path : Text) : Text := (path.reverse.takeWhile (· != '/')).reverse

/-- Drops the last segment of a path, but not its slash. -/
def dropSegment (path : Text) : Text := (path.reverse.dropWhile (· != '/')).reverse

/-- Leaves the last folder of a path, unless it is the topmost or a drive. -/
def leave (path : Text) : Text :=
  let folder := path.dropLast
  if endsOpen path && folder.contains '/' && !isDrive (lastSegment folder) then dropSegment folder
  else dropSegment path

/-- A path that is being walked, and whether it has begun with a drive. -/
structure Walk where
  path : Text
  drive : Bool
  deriving DecidableEq, Repr

namespace Walk

/-- Takes a segment, which a slash follows unless it is the last. A drive at the top of a file's
path is written with a colon. -/
def take (f : Family) (w : Walk) (segment : Text) (last : Bool) : Walk :=
  let slash : Text := if last then [] else ['/']
  if isDotDot segment then
    let left := leave w.path
    { w with path := if endsOpen left then left else left ++ slash }
  else if isDot segment then
    { w with path := if endsOpen w.path then w.path else w.path ++ ['/'] }
  else if f = .file && w.path.length = 1 && isDrive segment then
    ⟨w.path ++ segment.take 1 ++ [':'] ++ slash, true⟩
  else { w with path := w.path ++ escape pathEscapes segment ++ slash }

/-- Takes segments to the last. -/
def takeAll (f : Family) : Walk → List Text → Walk
  | w, [] => w
  | w, [segment] => w.take f segment true
  | w, segment :: rest => takeAll f (w.take f segment false) rest

end Walk

/-- Walks a path from a beginning. The path of a file begins with just one slash. -/
def walk (f : Family) (start path : Text) : Walk :=
  let w := Walk.takeAll f ⟨start, false⟩ (segments f path)
  if f = .file then { w with path := '/' :: w.path.dropWhile (· = '/') } else w

end MetricQuery.Address
