import MetricQuery.Address.Path
import MetricQuery.Json.Decode

/-!
Addresses of documents. An address names a scheme; some schemes have a host and a path of segments,
where dots are resolved, others have just a text. Reading gives the one spelling under which a
document is kept: case, numbers, default ports, dots and escapes are settled in it.
-/

set_option autoImplicit false

namespace MetricQuery

namespace Address

/-- The port that a scheme of the web stands for; the other schemes have none. -/
def webPorts : List (String × Nat) :=
  [("http", 80), ("https", 443), ("ws", 80), ("wss", 443), ("ftp", 21)]

/-- The family of a scheme. -/
def Family.ofScheme (scheme : String) : Family :=
  if scheme == "file" then .file
  else if webPorts.any (·.1 == scheme) then .web
  else .other

/-- Whether a character ends a path. -/
def endsPath (c : Char) : Bool := c == '?' || c == '#'

/-- Whether a character ends a host. -/
def Family.endsHost (f : Family) (c : Char) : Bool := f.isSlash c || endsPath c

/-- The characters that no host has. -/
def hostBars : Text :=
  ['\x00', '\t', '\n', '\r', ' ', '#', '/', ':', '<', '>', '?', '@', '[', '\\', ']', '^', '|']

/-- Drops what is never part of an address: control characters and blanks around it, tabs and line
breaks anywhere. -/
def clean (t : Text) : Text :=
  (Text.trimBy (·.toNat ≤ 0x20) t).filter fun c => c != '\t' && c != '\n' && c != '\r'

/-- The scheme, in lower case, and what follows its colon. -/
def scheme? (t : Text) : Option (String × Text) :=
  let (scheme, rest) := t.span fun c => c.isAlphanum || c == '+' || c == '-' || c == '.'
  match (scheme.head?.map Char.isAlpha).getD false, rest with
  | true, ':' :: rest => some (String.ofList (scheme.map Char.toLower), rest)
  | _, _ => none

/-- Reads a host. Outside of the web and of files, it is just a text. -/
def readHost (f : Family) (host : Text) : Except AddressFault Text :=
  if host.head? = some '[' then readLong host
  else if f != .other then readDomain host
  else if host.any hostBars.contains then .error .badCharacter
  else .ok (escape [] host)

/-- Reads a port; the one of the scheme is left out. -/
def readPort (scheme : String) (port : Text) : Except AddressFault Text :=
  if port.isEmpty then .ok []
  else
    match Json.ofDigits? port with
    | none => .error .badPort
    | some n =>
      if 0xffff < n then .error .badPort
      else if webPorts.contains (scheme, n) then .ok []
      else .ok (':' :: Nat.toDigits 10 n)

/-- Splits at the last occurrence of a character. -/
def cutAtLast? (mark : Char) (t : Text) : Option (Text × Text) :=
  let (after, before) := t.reverse.span (· != mark)
  match before with
  | [] => none
  | _ :: before => some (before.reverse, after.reverse)

/-- Reads the name and the password of a user. -/
def readUser (user : Text) : Text :=
  let (name, password) := user.span (· != ':')
  let password := password.drop 1
  let written := escape userEscapes name
    ++ (if password.isEmpty then [] else ':' :: escape userEscapes password)
  if written.isEmpty then [] else written ++ ['@']

/-- Splits at the first colon outside of brackets; the colon stays with what follows. -/
def splitHost (inside : Bool) : Text → Text × Text
  | [] => ([], [])
  | c :: t =>
    if c = ':' && !inside then ([], c :: t)
    else
      let (host, rest) := splitHost (c = '[' || inside && c != ']') t
      (c :: host, rest)

/-- An address that is being read: what is written so far, and what is left. -/
structure Reading where
  written : Text
  rest : Text
  deriving DecidableEq, Repr

/-- Reads a user, a host and a port. A backslash behind a port belongs to the path. -/
def readAuthority (f : Family) (scheme : String) (t : Text) : Except AddressFault Reading := do
  let (authority, path) := t.span (!f.endsHost ·)
  let (user, place) := (cutAtLast? '@' authority).getD ([], authority)
  let (host, port) := splitHost false place
  let (port, slash) := (port.drop 1).span (· != '\\')
  let bare := authority = ['@'] && !path.isEmpty
  if host.isEmpty && (f = .web || place.head? = some ':' || bare) then throw .emptyHost
  let user := readUser user
  let host ← readHost f host
  if host.isEmpty && !user.isEmpty then throw .emptyHost
  return ⟨['/', '/'] ++ user ++ host ++ (← readPort scheme port), slash ++ path⟩

/-- Walks the path of what is left, from a beginning. -/
def readPath (f : Family) (start t : Text) : Walk × Text :=
  let (path, rest) := t.span (!endsPath ·)
  (walk f start path, rest)

/-- What follows the first slash, if there is one. -/
def dropSlash (f : Family) : Text → Text
  | [] => []
  | c :: t => if f.isSlash c then t else c :: t

/-- Reads an address of the web behind its scheme, up to the query. -/
def readWeb (scheme : String) (t : Text) : Except AddressFault Reading := do
  let r ← readAuthority .web scheme (t.dropWhile (Family.isSlash .web))
  let (w, rest) := readPath .web ['/'] (dropSlash .web r.rest)
  return ⟨r.written ++ w.path, rest⟩

/-- The host of a file, if it has one, and what follows it. A drive is no host, and neither is
this machine. -/
def readFileHost (t : Text) : Except AddressFault (Option Text × Text) := do
  let (host, rest) := t.span (!Family.endsHost .file ·)
  if isDrive host then return (none, t)
  else if host.isEmpty then return (none, rest)
  else
    let host ← readHost .file host
    return if host = "localhost".toList then (none, rest) else (some host, rest)

/-- Reads the address of a file behind its scheme, up to the query. A host is dropped when the path
begins with a drive. -/
def readFile (t : Text) : Except AddressFault Reading := do
  let slashes := (t.take 2).takeWhile (Family.isSlash .file)
  let hosted ← if slashes.length = 2 then readFileHost (t.drop 2) else pure (none, t)
  let (w, rest) :=
    match hosted, slashes.length with
    | (some _, t), _ => readPath .file ['/'] (dropSlash .file t)
    | (none, t), 1 => readPath .file [] t
    | (none, t), _ => readPath .file ['/'] t
  let host := if w.drive then [] else hosted.1.getD []
  return ⟨['/', '/'] ++ host ++ w.path, rest⟩

/-- Reads an address of another scheme behind the scheme, up to the query. -/
def readOther (scheme : String) (t : Text) : Except AddressFault Reading := do
  match t with
  | '/' :: '/' :: t =>
    let r ← readAuthority .other scheme t
    let start : Text := if r.rest.head? = some '\\' then ['/'] else []
    let (w, rest) := readPath .other start r.rest
    return ⟨r.written ++ w.path, rest⟩
  | '/' :: t =>
    let (w, rest) := readPath .other ['/'] t
    return ⟨(if w.path.take 2 = ['/', '/'] then ['/', '.'] else []) ++ w.path, rest⟩
  | t =>
    let (text, rest) := t.span (!endsPath ·)
    return ⟨escape [] text, rest⟩

/-- Reads what follows the scheme, up to the query. -/
def readPlace (scheme : String) (t : Text) : Except AddressFault Reading :=
  match Family.ofScheme scheme with
  | .web => readWeb scheme t
  | .file => readFile t
  | .other => readOther scheme t

/-- A part that is escaped behind its mark. -/
def readTail (escapes : Text) : Text → Text
  | [] => []
  | mark :: t => mark :: escape escapes t

/-- Reads an address: its one spelling. -/
def read (t : Text) : Except AddressFault String :=
  match scheme? (clean t) with
  | none => .error .relative
  | some (scheme, rest) => do
    let r ← readPlace scheme rest
    let (query, fragment) := r.rest.span (· != '#')
    return scheme ++ ":" ++ String.ofList (r.written
      ++ readTail (Family.ofScheme scheme).queryEscapes query ++ readTail fragmentEscapes fragment)

end Address

/-- An address, in its one spelling. -/
def Decoder.address : Decoder String
  | .string value =>
    (Address.read value.toList).mapError fun e => .value (.string value) e.message
  | value => .error (.kind value "a string representing an URL")

end MetricQuery
