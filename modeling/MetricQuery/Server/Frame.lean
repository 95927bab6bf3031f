import MetricQuery.Server.Protocol
import MetricQuery.Text.Blank

/-!
Frames. A message travels behind a header that tells how many bytes it has, and may tell how they
are to be read. A header has few lines, and an empty one ends it.
-/

set_option autoImplicit false

namespace MetricQuery

/-- A line of a header. -/
structure HeaderLine where
  name : Text
  value : Text
  deriving DecidableEq, Repr

namespace Frame

/-- The name of the line that tells the length. -/
def lengthName : String := "Content-Length"

/-- The name of the line that tells how bytes are to be read. -/
def typeName : String := "Content-Type"

/-- A message in its frame. -/
def write (message : Json) : String :=
  let body := message.compact
  lengthName ++ ": " ++ toString (Text.size body.toList) ++ "\r\n\r\n" ++ body

/-- Reads the end of a line. -/
def lineEnd? : Text → Option Text
  | '\r' :: '\n' :: t => some t
  | '\n' :: t => some t
  | _ => none

/-- Whether a character may stand in the name of a line. -/
def isNameChar (c : Char) : Bool :=
  c.isAlphanum || "!#$%&\x27*+-.^_\x60|~".toList.contains c

/-- Whether a character may stand in the value of a line. -/
def isValueChar (c : Char) : Bool := c == '\t' || 0x20 ≤ c.toNat && c.toNat != 0x7f

/-- Reads a line: a name, a colon that follows it at once, and a value, with blanks around it. -/
def readLine? (t : Text) : Option (HeaderLine × Text) :=
  match t.dropWhile isNameChar with
  | ':' :: rest =>
    if (t.takeWhile isNameChar).isEmpty then none
    else
      let value := Text.trimBy (fun c => c == ' ' || c == '\t') (rest.takeWhile isValueChar)
      (lineEnd? (rest.dropWhile isValueChar)).map fun rest =>
        (⟨t.takeWhile isNameChar, value⟩, rest)
  | _ => none

/-- Reads lines, at most so many, through the empty one. -/
def readLines? (most : Nat) (t : Text) : Option (List HeaderLine × Text) :=
  match lineEnd? t with
  | some rest => some ([], rest)
  | none =>
    match most with
    | 0 => none
    | most + 1 =>
      match readLine? t with
      | none => none
      | some (line, rest) => (readLines? most rest).map fun (lines, rest) => (line :: lines, rest)

/-- How many lines a header may have. -/
def mostLines : Nat := 2

/-- Reads a length; it may have a plus. -/
def readLength? (value : Text) : Option Nat :=
  let digits := match value with
    | '+' :: t => t
    | t => t
  (Json.ofDigits? digits).filter (· < JsonNumber.limit)

/-- The mark of the parameter that names an encoding. -/
def charsetMark : Text := "charset=".toList

/-- The encoding that the value of a line names, behind a first part. -/
def charset? (value : Text) : Option Text :=
  let parts := ((String.ofList value).splitOn ";").drop 1
  ((parts.map fun part => Text.trim part.toList).find? charsetMark.isPrefixOf).map
    (·.drop charsetMark.length)

/-- Whether the value of a line names the one encoding there is. -/
def isUtf8 (value : Text) : Bool :=
  match charset? value with
  | some name => name = "utf-8".toList || name = "utf8".toList
  | none => false

/-- Whether a line is well-formed: lines of other names always are. -/
def isFit (line : HeaderLine) : Bool :=
  if line.name = lengthName.toList then (readLength? line.value).isSome
  else if line.name = typeName.toList then isUtf8 line.value
  else true

/-- The length that lines tell, in the last one that does. -/
def lengthOf? (lines : List HeaderLine) : Option Nat :=
  if lines.all isFit then
    (lines.reverse.find? (·.name = lengthName.toList)).bind (readLength? ·.value)
  else none

/-- Reads a header: the length of the message, and what follows the header. -/
def header? (stream : Text) : Option (Nat × Text) :=
  match readLines? mostLines stream with
  | none => none
  | some (lines, rest) => (lengthOf? lines).map (·, rest)

/-- Whether a stream stops right behind a header. -/
def stopsAtBody (stream : Text) : Bool := ((header? stream).map (·.2.isEmpty)).getD false

/-- The first message of a stream, and what follows it. -/
def read? (stream : Text) : Option (Text × Text) :=
  match header? stream with
  | none => none
  | some (n, rest) =>
    match Text.takeBytes? rest n, Text.dropBytes? rest n with
    | some body, some rest => some (body, rest)
    | _, _ => none

theorem length_lineEnd? {t rest : Text} (h : lineEnd? t = some rest) :
    rest.length < t.length := by
  unfold lineEnd? at h
  split at h
  · simp only [Option.some.injEq] at h
    rw [← h, List.length_cons, List.length_cons]
    omega
  · simp only [Option.some.injEq] at h
    rw [← h, List.length_cons]
    omega
  · simp at h

theorem length_readLine? {t rest : Text} {line : HeaderLine}
    (h : readLine? t = some (line, rest)) : rest.length < t.length := by
  unfold readLine? at h
  split at h
  · rename_i after cut
    have shorter : after.length < t.length := by
      have := (List.dropWhile_sublist (l := t) isNameChar).length_le
      rw [cut, List.length_cons] at this
      omega
    split at h
    · simp at h
    · obtain ⟨left, found, same⟩ := Option.map_eq_some_iff.1 h
      simp only [Prod.mk.injEq] at same
      obtain ⟨-, rfl⟩ := same
      have := length_lineEnd? found
      have := (List.dropWhile_sublist (l := after) isValueChar).length_le
      omega
  · simp at h

theorem length_readLines? {most : Nat} {t rest : Text} {lines : List HeaderLine}
    (h : readLines? most t = some (lines, rest)) : rest.length < t.length := by
  induction most generalizing t lines with
  | zero =>
    unfold readLines? at h
    split at h
    · rename_i found
      simp only [Option.some.injEq, Prod.mk.injEq] at h
      obtain ⟨-, rfl⟩ := h
      exact length_lineEnd? found
    · simp at h
  | succ most ih =>
    unfold readLines? at h
    split at h
    · rename_i found
      simp only [Option.some.injEq, Prod.mk.injEq] at h
      obtain ⟨-, rfl⟩ := h
      exact length_lineEnd? found
    · dsimp only at h
      split at h
      · simp at h
      · rename_i line after found
        obtain ⟨⟨more, left⟩, rest', same⟩ := Option.map_eq_some_iff.1 h
        simp only [Prod.mk.injEq] at same
        obtain ⟨-, rfl⟩ := same
        have := length_readLine? found
        have := ih rest'
        omega

/-- Reading a message leaves less of the stream. -/
theorem length_read? {stream body rest : Text} (h : read? stream = some (body, rest)) :
    rest.length < stream.length := by
  unfold read? header? at h
  split at h
  · simp at h
  · rename_i n after found
    split at found
    · simp at found
    · rename_i lines behind read
      obtain ⟨m, told, same⟩ := Option.map_eq_some_iff.1 found
      simp only [Prod.mk.injEq] at same
      obtain ⟨-, rfl⟩ := same
      have shorter := length_readLines? read
      split at h
      · rename_i taken dropped
        simp only [Option.some.injEq, Prod.mk.injEq] at h
        obtain ⟨-, rfl⟩ := h
        have := Text.length_dropBytes? dropped
        omega
      · simp at h

end Frame

namespace Session

variable {σ : Type}

/-- What is sent when a frame cannot be read. -/
def unreadable : Json := Call.reply .null (.error (.envelope .unreadable))

/-- How the serving of a stream ends. -/
inductive Ending where
  /-- Nothing more is read. -/
  | finished
  /-- The assistant has come to the end of its work. -/
  | broken
  deriving DecidableEq, Repr

/-- What the body of a frame comes to: the session after it, if reading goes on, and all that is
sent. A body that cannot be read is answered by an error and ends the reading. -/
def receiveBody (a : Assistant σ) (s : Session σ) (body : Text) :
    Except Ending (Session σ) × List Json :=
  match Call.decode body with
  | .error fault => (.error .finished, [Call.reply .null (.error (.envelope fault))])
  | .ok sent =>
    if s.phase = .exited then (.error .finished, [])
    else
      match sent with
      | none => (.ok s, [])
      | some call =>
        let (session, sent) := s.call a call
        if a.broken session.workspace.state then (.error .broken, []) else (.ok session, sent)

/-- Serves a stream of frames: all that is sent, and how it ends. A frame without a body is passed
over, but when `waited` tells that there was one before, nothing may follow it. -/
def serveFrom (a : Assistant σ) (waited : Bool) (s : Session σ) (stream : Text) :
    List Json × Ending :=
  if stream.isEmpty then ([], .finished)
  else
    match framed : Frame.read? stream with
    | none => (if Frame.stopsAtBody stream then [] else [unreadable], .finished)
    | some (body, rest) =>
      have : rest.length < stream.length := Frame.length_read? framed
      if body.isEmpty then
        if waited && !rest.isEmpty then ([unreadable], .finished) else serveFrom a true s rest
      else
        match s.receiveBody a body with
        | (.error ending, sent) => (sent, ending)
        | (.ok session, sent) =>
          let (more, ending) := serveFrom a waited session rest
          (sent ++ more, ending)
termination_by stream.length

/-- Serves a stream of frames to its end, or until the session ends: all that is sent, and how it
ends. -/
def serve (a : Assistant σ) (s : Session σ) (stream : Text) : List Json × Ending :=
  serveFrom a false s stream

end Session

end MetricQuery
