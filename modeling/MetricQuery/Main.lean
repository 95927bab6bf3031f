import MetricQuery.CommandLine.Run

/-!
The program: reads what a command needs, carries it out, and writes what comes of it. Requests are
not carried anywhere, so a metrics server or a language service is never reached.
-/

set_option autoImplicit false

namespace MetricQuery.Program

open CommandLine

/-- The variable that names the file of settings. -/
def configVariable : String := "PROMQL_EDITOR_CONFIG"

/-- The content of a file, if it can be read. -/
def readNamed (name : String) : IO (Option NamedFile) := do
  try
    let content ← IO.FS.readFile name
    return some ⟨name, content⟩
  catch _ => return none

/-- Reads a stream to its end. -/
partial def readAll (stream : IO.FS.Stream) (seen : String) : IO String := do
  let line ← stream.getLine
  if line.isEmpty then return seen else readAll stream (seen ++ line)

/-- Reads exactly so many bytes, or fewer at the end of a stream. -/
partial def readBytes (stream : IO.FS.Stream) (count : Nat) (seen : ByteArray) : IO ByteArray := do
  if count = 0 then return seen
  let chunk ← stream.read count.toUSize
  if chunk.isEmpty then return seen
  else readBytes stream (count - chunk.size) (seen ++ chunk)

/-- Reads a header through the empty line that ends it. -/
partial def readHeader (stream : IO.FS.Stream) (seen : String) : IO String := do
  let line ← stream.getLine
  if line.isEmpty || line == "\r\n" || line == "\n" then return seen ++ line
  else readHeader stream (seen ++ line)

/-- Serves a session frame by frame. -/
partial def serveFrames {σ : Type} (a : Assistant σ) (input output : IO.FS.Stream) (s : Session σ) :
    IO Session.Ending := do
  let header ← readHeader input ""
  if header.isEmpty then return .finished
  let count := ((Frame.header? header.toList).map Prod.fst).getD 0
  let body ← readBytes input count ByteArray.empty
  let stream := header.toList ++ ((String.fromUTF8? body).getD "").toList
  match Frame.read? stream with
  | none =>
    unless Frame.stopsAtBody stream && body.isEmpty do
      output.putStr (Frame.write Session.unreadable)
    return .finished
  | some (text, _) =>
    if text.isEmpty then serveFrames a input output s
    else
      let (session, sent) := s.receiveBody a text
      for message in sent do
        output.putStr (Frame.write message)
      output.flush
      match session with
      | .error ending => return ending
      | .ok session => serveFrames a input output session

/-- Serves a session with settings, on standard input and output; the exit code. -/
def serveSession (s : Settings) : IO Nat := do
  match Assistant.ofSettings s.service Http.barred with
  | .error f => return exitCode f
  | .ok assistant =>
    let session := Session.start (.ok (s.service.cache, ()))
    return endingCode (← serveFrames assistant (← IO.getStdin) (← IO.getStdout) session)

/-- Runs the program with arguments; the exit code. -/
def run (args : List String) : IO UInt32 := do
  let configName ← IO.getEnv configVariable
  let files ← (neededFiles args configName).filterMapM readNamed
  let stdin ← if needsInput args then readAll (← IO.getStdin) "" else pure ""
  let invocation : Invocation := ⟨args, stdin, files, configName⟩
  let outcome := invocation.run Http.barred ()
  IO.print outcome.stdout
  for line in outcome.stderr do
    IO.eprintln line
  match invocation.servedSettings? with
  | some settings => return (← serveSession settings).toUInt32
  | none => return outcome.exit.toUInt32

end MetricQuery.Program

/-- The program. -/
def main (args : List String) : IO UInt32 := MetricQuery.Program.run args
