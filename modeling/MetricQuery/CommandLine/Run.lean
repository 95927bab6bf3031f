import MetricQuery.CommandLine.Arguments
import MetricQuery.CommandLine.LogFilter
import MetricQuery.Encoding
import MetricQuery.Server.Frame

/-!
Commands carried out: what a command writes and how it exits, given all that it reads.
-/

set_option autoImplicit false

namespace MetricQuery.CommandLine

/-- All that a command reads. -/
structure Invocation where
  args : List String
  stdin : String
  files : List NamedFile
  /-- The file of settings that the environment names. -/
  configName : Option String
  deriving DecidableEq, Repr

/-- What a command comes to: its exit code, what it writes, and the lines it writes on the side. -/
structure Outcome where
  exit : Nat
  stdout : String
  stderr : List String
  deriving DecidableEq, Repr

/-- The exit code of a fault. -/
def exitCode : Fault → Nat
  | .io _ => 3
  | .settings _ _ => 2
  | _ => 1

/-- The outcome of a fault. -/
def Outcome.ofFault (f : Fault) (log : List String) : Outcome := ⟨exitCode f, "", log ++ [f.title]⟩

/-- The exit code of a program whose work came to an end before its time. -/
def brokenCode : Nat := 101

/-- The exit code of a session, by how it ends. -/
def endingCode : Session.Ending → Nat
  | .finished => 0
  | .broken => brokenCode

/-- The outcome of work that came to an end before its time. -/
def Outcome.ofOverflow (o : Text.Overflow) (log : List String) : Outcome :=
  ⟨brokenCode, "", log ++ [o.message]⟩

/-- How the program is called. -/
def usage : String := "Usage: promql-editor [OPTIONS] <COMMAND>"

/-- The outcome of arguments that are no command. -/
def Outcome.ofStop : Stop → Outcome
  | .misuse => ⟨2, "", [usage]⟩
  | .help => ⟨0, usage ++ "\n", []⟩
  | .version => ⟨0, serverName ++ " " ++ serverVersion ++ "\n", []⟩

/-- Settings with the common options in the place of what they settle. An address means to go
online unless told otherwise. -/
def CommonOptions.apply (o : CommonOptions) (s : Settings) : Settings where
  service :=
    let named := match o.url with
      | some url => { s.service with url := url, offline := false }
      | none => s.service
    { named with
      offline := named.offline || o.offline
      remote := named.remote || o.remote }
  logLevel := o.logLevel.orElse fun _ => s.logLevel

/-- The settings of an invocation. -/
def Invocation.settings (i : Invocation) (o : CommonOptions) : Except Fault Settings :=
  let written := match o.config with
    | some name => Settings.ofFile i.files name
    | none => Settings.load i.files i.configName
  written.map o.apply

/-- The expression on standard input, without line breaks at its end. -/
def Invocation.inputText (i : Invocation) : Text :=
  Text.trimEndBy (fun c => c == '\n' || c == '\r') i.stdin.toList

/-- The expression that an argument gives; a dash stands for standard input. -/
def Invocation.expression (i : Invocation) (expr : String) : Text :=
  if expr == "-" then i.inputText else expr.toList

/-- The expression to check: in a file, in an argument, or on standard input. -/
def Invocation.checked (i : Invocation) (expr file : Option String) : Except Fault Text :=
  match file, expr with
  | some name, _ =>
    match NamedFile.contentOf? i.files name with
    | some content => .ok content.toList
    | none => .error (.io ("failed to read " ++ name))
  | none, some expr => .ok (i.expression expr)
  | none, none => .ok i.inputText

/-- The place in the program where linting logs. -/
def lintPlace : String := "promql_editor::lint"

/-- What linting logs. -/
def lintLog (source : LintSource)
    (answer : Except Text.Overflow (Except Fault (List Diagnostic))) : List LogEntry :=
  match source, answer with
  | .builtin, _ => [⟨.debug, lintPlace, "expression checked"⟩]
  | .remote _ _, .ok (.error _) =>
    [⟨.debug, lintPlace, "querying language server"⟩,
      ⟨.warn, lintPlace, "language server diagnostics failed"⟩]
  | .remote _ _, _ => [⟨.debug, lintPlace, "querying language server"⟩]

/-- The lines that log entries come to under settings. -/
def logLines (s : Settings) (entries : List LogEntry) : List String :=
  let filter := match s.logLevel with
    | some text => LogFilter.ofString text
    | none => LogFilter.default
  filter.ignored ++ (entries.filter filter.admits).map LogEntry.message

variable {σ : Type}

/-- Checks a text: a list of all problems when `json` is set, else one fault for them, or a word
that all is well. -/
def check (transport : Http.Transport σ) (state : σ) (s : Settings) (text : Text) (json : Bool) :
    Except Fault Outcome := do
  let source ← s.service.lintSource
  let (answer, _) := source.examine transport text state
  let log := logLines s (lintLog source answer)
  match answer.map fun found => found.toOption.getD [] with
  | .error overflow => return .ofOverflow overflow log
  | .ok found =>
    if json then return ⟨0, (Json.list Diagnostic.toJson found).pretty ++ "\n", log⟩
    else
      match Fault.ofDiagnostics (Text.size text) found with
      | some fault => return .ofFault fault log
      | none => return ⟨0, "", log ++ ["OK"]⟩

/-- Completes a text, at its end unless told otherwise. -/
def complete (transport : Http.Transport σ) (state : σ) (s : Settings) (text : Text)
    (pos : Option Nat) : Except Fault Outcome := do
  let source ← s.service.completionSource
  let (result, _) :=
    source.complete transport text (pos.getD (Text.size text)) (s.service.cache, state)
  match result with
  | .error overflow => return .ofOverflow overflow []
  | .ok result => return ⟨0, (Json.ofOption CompletionResult.toJson result).pretty ++ "\n", []⟩

/-- Serves a session on standard input and output. -/
def serve (transport : Http.Transport σ) (state : σ) (s : Settings) (stream : Text) :
    Except Fault Outcome := do
  let assistant ← Assistant.ofSettings s.service transport
  let (sent, ending) := (Session.start (.ok (s.service.cache, state))).serve assistant stream
  return ⟨endingCode ending, Text.join "" (sent.map Frame.write), []⟩

/-- Carries out a command. -/
def Invocation.execute (i : Invocation) (transport : Http.Transport σ) (state : σ) (s : Settings) :
    Command → Except Fault Outcome
  | .check expr file json => do check transport state s (← i.checked expr file) json
  | .complete expr pos => complete transport state s (i.expression expr) pos
  | .parse expr =>
    return ⟨0, (SyntaxTree.parse (i.expression expr)).render ++ "\n", []⟩
  | .serve => serve transport state s i.stdin.toList

/-- Carries out an invocation. -/
def Invocation.run (i : Invocation) (transport : Http.Transport σ) (state : σ) : Outcome :=
  match read i.args with
  | .error stop => .ofStop stop
  | .ok (options, command) =>
    match i.settings options >>= fun s => i.execute transport state s command with
    | .ok outcome => outcome
    | .error fault => .ofFault fault []

/-- The files that arguments make a command read. -/
def neededFiles (args : List String) (configName : Option String) : List String :=
  match read args with
  | .error _ => []
  | .ok (options, command) =>
    let config := (options.config.orElse fun _ => configName).getD Settings.localFile
    match command with
    | .check _ (some file) _ => [config, file]
    | _ => [config]

/-- Whether arguments make a command read an expression from standard input. -/
def needsInput (args : List String) : Bool :=
  match read args with
  | .ok (_, .check none none _) => true
  | .ok (_, .check (some expr) _ _) => expr == "-"
  | .ok (_, .complete expr _) | .ok (_, .parse expr) => expr == "-"
  | _ => false

/-- The settings with which arguments make a command serve a session. -/
def Invocation.servedSettings? (i : Invocation) : Option Settings :=
  match read i.args with
  | .ok (options, .serve) => (i.settings options).toOption
  | _ => none

end MetricQuery.CommandLine
