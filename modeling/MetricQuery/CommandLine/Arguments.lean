import MetricQuery.Json.Basic

/-!
Arguments of the command line. Options stand before or after the command; an option that takes a
value has it attached or as the next argument, which must not look like an option. A lone dash is
no option, and after two dashes nothing is.
-/

set_option autoImplicit false

namespace MetricQuery.CommandLine

/-- What an option takes. -/
inductive ValueKind where
  | flag
  | text
  /-- A name of a file, not empty. -/
  | file
  /-- A number of 64 bits. -/
  | number
  /-- Nothing: it asks for help instead. -/
  | help
  /-- Nothing: it asks for the version instead. -/
  | version
  deriving DecidableEq, Repr

/-- An option that may be given: its name, the letter it goes by, and what it takes. -/
structure Switch where
  name : String
  letter : Option Char
  kind : ValueKind
  deriving DecidableEq, Repr

/-- Why arguments do not come to a command. -/
inductive Stop where
  | misuse
  | help
  | version
  deriving DecidableEq, Repr

/-- What may stand at one level of arguments. -/
structure Level where
  options : List Switch
  /-- How many arguments that are no options it takes. -/
  positionals : Nat
  /-- The names of the commands that may follow. -/
  commands : List String
  deriving DecidableEq, Repr

/-- What stood at one level of arguments. -/
structure Given where
  values : List (String × String)
  positionals : List String
  /-- The command that follows, and its arguments. -/
  command : Option (String × List String)
  deriving DecidableEq, Repr

/-- The value given to an option. -/
def Given.value? (g : Given) (name : String) : Option String :=
  (g.values.find? (·.1 == name)).map Prod.snd

/-- Whether an option is given. -/
def Given.has (g : Given) (name : String) : Bool := (g.value? name).isSome

/-- The number that a text writes, with or without a plus sign. -/
def number? (s : String) : Option Nat :=
  let digits := match s.toList with
    | '+' :: digits => digits
    | digits => digits
  (Json.ofDigits? digits).filter (· < Nat.pow 2 64)

/-- Whether a text will do as a value. -/
def ValueKind.accepts : ValueKind → String → Bool
  | .text, _ => true
  | .file, value => !value.isEmpty
  | .number, value => (number? value).isSome
  | _, _ => false

/-- Whether an argument looks like an option, or ends the options. -/
def looksLikeOption (arg : String) : Bool :=
  match arg.toList with
  | '-' :: _ :: _ => true
  | _ => false

/-- An argument taken apart. -/
inductive Shape where
  /-- Two dashes alone. -/
  | endOfOptions
  /-- An option by name, perhaps with a value attached. -/
  | named (name : String) (value : Option String)
  /-- An option by letter, perhaps with a value attached. -/
  | lettered (letter : Char) (value : Option String)
  | plain
  deriving DecidableEq, Repr

/-- The shape of an argument. -/
def Shape.of (arg : String) : Shape :=
  match arg.toList with
  | ['-', '-'] => .endOfOptions
  | '-' :: '-' :: body =>
    match Text.cutAt? ['='] body with
    | some (name, value) => .named (String.ofList name) (some (String.ofList value))
    | none => .named (String.ofList body) none
  | '-' :: letter :: [] => .lettered letter none
  | '-' :: letter :: '=' :: value => .lettered letter (some (String.ofList value))
  | '-' :: letter :: value => .lettered letter (some (String.ofList value))
  | _ => .plain

/-- The option that an argument stands for, and the value attached to it. What is attached to a
letter that takes nothing is more letters, which no longer matter. -/
def Level.switch? (level : Level) : Shape → Option (Switch × Option String)
  | .named name value => (level.options.find? (·.name == name)).map (·, value)
  | .lettered letter value =>
    (level.options.find? (·.letter == some letter)).map fun o =>
      (o, if o.kind = .help ∨ o.kind = .version then none else value)
  | _ => none

/-- Takes note of an option, which may be given once only. -/
def Given.put (g : Given) (o : Switch) (value : String) : Except Stop Given :=
  if g.has o.name then .error .misuse
  else .ok { g with values := g.values ++ [(o.name, value)] }

/-- Takes note of an argument that is no option, if there is room for it. -/
def Given.push (g : Given) (level : Level) (arg : String) : Except Stop Given :=
  if g.positionals.length < level.positionals then
    .ok { g with positionals := g.positionals ++ [arg] }
  else .error .misuse

/-- Takes note of the value of an option. -/
def Given.putValue (g : Given) (o : Switch) (value : String) : Except Stop Given :=
  if o.kind.accepts value then g.put o value else .error .misuse

/-- Reads the arguments of a level up to a command. -/
def Level.read (level : Level) : List String → Given → Except Stop Given
  | [], given => .ok given
  | arg :: rest, given =>
    if level.commands.contains arg then .ok { given with command := some (arg, rest) }
    else
      match Shape.of arg with
      | .endOfOptions => rest.foldlM (·.push level ·) given
      | .plain => do level.read rest (← given.push level arg)
      | shape =>
        match level.switch? shape with
        | none => .error .misuse
        | some (o, attached) =>
          match o.kind, attached with
          | .help, none => .error .help
          | .version, none => .error .version
          | .flag, none => do level.read rest (← given.put o "")
          | _, some value => do level.read rest (← given.putValue o value)
          | _, none =>
            match rest with
            | [] => .error .misuse
            | value :: rest =>
              if looksLikeOption value then .error .misuse
              else do level.read rest (← given.putValue o value)

/-- What is to be done. -/
inductive Command where
  | check (expr : Option String) (file : Option String) (json : Bool)
  | complete (expr : String) (pos : Option Nat)
  | parse (expr : String)
  | serve
  deriving DecidableEq, Repr

/-- Options that every command takes. -/
structure CommonOptions where
  config : Option String
  url : Option String
  offline : Bool
  remote : Bool
  logLevel : Option String
  deriving DecidableEq, Repr

/-- The options that every command takes. -/
def commonOptions : List Switch :=
  [⟨"config", none, .file⟩, ⟨"url", none, .text⟩, ⟨"offline", none, .flag⟩,
    ⟨"remote-lsp", none, .flag⟩, ⟨"log-level", none, .text⟩, ⟨"help", some 'h', .help⟩]

/-- What may stand before the command. -/
def outerLevel : Level :=
  ⟨⟨"version", some 'V', .version⟩ :: commonOptions, 0,
    ["check", "complete", "parse", "lsp", "help"]⟩

/-- What may stand after a command. -/
def innerLevel : String → Level
  | "check" => ⟨commonOptions ++ [⟨"file", some 'f', .file⟩, ⟨"json", none, .flag⟩], 1, []⟩
  | "complete" => ⟨commonOptions ++ [⟨"pos", some 'p', .number⟩], 1, []⟩
  | "parse" => ⟨commonOptions, 1, []⟩
  | _ => ⟨commonOptions, 0, []⟩

/-- The command that a name and its arguments come to. -/
def Command.of (name : String) (given : Given) : Option Command :=
  match name, given.positionals with
  | "check", [] => some (.check none (given.value? "file") (given.has "json"))
  | "check", expr :: _ =>
    if given.has "file" then none else some (.check (some expr) none (given.has "json"))
  | "complete", expr :: _ => some (.complete expr ((given.value? "pos").bind number?))
  | "parse", expr :: _ => some (.parse expr)
  | "lsp", _ => some .serve
  | _, _ => none

/-- The common options, given before and after the command; the later one counts. -/
def CommonOptions.of (outer inner : Given) : CommonOptions where
  config := (inner.value? "config").orElse fun _ => outer.value? "config"
  url := (inner.value? "url").orElse fun _ => outer.value? "url"
  offline := outer.has "offline" || inner.has "offline"
  remote := outer.has "remote-lsp" || inner.has "remote-lsp"
  logLevel := (inner.value? "log-level").orElse fun _ => outer.value? "log-level"

/-- Reads arguments: what is to be done, and how. -/
def read (args : List String) : Except Stop (CommonOptions × Command) := do
  let outer ← outerLevel.read args ⟨[], [], none⟩
  match outer.command with
  | none => throw .misuse
  | some ("help", topics) =>
    throw (if topics.all outerLevel.commands.contains && topics.length ≤ 1 then .help else .misuse)
  | some (name, rest) =>
    let inner ← (innerLevel name).read rest ⟨[], [], none⟩
    match Command.of name inner with
    | some command => return (.of outer inner, command)
    | none => throw .misuse

end MetricQuery.CommandLine
