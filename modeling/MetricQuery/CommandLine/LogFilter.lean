import MetricQuery.Json.Basic

/-!
Log filters. A filter is a list of directives with commas between them: a level, or a place in the
program with or without a level. Of the directives that cover a place the one that names it most
closely decides, and of equals the last.
-/

set_option autoImplicit false

namespace MetricQuery

/-- Level of a log entry; the higher the chattier. -/
inductive LogLevel where
  | error
  | warn
  | info
  | debug
  | trace
  deriving DecidableEq, Repr

/-- The rank of a level; 0 is left for nothing at all. -/
def LogLevel.rank : LogLevel → Nat
  | .error => 1
  | .warn => 2
  | .info => 3
  | .debug => 4
  | .trace => 5

/-- An entry of the log, and the place in the program it comes from. -/
structure LogEntry where
  level : LogLevel
  place : String
  message : String
  deriving DecidableEq, Repr

/-- Entries up to a rank are let through, from the places that start with a text. -/
structure LogDirective where
  place : Text
  rank : Nat
  deriving DecidableEq, Repr

namespace LogDirective

/-- The names of the ranks, from nothing at all upwards. -/
def rankNames : List String := ["off", "error", "warn", "info", "debug", "trace"]

/-- The rank that a text names, by number or by name in any case; an empty text is for errors. -/
def rank? (t : Text) : Option Nat :=
  if t.isEmpty then some 1
  else
    match Json.ofDigits? t with
    | some n => if n ≤ 5 then some n else none
    | none => rankNames.findIdx? fun name => Text.sameLetters name.toList t

/-- Whether a directive may start with a character. -/
def canStart (c : Char) : Bool := c.isAlphanum || c == '-' || c == ':' || c == '_' || c.toNat ≥ 128

/-- Reads a directive. -/
def read? (t : Text) : Option LogDirective :=
  match Text.trimBy Char.isWhitespace t with
  | [] => none
  | c :: rest =>
    if !canStart c || (c :: rest).contains '[' then none
    else
      match Text.cutAt? ['='] (c :: rest) with
      | some (place, level) => (rank? level).map fun rank => ⟨place, rank⟩
      | none =>
        match rank? (c :: rest) with
        | some rank => some ⟨[], rank⟩
        | none => some ⟨c :: rest, 5⟩

end LogDirective

/-- The directives of a filter, and the texts that are none. -/
structure LogFilter where
  directives : List LogDirective
  ignored : List String
  deriving DecidableEq, Repr

namespace LogFilter

/-- The filter when none is given. -/
def default : LogFilter := ⟨[⟨[], LogLevel.warn.rank⟩], []⟩

/-- Reads a filter. One without directives lets errors through. -/
def ofString (s : String) : LogFilter :=
  let parts := (s.splitOn ",").filter fun part => !part.isEmpty
  let read := parts.map fun part => (part, LogDirective.read? part.toList)
  let directives := read.filterMap Prod.snd
  ⟨if directives.isEmpty then [⟨[], LogLevel.error.rank⟩] else directives,
    (read.filter fun (_, directive) => directive.isNone).map Prod.fst⟩

/-- The directive that decides about a place. -/
def decisive? (f : LogFilter) (place : Text) : Option LogDirective :=
  (f.directives.filter fun d => d.place.isPrefixOf place).foldl
    (fun best d =>
      match best with
      | none => some d
      | some b => if b.place.length ≤ d.place.length then some d else some b)
    none

/-- Whether an entry is let through. -/
def admits (f : LogFilter) (e : LogEntry) : Bool :=
  (f.decisive? e.place.toList).any fun d => e.level.rank ≤ d.rank

end LogFilter

end MetricQuery
