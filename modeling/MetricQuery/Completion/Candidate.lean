import MetricQuery.Syntax.Builtin

/-!
Candidates: what a completion offers, and the candidates that are always the same.
-/

set_option autoImplicit false

namespace MetricQuery

/-- What an editor shows a candidate as. -/
inductive CandidateKind where
  | constant
  | function
  | keyword
  | text
  deriving DecidableEq, Repr

/-- The name of a kind. -/
def CandidateKind.name : CandidateKind → String
  | .constant => "constant"
  | .function => "function"
  | .keyword => "keyword"
  | .text => "text"

/-- A suggestion. -/
structure Candidate where
  label : String
  detail : Option String
  info : Option String
  kind : Option CandidateKind
  /-- What is inserted instead of the label; `${name}` in it is a placeholder. -/
  apply : Option String
  deriving DecidableEq, Repr

namespace Candidate

/-- A candidate with a label and a kind only. -/
def plain (label : String) (kind : CandidateKind) : Candidate :=
  ⟨label, none, none, some kind, none⟩

/-- The name of a metric. -/
def metric (name : String) : Candidate := plain name .constant

/-- The name or the value of a label. -/
def ofLabel (name : String) : Candidate := plain name .text

/-- A function. -/
def function (name : String) (info : Option String) : Candidate :=
  { plain name .function with info := info }

/-- An aggregation. -/
def aggregation (name : String) (info : Option String) : Candidate :=
  { plain name .keyword with info := info }

/-- A keyword or an operator. -/
def keyword (word : String) : Candidate := plain word .keyword

/-- A unit of duration. -/
def duration (unit detail : String) : Candidate :=
  { plain unit .constant with detail := some detail }

/-- A template with placeholders. -/
def snippet (label detail template : String) : Candidate :=
  { plain label .text with detail := some detail, apply := some template }

/-- Every function. -/
def functions : List Candidate := QueryFunction.all.map fun f => function f.name f.info?

/-- Every aggregation. -/
def aggregations : List Candidate := Aggregator.all.map fun a => aggregation a.name a.info?

/-- Every binary operator. -/
def binaryOps : List Candidate :=
  ["^", "*", "/", "%", "+", "-", "==", ">=", ">", "<", "<=", "!=", "and", "or", "unless"].map
    keyword

/-- The modifiers of a binary operator. -/
def binaryModifiers : List Candidate := ["on", "ignoring", "group_left", "group_right"].map keyword

/-- The operators of a label matcher. -/
def matchOps : List Candidate := ["=", "!=", "=~", "!~"].map keyword

/-- The modifiers of an aggregation. -/
def aggregateModifiers : List Candidate := ["by", "without"].map keyword

/-- Every unit of duration. -/
def durations : List Candidate :=
  [duration "y" "year", duration "w" "week", duration "d" "day", duration "h" "hour",
    duration "m" "minute", duration "s" "second", duration "ms" "millisecond"]

/-- The keyword that shifts a selector in time. -/
def offsets : List Candidate := [keyword "offset"]

/-- The templates offered next to metric names. -/
def snippets : List Candidate :=
  [snippet "sum(rate(__input_vector__[5m]))" "snippet" "sum(rate($\x7b__input_vector__\x7d[5m]))",
    snippet "histogram_quantile(__quantile__, sum by(le) (rate(__histogram_metric__[5m])))"
      "snippet"
      ("histogram_quantile($\x7b__quantile__\x7d, sum by(le) " ++
        "(rate($\x7b__histogram_metric__\x7d[5m])))"),
    snippet
      ("label_replace(__input_vector__, \"__dst__\", \"__replacement__\", \"__src__\", " ++
        "\"__regex__\")")
      "snippet"
      ("label_replace($\x7b__input_vector__\x7d, \"$\x7b__dst__\x7d\", " ++
        "\"$\x7b__replacement__\x7d\", \"$\x7b__src__\x7d\", \"$\x7b__regex__\x7d\")")]

end Candidate

end MetricQuery
