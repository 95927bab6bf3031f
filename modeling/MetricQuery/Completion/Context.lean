import MetricQuery.Typing.Matcher

/-!
Contexts: what kind of suggestion fits at a position, and what is known to narrow it down.
-/

set_option autoImplicit false

namespace MetricQuery

/-- Kind of suggestion. -/
inductive ContextKind where
  | metricName
  | labelName
  | labelValue
  | function
  | aggregation
  | binOpModifier
  | binOp
  | matchOp
  | aggregateOpModifier
  | duration
  | offset
  deriving DecidableEq, Repr

/-- Every kind of suggestion. -/
def ContextKind.all : List ContextKind :=
  [.metricName, .labelName, .labelValue, .function, .aggregation, .binOpModifier, .binOp, .matchOp,
    .aggregateOpModifier, .duration, .offset]

/-- A kind of suggestion and what narrows it down. -/
structure Context where
  kind : ContextKind
  metric : Option String
  label : Option String
  /-- The matchers that the series must satisfy; never an empty list. -/
  matchers : Option (List Matcher)
  deriving DecidableEq, Repr

namespace Context

/-- A kind of suggestion that nothing narrows down. -/
def ofKind (kind : ContextKind) : Context := ⟨kind, none, none, none⟩

/-- A list of matchers, absent when it is empty. -/
def nonEmpty (matchers : List Matcher) : Option (List Matcher) :=
  if matchers.isEmpty then none else some matchers

end Context

end MetricQuery
