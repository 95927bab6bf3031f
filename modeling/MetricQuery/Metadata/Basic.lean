import MetricQuery.Typing.Matcher

/-!
Metadata: what a metrics server knows about its metrics and series, and the selectors that ask
for series.
-/

set_option autoImplicit false

namespace MetricQuery

/-- The label that holds the name of a metric. -/
def nameLabel : String := "__name__"

/-- One definition of a metric. -/
structure Definition where
  metricType : String
  help : String
  unit : String
  deriving DecidableEq, Repr

/-- The definitions of every metric, by name. -/
abbrev Definitions := List (String × List Definition)

/-- The labels of one series with their values, each label once. -/
abbrev LabelSet := List (String × String)

namespace LabelSet

/-- The value of a label. -/
def get? (labels : LabelSet) (name : String) : Option String :=
  (labels.find? (·.1 == name)).map Prod.snd

end LabelSet

/-- Every value once, in the order in which they come first. -/
def distinct {α : Type} [BEq α] (values : List α) : List α :=
  values.foldl (fun seen v => if seen.contains v then seen else seen ++ [v]) []

/-- The names of the labels of series, the metric name apart. -/
def labelNamesOf (series : List LabelSet) : List String :=
  distinct ((series.flatMap fun labels => labels.map Prod.fst).filter (· != nameLabel))

/-- The values of a label across series. -/
def labelValuesOf (series : List LabelSet) (label : String) : List String :=
  distinct (series.filterMap fun labels => labels.get? label)

/-- A selector of series, such as a metric name with matchers in braces. Matchers without a name
are left out, and the braces with the last of them. -/
def seriesSelector (metric : String) (matchers : Option (List Matcher)) : String :=
  match ((matchers.getD []).filter fun m => !m.name.isEmpty).map Matcher.render with
  | [] => metric
  | rendered => metric ++ "\x7b" ++ Text.join "," rendered ++ "\x7d"

end MetricQuery
