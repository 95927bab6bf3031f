import MetricQuery.Text.Basic

/-!
The aggregations and functions built into the query language: their names, in the order in which
they are offered, and what is said about them.
-/

set_option autoImplicit false

namespace MetricQuery

/-- Aggregations over dimensions. -/
inductive Aggregator where
  | avg
  | bottomk
  | count
  | countValues
  | group
  | max
  | min
  | quantile
  | stddev
  | stdvar
  | sum
  | topk
  deriving DecidableEq, Repr

namespace Aggregator

/-- Every aggregation, in the order of their names. -/
def all : List Aggregator :=
  [.avg, .bottomk, .count, .countValues, .group, .max, .min, .quantile, .stddev, .stdvar, .sum,
    .topk]

/-- The name in a query. -/
def name : Aggregator → String
  | .avg => "avg"
  | .bottomk => "bottomk"
  | .count => "count"
  | .countValues => "count_values"
  | .group => "group"
  | .max => "max"
  | .min => "min"
  | .quantile => "quantile"
  | .stddev => "stddev"
  | .stdvar => "stdvar"
  | .sum => "sum"
  | .topk => "topk"

/-- The aggregation of a name, in any case of its letters. -/
def ofName? (name : String) : Option Aggregator :=
  all.find? fun a => Text.sameLetters a.name.toList name.toList

/-- The name in a syntax tree. -/
def label : Aggregator → String
  | .avg => "Avg"
  | .bottomk => "Bottomk"
  | .count => "Count"
  | .countValues => "CountValues"
  | .group => "Group"
  | .max => "Max"
  | .min => "Min"
  | .quantile => "Quantile"
  | .stddev => "Stddev"
  | .stdvar => "Stdvar"
  | .sum => "Sum"
  | .topk => "Topk"

/-- Whether the aggregation takes a parameter before its vector. -/
def takesParameter : Aggregator → Bool
  | .topk | .bottomk | .quantile | .countValues => true
  | _ => false

/-- What the aggregation does, where that is said. -/
def info? : Aggregator → Option String
  | .avg => some "Calculate the average over dimensions"
  | .bottomk => some "Smallest k elements by sample value"
  | .count => some "Count number of elements in the vector"
  | .countValues => some "Count number of elements with the same value"
  | .group => none
  | .max => some "Select maximum over dimensions"
  | .min => some "Select minimum over dimensions"
  | .quantile => some "Calculate φ-quantile (0 ≤ φ ≤ 1) over dimensions"
  | .stddev => some "Calculate population standard deviation over dimensions"
  | .stdvar => some "Calculate population standard variance over dimensions"
  | .sum => some "Calculate sum over dimensions"
  | .topk => some "Largest k elements by sample value"

end Aggregator

/-- Built-in functions. -/
inductive QueryFunction where
  | abs
  | absent
  | absentOverTime
  | avgOverTime
  | ceil
  | changes
  | clampMax
  | clampMin
  | countOverTime
  | daysInMonth
  | dayOfMonth
  | dayOfWeek
  | delta
  | deriv
  | exp
  | floor
  | histogramQuantile
  | holtWinters
  | hour
  | idelta
  | increase
  | irate
  | labelReplace
  | labelJoin
  | ln
  | log10
  | log2
  | maxOverTime
  | minOverTime
  | minute
  | month
  | predictLinear
  | quantileOverTime
  | rate
  | resets
  | round
  | scalar
  | sort
  | sortDesc
  | sqrt
  | stddevOverTime
  | stdvarOverTime
  | sumOverTime
  | time
  | timestamp
  | vector
  | year
  deriving DecidableEq, Repr

namespace QueryFunction

/-- Every function, in the order in which they are offered. -/
def all : List QueryFunction :=
  [.abs, .absent, .absentOverTime, .avgOverTime, .ceil, .changes, .clampMax, .clampMin,
    .countOverTime, .daysInMonth, .dayOfMonth, .dayOfWeek, .delta, .deriv, .exp, .floor,
    .histogramQuantile, .holtWinters, .hour, .idelta, .increase, .irate, .labelReplace, .labelJoin,
    .ln, .log10, .log2, .maxOverTime, .minOverTime, .minute, .month, .predictLinear,
    .quantileOverTime, .rate, .resets, .round, .scalar, .sort, .sortDesc, .sqrt, .stddevOverTime,
    .stdvarOverTime, .sumOverTime, .time, .timestamp, .vector, .year]

/-- The name in a query. -/
def name : QueryFunction → String
  | .abs => "abs"
  | .absent => "absent"
  | .absentOverTime => "absent_over_time"
  | .avgOverTime => "avg_over_time"
  | .ceil => "ceil"
  | .changes => "changes"
  | .clampMax => "clamp_max"
  | .clampMin => "clamp_min"
  | .countOverTime => "count_over_time"
  | .daysInMonth => "days_in_month"
  | .dayOfMonth => "day_of_month"
  | .dayOfWeek => "day_of_week"
  | .delta => "delta"
  | .deriv => "deriv"
  | .exp => "exp"
  | .floor => "floor"
  | .histogramQuantile => "histogram_quantile"
  | .holtWinters => "holt_winters"
  | .hour => "hour"
  | .idelta => "idelta"
  | .increase => "increase"
  | .irate => "irate"
  | .labelReplace => "label_replace"
  | .labelJoin => "label_join"
  | .ln => "ln"
  | .log10 => "log10"
  | .log2 => "log2"
  | .maxOverTime => "max_over_time"
  | .minOverTime => "min_over_time"
  | .minute => "minute"
  | .month => "month"
  | .predictLinear => "predict_linear"
  | .quantileOverTime => "quantile_over_time"
  | .rate => "rate"
  | .resets => "resets"
  | .round => "round"
  | .scalar => "scalar"
  | .sort => "sort"
  | .sortDesc => "sort_desc"
  | .sqrt => "sqrt"
  | .stddevOverTime => "stddev_over_time"
  | .stdvarOverTime => "stdvar_over_time"
  | .sumOverTime => "sum_over_time"
  | .time => "time"
  | .timestamp => "timestamp"
  | .vector => "vector"
  | .year => "year"

/-- The function of a name; the case of its letters counts. -/
def ofName? (name : String) : Option QueryFunction := all.find? fun f => f.name == name

/-- The name in a syntax tree. -/
def label : QueryFunction → String
  | .abs => "Abs"
  | .absent => "Absent"
  | .absentOverTime => "AbsentOverTime"
  | .avgOverTime => "AvgOverTime"
  | .ceil => "Ceil"
  | .changes => "Changes"
  | .clampMax => "ClampMax"
  | .clampMin => "ClampMin"
  | .countOverTime => "CountOverTime"
  | .daysInMonth => "DaysInMonth"
  | .dayOfMonth => "DayOfMonth"
  | .dayOfWeek => "DayOfWeek"
  | .delta => "Delta"
  | .deriv => "Deriv"
  | .exp => "Exp"
  | .floor => "Floor"
  | .histogramQuantile => "HistogramQuantile"
  | .holtWinters => "HoltWinters"
  | .hour => "Hour"
  | .idelta => "Idelta"
  | .increase => "Increase"
  | .irate => "Irate"
  | .labelReplace => "LabelReplace"
  | .labelJoin => "LabelJoin"
  | .ln => "Ln"
  | .log10 => "Log10"
  | .log2 => "Log2"
  | .maxOverTime => "MaxOverTime"
  | .minOverTime => "MinOverTime"
  | .minute => "Minute"
  | .month => "Month"
  | .predictLinear => "PredictLinear"
  | .quantileOverTime => "QuantileOverTime"
  | .rate => "Rate"
  | .resets => "Resets"
  | .round => "Round"
  | .scalar => "Scalar"
  | .sort => "Sort"
  | .sortDesc => "SortDesc"
  | .sqrt => "Sqrt"
  | .stddevOverTime => "StddevOverTime"
  | .stdvarOverTime => "StdvarOverTime"
  | .sumOverTime => "SumOverTime"
  | .time => "Time"
  | .timestamp => "Timestamp"
  | .vector => "Vector"
  | .year => "Year"

/-- What the function does, where that is said. -/
def info? : QueryFunction → Option String
  | .abs => some
      "Returns the input vector with all sample values converted to their absolute value."
  | .absent => some
      ("Returns an empty vector if the vector passed to it has any elements and a 1-element " ++
        "vector with the value 1 if the vector passed to it has no elements. This is useful for " ++
        "alerting on when no time series exist for a given metric name and label combination.")
  | .absentOverTime => none
  | .avgOverTime => some "The average value of all points in the specified interval."
  | .ceil => some "Rounds the sample values of all elements in `v` up to the nearest integer."
  | .changes => some
      ("For each input time series, `changes(v range-vector)` returns the number of times its " ++
        "value has changed within the provided time range as an instant vector.")
  | .clampMax => some
      "Clamps the sample values of all elements in `v` to have an upper limit of `max`."
  | .clampMin => some
      "Clamps the sample values of all elements in `v` to have a lower limit of `min`."
  | .countOverTime => some "The count of all values in the specified interval."
  | .daysInMonth => some
      ("Returns number of days in the month for each of the given times in UTC. Returned values " ++
        "are from 28 to 31.")
  | .dayOfMonth => some
      ("Returns the day of the month for each of the given times in UTC. Returned values are " ++
        "from 1 to 31.")
  | .dayOfWeek => some
      ("Returns the day of the week for each of the given times in UTC. Returned values are " ++
        "from 0 to 6, where 0 means Sunday etc.")
  | .delta => some
      ("Calculates the difference between the first and last value of each time series element " ++
        "in a range vector `v`, returning an instant vector with the given deltas and " ++
        "equivalent labels. The delta is extrapolated to cover the full time range as specified " ++
        "in the range vector selector, so that it is possible to get a non-integer result even " ++
        "if the sample values are all integers.")
  | .deriv => some
      ("Calculates the per-second derivative of the time series in a range vector `v`, using " ++
        "simple linear regression.")
  | .exp => some
      ("Calculates the exponential function for all elements in `v`.\nSpecial cases are:\n* " ++
        "`Exp(+Inf) = +Inf` \n* `Exp(NaN) = NaN`")
  | .floor => some "Rounds the sample values of all elements in `v` down to the nearest integer."
  | .histogramQuantile => some
      ("Calculates the φ-quantile (0 ≤ φ ≤ 1) from the buckets `b` of a histogram. The samples " ++
        "in `b` are the counts of observations in each bucket. Each sample must have a label " ++
        "`le` where the label value denotes the inclusive upper bound of the bucket. (Samples " ++
        "without such a label are silently ignored.) The histogram metric type automatically " ++
        "provides time series with the `_bucket` suffix and the appropriate labels.")
  | .holtWinters => some
      ("Produces a smoothed value for time series based on the range in `v`. The lower the " ++
        "smoothing factor `sf`, the more importance is given to old data. The higher the trend " ++
        "factor `tf`, the more trends in the data is considered. Both `sf` and `tf` must be " ++
        "between 0 and 1.")
  | .hour => some
      ("Returns the hour of the day for each of the given times in UTC. Returned values are " ++
        "from 0 to 23.")
  | .idelta => some
      ("Calculates the difference between the last two samples in the range vector `v`, " ++
        "returning an instant vector with the given deltas and equivalent labels.")
  | .increase => some
      ("Calculates the increase in the time series in the range vector. Breaks in monotonicity " ++
        "(such as counter resets due to target restarts) are automatically adjusted for. The " ++
        "increase is extrapolated to cover the full time range as specified in the range vector " ++
        "selector, so that it is possible to get a non-integer result even if a counter " ++
        "increases only by integer increments.")
  | .irate => some
      ("Calculates the per-second instant rate of increase of the time series in the range " ++
        "vector. This is based on the last two data points. Breaks in monotonicity (such as " ++
        "counter resets due to target restarts) are automatically adjusted for.")
  | .labelReplace => some
      ("For each timeseries in `v`, `label_replace(v instant-vector, dst_label string, " ++
        "replacement string, src_label string, regex string)` matches the regular expression " ++
        "`regex` against the label `src_label`. If it matches, then the timeseries is returned " ++
        "with the label `dst_label` replaced by the expansion of `replacement`. `$1` is " ++
        "replaced with the first matching subgroup, `$2` with the second etc. If the regular " ++
        "expression doesn't match then the timeseries is returned unchanged.")
  | .labelJoin => none
  | .ln => some
      ("Calculates the natural logarithm for all elements in `v`.\nSpecial cases are:\n * " ++
        "`ln(+Inf) = +Inf`\n * `ln(0) = -Inf`\n * `ln(x < 0) = NaN`\n * `ln(NaN) = NaN`")
  | .log10 => some
      ("Calculates the decimal logarithm for all elements in `v`. The special cases are " ++
        "equivalent to those in `ln`.")
  | .log2 => some
      ("Calculates the binary logarithm for all elements in `v`. The special cases are " ++
        "equivalent to those in `ln`.")
  | .maxOverTime => some "The maximum value of all points in the specified interval."
  | .minOverTime => some "The minimum value of all points in the specified interval."
  | .minute => some
      ("Returns the minute of the hour for each of the given times in UTC. Returned values are " ++
        "from 0 to 59.")
  | .month => some
      ("Returns the month of the year for each of the given times in UTC. Returned values are " ++
        "from 1 to 12, where 1 means January etc.")
  | .predictLinear => some
      ("Predicts the value of time series `t` seconds from now, based on the range vector `v`, " ++
        "using simple linear regression.")
  | .quantileOverTime => some "The φ-quantile (0 ≤ φ ≤ 1) of the values in the specified interval."
  | .rate => some
      ("Calculates the per-second average rate of increase of the time series in the range " ++
        "vector. Breaks in monotonicity (such as counter resets due to target restarts) are " ++
        "automatically adjusted for. Also, the calculation extrapolates to the ends of the time " ++
        "range, allowing for missed scrapes or imperfect alignment of scrape cycles with the " ++
        "range's time period.")
  | .resets => some
      ("For each input time series, `resets(v range-vector)` returns the number of counter " ++
        "resets within the provided time range as an instant vector. Any decrease in the value " ++
        "between two consecutive samples is interpreted as a counter reset.")
  | .round => some
      ("Rounds the sample values of all elements in `v` to the nearest integer. Ties are " ++
        "resolved by rounding up. The optional `to_nearest` argument allows specifying the " ++
        "nearest multiple to which the sample values should be rounded. This multiple may also " ++
        "be a fraction.")
  | .scalar => some
      ("Given a single-element input vector, `scalar(v instant-vector)` returns the sample " ++
        "value of that single element as a scalar. If the input vector does not have exactly " ++
        "one element, `scalar` will return `NaN`.")
  | .sort => some "Returns vector elements sorted by their sample values, in ascending order."
  | .sortDesc => some "Returns vector elements sorted by their sample values, in descending order."
  | .sqrt => some "Calculates the square root of all elements in `v`."
  | .stddevOverTime => some
      "The population standard deviation of the values in the specified interval."
  | .stdvarOverTime => some
      "The population standard variance of the values in the specified interval."
  | .sumOverTime => some "The sum of all values in the specified interval."
  | .time => some
      ("Returns the number of seconds since January 1, 1970 UTC. Note that this does not " ++
        "actually return the current time, but the time at which the expression is to be " ++
        "evaluated.")
  | .timestamp => none
  | .vector => some "Returns the scalar `s` as a vector with no labels."
  | .year => some "Returns the year for each of the given times in UTC."

end QueryFunction

end MetricQuery
