import MetricQuery.Syntax.Path

/-!
Vector matching: how the series on both sides of a binary operator are paired.
-/

set_option autoImplicit false

namespace MetricQuery

/-- How many series of each side a pair may share. -/
inductive Cardinality where
  | oneToOne
  | manyToOne
  | oneToMany
  | manyToMany
  deriving DecidableEq, Repr

/-- How series are paired. -/
structure Matching where
  card : Cardinality
  /-- The labels of `on` or `ignoring`. -/
  labels : List String
  /-- Whether the labels are those of `on`. -/
  on : Bool
  /-- The labels of `group_left` or `group_right`. -/
  included : List String
  deriving DecidableEq, Repr

namespace Node

/-- The labels of a grouping, in source order. -/
def groupingNames (source : Text) (n : Node) : List String :=
  match n.at? [.groupingLabelList] with
  | some list =>
    (list.items .groupingLabelList .groupingLabel).filterMap fun label =>
      (label.child? .labelName).map (text source)
  | none => []

/-- The operator of a binary expression. -/
def operator? (n : Node) : Option BinaryOp :=
  n.children.findSome? fun c =>
    match c.kind with
    | .operator op => some op
    | _ => none

end Node

namespace Matching

/-- Takes in one child of the modifiers; `inGroup` tells whether a group keyword came before. -/
def extend (source : Text) (state : Matching × Bool) (child : Node) : Matching × Bool :=
  let (m, inGroup) := state
  match child.kind with
  | .keywordOn => ({ m with on := true }, inGroup)
  | .keywordGroupLeft => ({ m with card := .manyToOne }, true)
  | .keywordGroupRight => ({ m with card := .oneToMany }, true)
  | .groupingLabels =>
    let names := child.groupingNames source
    if inGroup then ({ m with included := names }, inGroup)
    else ({ m with labels := names }, inGroup)
  | _ => (m, inGroup)

/-- The matching that modifiers ask for. -/
def ofModifiers (source : Text) (modifiers : Option Node) : Matching :=
  let children := (modifiers.map Node.children).getD []
  (children.foldl (extend source) (⟨.oneToOne, [], false, []⟩, false)).1

/-- The matching of a binary expression. A set operator pairs many with many by itself. -/
def ofBinary? (source : Text) (binary : Node) : Option Matching :=
  binary.operator?.map fun op =>
    let m := ofModifiers source (binary.child? .binModifiers)
    if op.isSetOperator && m.card == .oneToOne then { m with card := .manyToMany } else m

end Matching

end MetricQuery
