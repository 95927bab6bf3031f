import MetricQuery.Proofs.Everywhere

/-!
The shape of a tree: the kinds of its nodes, without their ranges.
-/

set_option autoImplicit false

namespace MetricQuery

/-- A tree of kinds. -/
inductive Shape where
  | mk (kind : NodeKind) (children : List Shape)

namespace Shape

/-- A shape without children. -/
def leaf (kind : NodeKind) : Shape := mk kind []

/-- An expression of a form. -/
def expr (form : Shape) : Shape := mk .expr [form]

/-- The nested list of items; none when there are no items. -/
def chain (list : NodeKind) (items : List Shape) : Option Shape :=
  items.foldl (fun before item => some (mk list (before.toList ++ [item]))) none

/-- Items between brackets. -/
def bracketed (body list : NodeKind) (items : List Shape) : Shape :=
  mk body (chain list items).toList

mutual

/-- Whether no node is an error. -/
def isClean : Shape → Bool
  | mk kind children => kind != .error && areClean children

/-- Whether no node of siblings is an error. -/
def areClean : List Shape → Bool
  | [] => true
  | c :: cs => isClean c && areClean cs

end

theorem areClean_eq_all (cs : List Shape) : areClean cs = cs.all isClean := by
  induction cs with
  | nil => rfl
  | cons c cs ih => rw [areClean, ih, List.all_cons]

@[simp] theorem isClean_mk (kind : NodeKind) (children : List Shape) :
    (mk kind children).isClean = (kind != .error && children.all isClean) := by
  rw [isClean, areClean_eq_all]

@[simp] theorem isClean_leaf (kind : NodeKind) : (leaf kind).isClean = (kind != .error) := by
  simp [leaf]

@[simp] theorem isClean_expr (form : Shape) : (expr form).isClean = form.isClean := by
  simp [expr]

theorem chain_isClean {list : NodeKind} (valid : list ≠ .error) (items : List Shape)
    (each : items.all isClean = true) : (chain list items).toList.all isClean = true := by
  suffices general : ∀ before : Option Shape, before.toList.all isClean = true →
      (items.foldl (fun before item => some (mk list (before.toList ++ [item])))
        before).toList.all isClean = true from general none rfl
  induction items with
  | nil => exact fun _ start => start
  | cons item items ih =>
    intro before start
    rw [List.all_cons, Bool.and_eq_true] at each
    refine ih each.2 _ ?_
    simp [start, each.1, valid]

theorem bracketed_isClean {body list : NodeKind} (validBody : body ≠ .error)
    (validList : list ≠ .error) {items : List Shape} (each : items.all isClean = true) :
    (bracketed body list items).isClean = true := by
  simp [bracketed, validBody, chain_isClean validList items each]

end Shape

namespace Node

mutual

/-- The kinds of a tree. -/
def shape : Node → Shape
  | mk kind _ _ children => .mk kind (shapes children)

/-- The shapes of siblings. -/
def shapes : List Node → List Shape
  | [] => []
  | c :: cs => shape c :: shapes cs

end

theorem shapes_eq_map (cs : List Node) : shapes cs = cs.map shape := by
  induction cs with
  | nil => rfl
  | cons c cs ih => rw [shapes, ih, List.map_cons]

theorem shape_eq (n : Node) : n.shape = .mk n.kind (n.children.map shape) := by
  cases n
  rw [shape, shapes_eq_map]
  rfl

@[simp] theorem shape_leaf (kind : NodeKind) (a b : Nat) :
    (leaf kind a b).shape = Shape.leaf kind := rfl

@[simp] theorem shape_branch (kind : NodeKind) (a b : Nat) (cs : List Node) :
    (branch kind a b cs).shape = .mk kind (cs.map shape) := shape_eq _

@[simp] theorem shape_wrap (kind : NodeKind) (n : Node) :
    (wrap kind n).shape = .mk kind [n.shape] :=
  shape_eq _

theorem kind_of_shape {n : Node} {kind : NodeKind} {children : List Shape}
    (same : n.shape = .mk kind children) : n.kind = kind := by
  rw [shape_eq] at same
  injection same

/-- A tree whose shape is clean has no error anywhere. -/
theorem valid_of_isClean {n : Node} (clean : n.shape.isClean = true) :
    n.Everywhere fun m => m.kind ≠ .error := by
  rw [shape_eq, Shape.isClean_mk, Bool.and_eq_true, List.all_map, List.all_eq_true] at clean
  rw [everywhere_iff]
  refine ⟨by simpa using clean.1, fun c child => ?_⟩
  have smaller := sizeOf_lt_of_mem child
  exact valid_of_isClean (clean.2 c child)
termination_by sizeOf n

end Node

namespace Parser

theorem chain_shape (list : NodeKind) (items : List Node) :
    (chain list items).map Node.shape = Shape.chain list (items.map Node.shape) := by
  suffices general : ∀ before : Option Node,
      (items.foldl (fun before item => some (pushItem list before item)) before).map Node.shape =
        (items.map Node.shape).foldl (fun before item => some (.mk list (before.toList ++ [item])))
          (before.map Node.shape) from general none
  induction items with
  | nil => exact fun _ => rfl
  | cons item items ih =>
    intro before
    rw [List.foldl_cons, ih, List.map_cons, List.foldl_cons]
    congr 1
    cases before <;> simp [pushItem]

/-- A list without anything stray has the nested list of its items as only child. -/
theorem listChildren_items (list : NodeKind) (items : List Node) :
    listChildren list (items.map .item) = (chain list items).toList := by
  have kept : (items.map Part.item).filterMap Part.item? = items := by
    rw [List.filterMap_map]
    exact List.filterMap_some
  have none : (items.map Part.item).filterMap Part.stray? = [] := by
    rw [List.filterMap_map]
    simp [Function.comp_def, Part.stray?]
  rw [listChildren, kept, none, List.append_nil]
  cases chain list items <;> rfl

theorem listChildren_shape (list : NodeKind) (items : List Node) :
    (listChildren list (items.map .item)).map Node.shape =
      (Shape.chain list (items.map Node.shape)).toList := by
  rw [listChildren_items, ← chain_shape]
  cases chain list items <;> rfl

end Parser

end MetricQuery
