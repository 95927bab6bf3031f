import MetricQuery.Syntax.NodeKind
import MetricQuery.Text.Basic

/-!
Syntax trees. A node has a kind, the byte range `[start, stop)` it covers and its children in
source order. `Node.branch` is how parents are made: it widens the range given to it until every
child fits. Here a node holds its children; how nodes with places of their own, which store the
places of their parents and children, make up the same tree is said in `ArenaTree.Draws`.
-/

set_option autoImplicit false

namespace MetricQuery

/-- A syntax tree node. -/
inductive Node where
  | mk (kind : NodeKind) (start stop : Nat) (children : List Node)
  deriving Repr

namespace Node

/-- The kind of a node. -/
def kind : Node → NodeKind
  | mk kind _ _ _ => kind

/-- The first byte a node covers. -/
def start : Node → Nat
  | mk _ start _ _ => start

/-- The first byte after a node. -/
def stop : Node → Nat
  | mk _ _ stop _ => stop

/-- The children of a node, in source order. -/
def children : Node → List Node
  | mk _ _ _ children => children

@[simp] theorem kind_mk (k : NodeKind) (a b : Nat) (cs : List Node) : (mk k a b cs).kind = k := rfl

@[simp] theorem start_mk (k : NodeKind) (a b : Nat) (cs : List Node) :
    (mk k a b cs).start = a := rfl

@[simp] theorem stop_mk (k : NodeKind) (a b : Nat) (cs : List Node) : (mk k a b cs).stop = b := rfl

@[simp] theorem children_mk (k : NodeKind) (a b : Nat) (cs : List Node) :
    (mk k a b cs).children = cs := rfl

/-- A node without children. -/
def leaf (kind : NodeKind) (start stop : Nat) : Node := mk kind start (max stop start) []

/-- A node over `children`, its range widened until they fit. -/
def branch (kind : NodeKind) (start stop : Nat) (children : List Node) : Node :=
  mk kind (children.foldl (fun a c => min a c.start) start)
    (children.foldl (fun b c => max b c.stop) (max stop start)) children

/-- A node of another kind with exactly one child and the range of that child. -/
def wrap (kind : NodeKind) (inner : Node) : Node := branch kind inner.start inner.stop [inner]

/-- The first child. -/
def first? (n : Node) : Option Node := n.children.head?

/-- The last child. -/
def last? (n : Node) : Option Node := n.children.getLast?

/-- The first child of a kind. -/
def child? (n : Node) (kind : NodeKind) : Option Node := n.children.find? (·.kind == kind)

/-- The source text a node covers. -/
def text (source : Text) (n : Node) : String := Text.sliceString source n.start n.stop

/-- A child is smaller than its parent: recursion that goes down a tree ends. -/
theorem sizeOf_lt_of_mem {c n : Node} (h : c ∈ n.children) : sizeOf c < sizeOf n := by
  cases n with
  | mk kind start stop children =>
    have := List.sizeOf_lt_of_mem h
    simp only [children_mk, mk.sizeOf_spec] at *
    omega

theorem sizeOf_first?_lt {c n : Node} (h : n.first? = some c) : sizeOf c < sizeOf n :=
  sizeOf_lt_of_mem (List.mem_of_mem_head? h)

theorem sizeOf_last?_lt {c n : Node} (h : n.last? = some c) : sizeOf c < sizeOf n :=
  sizeOf_lt_of_mem (List.mem_of_getLast? h)

theorem sizeOf_child?_lt {c n : Node} {kind : NodeKind} (h : n.child? kind = some c) :
    sizeOf c < sizeOf n :=
  sizeOf_lt_of_mem (List.mem_of_find?_eq_some h)

mutual

/-- The kinds of a tree in one line, children in parentheses: `Expr(UnaryExpr(UnaryOp,Expr))`. -/
def render : Node → String
  | mk kind _ _ children =>
    if children.isEmpty then kind.label else kind.label ++ "(" ++ renderAll children ++ ")"

/-- The renderings of siblings, separated by commas. -/
def renderAll : List Node → String
  | [] => ""
  | [c] => render c
  | c :: cs => render c ++ "," ++ renderAll cs

end

mutual

/-- A node and everything below it, parents before children, in source order. -/
def preorder : Node → List Node
  | mk kind start stop children => mk kind start stop children :: preorderAll children

/-- The preorders of siblings, one after another. -/
def preorderAll : List Node → List Node
  | [] => []
  | c :: cs => preorder c ++ preorderAll cs

end

theorem preorderAll_eq_flatMap (cs : List Node) : preorderAll cs = cs.flatMap preorder := by
  induction cs with
  | nil => rfl
  | cons c cs ih => simp [preorderAll, ih]

end Node

/-- A parsed query: its text and the tree over it. -/
structure SyntaxTree where
  text : Text
  root : Node
  deriving Repr

namespace SyntaxTree

/-- Length of the text in bytes. -/
def size (t : SyntaxTree) : Nat := Text.size t.text

/-- The kinds of the tree in one line. -/
def render (t : SyntaxTree) : String := t.root.render

/-- Every node, parents before children, in source order. -/
def nodes (t : SyntaxTree) : List Node := t.root.preorder

end SyntaxTree

end MetricQuery
