import MetricQuery.Syntax.Tree

/-!
Cursors: a node of a tree together with the way up from it. A cursor knows its parent and its
siblings, and two cursors into one tree are the same place exactly when their paths agree. The
parent is the one that an arena stores (`ArenaTree.Draws`).
-/

set_option autoImplicit false

namespace MetricQuery

/-- One step up: the parent and the place among its children. -/
structure Frame where
  parent : Node
  index : Nat
  deriving Repr

/-- A node and the steps up from it, the nearest first. -/
structure Cursor where
  node : Node
  frames : List Frame
  deriving Repr

/-- Which of two touching nodes wins at a position. -/
inductive Side where
  /-- The node that ends there: `start < pos ≤ stop`. -/
  | before
  /-- The node that starts there: `start ≤ pos < stop`. -/
  | after
  deriving DecidableEq, Repr

/-- Whether a node covers a position on a side. -/
def Side.covers (side : Side) (pos : Nat) (n : Node) : Bool :=
  match side with
  | .before => n.start < pos && pos ≤ n.stop
  | .after => n.start ≤ pos && pos < n.stop

namespace Cursor

/-- The root of a tree. -/
def ofRoot (root : Node) : Cursor := ⟨root, []⟩

/-- The kind of the node. -/
def kind (c : Cursor) : NodeKind := c.node.kind

/-- The places among siblings on the way up; it names the node within its tree. -/
def path (c : Cursor) : List Nat := c.frames.map Frame.index

/-- The parent. -/
def parent? (c : Cursor) : Option Cursor :=
  match c.frames with
  | [] => none
  | f :: fs => some ⟨f.parent, fs⟩

/-- The kind of the parent. -/
def parentKind? (c : Cursor) : Option NodeKind := c.parent?.map kind

/-- The ancestor `n` steps up; `ancestor? 1` is the parent. -/
def ancestor? : Nat → Cursor → Option Cursor
  | 0, c => some c
  | n + 1, c => c.parent?.bind (ancestor? n)

/-- The child at a place. -/
def childAt? (c : Cursor) (index : Nat) : Option Cursor :=
  c.node.children[index]?.map fun child => ⟨child, ⟨c.node, index⟩ :: c.frames⟩

/-- The children, in source order. -/
def children (c : Cursor) : List Cursor :=
  c.node.children.zipIdx.map fun (child, index) => ⟨child, ⟨c.node, index⟩ :: c.frames⟩

/-- The first child of a kind. -/
def child? (c : Cursor) (kind : NodeKind) : Option Cursor :=
  c.children.find? (·.kind == kind)

/-- The last child. -/
def last? (c : Cursor) : Option Cursor := c.children.getLast?

/-- The sibling right after. -/
def next? (c : Cursor) : Option Cursor :=
  match c.frames with
  | [] => none
  | f :: fs => childAt? ⟨f.parent, fs⟩ (f.index + 1)

/-- The sibling right before. -/
def prev? (c : Cursor) : Option Cursor :=
  match c.frames with
  | [] => none
  | f :: fs => if f.index = 0 then none else childAt? ⟨f.parent, fs⟩ (f.index - 1)

end Cursor

mutual

/-- Goes down from a node into the first child that `covers`, as long as there is one. -/
def Node.descend (covers : Node → Bool) (frames : List Frame) : Node → Cursor
  | .mk kind start stop children =>
    Node.descendInto covers frames (.mk kind start stop children) 0 children

/-- Goes down into the first of the siblings `cs` that `covers`, the first of which stands at
place `index` below `parent`; stays at `parent` when there is none. -/
def Node.descendInto (covers : Node → Bool) (frames : List Frame) (parent : Node) (index : Nat) :
    List Node → Cursor
  | [] => ⟨parent, frames⟩
  | c :: cs =>
    if covers c then Node.descend covers (⟨parent, index⟩ :: frames) c
    else Node.descendInto covers frames parent (index + 1) cs

end

mutual

/-- Cursors on a node and everything below it, in preorder. -/
def Node.cursors (frames : List Frame) : Node → List Cursor
  | .mk kind start stop children =>
    ⟨.mk kind start stop children, frames⟩ ::
      Node.cursorsBelow frames (.mk kind start stop children) 0 children

/-- Cursors on the siblings `cs` and everything below them. -/
def Node.cursorsBelow (frames : List Frame) (parent : Node) (index : Nat) :
    List Node → List Cursor
  | [] => []
  | c :: cs =>
    Node.cursors (⟨parent, index⟩ :: frames) c ++ Node.cursorsBelow frames parent (index + 1) cs

end

namespace SyntaxTree

/-- The cursor on the root. -/
def cursor (t : SyntaxTree) : Cursor := .ofRoot t.root

/-- Cursors on every node, in preorder. -/
def cursors (t : SyntaxTree) : List Cursor := t.root.cursors []

/-- The innermost node that covers `pos` on a side; the root when no other does. -/
def resolve (t : SyntaxTree) (pos : Nat) (side : Side) : Cursor :=
  t.root.descend (side.covers pos) []

end SyntaxTree

end MetricQuery
