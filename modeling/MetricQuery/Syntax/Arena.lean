import MetricQuery.Syntax.Tree

/-!
Arenas: the nodes of a tree in the order in which they are made, children before parents. A node is
known by its place in the arena. A child learns of its parent when that is made, so the links
between the two are stored twice; nothing but the parser keeps a node from being forgotten, or from
being given to two parents.
-/

set_option autoImplicit false

namespace MetricQuery

/-- The place of a node in its arena. -/
abbrev NodeId := Nat

/-- What is stored of a node. -/
structure NodeRecord where
  kind : NodeKind
  start : Nat
  stop : Nat
  parent : Option NodeId
  children : List NodeId
  deriving DecidableEq, Repr

/-- The nodes made so far. -/
structure Arena where
  nodes : Array NodeRecord
  deriving Repr

namespace Arena

/-- No nodes yet. -/
def empty : Arena := ⟨#[]⟩

/-- Links a child to the parent that is being made, and widens the range of the parent until the
child fits; nothing when there is no such child. -/
def adopt (parent : NodeId) (state : Arena × Nat × Nat) (child : NodeId) :
    Option (Arena × Nat × Nat) :=
  let (a, start, stop) := state
  a.nodes[child]?.map fun r =>
    (⟨a.nodes.setIfInBounds child { r with parent := some parent }⟩,
      min start r.start, max stop r.stop)

/-- Makes a node over `children`, its range widened until they fit. -/
def node (a : Arena) (kind : NodeKind) (start stop : Nat) (children : List NodeId) :
    Option (NodeId × Arena) := do
  let id := a.nodes.size
  let (a, start, stop) ← children.foldlM (adopt id) (a, start, max stop start)
  return (id, ⟨a.nodes.push ⟨kind, start, stop, none, children⟩⟩)

/-- The parent that is stored of a node. -/
def parent? (a : Arena) (id : NodeId) : Option NodeId := a.nodes[id]?.bind NodeRecord.parent

/-- The children that are stored of a node, in source order. -/
def children (a : Arena) (id : NodeId) : List NodeId :=
  (a.nodes[id]?.map NodeRecord.children).getD []

/-- Takes nodes off a stack and puts their children on it; nothing when there are more of them than
`steps`. -/
def visit (a : Arena) : Nat → List NodeId → Option (List NodeId)
  | _, [] => some []
  | 0, _ :: _ => none
  | steps + 1, id :: stack => do
    let r ← a.nodes[id]?
    let later ← visit a steps (r.children ++ stack)
    return id :: later

/-- The tree below a node; nothing when it goes down more than `levels`. -/
def tree? (a : Arena) : Nat → NodeId → Option Node
  | 0, _ => none
  | levels + 1, id => do
    let r ← a.nodes[id]?
    let children ← r.children.mapM (tree? a levels)
    return .mk r.kind r.start r.stop children

/-- The node that places among siblings lead down to. -/
def follow (a : Arena) : NodeId → List Nat → Option NodeId
  | id, [] => some id
  | id, index :: path => (a.children id)[index]?.bind fun child => follow a child path

end Arena

/-- A query in an arena: its text, the nodes and which of them is the root. -/
structure ArenaTree where
  text : Text
  arena : Arena
  root : NodeId
  deriving Repr

namespace ArenaTree

/-- Length of the text in bytes. -/
def size (t : ArenaTree) : Nat := Text.size t.text

/-- How many nodes there are in the arena. -/
def count (t : ArenaTree) : Nat := t.arena.nodes.size

/-- Every node below the root, parents before children, in source order. -/
def descendants (t : ArenaTree) : Option (List NodeId) := t.arena.visit t.count [t.root]

end ArenaTree

end MetricQuery
