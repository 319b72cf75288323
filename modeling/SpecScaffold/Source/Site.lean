import SpecScaffold.Source.Node

/-!
# Places in a tree

A site is a node together with the nodes above it, so that parents and ancestors can be asked for.
`walk` goes through a worklist of sites in pre-order: the first site, then its children, then the
rest.
-/

namespace SpecScaffold

/-- A node and the nodes above it, nearest first. -/
structure Site where
  node : Node
  above : List Node

namespace Site

/-- The top of a tree. -/
def ofRoot (root : Node) : Site :=
  ⟨root, []⟩

def parent? (s : Site) : Option Node :=
  s.above.head?

def children (s : Site) : List Site :=
  s.node.children.map fun c => ⟨c, s.node :: s.above⟩

/-- The sites of a chain of nodes, each of which is below the next. -/
def chain : List Node → List Site
  | [] => []
  | n :: ns => ⟨n, ns⟩ :: chain ns

/-- The sites above, nearest first. -/
def ancestors (s : Site) : List Site :=
  chain s.above

/-- Number of nodes at and below the sites of a worklist. -/
def work (sites : List Site) : Nat :=
  Node.sizes (sites.map (·.node))

theorem work_cons_lt (s : Site) (rest : List Site) :
    work (s.children ++ rest) < work (s :: rest) := by
  simp [work, children, Function.comp_def, Node.sizes_append, Node.sizes, Node.size_eq s.node]

/-- The sites at and below a worklist, in pre-order. -/
def walk : List Site → List Site
  | [] => []
  | s :: rest => s :: walk (s.children ++ rest)
termination_by sites => work sites
decreasing_by exact work_cons_lt s rest

/-- The sites below, in pre-order. -/
def descendants (s : Site) : List Site :=
  walk s.children

end Site

end SpecScaffold
