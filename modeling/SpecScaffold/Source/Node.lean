/-!
# Syntax trees

A node of a concrete syntax tree: its kind, the bytes it covers, and its children in source order.
Named nodes are those that the grammar gives a rule, the others are tokens.  A child may stand in a
field of its parent.

`ofOutline?` builds a tree from its nodes in pre-order, each with its depth.
-/

namespace SpecScaffold

/-- The fields of a node that are looked at. -/
inductive Field where
  | name
  | returnType
  | parameters
  | pattern
  | type
  | left
  | value
deriving DecidableEq, Repr

structure Node where
  kind : String
  start : Nat
  stop : Nat
  named : Bool
  /-- The field of its parent that the node stands in. -/
  field? : Option Field
  children : List Node

namespace Node

/-- The child that stands in a field. -/
def child? (n : Node) (f : Field) : Option Node :=
  n.children.find? fun c => c.field? == some f

/-- The children that are not tokens. -/
def namedChildren (n : Node) : List Node :=
  n.children.filter (·.named)

mutual

/-- Number of nodes at and below a node. -/
def size : Node → Nat
  | ⟨_, _, _, _, _, children⟩ => sizes children + 1

/-- Number of nodes at and below the nodes of a list. -/
def sizes : List Node → Nat
  | [] => 0
  | n :: ns => n.size + sizes ns

end

theorem size_eq (n : Node) : n.size = sizes n.children + 1 := by
  cases n; rfl

theorem size_pos (n : Node) : 0 < n.size := by
  simp [size_eq]

theorem sizes_append (ns ms : List Node) : sizes (ns ++ ms) = sizes ns + sizes ms := by
  induction ns with
  | nil => simp [sizes]
  | cons n ns ih => simp [sizes, ih]; omega

theorem size_le_sizes {n : Node} {ns : List Node} (h : n ∈ ns) : n.size ≤ sizes ns := by
  induction ns with
  | nil => simp at h
  | cons m ns ih =>
    rcases List.mem_cons.1 h with rfl | h
    · simp [sizes]
    · have := ih h
      simp [sizes]; omega

/-- A child is smaller than its parent. -/
theorem size_lt_of_mem {c n : Node} (h : c ∈ n.children) : c.size < n.size := by
  have := size_le_sizes h
  rw [size_eq n]; omega

/-- One node of an outline, without its children. -/
structure Label where
  kind : String
  start : Nat
  stop : Nat
  named : Bool
  field? : Option Field

/-- Puts a node in front of the trees that follow it in pre-order; the deeper ones at their start
are its children. -/
def attach (row : Nat × Label) (later : List (Nat × Node)) : List (Nat × Node) :=
  let (depth, l) := row
  let (inner, rest) := later.span fun entry => depth < entry.1
  (depth, ⟨l.kind, l.start, l.stop, l.named, l.field?, inner.map (·.2)⟩) :: rest

/-- The tree whose nodes in pre-order, each with its depth, are given. -/
def ofOutline? (rows : List (Nat × Label)) : Option Node :=
  (rows.foldr attach []).head?.map (·.2)

end Node

end SpecScaffold
