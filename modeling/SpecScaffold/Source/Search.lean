import SpecScaffold.Source.Declaration

/-!
# Searching a tree

Two searches that do not visit the whole tree: the innermost node at an offset, which skips what
starts after it, and the first `return` with a value, which stays in the scope of one function.
-/

namespace SpecScaffold

/-! ## The node at an offset -/

namespace Site

mutual

/-- The last node in pre-order, at and below a node, whose bytes contain an offset, their end
included; what starts after the offset is not looked at. -/
def lastAt (offset : Nat) (above : List Node) : Node → Option Site
  | ⟨kind, start, stop, named, field?, children⟩ =>
    let n : Node := ⟨kind, start, stop, named, field?, children⟩
    if offset < start then none
    else (lastAmong offset (n :: above) children).or
      (if offset ≤ stop then some ⟨n, above⟩ else none)

/-- The same among siblings, up to the first that starts after the offset. -/
def lastAmong (offset : Nat) (above : List Node) : List Node → Option Site
  | [] => none
  | n :: ns =>
    if offset < n.start then none
    else (lastAmong offset above ns).or (lastAt offset above n)

end

end Site

/-- The innermost node at an offset. -/
def Source.innermost? (src : Source) (offset : Nat) : Option Site :=
  Site.lastAt offset [] src.root

/-! ## The return of a function -/

namespace Node

/-- Kinds of nodes that are functions with a scope of their own. -/
def scopeKinds : List String :=
  ["function_declaration", "generator_function_declaration", "function_expression", "function",
    "generator_function", "arrow_function", "method_definition"]

/-- Whether a `return` has a value. -/
def hasValue (n : Node) : Bool :=
  n.namedChildren.any (·.kind != "comment")

theorem hasValue_iff {n : Node} :
    n.hasValue = true ↔ ∃ c ∈ n.children, c.named = true ∧ c.kind ≠ "comment" := by
  simp [hasValue, namedChildren]

/-- The first `return` with a value at and below a worklist of nodes, in pre-order; functions and
the values of other returns are not entered. -/
def firstReturn? : List Node → Option Node
  | [] => none
  | n :: rest =>
    if n.kind == "return_statement" then
      if n.hasValue then some n else firstReturn? rest
    else if scopeKinds.contains n.kind then firstReturn? rest
    else firstReturn? (n.children ++ rest)
termination_by nodes => sizes nodes
decreasing_by
  · simp [sizes, size_pos]
  · simp [sizes, size_pos]
  · simp [sizes, sizes_append, size_eq]

/-- The first `return` with a value in the scope of a node. -/
def ownReturn? (n : Node) : Option Node :=
  firstReturn? n.children

end Node

end SpecScaffold
