import SpecScaffold.Glob.Match

/-!
# How deep a pattern nests

A pattern is refused when it nests too deeply (`Pattern.isTooDeep`).  A choice is a level, and one
more if it has several branches; a sequence of several items is a level, and so is a star.  The
directories of two stars are a choice between two texts, of which one is a sequence with a star.
What is void does not count.

This limit on nesting is the only one that is modelled.  A pattern that stays within it, but grows
beyond the size limit of a compiled pattern, is taken here.
-/

namespace SpecScaffold.Glob

open Text

/-- The number of items that a token adds to a sequence. -/
def Token.items : Token → Nat
  | .literal c => (utf8 [c]).length
  | .underneath => 2
  | .either branches => if branchesVoid branches then 0 else 1
  | _ => 1

/-- The levels that a sequence adds to its items. -/
def sequenceLevels (ts : List Token) : Nat :=
  if ts.foldl (fun n t => n + t.items) 0 ≤ 1 then 0 else 1

/-- The levels that a choice adds to its branches. -/
def choiceLevels (branches : List (List Token)) : Nat :=
  if branches.countP (fun b => !branchVoid b) ≤ 1 then 1 else 2

mutual

/-- The levels inside a token. -/
def Token.depth : Token → Nat
  | .literal _ | .any => 0
  | .run | .underneath => 1
  | .anyDirs | .between => 4
  | .oneOf _ ranges => if (ranges.flatMap byteRanges).length ≤ 1 then 1 else 2
  | .either branches =>
    if branchesVoid branches then 0 else choiceLevels branches + branchesDepth branches

/-- The levels inside the deepest token. -/
def itemsDepth : List Token → Nat
  | [] => 0
  | t :: ts => max t.depth (itemsDepth ts)

/-- The levels inside the deepest branch. -/
def branchesDepth : List (List Token) → Nat
  | [] => 0
  | b :: branches => max (sequenceLevels b + itemsDepth b) (branchesDepth branches)

end

namespace Pattern

/-- The levels of a pattern, which is always a sequence. -/
def depth (p : Pattern) : Nat :=
  1 + itemsDepth p.tokens

/-- The most levels that a pattern may have. -/
def maxDepth : Nat := 250

def isTooDeep (p : Pattern) : Bool :=
  maxDepth < p.depth

end Pattern

end SpecScaffold.Glob
