import SpecScaffold.Path.Basic

/-!
# The order of paths

Paths are compared component by component: the root comes before a dot, that before `..`, and that
before every name.  Names are compared by code points, which is the order of their UTF-8 bytes.
-/

namespace SpecScaffold

/-- The place of a kind of component among the others. -/
def Component.rank : Component → Nat
  | .root => 0
  | .current => 1
  | .parent => 2
  | .normal _ => 3

/-- Whether one component comes before another. -/
def Component.before : Component → Component → Bool
  | .normal a, .normal b => a < b
  | a, b => a.rank < b.rank

namespace Path

/-- Whether a list of components comes before another or equals it. -/
def componentsLe : List Component → List Component → Bool
  | [], _ => true
  | _ :: _, [] => false
  | a :: as, b :: bs => a.before b || (a == b && componentsLe as bs)

/-- Whether a path comes before another or is the same. -/
def le (p q : Path) : Bool :=
  componentsLe p.components q.components

/-- Drops a path that is the same as the one before it. -/
def dropRepeats : List Path → List Path
  | [] => []
  | p :: ps => p :: dropRepeatsAfter p ps
where
  /-- Drops the paths at the start that are the same as the last one kept. -/
  dropRepeatsAfter (last : Path) : List Path → List Path
    | [] => []
    | p :: ps => if last.same p then dropRepeatsAfter last ps else p :: dropRepeatsAfter p ps

/-- The paths in increasing order, each once. -/
def sorted (ps : List Path) : List Path :=
  dropRepeats (ps.mergeSort Path.le)

end Path

end SpecScaffold
