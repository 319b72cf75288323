import SpecScaffold.Facts.Basic
import SpecScaffold.Source.Basic
import SpecScaffold.Text.Blank

/-!
# Parameters

A parameter is a pattern with an optional type.  The names that a pattern binds are reached by
binding steps: from an object or array pattern to its parts, from a pair to its value, from a
default to what it is a default for, from a rest to what it collects.  Names outside every object
and array pattern are not listed, since then the whole parameter is one name.
-/

namespace SpecScaffold

/-- The two kinds of pattern that names are bound in. -/
inductive Destructuring where
  | array
  | object
deriving DecidableEq, Repr

namespace Node

def destructuring? (n : Node) : Option Destructuring :=
  match n.kind with
  | "object_pattern" => some .object
  | "array_pattern" => some .array
  | _ => none

/-- The nodes that one binding step leads to. -/
def bindingSteps (n : Node) : List Node :=
  match n.kind with
  | "object_pattern" => n.namedChildren
  | "array_pattern" => n.namedChildren
  | "pair_pattern" => (n.child? .value).toList
  | "assignment_pattern" => (n.child? .left).toList
  | "object_assignment_pattern" => (n.child? .left).toList
  | "rest_pattern" => n.namedChildren.head?.toList
  | _ => []

theorem mem_children_of_child? {n c : Node} {f : Field} (h : c ∈ (n.child? f).toList) :
    c ∈ n.children :=
  List.mem_of_find?_eq_some (Option.mem_toList.1 h)

theorem mem_children_of_namedChildren {n c : Node} (h : c ∈ n.namedChildren) : c ∈ n.children :=
  (List.mem_filter.1 h).1

/-- A binding step leads to a child. -/
theorem mem_children_of_bindingSteps {n c : Node} (h : c ∈ n.bindingSteps) : c ∈ n.children := by
  unfold bindingSteps at h
  split at h
  · exact mem_children_of_namedChildren h
  · exact mem_children_of_namedChildren h
  · exact mem_children_of_child? h
  · exact mem_children_of_child? h
  · exact mem_children_of_child? h
  · exact mem_children_of_namedChildren (List.mem_of_mem_head? (Option.mem_toList.1 h))
  · simp at h

/-- Whether a node is a name that a pattern can bind. -/
def bindsName (n : Node) : Bool :=
  n.kind == "identifier" || n.kind == "shorthand_property_identifier_pattern"

end Node

namespace Source

/-- The name of a node as bound in a pattern of kind `kind`. -/
def identifier (src : Source) (kind : Destructuring) (n : Node) : Identifier :=
  ⟨src.textOf n, kind == .array, kind == .object⟩

/-- The names that a pattern binds, given the pattern around it. -/
def boundIdentifiers (src : Source) (around? : Option Destructuring) (n : Node) :
    List Identifier :=
  (if n.bindsName then (around?.map fun kind => src.identifier kind n).toList else []) ++
    n.bindingSteps.attach.flatMap fun ⟨c, _⟩ =>
      src.boundIdentifiers (n.destructuring?.or around?) c
termination_by n.size
decreasing_by exact Node.size_lt_of_mem (Node.mem_children_of_bindingSteps (by assumption))

theorem boundIdentifiers_eq (src : Source) (around? : Option Destructuring) (n : Node) :
    src.boundIdentifiers around? n =
      (if n.bindsName then (around?.map fun kind => src.identifier kind n).toList else []) ++
        n.bindingSteps.flatMap (src.boundIdentifiers (n.destructuring?.or around?)) := by
  rw [boundIdentifiers]
  simp [List.flatMap_subtype]

/-- The text of a type after its colon. -/
def typeAfterColon (src : Source) (n : Node) : String :=
  let text := Text.trim (src.textOf n).toList
  String.ofList (Text.trim (match text with
    | ':' :: rest => rest
    | text => text))

/-- The pattern of a parameter. -/
def patternOf (n : Node) : Node :=
  match n.kind with
  | "required_parameter" => (n.child? .pattern).getD n
  | "optional_parameter" => (n.child? .pattern).getD n
  | "assignment_pattern" => (n.child? .left).getD n
  | _ => n

/-- The declared type of a parameter. -/
def typeOf? (src : Source) (n : Node) : Option String :=
  match n.kind with
  | "required_parameter" => (n.child? .type).map src.typeAfterColon
  | "optional_parameter" => (n.child? .type).map src.typeAfterColon
  | _ => none

/-- The text of a pattern, of a rest without its dots. -/
def patternName (src : Source) (pattern : Node) : String :=
  if pattern.kind == "rest_pattern" then src.textOf (pattern.namedChildren.head?.getD pattern)
  else src.textOf pattern

/-- The facts about one parameter. -/
def parameter (src : Source) (n : Node) : Parameter :=
  { name := src.patternName (patternOf n)
    type? := src.typeOf? n
    identifiers := src.boundIdentifiers none (patternOf n) }

/-- The parameters of a function. -/
def parameters (src : Source) (n : Node) : List Parameter :=
  match n.child? .parameters with
  | none => []
  | some list => (list.namedChildren.filter (·.kind != "comment")).map src.parameter

end Source

end SpecScaffold
