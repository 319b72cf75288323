import SpecScaffold.Json
import SpecScaffold.Text.Lowercase
import SpecScaffold.Text.Search

/-!
# Facts about declarations

What a test is generated from: names, parameters with the names they bind, the shape of the result,
and modifiers.
-/

namespace SpecScaffold

/-- A name bound by a destructured parameter, and the pattern it stands in directly. -/
structure Identifier where
  name : String
  inArray : Bool
  inObject : Bool
deriving DecidableEq, Repr

/-- A parameter; a plain one has no identifiers. -/
structure Parameter where
  name : String
  type? : Option String
  identifiers : List Identifier
deriving DecidableEq, Repr

/-- A constructor, by the name of its class. -/
structure Constructor where
  name : String
  params : List Parameter
deriving DecidableEq, Repr

/-- What the text of a declared type says about a result; the flags are independent. -/
structure ResultShape where
  array : Bool := false
  string : Bool := false
  boolean : Bool := false
  number : Bool := false
  promise : Bool := false
  observable : Bool := false
deriving DecidableEq, Repr

/-- A method or function that one test is generated for. -/
structure Method where
  name : String
  params : List Parameter
  /-- `none` if nothing is returned. -/
  returns? : Option ResultShape
  isAsync : Bool
  isPrivate : Bool
  isStatic : Bool
deriving DecidableEq, Repr

/-- The shape that the words of a type tell, in any case. -/
def ResultShape.ofTypeText (text : String) : ResultShape :=
  let lowered := Text.lower text.toList
  { array := Text.contains "array".toList lowered
    string := Text.contains "string".toList lowered
    boolean := Text.contains "boolean".toList lowered
    number := Text.contains "number".toList lowered
    promise := Text.contains "promise".toList lowered
    observable := Text.contains "observable".toList lowered }

/-! ## As JSON -/

def Identifier.toJson (i : Identifier) : Json :=
  .obj [("name", .str i.name), ("is_array_pattern", .bool i.inArray),
    ("is_object_pattern", .bool i.inObject)]

def Parameter.toJson (p : Parameter) : Json :=
  .obj [("name", .str p.name), ("type", .ofOption .str p.type?),
    ("identifiers", .arr (p.identifiers.map (·.toJson)))]

def Constructor.toJson (c : Constructor) : Json :=
  .obj [("name", .str c.name), ("params", .arr (c.params.map (·.toJson)))]

def ResultShape.toJson (r : ResultShape) : Json :=
  .obj [("is_array", .bool r.array), ("is_string", .bool r.string), ("is_boolean", .bool r.boolean),
    ("is_number", .bool r.number), ("is_promise", .bool r.promise),
    ("is_observable", .bool r.observable)]

def Method.toJson (m : Method) : Json :=
  .obj [("name", .str m.name), ("params", .arr (m.params.map (·.toJson))),
    ("return_value", .ofOption (·.toJson) m.returns?), ("is_async", .bool m.isAsync),
    ("is_private", .bool m.isPrivate), ("is_static", .bool m.isStatic)]

end SpecScaffold
