import SpecScaffold.Source.Basic
import SpecScaffold.Source.Site

/-!
# Declarations

Which nodes are declarations, and of what kind.  The name of a method decides whether it is a
constructor, its modifiers whether it is an accessor, and its parent whether an identifier is a
member of an enumeration.
-/

namespace SpecScaffold

inductive DeclarationKind where
  | classDecl
  | interface
  | enum
  | enumMember
  /-- Functions, and signatures of functions. -/
  | function
  | method
  | methodSignature
  | property
  | propertySignature
  /-- Methods that get or set a property. -/
  | accessor
  | constructor
  | arrowFunction
  | functionExpression
deriving DecidableEq, Repr

namespace DeclarationKind

def all : List DeclarationKind :=
  [.classDecl, .interface, .enum, .enumMember, .function, .method, .methodSignature, .property,
    .propertySignature, .accessor, .constructor, .arrowFunction, .functionExpression]

/-- Kinds that a test can be generated for at a caret. -/
def atCaret : List DeclarationKind :=
  [.method, .function, .methodSignature, .constructor]

/-- Kinds that tests are generated for in a whole file. -/
def inFile : List DeclarationKind :=
  [.function, .method, .methodSignature]

/-- Kinds whose name can title the test of what stands inside them. -/
def titled : List DeclarationKind :=
  [.method, .function, .methodSignature]

def name : DeclarationKind → String
  | .classDecl => "Class"
  | .interface => "Interface"
  | .enum => "Enum"
  | .enumMember => "EnumMember"
  | .function => "Function"
  | .method => "Method"
  | .methodSignature => "MethodSignature"
  | .property => "Property"
  | .propertySignature => "PropertySignature"
  | .accessor => "Accessor"
  | .constructor => "Constructor"
  | .arrowFunction => "ArrowFunction"
  | .functionExpression => "FunctionExpression"

/-- The kind of a name. -/
def ofName? (s : String) : Option DeclarationKind :=
  all.find? fun k => k.name == s

end DeclarationKind

/-- Whether a declaration is exported where it stands. -/
def Site.isExported (s : Site) : Bool :=
  s.parent?.any (·.kind == "export_statement")

namespace Source

/-- The kind of a method with a body. -/
def methodKind (src : Source) (n : Node) : DeclarationKind :=
  if src.nameOf? n == some "constructor" then .constructor
  else if src.hasKeyword n "get" || src.hasKeyword n "set" then .accessor
  else .method

/-- The kind of a declaration; tokens are none, though some are spelled like one. -/
def kindOf? (src : Source) (s : Site) : Option DeclarationKind :=
  if !s.node.named then none
  else match s.node.kind with
    | "class_declaration" => some .classDecl
    | "abstract_class_declaration" => some .classDecl
    | "class" => some .classDecl
    | "interface_declaration" => some .interface
    | "enum_declaration" => some .enum
    | "enum_assignment" => some .enumMember
    | "property_identifier" =>
      if s.parent?.any (·.kind == "enum_body") then some .enumMember else none
    | "function_declaration" => some .function
    | "generator_function_declaration" => some .function
    | "function_signature" => some .function
    | "method_definition" => some (src.methodKind s.node)
    | "abstract_method_signature" => some .method
    | "method_signature" => some .methodSignature
    | "public_field_definition" => some .property
    | "field_definition" => some .property
    | "property_signature" => some .propertySignature
    | "arrow_function" => some .arrowFunction
    | "function_expression" => some .functionExpression
    | "function" => some .functionExpression
    | "generator_function" => some .functionExpression
    | _ => none

/-- Whether a site is a declaration of one of the kinds. -/
def isOf (src : Source) (kinds : List DeclarationKind) (s : Site) : Bool :=
  (src.kindOf? s).any kinds.contains

/-- The declarations of some kinds below a site, in pre-order. -/
def declarations (src : Source) (kinds : List DeclarationKind) (s : Site) : List Site :=
  s.descendants.filter (src.isOf kinds)

/-- The nearest declaration of some kinds above a site. -/
def nearest? (src : Source) (kinds : List DeclarationKind) (s : Site) : Option Site :=
  s.ancestors.find? (src.isOf kinds)

/-- Whether a declaration can be seen from outside: it is not private, and a class, an interface or
a function is exported. -/
def isVisible (src : Source) (s : Site) : Bool :=
  !src.hasKeyword s.node "private" && match src.kindOf? s with
    | some .classDecl => s.isExported
    | some .interface => s.isExported
    | some .function => s.isExported
    | _ => true

/-- The declarations of some kinds below a site that can be seen from outside. -/
def visibleDeclarations (src : Source) (kinds : List DeclarationKind) (s : Site) : List Site :=
  (src.declarations kinds s).filter src.isVisible

end Source

end SpecScaffold
