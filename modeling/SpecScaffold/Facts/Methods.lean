import SpecScaffold.Facts.Parameters
import SpecScaffold.Source.Search

/-!
# Methods, classes and constructors

The facts that tests are generated from, for a whole file and for the declaration at a caret.
-/

namespace SpecScaffold

/-- What stands at a caret. -/
inductive AtCaret where
  /-- No declaration. -/
  | noDeclaration
  /-- A declaration, but no method or function. -/
  | noMethod
  | method (m : Method)
deriving DecidableEq, Repr

namespace Source

/-- The top of the tree. -/
def top (src : Source) : Site :=
  Site.ofRoot src.root

/-! ## One method -/

/-- The words that make a method look asynchronous. -/
def asyncWords : List String :=
  ["Observable", ".subscribe(", "Promise", "then"]

/-- Whether a text mentions something asynchronous, also in a comment or a string. -/
def mentionsAsync (text : String) : Bool :=
  asyncWords.any fun word => Text.contains word.toList text.toList

/-- The declared type of the result, unless it is empty. -/
def returnType? (src : Source) (n : Node) : Option String :=
  ((n.child? .returnType).map src.typeAfterColon).filter fun text => !text.isEmpty

/-- The shape of the result: nothing if the type says so or is missing, and no value is returned. -/
def resultShape? (src : Source) (n : Node) : Option ResultShape :=
  let declared? := src.returnType? n
  if declared?.any (· != "void") || n.ownReturn?.isSome then
    some ((declared?.map ResultShape.ofTypeText).getD {})
  else none

/-- The name of a function, or of the nearest named one around it. -/
def titleName (src : Source) (s : Site) : String :=
  ((s :: s.ancestors.filter (src.isOf DeclarationKind.titled)).findSome? fun c =>
    src.nameOf? c.node).getD "anonymous"

/-- The facts about a method, function or signature. -/
def method (src : Source) (s : Site) : Method :=
  { name := src.titleName s
    params := src.parameters s.node
    returns? := src.resultShape? s.node
    isAsync := mentionsAsync (src.textOf s.node)
    isPrivate := src.hasKeyword s.node "private"
    isStatic := src.hasKeyword s.node "static" }

/-! ## A whole file -/

/-- The name of the first class that has one. -/
def className? (src : Source) : Option String :=
  (src.declarations [.classDecl] src.top).findSome? fun s => src.nameOf? s.node

/-- A constructor under the name of the class around it. -/
def constructorAt? (src : Source) (s : Site) : Option Constructor := do
  let cls ← src.nearest? [.classDecl] s
  let name ← src.nameOf? cls.node
  return ⟨name, src.parameters s.node⟩

/-- The first constructor of a class with a name. -/
def constructor? (src : Source) : Option Constructor :=
  (src.declarations [.constructor] src.top).findSome? src.constructorAt?

/-- The methods and functions of a file in source order; private ones and functions that are not
exported can be left out. -/
def methods (src : Source) (exportedOnly : Bool) : List Method :=
  (if exportedOnly then src.visibleDeclarations DeclarationKind.inFile src.top
    else src.declarations DeclarationKind.inFile src.top).map src.method

/-- The names of the exported functions, each once. -/
def exportedFunctions (src : Source) : List String :=
  ((src.visibleDeclarations [.function] src.top).filterMap fun s => src.nameOf? s.node).eraseDups

/-! ## At a caret -/

/-- The site itself if it is of some kinds, or the nearest one around it that is. -/
def selfOrNearest? (src : Source) (kinds : List DeclarationKind) (s : Site) : Option Site :=
  if src.isOf kinds s then some s else src.nearest? kinds s

/-- What stands at an offset. -/
def atCaret (src : Source) (offset : Nat) : AtCaret :=
  match (src.innermost? offset).bind (src.selfOrNearest? DeclarationKind.all) with
  | none => .noDeclaration
  | some declaration =>
    match src.selfOrNearest? DeclarationKind.atCaret declaration with
    | none => .noMethod
    | some s => .method (src.method s)

end Source

end SpecScaffold
