import SpecScaffold.Facts.Basic
import SpecScaffold.Text.Alphanumeric
import SpecScaffold.Text.Blank
import SpecScaffold.Text.Words

/-!
# Parameters in a test

How a parameter is declared in the body of a test and passed to the call.  A plain parameter is one
variable.  For a destructured one the names it binds are declared, except that all names bound in
object patterns are replaced by one variable named after the type, if there is a type to name it
after.
-/

namespace SpecScaffold

open Text

/-- The words of an identifier, as a title. -/
def title (name : String) : String :=
  String.ofList (wordsOf name.toList)

/-- The variable that holds an instance of a class. -/
def variableName (name : String) : String :=
  String.ofList (decapitalize name.toList)

/-- Names in a row. -/
def commaList (names : List String) : String :=
  ", ".intercalate names

/-- What stands in a `let` and in the call. -/
structure Binding where
  declared : String
  argument : String
deriving DecidableEq, Repr

namespace Binding

/-- Characters of the name that a type starts with. -/
def isNameChar (c : Char) : Bool :=
  isAlphanumeric c || c == '_' || c == '$'

/-- The variable named after a type: `Options` gives `options`, `Partial<Foo>` gives `partial`. -/
def typeVariable? (type : String) : Option String :=
  match (trim type.toList).takeWhile isNameChar with
  | [] => none
  | c :: cs => if c.isDigit then none else some (String.ofList (decapitalize (c :: cs)))

/-- The variable that is declared for a bound name. -/
def declaredName (typeVar? : Option String) (i : Identifier) : String :=
  match typeVar?, i.inObject with
  | some name, true => name
  | _, _ => i.name

/-- What is passed for a destructured parameter; its outermost pattern is told by the first name. -/
def argumentOf (typeVar? : Option String) (identifiers : List Identifier) : String :=
  let names := commaList (identifiers.map (·.name))
  if identifiers.head?.any (·.inObject) then
    typeVar?.getD ("\x7b " ++ names ++ " \x7d")
  else "[" ++ names ++ "]"

/-- The binding of a parameter. -/
def ofParameter (p : Parameter) : Binding :=
  if p.identifiers.isEmpty then ⟨p.name, p.name⟩
  else
    let typeVar? := p.type?.bind typeVariable?
    ⟨commaList (p.identifiers.map (declaredName typeVar?)).eraseDups,
      argumentOf typeVar? p.identifiers⟩

end Binding

end SpecScaffold
