import SpecScaffold.Text.Lowercase
import SpecScaffold.Text.Uppercase

/-!
# Words of an identifier

`wordsOf` turns `FooBar` into `foo bar`: every upper-case character starts a new word.
`decapitalize` turns the name of a class into the name of a variable that holds an instance.
-/

namespace SpecScaffold.Text

/-- A character inside an identifier, lower-cased, with a blank before it if it was upper case. -/
def splitChar (c : Char) : List Char :=
  if isUppercase c then ' ' :: lowerChar c else lowerChar c

/-- An identifier as lower-case words. -/
def wordsOf : List Char → List Char
  | [] => []
  | c :: cs => lowerChar c ++ cs.flatMap splitChar

/-- Lower-cases the first character. -/
def decapitalize : List Char → List Char
  | [] => []
  | c :: cs => lowerChar c ++ cs

end SpecScaffold.Text
