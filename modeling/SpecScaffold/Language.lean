import SpecScaffold.Path.Basic
import SpecScaffold.Text.Lowercase

/-!
# Languages

The language of a source file is told by its extension, in any case.
-/

namespace SpecScaffold

inductive Language where
  | javaScript
  | typeScript
  /-- TypeScript with JSX. -/
  | tsx
deriving DecidableEq, Repr

/-- Why a file has no language. -/
inductive LanguageError where
  /-- The extension, in lower case, is not one of a known language. -/
  | unsupported (extension : String)
  | noExtension (path : Path)
deriving DecidableEq, Repr

/-- The wording of a failure. -/
def LanguageError.message : LanguageError → String
  | .unsupported extension => "Unsupported file extension: ." ++ extension
  | .noExtension path => "No file extension found in path: " ++ path.text

namespace Language

def name : Language → String
  | .javaScript => "JavaScript"
  | .typeScript => "TypeScript"
  | .tsx => "TSX"

/-- The language of a lower-case extension. -/
def ofExtension? (extension : String) : Option Language :=
  if ["js", "mjs", "cjs", "jsx"].contains extension then some .javaScript
  else if ["ts", "mts", "cts"].contains extension then some .typeScript
  else if extension == "tsx" then some .tsx
  else none

/-- The language of a file. -/
def detect (p : Path) : Except LanguageError Language :=
  match p.extension? with
  | none => .error (.noExtension p)
  | some extension =>
    let extension := String.ofList (Text.lower extension.toList)
    match ofExtension? extension with
    | some language => .ok language
    | none => .error (.unsupported extension)

end Language

end SpecScaffold
