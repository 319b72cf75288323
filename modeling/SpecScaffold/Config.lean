import SpecScaffold.Json
import SpecScaffold.Text.Blank
import SpecScaffold.Text.Lines

/-!
# Configuration

Which suffixes mark a test file, and which one a new test file gets.  Defaults are overridden by the
environment, and that by the arguments of a request; an empty list and a blank text override
nothing.
-/

namespace SpecScaffold

/-- The suffixes of test files in look-up order, and the suffix of new ones. -/
structure Config where
  specSuffixes : List String := [".spec"]
  newFileSuffix : String := ".spec"
deriving DecidableEq, Repr, Inhabited

namespace Config

open Text

/-- Variable with the suffixes, separated by commas. -/
def suffixesVariable : String := "MOCKTHIS_SPEC_SUFFIX"

/-- Variable with the suffix of new test files. -/
def newFileSuffixVariable : String := "MOCKTHIS_DEFAULT_EXTENSION"

/-- The trimmed text, unless it is blank. -/
def trimmed? (s : String) : Option String :=
  match trim s.toList with
  | [] => none
  | cs => some (String.ofList cs)

/-- The suffixes of a list separated by commas; blank ones do not count. -/
def readSuffixes (raw : String) : List String :=
  (pieces ',' raw.toList).filterMap fun piece => trimmed? (String.ofList piece)

/-- The configuration with those suffixes, unless there are none. -/
def withSuffixes (c : Config) (suffixes : List String) : Config :=
  if suffixes.isEmpty then c else { c with specSuffixes := suffixes }

/-- The configuration with that suffix for new files, unless it is blank. -/
def withNewFileSuffix (c : Config) (raw : String) : Config :=
  match trimmed? raw with
  | none => c
  | some extension => { c with newFileSuffix := extension }

/-- The configuration with overrides for what is given. -/
def overriddenBy (c : Config) (suffixes? : Option (List String)) (extension? : Option String) :
    Config :=
  let c := (suffixes?.map c.withSuffixes).getD c
  (extension?.map c.withNewFileSuffix).getD c

/-- The defaults overridden by the environment. -/
def ofLookup (lookup : String → Option String) : Config :=
  ({} : Config).overriddenBy ((lookup suffixesVariable).map readSuffixes)
    (lookup newFileSuffixVariable)

/-- Reads a field that may be missing but not `null`. -/
def fieldOr {α : Type} (default : α) (read : Json → Option α) : Option Json → Option α
  | none => some default
  | some value => read value

/-- Reads a configuration: an object or a list of its two fields, each of which may be missing, or
`null` for the defaults. -/
def ofJson? : Json → Option Config
  | .null => some {}
  | .obj fields => do
    let suffixes ← fieldOr [".spec"] Json.strings? (fields.lookup "specSuffix")
    let extension ← fieldOr ".spec" Json.str? (fields.lookup "defaultExtension")
    return ⟨suffixes, extension⟩
  | .arr items =>
    if 2 < items.length then none
    else do
      let suffixes ← fieldOr [".spec"] Json.strings? items[0]?
      let extension ← fieldOr ".spec" Json.str? items[1]?
      return ⟨suffixes, extension⟩
  | _ => none

end Config

end SpecScaffold
