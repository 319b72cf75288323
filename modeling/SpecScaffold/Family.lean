import SpecScaffold.Config
import SpecScaffold.Glob.Depth
import SpecScaffold.Glob.Match
import SpecScaffold.Glob.Reader
import SpecScaffold.Path.Order
import SpecScaffold.Text.Search
import SpecScaffold.Workspace.Walk

/-!
# Families of files

A source file and its test files form a family: they have the extension in common, and their names
without it are a base, alone or with one of the suffixes.  `next?` goes round a family in its order.
-/

namespace SpecScaffold.Family

/-- Why a family cannot be listed. -/
inductive FamilyError where
  | noBaseName (current : Path)
  | invalidExclude (pattern : String)
  | tooDeepExclude
deriving DecidableEq, Repr

/-- The wording of a failure. -/
def FamilyError.message : FamilyError → String
  | .noBaseName current => "Cannot derive a base name from " ++ current.text
  | .invalidExclude pattern => "Invalid exclude pattern " ++ pattern
  | .tooDeepExclude => "Failed to build exclude set"

/-- The base of a file name: the stem without the first suffix that it ends in. -/
def base (config : Config) (stem : String) : String :=
  ((config.specSuffixes.findSome? fun suffix =>
    Text.dropEnding? suffix.toList stem.toList).map String.ofList).getD stem

/-- The names of the members of a family. -/
def memberNames (config : Config) (base extension : String) : List String :=
  (base ++ extension) :: config.specSuffixes.map fun suffix => base ++ suffix ++ extension

/-- Reads the patterns of what is to be left out. -/
def readPatterns : List String → Except FamilyError (List Glob.Pattern)
  | [] => .ok []
  | text :: texts =>
    match Glob.Pattern.read text with
    | .error _ => .error (.invalidExclude text)
    | .ok pattern => (readPatterns texts).map (pattern :: ·)

/-- What is to be left out; all patterns are read before the depth of any is looked at. -/
def excludeSet (texts : List String) : Except FamilyError (List Glob.Pattern) :=
  match readPatterns texts with
  | .error e => .error e
  | .ok patterns =>
    if patterns.any Glob.Pattern.isTooDeep then .error .tooDeepExclude else .ok patterns

/-- Whether one of the patterns matches a path. -/
def isExcluded (patterns : List Glob.Pattern) (p : Path) : Bool :=
  patterns.any fun pattern => pattern.isMatch p.text

/-- The files at and below `top` in the family of `current`, in order. -/
def members (w : Workspace) (config : Config) (top current : Path) (exclude : List String) :
    Except FamilyError (List Path) :=
  match current.stem? with
  | none => .error (.noBaseName current)
  | some stem =>
    match excludeSet exclude with
    | .error e => .error e
    | .ok patterns =>
      let names := memberNames config (base config stem) current.dottedExtension
      .ok (Path.sorted (((w.files top (isExcluded patterns)).filter fun found =>
        names.contains found.name).map (·.path)))

/-- The member after `current`, the first one after the last; the first one also if `current` is not
a member. -/
def next? (w : Workspace) (family : List Path) (current : Path) : Option Path :=
  if family.length < 2 then none
  else
    match family.findIdx? fun p => (w.canonical p).same (w.canonical current) with
    | some i => family[(i + 1) % family.length]?
    | none => family.head?

end SpecScaffold.Family
