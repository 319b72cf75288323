import SpecScaffold.Text.Lines
import SpecScaffold.Text.Search

/-!
# Paths

A path is kept as it was written; what it means is its list of components.  Repeated slashes, inner
dots and a slash or a dot at the end do not count, a leading dot does, and `..` is kept.

    components "./a//b/./c/" = [current, normal "a", normal "b", normal "c"]

Editing a path (`parent?`, `withFileName`) cuts the written text, so the spelling of what stays is
the caller's.
-/

namespace SpecScaffold

/-- A path as it was written. -/
structure Path where
  text : String
deriving DecidableEq, Repr, Inhabited

/-- One step of a path; the constructors stand in the order in which steps are compared. -/
inductive Component where
  | root
  | current
  | parent
  | normal (name : String)
deriving DecidableEq, Repr

namespace Path

open Text

/-! ## Cutting a path -/

/-- The written start that is not a step below a directory: the root, a leading dot, or nothing. -/
def head (cs : List Char) : List Char :=
  match cs with
  | '/' :: _ => ['/']
  | ['.'] => ['.']
  | '.' :: '/' :: _ => ['.']
  | _ => []

/-- The pieces between the slashes after the head. -/
def body (cs : List Char) : List (List Char) :=
  pieces '/' (cs.drop (head cs).length)

/-- Pieces that name nothing: between two slashes, and a dot. -/
def idle (piece : List Char) : Bool :=
  piece == [] || piece == ['.']

/-- The component that the head stands for. -/
def headComponent : List Char → List Component
  | ['/'] => [.root]
  | ['.'] => [.current]
  | _ => []

/-- The component that a piece of the body stands for. -/
def pieceComponent (piece : List Char) : Option Component :=
  if idle piece then none
  else if piece == ['.', '.'] then some .parent
  else some (.normal (String.ofList piece))

/-- The steps of a path. -/
def components (p : Path) : List Component :=
  headComponent (head p.text.toList) ++ (body p.text.toList).filterMap pieceComponent

/-- Two paths are the same when their components are. -/
def same (p q : Path) : Bool :=
  p.components == q.components

/-- The pieces of the body without the idle ones at its end, last piece first. -/
def backwards (cs : List Char) : List (List Char) :=
  (body cs).reverse.dropWhile idle

/-- The path without its last step; `none` for the root and the empty path. -/
def parent? (p : Path) : Option Path :=
  let cs := p.text.toList
  match backwards cs with
  | _ :: rest =>
    some ⟨String.ofList (head cs ++ joined ['/'] (rest.dropWhile idle).reverse)⟩
  | [] => if head cs == ['.'] then some ⟨""⟩ else none

/-- The name of the last step, if that is a normal one. -/
def fileName? (p : Path) : Option String :=
  match p.components.getLast? with
  | some (.normal name) => some name
  | _ => none

/-! ## Stem and extension -/

/-- Stem and extension of a file name: it is cut at its last dot, unless that is its first
character. -/
def splitName (name : String) : String × Option String :=
  match splitLast? '.' name.toList with
  | some (stem, extension) =>
    if stem.isEmpty then (name, none) else (String.ofList stem, some (String.ofList extension))
  | none => (name, none)

/-- The file name without its extension. -/
def stem? (p : Path) : Option String :=
  p.fileName?.map fun name => (splitName name).1

/-- What follows the last dot of the file name. -/
def extension? (p : Path) : Option String :=
  p.fileName?.bind fun name => (splitName name).2

/-- The extension with its dot; empty when there is none. -/
def dottedExtension (p : Path) : String :=
  match p.extension? with
  | some extension => "." ++ extension
  | none => ""

/-! ## Building paths -/

/-- Whether a path starts at the root. -/
def isAbsolute (p : Path) : Bool :=
  head p.text.toList == ['/']

/-- `q` taken relative to `p`; an absolute `q` replaces `p`. -/
def join (p q : Path) : Path :=
  if q.isAbsolute then q
  else if p.text.isEmpty || p.text.toList.getLast? == some '/' then ⟨p.text ++ q.text⟩
  else ⟨p.text ++ "/" ++ q.text⟩

/-- The path with its last step replaced by `name`, or with `name` appended when the last step is
not a normal one. -/
def withFileName (p : Path) (name : String) : Path :=
  match p.fileName?, p.parent? with
  | some _, some q => q.join ⟨name⟩
  | _, _ => p.join ⟨name⟩

end Path

end SpecScaffold
