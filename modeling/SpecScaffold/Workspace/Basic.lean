import SpecScaffold.Path.Basic
import SpecScaffold.Text.Bytes
import SpecScaffold.Workspace.Entry
import SpecScaffold.Workspace.FileError

/-!
# The workspace

A tree of files and the directory that relative paths start from.  A path is followed name by name:
`..` goes to the directory above the one reached, every name needs a directory to stand in, and the
first step that fails decides the error.

Reading and writing differ at the last step.  A path that ends in a slash can only be read if it
names a directory, and can never be written; a path that names nothing can be written if its
directory exists.

An entry is a file or a directory.  Symbolic links are not modelled: no name stands for another
place, so a place has one absolute path.
-/

namespace SpecScaffold

/-- A file tree and the names that lead to the current directory. -/
structure Workspace where
  tree : Entry
  here : List String

namespace Workspace

open Text

/-- Longest name of an entry, in bytes. -/
def maxName : Nat := 255

/-- Paths of this many bytes or more cannot be opened. -/
def pathLimit : Nat := 4096

/-! ## Following a path -/

/-- The names of a path between its slashes. -/
def segments (p : Path) : List String :=
  ((pieces '/' p.text.toList).filter fun piece => !piece.isEmpty).map String.ofList

def endsInSlash (p : Path) : Bool :=
  p.text.toList.getLast? == some '/'

/-- Refuses a path that cannot be followed at all. -/
def checkPath (p : Path) : Except FileError Unit :=
  if p.text.toList.contains '\x00' then .error .nulInPath
  else if p.text.isEmpty then .error .notFound
  else .ok ()

/-- Refuses also a path that is too long to be opened. -/
def checkOpened (p : Path) : Except FileError Unit :=
  match checkPath p with
  | .error e => .error e
  | .ok () => if pathLimit ≤ byteLength p.text.toList then .error .nameTooLong else .ok ()

/-- The place one name further. -/
def step (w : Workspace) (place : List String) (name : String) : Except FileError (List String) :=
  match w.tree.find? place with
  | none => .error .notFound
  | some (.file _) => .error .notDirectory
  | some (.dir es) =>
    if name == "." then .ok place
    else if name == ".." then .ok place.dropLast
    else if maxName < byteLength name.toList then .error .nameTooLong
    else if (es.lookup name).isSome then .ok (place ++ [name])
    else .error .notFound

/-- The place that the names lead to. -/
def follow (w : Workspace) (place : List String) : List String → Except FileError (List String)
  | [] => .ok place
  | name :: names =>
    match w.step place name with
    | .error e => .error e
    | .ok next => w.follow next names

/-- Where a path starts. -/
def start (w : Workspace) (p : Path) : List String :=
  if p.isAbsolute then [] else w.here

/-- The entry that the names of a path lead to, and its place. -/
def reach (w : Workspace) (p : Path) : Except FileError (List String × Entry) :=
  match w.follow (w.start p) (segments p) with
  | .error e => .error e
  | .ok place =>
    match w.tree.find? place with
    | none => .error .notFound
    | some e => if endsInSlash p && !e.isDir then .error .notDirectory else .ok (place, e)

/-- The entry that a path opens, and its place. -/
def locate (w : Workspace) (p : Path) : Except FileError (List String × Entry) :=
  match checkOpened p with
  | .error e => .error e
  | .ok () => w.reach p

/-- The place of a file that is to be written through a path, whether or not it exists. -/
def locateForWriting (w : Workspace) (p : Path) : Except FileError (List String) :=
  match checkOpened p with
  | .error e => .error e
  | .ok () =>
    match w.follow (w.start p) (segments p).dropLast with
    | .error e => .error e
    | .ok place =>
      match (segments p).getLast?, w.tree.find? place with
      | _, none => .error .notFound
      | _, some (.file _) => .error .notDirectory
      | none, some (.dir _) => .error .isDirectory
      | some name, some (.dir es) =>
        if name == "." || name == ".." || endsInSlash p then .error .isDirectory
        else if maxName < byteLength name.toList then .error .nameTooLong
        else match es.lookup name with
          | some (.dir _) => .error .isDirectory
          | _ => .ok (place ++ [name])

/-! ## Files -/

/-- Whether a path names something. -/
def exists? (w : Workspace) (p : Path) : Bool :=
  match w.locate p with
  | .ok _ => true
  | .error _ => false

/-- The text of a file. -/
def read (w : Workspace) (p : Path) : Except FileError String :=
  match w.locate p with
  | .error e => .error e
  | .ok (_, .dir _) => .error .isDirectory
  | .ok (_, .file .binary) => .error .invalidText
  | .ok (_, .file (.text s)) => .ok s

/-- The workspace with a file at a place. -/
def putText (w : Workspace) (place : List String) (text : String) : Workspace :=
  { w with tree := w.tree.put (.file (.text text)) place }

/-- Makes an empty file unless there is one already. -/
def touch (w : Workspace) (p : Path) : Except FileError Workspace :=
  match w.locateForWriting p with
  | .error e => .error e
  | .ok place =>
    match w.tree.find? place with
    | some _ => .ok w
    | none => .ok (w.putText place "")

/-- Replaces the text of a file, or makes it. -/
def write (w : Workspace) (p : Path) (text : String) : Except FileError Workspace :=
  match w.locateForWriting p with
  | .error e => .error e
  | .ok place => .ok (w.putText place text)

/-- The place that a path names, if it names something.  It is found name by name, so the length of
the path does not matter. -/
def place? (w : Workspace) (p : Path) : Option (List String) :=
  match checkPath p, w.reach p with
  | .ok (), .ok (place, _) => some place
  | _, _ => none

/-- The absolute path of a place. -/
def absolute (place : List String) : Path :=
  ⟨String.join (match place with
    | [] => ["/"]
    | names => names.map fun name => "/" ++ name)⟩

/-- The absolute path of what a path names; a path that names nothing stays as it is. -/
def canonical (w : Workspace) (p : Path) : Path :=
  match w.place? p with
  | some place => absolute place
  | none => p

end Workspace

end SpecScaffold
