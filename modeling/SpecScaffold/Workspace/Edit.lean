import SpecScaffold.Workspace.Basic

/-!
# Changes from outside

What a user or another program does to the files between two commands.
-/

namespace SpecScaffold

/-- A change of the files that no command makes. -/
inductive Edit where
  /-- A file gets new content; the directories on the way to it are made if they are missing. -/
  | write (path : Path) (content : Content)
  /-- A directory is made, with those on the way to it. -/
  | makeDir (path : Path)
  | remove (path : Path)

namespace Workspace

/-- Goes along the names from a place and makes the directories that are missing on the way. -/
def makeDirs (tree : Entry) (place : List String) : List String → Entry × List String
  | [] => (tree, place)
  | name :: names =>
    if name == "." then makeDirs tree place names
    else if name == ".." then makeDirs tree place.dropLast names
    else
      let next := place ++ [name]
      let tree := if (tree.find? next).isSome then tree else tree.put (.dir []) next
      makeDirs tree next names

/-- The workspace after a change.  What names nothing is not removed. -/
def edit (w : Workspace) : Edit → Workspace
  | .write p content =>
    let (tree, place) := makeDirs w.tree (w.start p) (segments p).dropLast
    { w with tree := tree.put (.file content) (place ++ (segments p).getLast?.toList) }
  | .makeDir p => { w with tree := (makeDirs w.tree (w.start p) (segments p)).1 }
  | .remove p =>
    match w.place? p with
    | some place => { w with tree := w.tree.remove place }
    | none => w

/-- The empty workspace in the directory that the names lead to. -/
def empty (here : List String) : Workspace :=
  ⟨Entry.put (.dir []) (.dir []) here, here⟩

end Workspace

end SpecScaffold
