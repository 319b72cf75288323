import SpecScaffold.Workspace.Basic

/-!
# Walking a directory

The files at and below a path.  An entry's path is the path of its directory joined with its name,
so the caller's spelling of the top stays at the front.  What is excluded is tested on these paths,
the top included, and an excluded directory is not entered.
-/

namespace SpecScaffold

/-- A file met on a walk: its path, and its name in the directory that holds it. -/
structure Found where
  path : Path
  name : String

mutual

/-- The files at and below an entry. -/
def Entry.files (excluded : Path → Bool) (path : Path) (name : String) : Entry → List Found
  | .file _ => if excluded path then [] else [⟨path, name⟩]
  | .dir es => if excluded path then [] else filesIn excluded path es

/-- The files at and below the entries of a directory. -/
def filesIn (excluded : Path → Bool) (dir : Path) : List (String × Entry) → List Found
  | [] => []
  | (name, e) :: es => e.files excluded (dir.join ⟨name⟩) name ++ filesIn excluded dir es

end

/-- The files at and below `top`; none if that names nothing. -/
def Workspace.files (w : Workspace) (top : Path) (excluded : Path → Bool) : List Found :=
  match w.locate top with
  | .error _ => []
  | .ok (_, e) => e.files excluded top (top.fileName?.getD top.text)

end SpecScaffold
