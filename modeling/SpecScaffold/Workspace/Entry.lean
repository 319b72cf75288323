/-!
# Files and directories

A tree of directories whose leaves are files.  A file is named by the list of names that leads to it
from the top; `find?` and `put` are the only access to the tree.
-/

namespace SpecScaffold

/-- What a file holds: a text, or bytes that are not UTF-8. -/
inductive Content where
  | text (s : String)
  | binary
deriving DecidableEq, Repr

/-- A file, or a directory with its named entries. -/
inductive Entry where
  | file (content : Content)
  | dir (entries : List (String × Entry))

namespace Entry

/-- The entries of a directory; a file has none. -/
def entries : Entry → List (String × Entry)
  | .file _ => []
  | .dir es => es

def isDir : Entry → Bool
  | .file _ => false
  | .dir _ => true

/-- The entry that the names lead to. -/
def find? (e : Entry) : List String → Option Entry
  | [] => some e
  | name :: names =>
    match e.entries.lookup name with
    | some child => child.find? names
    | none => none

/-- The list with `e` under `name`: in the place of the entry of that name, or at the end. -/
def assign (name : String) (e : Entry) : List (String × Entry) → List (String × Entry)
  | [] => [(name, e)]
  | (n, old) :: es => if n == name then (n, e) :: es else (n, old) :: assign name e es

/-- The tree with `e` at the place that the names lead to; missing directories are made. -/
def put (tree e : Entry) : List String → Entry
  | [] => e
  | name :: names =>
    .dir (assign name (((tree.entries.lookup name).getD (.dir [])).put e names) tree.entries)

/-- The tree without the entry that the names lead to. -/
def remove (tree : Entry) : List String → Entry
  | [] => tree
  | [name] => match tree with
    | .file c => .file c
    | .dir es => .dir (es.filter fun e => e.1 != name)
  | name :: names =>
    match tree.entries.lookup name with
    | some child => .dir (assign name (child.remove names) tree.entries)
    | none => tree

/-! ## What a tree holds after a change -/

theorem lookup_assign_self (name : String) (e : Entry) (es : List (String × Entry)) :
    (assign name e es).lookup name = some e := by
  induction es with
  | nil => simp [assign]
  | cons entry es ih =>
    obtain ⟨n, old⟩ := entry
    rw [assign]
    split
    · next h => simp_all
    · next h =>
      have : (name == n) = false := beq_false_of_ne fun he => h (by simp [he])
      simp [List.lookup_cons, this, ih]

theorem lookup_assign_of_ne {name other : String} (h : other ≠ name) (e : Entry)
    (es : List (String × Entry)) : (assign name e es).lookup other = es.lookup other := by
  have hne : (other == name) = false := by simpa using h
  induction es with
  | nil => simp [assign, List.lookup_cons, hne]
  | cons entry es ih =>
    obtain ⟨n, old⟩ := entry
    rw [assign]
    split
    · next heq =>
      have : (other == n) = false := by simp_all
      simp [List.lookup_cons, this]
    · simp [List.lookup_cons, ih]

/-- What has been put somewhere is found there. -/
theorem find?_put_self (tree e : Entry) (names : List String) :
    (tree.put e names).find? names = some e := by
  induction names generalizing tree with
  | nil => rfl
  | cons name names ih => simp [put, find?, entries, lookup_assign_self, ih]

end Entry

end SpecScaffold
