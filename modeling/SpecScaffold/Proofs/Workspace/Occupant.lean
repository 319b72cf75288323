import SpecScaffold.Workspace.Basic

/-!
# What stands where

A place of a workspace holds nothing, a directory, or a file.  Following a path asks for nothing
else (`step_eq_ok_iff`), and writing a file changes what stands at its own place only:

    w.locateForWriting p = .ok place →
      (w.putText place text).occupant? other =
        if other = place then some (.file (.text text)) else w.occupant? other

So a path that led somewhere before a write leads there afterwards, and a file can be read through
the path that it was written through.
-/

namespace SpecScaffold

open Text

/-- What stands at a place: a directory, whatever is in it, or a file. -/
inductive Occupant where
  | directory
  | file (content : Content)
deriving DecidableEq, Repr

def Entry.occupant : Entry → Occupant
  | .file content => .file content
  | .dir _ => .directory

/-! ## Trees -/

namespace Entry

theorem find?_append (e : Entry) (names more : List String) :
    e.find? (names ++ more) = (e.find? names).bind fun child => child.find? more := by
  induction names generalizing e with
  | nil => rfl
  | cons name names ih =>
    simp only [List.cons_append, find?]
    cases e.entries.lookup name with
    | none => rfl
    | some child => exact ih child

/-- An entry with something below it is a directory. -/
theorem eq_dir_of_lookup {e child : Entry} {name : String}
    (h : e.entries.lookup name = some child) : e = .dir e.entries := by
  cases e with
  | file content => simp [entries] at h
  | dir es => rfl

theorem find?_cons_of_lookup {e child : Entry} {name : String}
    (h : e.entries.lookup name = some child) (names : List String) :
    e.find? (name :: names) = child.find? names := by
  rw [find?, h]

theorem find?_put_cons_self (tree e : Entry) (name : String) (names more : List String) :
    (tree.put e (name :: names)).find? (name :: more) =
      (((tree.entries.lookup name).getD (.dir [])).put e names).find? more := by
  rw [put, find?_cons_of_lookup (lookup_assign_self ..)]

/-- A file put into a directory, where no directory of its name is, changes nothing else. -/
theorem occupant_find?_put {tree : Entry} {dir : List String} {name : String}
    {es : List (String × Entry)} (content : Content) (hdir : tree.find? dir = some (.dir es))
    (hname : ∀ sub, es.lookup name ≠ some (.dir sub)) (other : List String) :
    ((tree.put (.file content) (dir ++ [name])).find? other).map occupant =
      if other = dir ++ [name] then some (.file content) else (tree.find? other).map occupant := by
  split
  · next he => rw [he, find?_put_self]; rfl
  · next hne =>
    -- the recursion of `put` goes down the directory, and `other` has to leave it somewhere
    induction dir generalizing tree other with
    | nil =>
      obtain rfl : tree = .dir es := by simpa [find?] using hdir
      cases other with
      | nil => rfl
      | cons n rest =>
        by_cases hn : n = name
        · subst hn
          obtain ⟨m, ms, rfl⟩ : ∃ m ms, rest = m :: ms := by
            cases rest with
            | nil => exact absurd rfl hne
            | cons m ms => exact ⟨m, ms, rfl⟩
          have hold : (dir es).find? (n :: m :: ms) = none := by
            simp only [find?, entries]
            cases hl : es.lookup n with
            | none => rfl
            | some child =>
              cases child with
              | file c => rfl
              | dir sub => exact absurd hl (hname sub)
          rw [hold]
          simp [put, find?, entries, lookup_assign_self]
        · simp [put, find?, entries, lookup_assign_of_ne hn]
    | cons d dir ih =>
      simp only [find?] at hdir
      cases hl : tree.entries.lookup d with
      | none => rw [hl] at hdir; cases hdir
      | some child =>
        rw [hl] at hdir
        have htree := eq_dir_of_lookup hl
        cases other with
        | nil => rw [htree]; rfl
        | cons n rest =>
          by_cases hn : n = d
          · subst hn
            have hrest : rest ≠ dir ++ [name] := fun he => hne (by rw [he]; rfl)
            have hchild := ih hdir rest hrest
            rw [find?_cons_of_lookup hl, List.cons_append, find?_put_cons_self, hl]
            exact hchild
          · simp [put, find?, entries, lookup_assign_of_ne hn]

end Entry

namespace Workspace

/-- What stands at a place, if anything does. -/
def occupant? (w : Workspace) (place : List String) : Option Occupant :=
  (w.tree.find? place).map Entry.occupant

theorem occupant?_eq_directory_iff {w : Workspace} {place : List String} :
    w.occupant? place = some .directory ↔ ∃ es, w.tree.find? place = some (.dir es) := by
  unfold occupant?
  cases w.tree.find? place with
  | none => simp
  | some e => cases e <;> simp [Entry.occupant]

theorem occupant?_eq_file_iff {w : Workspace} {place : List String} {content : Content} :
    w.occupant? place = some (.file content) ↔ w.tree.find? place = some (.file content) := by
  unfold occupant?
  cases w.tree.find? place with
  | none => simp
  | some e => cases e <;> simp [Entry.occupant]

theorem occupant?_eq_none_iff {w : Workspace} {place : List String} :
    w.occupant? place = none ↔ w.tree.find? place = none := by
  simp [occupant?]

/-- An entry of a directory stands one name further. -/
theorem occupant?_append_singleton {w : Workspace} {place : List String}
    {es : List (String × Entry)} (h : w.tree.find? place = some (.dir es)) (name : String) :
    w.occupant? (place ++ [name]) = (es.lookup name).map Entry.occupant := by
  rw [occupant?, Entry.find?_append, h]
  simp only [Option.bind_some, Entry.find?, Entry.entries]
  cases es.lookup name <;> rfl

/-! ## Following a path -/

/-- Exactly when, and where to, a name leads from a place. -/
theorem step_eq_ok_iff {w : Workspace} {place next : List String} {name : String} :
    w.step place name = .ok next ↔ w.occupant? place = some .directory ∧
      (name = "." ∧ next = place ∨ name = ".." ∧ next = place.dropLast ∨
        name ≠ "." ∧ name ≠ ".." ∧ byteLength name.toList ≤ maxName ∧
          (w.occupant? (place ++ [name])).isSome ∧ next = place ++ [name]) := by
  rw [occupant?_eq_directory_iff]
  unfold step
  cases hf : w.tree.find? place with
  | none => simp
  | some e =>
    cases e with
    | file content => simp
    | dir es =>
      rw [occupant?_append_singleton hf]
      by_cases h1 : name = "."
      · subst h1
        simp [eq_comm (a := place)]
      · by_cases h2 : name = ".."
        · subst h2
          simp [eq_comm (a := place.dropLast)]
        · by_cases h3 : maxName < byteLength name.toList
          · have : ¬byteLength name.toList ≤ maxName := by omega
            simp [h1, h2, h3, this]
          · have h3' : byteLength name.toList ≤ maxName := by omega
            by_cases h4 : (es.lookup name).isSome
            · simp [h1, h2, h3, h3', h4, eq_comm (a := place ++ [name])]
            · simp [h1, h2, h3, h4]

theorem follow_append (w : Workspace) (place : List String) (names more : List String) :
    w.follow place (names ++ more) =
      match w.follow place names with
      | .error e => .error e
      | .ok next => w.follow next more := by
  induction names generalizing place with
  | nil => rfl
  | cons name names ih =>
    simp only [List.cons_append, follow]
    cases w.step place name with
    | error e => rfl
    | ok next => exact ih next

/-- A way in two parts. -/
theorem follow_append_eq_ok_iff {w : Workspace} {place last names more : List String} :
    w.follow place (names ++ more) = .ok last ↔
      ∃ middle, w.follow place names = .ok middle ∧ w.follow middle more = .ok last := by
  rw [follow_append]
  cases w.follow place names with
  | error e => simp
  | ok middle => simp

theorem follow_singleton (w : Workspace) (place : List String) (name : String) :
    w.follow place [name] = w.step place name := by
  rw [follow]
  cases w.step place name <;> rfl

/-- What stood somewhere in `w` stands there in `w'` too, a directory as a directory. -/
structure Keeps (w w' : Workspace) : Prop where
  directory : ∀ place, w.occupant? place = some .directory → w'.occupant? place = some .directory
  isSome : ∀ place, (w.occupant? place).isSome → (w'.occupant? place).isSome
  here : w'.here = w.here

theorem Keeps.step {w w' : Workspace} (h : Keeps w w') {place next : List String} {name : String}
    (hs : w.step place name = .ok next) : w'.step place name = .ok next := by
  rw [step_eq_ok_iff] at hs ⊢
  obtain ⟨hdir, hname⟩ := hs
  refine ⟨h.directory place hdir, ?_⟩
  rcases hname with hdot | hdots | ⟨h1, h2, h3, h4, h5⟩
  · exact .inl hdot
  · exact .inr (.inl hdots)
  · exact .inr (.inr ⟨h1, h2, h3, h.isSome _ h4, h5⟩)

/-- Names that led somewhere lead there as long as nothing on the way is lost. -/
theorem Keeps.follow {w w' : Workspace} (h : Keeps w w') {place last : List String}
    {names : List String} (hf : w.follow place names = .ok last) :
    w'.follow place names = .ok last := by
  induction names generalizing place with
  | nil => exact hf
  | cons name names ih =>
    simp only [Workspace.follow] at hf ⊢
    cases hs : w.step place name with
    | error e => rw [hs] at hf; cases hf
    | ok next =>
      rw [hs] at hf
      rw [h.step hs]
      exact ih hf

end Workspace

end SpecScaffold
