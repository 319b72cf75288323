import SpecScaffold.Proofs.Path.FileName
import SpecScaffold.Proofs.Workspace.Occupant
import SpecScaffold.Workspace.Walk

/-!
# What is met on a walk

A walk reports each file with its path and with its name in the directory that holds it.  Where the
names in the tree are names that a path can end in, the two agree:

    fileName?_of_mem_files : the path of a file that is found ends in the name it is found under
-/

namespace SpecScaffold

open Text

/-! ## Names in a tree -/

/-- Every entry of a directory at or below an entry has a name that a path can end in. -/
inductive Entry.ProperNames : Entry → Prop
  | file (content : Content) : ProperNames (.file content)
  | dir {es : List (String × Entry)} (names : ∀ entry ∈ es, Path.IsEntryName entry.1)
      (below : ∀ entry ∈ es, ProperNames entry.2) : ProperNames (.dir es)

namespace Entry

theorem exists_mem_of_lookup {es : List (String × Entry)} {name : String} {e : Entry}
    (h : es.lookup name = some e) : ∃ entry ∈ es, entry.2 = e := by
  induction es with
  | nil => cases h
  | cons entry es ih =>
    obtain ⟨n, child⟩ := entry
    rw [List.lookup_cons] at h
    split at h
    · exact ⟨(n, child), List.mem_cons_self, Option.some.inj h⟩
    · obtain ⟨found, hmem, hfound⟩ := ih h
      exact ⟨found, List.mem_cons_of_mem _ hmem, hfound⟩

theorem ProperNames.find? {e found : Entry} (h : e.ProperNames) {names : List String}
    (hfound : e.find? names = some found) : found.ProperNames := by
  induction names generalizing e with
  | nil =>
    obtain rfl := Option.some.inj hfound
    exact h
  | cons name names ih =>
    simp only [Entry.find?] at hfound
    cases hchild : e.entries.lookup name with
    | none =>
      rw [hchild] at hfound
      cases hfound
    | some child =>
      rw [hchild] at hfound
      obtain ⟨entry, hmem, rfl⟩ := exists_mem_of_lookup hchild
      cases h with
      | file content => cases hmem
      | dir names below => exact ih (below entry hmem) hfound

theorem mem_filesIn {excluded : Path → Bool} {dir : Path} {es : List (String × Entry)}
    {found : Found} :
    found ∈ filesIn excluded dir es ↔
      ∃ entry ∈ es, found ∈ entry.2.files excluded (dir.join ⟨entry.1⟩) entry.1 := by
  induction es with
  | nil => simp [filesIn]
  | cons entry es ih =>
    obtain ⟨name, e⟩ := entry
    simp [filesIn, ih]

/-- The path of a file below an entry ends in the name of the file. -/
theorem ProperNames.fileName?_of_mem_files {e : Entry} (h : e.ProperNames)
    {excluded : Path → Bool} {path : Path} {name : String}
    (hpath : e.isDir = false → path.fileName? = some name) {found : Found}
    (hfound : found ∈ e.files excluded path name) : found.path.fileName? = some found.name := by
  induction h generalizing path name with
  | file content =>
    rw [files] at hfound
    split at hfound
    · cases hfound
    · obtain rfl := List.mem_singleton.1 hfound
      exact hpath rfl
  | dir names below ih =>
    rw [files] at hfound
    split at hfound
    · cases hfound
    · obtain ⟨entry, hentry, hin⟩ := mem_filesIn.1 hfound
      exact ih entry hentry (fun _ => Path.fileName?_join (names entry hentry) path) hin

end Entry

/-! ## The top of a walk -/

namespace Workspace

/-- What is above a directory is a directory. -/
theorem occupant?_dropLast {w : Workspace} {place : List String}
    (h : w.occupant? place = some .directory) :
    w.occupant? place.dropLast = some .directory := by
  rcases List.eq_nil_or_concat place with rfl | ⟨dir, name, rfl⟩
  · exact h
  · rw [List.concat_eq_append, occupant?_eq_directory_iff] at h
    rw [List.concat_eq_append, List.dropLast_concat, occupant?_eq_directory_iff]
    obtain ⟨es, hes⟩ := h
    rw [Entry.find?_append] at hes
    obtain ⟨e, he, hchild⟩ := Option.bind_eq_some_iff.1 hes
    simp only [Entry.find?] at hchild
    cases hlookup : e.entries.lookup name with
    | none =>
      rw [hlookup] at hchild
      cases hchild
    | some child => exact ⟨e.entries, by rw [he, ← Entry.eq_dir_of_lookup hlookup]⟩

/-- A path that does not end in a slash ends in the last of its names. -/
theorem exists_segments_eq {p : Path} (hne : p.text ≠ "") (hslash : endsInSlash p = false) :
    ∃ front name, segments p = front ++ [name] ∧ name ≠ "" ∧ '/' ∉ name.toList ∧
      Path.EndsInName p.text.toList name.toList := by
  have hname : ∀ cs : List Char, cs ≠ [] → '/' ∉ cs →
      ((pieces '/' cs).filter fun piece => !piece.isEmpty).map String.ofList =
        [String.ofList cs] := by
    intro cs hcs hnot
    rw [pieces_of_notMem hnot]
    simp [hcs]
  rcases exists_last '/' p.text.toList with hnone | ⟨before, after, htext, hafter⟩
  · have hcs : p.text.toList ≠ [] := by simpa using hne
    refine ⟨[], p.text, ?_, hne, hnone, .inl rfl⟩
    rw [segments, hname _ hcs hnone, String.ofList_toList]
    rfl
  · have hcs : after ≠ [] := by
      rintro rfl
      rw [endsInSlash, htext] at hslash
      simp at hslash
    refine ⟨segments ⟨String.ofList before⟩, String.ofList after, ?_, ?_, ?_, ?_⟩
    · rw [segments, htext, pieces_append_sep, List.filter_append, List.map_append,
        hname after hcs hafter, segments, String.toList_ofList]
    · rw [← String.toList_inj.ne]
      simpa using hcs
    · rwa [String.toList_ofList]
    · exact .inr ⟨before, by rw [htext, String.toList_ofList]⟩

theorem reach_of_locate {w : Workspace} {p : Path} {found : List String × Entry}
    (h : w.locate p = .ok found) : checkOpened p = .ok () ∧ w.reach p = .ok found := by
  unfold locate at h
  cases hopen : checkOpened p with
  | error e =>
    rw [hopen] at h
    cases h
  | ok _ =>
    rw [hopen] at h
    exact ⟨rfl, h⟩

/-- What opening a path found out about it. -/
theorem opened_of_locate {w : Workspace} {p : Path} {place : List String} {e : Entry}
    (h : w.locate p = .ok (place, e)) :
    p.text ≠ "" ∧ w.follow (w.start p) (segments p) = .ok place ∧
      w.tree.find? place = some e ∧ (e.isDir = false → endsInSlash p = false) := by
  obtain ⟨hopened, hreach⟩ := reach_of_locate h
  have hne : p.text ≠ "" := by
    intro hempty
    unfold checkOpened checkPath at hopened
    simp [hempty] at hopened
  unfold reach at hreach
  split at hreach
  · cases hreach
  · next reached hfollow =>
    split at hreach
    · cases hreach
    · next found hfound =>
      split at hreach
      · cases hreach
      · next hslash =>
        obtain ⟨rfl, rfl⟩ := Prod.mk.inj (Except.ok.inj hreach)
        refine ⟨hne, hfollow, hfound, fun hfile => ?_⟩
        simpa [hfile] using hslash

/-- The last name on the way to a file is the name of an entry: a dot and two dots lead to
directories. -/
theorem last_name_of_follow {w : Workspace} {start front place : List String} {name : String}
    {content : Content} (h : w.follow start (front ++ [name]) = .ok place)
    (hfile : w.occupant? place = some (.file content)) : name ≠ "." ∧ name ≠ ".." := by
  obtain ⟨dir, -, hlast⟩ := follow_append_eq_ok_iff.1 h
  rw [follow_singleton] at hlast
  obtain ⟨hdirectory, ⟨-, rfl⟩ | ⟨-, rfl⟩ | ⟨hdot, hdots, -⟩⟩ := step_eq_ok_iff.1 hlast
  · rw [hfile] at hdirectory
    cases hdirectory
  · rw [occupant?_dropLast hdirectory] at hfile
    cases hfile
  · exact ⟨hdot, hdots⟩

/-- A path that leads to a file has a file name. -/
theorem exists_fileName?_of_locate {w : Workspace} {p : Path} {place : List String}
    {content : Content} (h : w.locate p = .ok (place, .file content)) :
    ∃ name, p.fileName? = some name := by
  obtain ⟨hne, hfollow, hfind, hslash⟩ := opened_of_locate h
  obtain ⟨front, name, hsegments, hname, hnot, hends⟩ := exists_segments_eq hne (hslash rfl)
  rw [hsegments] at hfollow
  obtain ⟨hdot, hdots⟩ := last_name_of_follow hfollow (occupant?_eq_file_iff.2 hfind)
  exact ⟨name, Path.fileName?_of_endsInName ⟨hname, hdot, hdots, hnot⟩ hends⟩

/-- The path of a file that is found ends in the name it is found under. -/
theorem fileName?_of_mem_files {w : Workspace} (hw : w.tree.ProperNames) {top : Path}
    {excluded : Path → Bool} {found : Found} (h : found ∈ w.files top excluded) :
    found.path.fileName? = some found.name := by
  unfold files at h
  split at h
  · cases h
  · next place e hlocate =>
    obtain ⟨-, -, hfind, -⟩ := opened_of_locate hlocate
    refine (hw.find? hfind).fileName?_of_mem_files (fun hfile => ?_) h
    cases e with
    | dir es => cases hfile
    | file content =>
      obtain ⟨name, hname⟩ := exists_fileName?_of_locate hlocate
      rw [hname, Option.getD_some]

end Workspace

end SpecScaffold
