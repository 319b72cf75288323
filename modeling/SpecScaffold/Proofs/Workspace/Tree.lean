import SpecScaffold.Proofs.Path.Below
import SpecScaffold.Proofs.Workspace.Walk
import SpecScaffold.Proofs.Workspace.Writing

/-!
# Trees of a file system

In a tree that a file system can hold, an entry has a name that fits, and no two entries of a
directory have the same one.  A walk through such a tree meets every file once, and exactly those
with nothing excluded on the way (`mem_files_iff`).  The path of a file that is met leads back to it:

    place?_below : top is at `place` → a file is at `place ++ names` →
      w.place? (top.below names) = some (place ++ names)
-/

namespace SpecScaffold

open Text

/-! ## Well-formed trees -/

/-- A name that an entry of a directory can have in a file system. -/
structure Workspace.IsFileName (name : String) : Prop extends Path.IsEntryName name where
  fits : byteLength name.toList ≤ maxName
  noNul : '\x00' ∉ name.toList

instance (name : String) : Decidable (Workspace.IsFileName name) :=
  decidable_of_iff (name ≠ "" ∧ name ≠ "." ∧ name ≠ ".." ∧ '/' ∉ name.toList ∧
      byteLength name.toList ≤ Workspace.maxName ∧ '\x00' ∉ name.toList)
    ⟨fun ⟨hempty, hdot, hdots, hslash, hfits, hnul⟩ =>
      ⟨⟨hempty, hdot, hdots, hslash⟩, hfits, hnul⟩,
      fun h => ⟨h.ne_empty, h.ne_current, h.ne_parent, h.slash, h.fits, h.noNul⟩⟩

/-- A tree that a file system can hold. -/
inductive Entry.WellFormed : Entry → Prop
  | file (content : Content) : WellFormed (.file content)
  | dir {es : List (String × Entry)} (names : ∀ entry ∈ es, Workspace.IsFileName entry.1)
      (distinct : (es.map Prod.fst).Nodup) (below : ∀ entry ∈ es, WellFormed entry.2) :
      WellFormed (.dir es)

namespace Entry

theorem mem_of_lookup {es : List (String × Entry)} {name : String} {e : Entry}
    (h : es.lookup name = some e) : (name, e) ∈ es := by
  obtain ⟨before, after, rfl, -⟩ := List.lookup_eq_some_iff.1 h
  simp

theorem lookup_eq_some_iff_mem {es : List (String × Entry)} (h : (es.map Prod.fst).Nodup)
    {name : String} {e : Entry} : es.lookup name = some e ↔ (name, e) ∈ es := by
  refine ⟨mem_of_lookup, fun hmem => ?_⟩
  obtain ⟨before, after, rfl⟩ := List.append_of_mem hmem
  refine List.lookup_eq_some_iff.2 ⟨before, after, rfl, fun entry hentry => ?_⟩
  rw [List.map_append, List.nodup_append] at h
  rw [bne_iff_ne]
  intro hsame
  exact h.2.2 entry.1 (List.mem_map_of_mem hentry) name (by simp) hsame.symm

namespace WellFormed

theorem properNames {e : Entry} (h : e.WellFormed) : e.ProperNames := by
  induction h with
  | file content => exact .file content
  | dir names _ _ ih => exact .dir (fun entry hentry => (names entry hentry).toIsEntryName) ih

theorem of_lookup {e child : Entry} {name : String} (h : e.WellFormed)
    (hchild : e.entries.lookup name = some child) :
    child.WellFormed ∧ Workspace.IsFileName name := by
  have hmem := mem_of_lookup hchild
  cases h with
  | file content => cases hmem
  | dir names _ below => exact ⟨below _ hmem, names _ hmem⟩

/-- What names lead to is well-formed, and the names are names of entries. -/
theorem of_find? {e found : Entry} (h : e.WellFormed) {names : List String}
    (hfound : e.find? names = some found) :
    found.WellFormed ∧ ∀ name ∈ names, Workspace.IsFileName name := by
  induction names generalizing e with
  | nil =>
    obtain rfl := Option.some.inj hfound
    exact ⟨h, by simp⟩
  | cons name names ih =>
    simp only [Entry.find?] at hfound
    cases hchild : e.entries.lookup name with
    | none =>
      rw [hchild] at hfound
      cases hfound
    | some child =>
      rw [hchild] at hfound
      obtain ⟨hwell, hname⟩ := h.of_lookup hchild
      obtain ⟨hfoundWell, hnames⟩ := ih hwell hfound
      refine ⟨hfoundWell, ?_⟩
      intro other hother
      rcases List.mem_cons.1 hother with rfl | hother
      · exact hname
      · exact hnames other hother

/-! ## Walking -/

/-- A walk finds a file under each list of names that leads to one, unless something on the way is
excluded. -/
theorem mem_files_iff {e : Entry} (h : e.WellFormed) {excluded : Path → Bool} {path : Path}
    {name : String} {found : Found} :
    found ∈ e.files excluded path name ↔
      ∃ names content, e.find? names = some (.file content) ∧
        found = ⟨path.below names, names.getLastD name⟩ ∧
        ∀ init, init <+: names → excluded (path.below init) = false := by
  induction h generalizing path name with
  | file content =>
    rw [files]
    constructor
    · intro hfound
      split at hfound
      · cases hfound
      · next hkept =>
        refine ⟨[], content, rfl, List.mem_singleton.1 hfound, fun init hinit => ?_⟩
        obtain rfl := List.prefix_nil.1 hinit
        exact Bool.eq_false_iff.2 hkept
    · rintro ⟨names, content', hfind, rfl, hkept⟩
      have hnames : names = [] := by
        cases names with
        | nil => rfl
        | cons first names => cases hfind
      subst hnames
      have htop : excluded path = false := hkept [] List.prefix_rfl
      rw [htop, if_neg Bool.false_ne_true]
      exact List.mem_singleton.2 rfl
  | dir hnames hdistinct hbelow ih =>
    rw [files]
    constructor
    · intro hfound
      split at hfound
      · cases hfound
      · next hkept =>
        obtain ⟨⟨first, child⟩, hentry, hin⟩ := mem_filesIn.1 hfound
        obtain ⟨names, content, hfind, rfl, hbelowKept⟩ := (ih _ hentry).1 hin
        refine ⟨first :: names, content, ?_, ?_, fun init hinit => ?_⟩
        · have hlookup := (lookup_eq_some_iff_mem hdistinct).2 hentry
          rw [find?_cons_of_lookup hlookup]
          exact hfind
        · rw [List.getLastD_cons, Path.below_cons]
        · rcases List.prefix_cons_iff.1 hinit with rfl | ⟨rest, rfl, hrest⟩
          · exact Bool.eq_false_iff.2 hkept
          · exact hbelowKept rest hrest
    · rintro ⟨names, content, hfind, rfl, hkept⟩
      have htop : excluded path = false := hkept [] List.nil_prefix
      rw [htop, if_neg Bool.false_ne_true]
      cases names with
      | nil => cases hfind
      | cons first names =>
        simp only [find?, entries] at hfind
        split at hfind
        · next child hlookup =>
          refine mem_filesIn.2 ⟨(first, child), mem_of_lookup hlookup, ?_⟩
          refine (ih _ (mem_of_lookup hlookup)).2 ⟨names, content, hfind, ?_, fun init hinit => ?_⟩
          · rw [List.getLastD_cons, Path.below_cons]
          · exact hkept (first :: init) (List.cons_prefix_cons.2 ⟨rfl, hinit⟩)
        · cases hfind

end WellFormed

end Entry

/-! ## From the path of a file to its place -/

namespace Workspace

/-- Names that lead to an entry from a place are followed to it. -/
theorem follow_of_find? {w : Workspace} {place names : List String} {e : Entry}
    (hnames : ∀ name ∈ names, IsFileName name) (h : w.tree.find? (place ++ names) = some e) :
    w.follow place names = .ok (place ++ names) := by
  induction names generalizing place with
  | nil => simp [follow]
  | cons name names ih =>
    have hname := hnames name List.mem_cons_self
    rw [List.append_cons] at h
    have hnext : ∃ next, w.tree.find? (place ++ [name]) = some next := by
      rw [Entry.find?_append] at h
      obtain ⟨next, hnext, -⟩ := Option.bind_eq_some_iff.1 h
      exact ⟨next, hnext⟩
    obtain ⟨next, hnext⟩ := hnext
    have hdir : w.occupant? place = some .directory := by
      rw [Entry.find?_append] at hnext
      obtain ⟨dir, hplace, hchild⟩ := Option.bind_eq_some_iff.1 hnext
      simp only [Entry.find?] at hchild
      split at hchild
      · next child hlookup =>
        exact occupant?_eq_directory_iff.2
          ⟨dir.entries, by rw [hplace, ← Entry.eq_dir_of_lookup hlookup]⟩
      · cases hchild
    have hstep : w.step place name = .ok (place ++ [name]) :=
      step_eq_ok_iff.2 ⟨hdir, .inr (.inr ⟨hname.ne_current, hname.ne_parent, hname.fits,
        by simp [occupant?, hnext], rfl⟩)⟩
    simp only [follow, hstep]
    rw [ih (fun other hother => hnames other (List.mem_cons_of_mem _ hother)) h]
    simp

theorem checkPath_eq_ok_iff {p : Path} :
    checkPath p = .ok () ↔ '\x00' ∉ p.text.toList ∧ p.text ≠ "" := by
  unfold checkPath
  split
  · next hnul => simp_all
  · next hnul =>
    split
    · next hempty => simp_all
    · next hempty => simp_all

theorem checkPath_join {dir : Path} {name : String} (hname : IsFileName name)
    (h : checkPath dir = .ok ()) : checkPath (dir.join ⟨name⟩) = .ok () := by
  obtain ⟨hnul, hne⟩ := checkPath_eq_ok_iff.1 h
  refine checkPath_eq_ok_iff.2 ?_
  rw [← String.toList_inj.ne]
  rcases Path.toList_join hname.slash dir with ⟨-, hempty⟩ | ⟨front, hjoin, hfront⟩
  · exact absurd (String.toList_inj.1 hempty) hne
  · have hfrontNul : '\x00' ∉ front := by
      intro hmem
      apply hnul
      rcases hfront with hdir | ⟨hdir, -⟩
      · rw [hdir]
        exact List.mem_append_left _ hmem
      · rwa [hdir]
    rw [hjoin]
    refine ⟨?_, by simp⟩
    simp only [List.mem_append, List.mem_cons, not_or]
    exact ⟨hfrontNul, by decide, hname.noNul⟩

theorem checkPath_below {top : Path} {names : List String}
    (hnames : ∀ name ∈ names, IsFileName name) (h : checkPath top = .ok ()) :
    checkPath (top.below names) = .ok () := by
  induction names generalizing top with
  | nil => exact h
  | cons name names ih =>
    rw [Path.below_cons]
    apply ih (fun other hother => hnames other (List.mem_cons_of_mem _ hother))
    exact checkPath_join (hnames name List.mem_cons_self) h

/-- The path of a file below a directory leads to the file. -/
theorem place?_below {w : Workspace} {top : Path} {place names : List String} {e found : Entry}
    (hnames : ∀ name ∈ names, IsFileName name) (htop : w.locate top = .ok (place, e))
    (hfound : w.tree.find? (place ++ names) = some found) :
    w.place? (top.below names) = some (place ++ names) := by
  have hentry : ∀ name ∈ names, Path.IsEntryName name :=
    fun name hname => (hnames name hname).toIsEntryName
  obtain ⟨-, hfollow, hplace, hslash⟩ := opened_of_locate htop
  have hcheck : checkPath top = .ok () := checkPath_of_checkOpened (reach_of_locate htop).1
  have hreached : w.follow (w.start (top.below names)) (segments (top.below names)) =
      .ok (place ++ names) := by
    rw [Path.start_below hentry, Path.segments_below hentry, follow_append, hfollow]
    exact follow_of_find? hnames hfound
  have hend : (endsInSlash (top.below names) && !found.isDir) = false := by
    by_cases hne : names = []
    · subst hne
      rw [List.append_nil, hplace] at hfound
      obtain rfl := Option.some.inj hfound
      cases hdir : e.isDir with
      | true => simp
      | false =>
        have htopSlash := hslash hdir
        simp only [Path.below, List.foldl_nil, htopSlash, Bool.false_and]
    · rw [Path.endsInSlash_below hentry top hne, Bool.false_and]
  unfold place? reach
  rw [checkPath_below hnames hcheck, hreached]
  simp only [hfound, hend, Bool.false_eq_true, if_false]

/-- A path names a place only if something stands there. -/
theorem exists_find?_of_place? {w : Workspace} {p : Path} {place : List String}
    (h : w.place? p = some place) : ∃ e, w.tree.find? place = some e := by
  unfold place? reach at h
  grind

/-- Different places have different absolute paths. -/
theorem absolute_inj {place other : List String} (hplace : ∀ name ∈ place, IsFileName name)
    (hother : ∀ name ∈ other, IsFileName name)
    (h : (absolute place).components = (absolute other).components) : place = other := by
  have hplaceEntry : ∀ name ∈ place, Path.IsEntryName name :=
    fun name hname => (hplace name hname).toIsEntryName
  have hotherEntry : ∀ name ∈ other, Path.IsEntryName name :=
    fun name hname => (hother name hname).toIsEntryName
  rw [absolute_eq_below hplaceEntry, absolute_eq_below hotherEntry] at h
  exact Path.below_inj hplaceEntry hotherEntry h

end Workspace

end SpecScaffold
