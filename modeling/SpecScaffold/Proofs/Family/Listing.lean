import Mathlib.Data.List.Infix
import SpecScaffold.Proofs.Family.Symmetry
import SpecScaffold.Proofs.Path.Order
import SpecScaffold.Proofs.Workspace.Tree

/-!
# What a family consists of

A family is listed by walking through everything at and below a directory.  An excluded directory is
not entered, so a file is passed by if anything on the way to it is excluded, and for no other
reason.  Two files that are met have different paths, so that sorting loses none of them:

    mem_named_iff : the members are the files at and below the top with a name of the family and
      with nothing excluded on the way
    listing_exact : the same for the whole function, with its arguments read
-/

namespace SpecScaffold

/-- A file stands where the names lead to from `top`. -/
def Workspace.FileBelow (w : Workspace) (top : Path) (names : List String) : Prop :=
  ∃ place e content, w.locate top = .ok (place, e) ∧
    w.tree.find? (place ++ names) = some (.file content)

theorem Workspace.FileBelow.isEntryName {w : Workspace} (hw : w.tree.WellFormed) {top : Path}
    {names : List String} (h : w.FileBelow top names) :
    ∀ name ∈ names, Path.IsEntryName name := by
  obtain ⟨place, e, content, -, hfound⟩ := h
  intro name hname
  exact ((hw.of_find? hfound).2 name (List.mem_append_right _ hname)).toIsEntryName

theorem Workspace.mem_files_iff {w : Workspace} (hw : w.tree.WellFormed) {top : Path}
    {excluded : Path → Bool} {p : Path} :
    p ∈ (w.files top excluded).map (·.path) ↔
      ∃ names, p = top.below names ∧ w.FileBelow top names ∧
        ∀ init, init <+: names → excluded (top.below init) = false := by
  unfold files FileBelow
  cases hlocate : w.locate top with
  | error e => simp
  | ok found =>
    obtain ⟨place, e⟩ := found
    obtain ⟨-, -, hplace, -⟩ := opened_of_locate hlocate
    have hdown : ∀ names, w.tree.find? (place ++ names) = e.find? names := by
      intro names
      rw [Entry.find?_append, hplace, Option.bind_some]
    have he : e.WellFormed := (hw.of_find? hplace).1
    rw [List.mem_map]
    constructor
    · rintro ⟨met, hmet, rfl⟩
      obtain ⟨names, content, hfind, rfl, hkept⟩ := he.mem_files_iff.1 hmet
      exact ⟨names, rfl, ⟨place, e, content, rfl, by rw [hdown, hfind]⟩, hkept⟩
    · rintro ⟨names, rfl, ⟨place', e', content, hsame, hfind⟩, hkept⟩
      obtain ⟨rfl, rfl⟩ := Prod.mk.inj (Except.ok.inj hsame)
      rw [hdown] at hfind
      exact ⟨_, he.mem_files_iff.2 ⟨names, content, hfind, rfl, hkept⟩, rfl⟩

namespace Path

/-- Where no two paths are the same, sorting keeps all of them. -/
theorem mem_sorted_iff {ps : List Path} {p : Path}
    (h : ∀ q ∈ ps, q.components = p.components → p ∈ ps → q = p) : p ∈ sorted ps ↔ p ∈ ps := by
  refine ⟨mem_of_mem_sorted, fun hp => ?_⟩
  obtain ⟨q, hq, hsame⟩ := exists_same_mem_sorted hp
  have hqp := h q (mem_of_mem_sorted hq) (same_iff.1 hsame) hp
  rwa [← hqp]

end Path

namespace Family

/-! ## Exclusion -/

/-- A text that is read as a pattern, and not as one that nests too deeply. -/
def IsExclude (text : String) : Prop :=
  ∃ pattern, Glob.Pattern.read text = .ok pattern ∧ pattern.isTooDeep = false

/-- The pattern that is read from a text matches a path. -/
def Excludes (text : String) (p : Path) : Prop :=
  ∃ pattern, Glob.Pattern.read text = .ok pattern ∧ pattern.isMatch p.text = true

/-- The pattern of each text is read, in the order of the texts. -/
theorem exists_readPatterns {texts : List String} (h : ∀ text ∈ texts, IsExclude text) :
    ∃ patterns, readPatterns texts = .ok patterns ∧
      (∀ pattern ∈ patterns, pattern.isTooDeep = false) ∧
      ∀ p, isExcluded patterns p = true ↔ ∃ text ∈ texts, Excludes text p := by
  induction texts with
  | nil => exact ⟨[], rfl, by simp, by simp [isExcluded]⟩
  | cons text texts ih =>
    obtain ⟨pattern, hread, hdeep⟩ := h text List.mem_cons_self
    obtain ⟨patterns, hpatterns, hdeeps, hmatch⟩ :=
      ih fun other hother => h other (List.mem_cons_of_mem _ hother)
    refine ⟨pattern :: patterns, ?_, ?_, fun p => ?_⟩
    · rw [readPatterns, hread, hpatterns]
      rfl
    · intro other hother
      rcases List.mem_cons.1 hother with rfl | hother
      · exact hdeep
      · exact hdeeps other hother
    · have hfirst : pattern.isMatch p.text = true ↔ Excludes text p := by
        constructor
        · intro hp
          exact ⟨pattern, hread, hp⟩
        · rintro ⟨found, hfound, hp⟩
          obtain rfl := Except.ok.inj (hread.symm.trans hfound)
          exact hp
      have hrest := hmatch p
      unfold isExcluded at hrest ⊢
      rw [List.any_cons, Bool.or_eq_true, hfirst, hrest]
      simp

theorem exists_excludeSet {exclude : List String} (h : ∀ text ∈ exclude, IsExclude text) :
    ∃ patterns, excludeSet exclude = .ok patterns ∧
      ∀ p, isExcluded patterns p = false ↔ ∀ text ∈ exclude, ¬Excludes text p := by
  obtain ⟨patterns, hread, hdeep, hmatch⟩ := exists_readPatterns h
  have hnone : ¬patterns.any Glob.Pattern.isTooDeep = true := by
    rw [List.any_eq_true]
    rintro ⟨pattern, hmem, htoo⟩
    rw [hdeep pattern hmem] at htoo
    cases htoo
  refine ⟨patterns, ?_, fun p => ?_⟩
  · unfold excludeSet
    rw [hread]
    exact if_neg hnone
  · rw [Bool.eq_false_iff, Ne, hmatch p]
    simp

theorem exists_mem_of_readPatterns {texts : List String} {patterns : List Glob.Pattern}
    (h : readPatterns texts = .ok patterns) {text : String} (hmem : text ∈ texts) :
    ∃ pattern ∈ patterns, Glob.Pattern.read text = .ok pattern := by
  induction texts generalizing patterns with
  | nil => cases hmem
  | cons first texts ih =>
    rw [readPatterns] at h
    cases hread : Glob.Pattern.read first with
    | error e =>
      rw [hread] at h
      cases h
    | ok pattern =>
      rw [hread] at h
      cases hrest : readPatterns texts with
      | error e =>
        rw [hrest] at h
        cases h
      | ok rest =>
        rw [hrest] at h
        obtain rfl : pattern :: rest = patterns := Except.ok.inj h
        rcases List.mem_cons.1 hmem with rfl | hmem
        · exact ⟨pattern, List.mem_cons_self, hread⟩
        · obtain ⟨found, hfound, hreadText⟩ := ih hrest hmem
          exact ⟨found, List.mem_cons_of_mem _ hfound, hreadText⟩

/-- Texts are taken for what is to be left out only if each of them can be. -/
theorem exists_excludeSet_iff {exclude : List String} :
    (∃ patterns, excludeSet exclude = .ok patterns) ↔ ∀ text ∈ exclude, IsExclude text := by
  constructor
  · rintro ⟨patterns, h⟩ text hmem
    unfold excludeSet at h
    split at h
    · cases h
    · next read hread =>
      split at h
      · cases h
      · next hdeep =>
        obtain ⟨pattern, hpattern, hreadText⟩ := exists_mem_of_readPatterns hread hmem
        refine ⟨pattern, hreadText, ?_⟩
        exact Bool.eq_false_iff.2 fun htoo => hdeep (List.any_eq_true.2 ⟨pattern, hpattern, htoo⟩)
  · intro h
    obtain ⟨patterns, hpatterns, -⟩ := exists_excludeSet h
    exact ⟨patterns, hpatterns⟩

/-- A family is listed for every file name, if what is to be left out can be read. -/
theorem exists_members_iff (w : Workspace) (config : Config) (top current : Path)
    (exclude : List String) :
    (∃ family, members w config top current exclude = .ok family) ↔
      current.fileName? ≠ none ∧ ∀ text ∈ exclude, IsExclude text := by
  rw [← exists_excludeSet_iff]
  simp only [members_eq_ok_iff, Path.stem?]
  cases current.fileName? <;> simp

/-! ## The listing -/

section

variable {w : Workspace} (hw : w.tree.WellFormed) {config : Config} {top p : Path}
  {patterns : List Glob.Pattern} {base extension : String}

include hw

/-- The files at and below the top with a name of the family, before they are sorted. -/
theorem mem_found_iff :
    p ∈ (((w.files top (isExcluded patterns)).filter fun found =>
        (memberNames config base extension).contains found.name).map (·.path)) ↔
      ∃ names, p = top.below names ∧ w.FileBelow top names ∧
        (∃ suffix ∈ "" :: config.specSuffixes,
          p.fileName? = some (base ++ suffix ++ extension)) ∧
        ∀ init, init <+: names → isExcluded patterns (top.below init) = false := by
  have hname : ∀ found ∈ w.files top (isExcluded patterns),
      (memberNames config base extension).contains found.name = true ↔
        ∃ suffix ∈ "" :: config.specSuffixes,
          found.path.fileName? = some (base ++ suffix ++ extension) := by
    intro found hfound
    rw [List.contains_iff_mem, mem_memberNames,
      Workspace.fileName?_of_mem_files hw.properNames hfound]
    simp only [Option.some.injEq]
  constructor
  · intro hp
    obtain ⟨found, hfound, rfl⟩ := List.mem_map.1 hp
    obtain ⟨hfiles, hcontains⟩ := List.mem_filter.1 hfound
    obtain ⟨names, hpath, hfile, hkept⟩ :=
      (Workspace.mem_files_iff hw).1 (List.mem_map_of_mem hfiles)
    exact ⟨names, hpath, hfile, (hname found hfiles).1 hcontains, hkept⟩
  · rintro ⟨names, hpath, hfile, hsuffix, hkept⟩
    obtain ⟨found, hfiles, rfl⟩ :=
      List.mem_map.1 ((Workspace.mem_files_iff hw).2 ⟨names, hpath, hfile, hkept⟩)
    exact List.mem_map_of_mem (List.mem_filter.2 ⟨hfiles, (hname found hfiles).2 hsuffix⟩)

theorem mem_named_iff :
    p ∈ named w config top patterns base extension ↔
      ∃ names, p = top.below names ∧ w.FileBelow top names ∧
        (∃ suffix ∈ "" :: config.specSuffixes,
          p.fileName? = some (base ++ suffix ++ extension)) ∧
        ∀ init, init <+: names → isExcluded patterns (top.below init) = false := by
  unfold named
  rw [Path.mem_sorted_iff, mem_found_iff hw]
  intro q hq hsame hp
  obtain ⟨others, rfl, hother, -⟩ := (mem_found_iff hw).1 hq
  obtain ⟨names, rfl, hfile, -⟩ := (mem_found_iff hw).1 hp
  rw [Path.below_inj (hother.isEntryName hw) (hfile.isEntryName hw) hsame]

end

/-- The listing of a family is exact.  For a file with a stem and texts that can be used to exclude
something, the family consists of the files at and below the top whose name is the base and the
extension, with one of the suffixes between them or without, such that nothing is excluded from the
top down to the file; and these stand strictly in order. -/
theorem listing_exact (w : Workspace) (hw : w.tree.WellFormed) (config : Config)
    (top current : Path) (stem : String) (hstem : current.stem? = some stem)
    (exclude : List String) (hexclude : ∀ text ∈ exclude, IsExclude text) :
    ∃ family, members w config top current exclude = .ok family ∧
      (∀ p, p ∈ family ↔
        ∃ names, p = top.below names ∧ w.FileBelow top names ∧
          (∃ suffix ∈ "" :: config.specSuffixes,
            p.fileName? = some (base config stem ++ suffix ++ current.dottedExtension)) ∧
          ∀ init, init <+: names → ∀ text ∈ exclude, ¬Excludes text (top.below init)) ∧
      family.Pairwise Path.Before ∧ (family.map Path.components).Nodup := by
  obtain ⟨patterns, hpatterns, hkept⟩ := exists_excludeSet hexclude
  have hpairwise : (named w config top patterns (base config stem)
      current.dottedExtension).Pairwise Path.Before := Path.pairwise_sorted _
  refine ⟨_, members_eq_ok_iff.2 ⟨stem, patterns, hstem, hpatterns, rfl⟩, fun p => ?_, hpairwise,
    Path.nodup_components_of_pairwise hpairwise⟩
  simp only [mem_named_iff hw, hkept]

/-- A source with its test in a directory, and a file of the same name in one that is excluded. -/
def sampleProject : Workspace :=
  ⟨.dir [("node_modules", .dir [("foo.ts", .file (.text ""))]),
    ("src", .dir [("bar.ts", .file (.text "")), ("foo.ts", .file (.text "")),
      ("foo.spec.ts", .file (.text ""))])], []⟩

theorem sampleProject_wellFormed : sampleProject.tree.WellFormed := by
  refine .dir (by decide) (by decide) ?_
  simp only [List.forall_mem_cons, List.not_mem_nil, false_implies, implies_true, and_true]
  refine ⟨.dir (by decide) (by decide) ?_, .dir (by decide) (by decide) ?_⟩
  · simpa using Entry.WellFormed.file (.text "")
  · simpa using Entry.WellFormed.file (.text "")

/-- The source is listed for its test, and the file in the excluded directory is not. -/
theorem sampleProject_listing :
    ∃ family, members sampleProject {} ⟨"."⟩ ⟨"src/foo.spec.ts"⟩ ["**/node_modules"] =
        .ok family ∧
      ⟨"./src/foo.ts"⟩ ∈ family ∧ ⟨"./node_modules/foo.ts"⟩ ∉ family ∧
      family.Pairwise Path.Before := by
  have hexclude : ∀ text ∈ ["**/node_modules"], IsExclude text := by
    intro text htext
    obtain rfl := List.mem_singleton.1 htext
    exact ⟨_, rfl, by decide +kernel⟩
  obtain ⟨family, hfamily, hmem, horder, -⟩ := listing_exact sampleProject
    sampleProject_wellFormed {} ⟨"."⟩ ⟨"src/foo.spec.ts"⟩ "foo.spec" rfl _ hexclude
  refine ⟨family, hfamily, (hmem _).2 ?_, fun hlisted => ?_, horder⟩
  · refine ⟨["src", "foo.ts"], rfl, ⟨[], _, _, rfl, rfl⟩, ⟨"", by simp, by decide +kernel⟩, ?_⟩
    intro init hinit text htext
    obtain rfl := List.mem_singleton.1 htext
    rintro ⟨pattern, hread, hmatch⟩
    obtain rfl := Except.ok.inj hread
    revert hmatch
    rw [← List.mem_inits] at hinit
    revert init
    decide +kernel
  · obtain ⟨names, hp, hfile, -, hkept⟩ := (hmem _).1 hlisted
    have hnames : names = ["node_modules", "foo.ts"] := by
      apply Path.below_inj (hfile.isEntryName sampleProject_wellFormed) _ (congrArg _ hp.symm)
      intro name hname
      exact (show Workspace.IsFileName name by revert name; decide).toIsEntryName
    refine hkept ["node_modules"] (by rw [hnames]; simp) _ List.mem_cons_self ?_
    exact ⟨_, rfl, by decide +kernel⟩

end Family

end SpecScaffold
