import Mathlib.Logic.Relation
import SpecScaffold.Proofs.Config
import SpecScaffold.Proofs.Workspace.Walk

/-!
# The family of a member

A family is listed from the name of a file: the name is cut into a base, a suffix and an extension,
and every suffix is put between base and extension.  A member is listed under the family again when
its own name is cut where it was put together (`KeepsCut`), and so are all files that one can switch
to from it:

    members_of_mem            : the family of a member that keeps its cut is the family
    members_of_reflTransGen   : so is the family of whatever one gets to by switching
    keepsCut_of_unrelated     : every name keeps its cut if no suffix ends in another, and the base
                                in none
-/

namespace SpecScaffold

open Text

/-! ## Endings -/

theorem Text.dropEnding?_eq_some_iff {ending cs rest : List Char} :
    dropEnding? ending cs = some rest ↔ cs = rest ++ ending := by
  unfold dropEnding?
  constructor
  · intro h
    split at h
    · next hsuffix =>
      obtain ⟨front, rfl⟩ := List.isSuffixOf_iff_suffix.1 hsuffix
      obtain rfl := Option.some.inj h
      simp
    · cases h
  · rintro rfl
    rw [if_pos (List.isSuffixOf_iff_suffix.2 (List.suffix_append rest ending))]
    simp

theorem Text.dropEnding?_eq_none_iff {ending cs : List Char} :
    dropEnding? ending cs = none ↔ ¬ending <:+ cs := by
  unfold dropEnding?
  rw [← List.isSuffixOf_iff_suffix]
  split <;> simp_all

/-! ## Sorting -/

namespace Path

theorem dropRepeatsAfter_sublist (last : Path) (ps : List Path) :
    (dropRepeats.dropRepeatsAfter last ps).Sublist ps := by
  induction ps generalizing last with
  | nil => exact List.Sublist.refl []
  | cons p ps ih =>
    rw [dropRepeats.dropRepeatsAfter]
    split
    · exact (ih last).cons p
    · exact (ih p).cons_cons p

theorem mem_of_mem_sorted {p : Path} {ps : List Path} (h : p ∈ sorted ps) : p ∈ ps := by
  unfold sorted at h
  refine (List.mergeSort_perm ps Path.le).subset ?_
  cases hsorted : ps.mergeSort Path.le with
  | nil =>
    rw [hsorted] at h
    cases h
  | cons first rest =>
    rw [hsorted] at h
    exact ((dropRepeatsAfter_sublist first rest).cons_cons first).subset h

/-! ## Names put together -/

theorem dottedExtension_cases (p : Path) :
    p.dottedExtension = "" ∨
      ∃ extension : String, '.' ∉ extension.toList ∧ p.dottedExtension = "." ++ extension := by
  unfold dottedExtension extension?
  cases p.fileName? with
  | none => exact .inl rfl
  | some name =>
    rcases splitName_cases name with ⟨hsplit, -⟩ | ⟨stem, extension, hsplit, -, hdot, -⟩
    · simp only [Option.bind_some, hsplit]
      exact .inl trivial
    · simp only [Option.bind_some, hsplit]
      exact .inr ⟨extension, hdot, rfl⟩

/-- Whether a stem and an extension, dot included, are what their concatenation is cut into. -/
def Splits (stem extension : String) : Prop :=
  if extension = "" then '.' ∉ stem.toList.tail else stem ≠ ""

instance (stem extension : String) : Decidable (Splits stem extension) :=
  inferInstanceAs (Decidable (if extension = "" then '.' ∉ stem.toList.tail else stem ≠ ""))

theorem stem?_of_splits {p g : Path} {stem : String}
    (hname : g.fileName? = some (stem ++ p.dottedExtension))
    (hsplits : Splits stem p.dottedExtension) :
    g.stem? = some stem ∧ g.dottedExtension = p.dottedExtension := by
  unfold stem?
  rcases p.dottedExtension_cases with hempty | ⟨extension, hdot, hextension⟩
  · rw [hempty, String.append_empty] at hname
    rw [hempty, Splits, if_pos rfl] at hsplits
    have hcut := splitName_of_notMem hsplits
    rw [dottedExtension, extension?, hname, Option.map_some, hcut, hempty, Option.bind_some, hcut]
    exact ⟨rfl, rfl⟩
  · have hne : "." ++ extension ≠ "" := by
      rw [← String.toList_inj.ne]
      simp
    rw [hextension, Splits, if_neg hne] at hsplits
    rw [hextension, ← String.append_assoc] at hname
    have hcut := splitName_concat hsplits hdot
    rw [dottedExtension, extension?, hname, Option.map_some, hcut, hextension, Option.bind_some,
      hcut]
    exact ⟨rfl, rfl⟩

end Path

namespace Family

/-! ## Base and suffix of a stem -/

/-- The suffix that is cut off a stem: the first one that it ends in; empty if there is none. -/
def cut (config : Config) (stem : String) : String :=
  (config.specSuffixes.find? fun suffix => suffix.toList.isSuffixOf stem.toList).getD ""

theorem base_append_cut (config : Config) (stem : String) :
    base config stem ++ cut config stem = stem := by
  unfold base cut
  induction config.specSuffixes with
  | nil => exact String.append_empty
  | cons suffix suffixes ih =>
    rw [List.findSome?_cons, List.find?_cons]
    cases hdrop : dropEnding? suffix.toList stem.toList with
    | none =>
      have hnot : suffix.toList.isSuffixOf stem.toList = false := by
        rw [Bool.eq_false_iff, ne_eq, List.isSuffixOf_iff_suffix]
        exact dropEnding?_eq_none_iff.1 hdrop
      rw [hnot]
      exact ih
    | some rest =>
      have hstem := dropEnding?_eq_some_iff.1 hdrop
      have hends : suffix.toList.isSuffixOf stem.toList = true := by
        rw [List.isSuffixOf_iff_suffix, hstem]
        exact List.suffix_append rest suffix.toList
      rw [hends]
      show String.ofList rest ++ suffix = stem
      rw [← String.toList_inj]
      simp [hstem]

/-- Whether a name that is put together from a base, a suffix (or nothing) and an extension is cut
there again: the stem ends where the extension was added, and the first suffix that the stem ends in
is the one that was added. -/
def KeepsCut (config : Config) (base extension suffix : String) : Prop :=
  Path.Splits (base ++ suffix) extension ∧ cut config (base ++ suffix) = suffix

instance (config : Config) (base extension suffix : String) :
    Decidable (KeepsCut config base extension suffix) :=
  inferInstanceAs (Decidable (_ ∧ _))

theorem base_of_cut {config : Config} {front suffix : String}
    (h : cut config (front ++ suffix) = suffix) : base config (front ++ suffix) = front := by
  have hparts := base_append_cut config (front ++ suffix)
  rw [h] at hparts
  rw [← String.toList_inj] at hparts ⊢
  simpa using hparts

/-- All names of a family keep their cut if the base ends in no suffix and no suffix ends in another
one. -/
theorem keepsCut_of_unrelated {config : Config} {base extension : String} (hbase : base ≠ "")
    (hextension : extension ≠ "")
    (hends : ∀ suffix ∈ config.specSuffixes, ¬suffix.toList <:+ base.toList)
    (hunrelated : ∀ s ∈ config.specSuffixes, ∀ t ∈ config.specSuffixes,
      s.toList <:+ t.toList → s = t) :
    ∀ suffix ∈ "" :: config.specSuffixes, KeepsCut config base extension suffix := by
  intro suffix hsuffix
  have hne : base ++ suffix ≠ "" := by
    rw [← String.toList_inj.ne] at hbase ⊢
    simp_all
  refine ⟨by rwa [Path.Splits, if_neg hextension], ?_⟩
  unfold cut
  rcases List.mem_cons.1 hsuffix with rfl | hmem
  · have hnone : config.specSuffixes.find? (fun s => s.toList.isSuffixOf (base ++ "").toList) =
        none := by
      rw [List.find?_eq_none, String.append_empty]
      intro s hs
      rw [List.isSuffixOf_iff_suffix]
      exact hends s hs
    rw [hnone]
    rfl
  · cases hfind : config.specSuffixes.find? fun s =>
        s.toList.isSuffixOf (base ++ suffix).toList with
    | none =>
      rw [List.find?_eq_none] at hfind
      refine absurd ?_ (hfind suffix hmem)
      rw [List.isSuffixOf_iff_suffix, String.toList_append]
      exact List.suffix_append _ _
    | some first =>
      have hfirst := List.mem_of_find?_eq_some hfind
      have hin := List.find?_some hfind
      rw [List.isSuffixOf_iff_suffix, String.toList_append] at hin
      -- of two endings of one text, one is an ending of the other
      rcases List.suffix_or_suffix_of_suffix hin (List.suffix_append _ _) with hshort | hlong
      · exact hunrelated first hfirst suffix hmem hshort
      · exact (hunrelated suffix hmem first hfirst hlong).symm

/-! ## Listing -/

section Listing

variable {w : Workspace} {config : Config} {top f g : Path} {exclude : List String}
  {family : List Path}

/-- The files at and below `top` with the names of a family, in order. -/
def named (w : Workspace) (config : Config) (top : Path) (patterns : List Glob.Pattern)
    (base extension : String) : List Path :=
  Path.sorted (((w.files top (isExcluded patterns)).filter fun found =>
    (memberNames config base extension).contains found.name).map (·.path))

theorem members_eq_ok_iff :
    members w config top f exclude = .ok family ↔
      ∃ stem patterns, f.stem? = some stem ∧ excludeSet exclude = .ok patterns ∧
        family = named w config top patterns (base config stem) f.dottedExtension := by
  unfold members
  cases f.stem? with
  | none => simp
  | some stem =>
    cases excludeSet exclude with
    | error e => simp
    | ok patterns => simp [named, eq_comm]

theorem mem_memberNames {base extension name : String} :
    name ∈ memberNames config base extension ↔
      ∃ suffix ∈ "" :: config.specSuffixes, name = base ++ suffix ++ extension := by
  unfold memberNames
  constructor
  · intro h
    rcases List.mem_cons.1 h with rfl | hsuffix
    · exact ⟨"", List.mem_cons_self, by rw [String.append_empty]⟩
    · obtain ⟨suffix, hmem, rfl⟩ := List.mem_map.1 hsuffix
      exact ⟨suffix, List.mem_cons_of_mem _ hmem, rfl⟩
  · rintro ⟨suffix, hmem, rfl⟩
    rcases List.mem_cons.1 hmem with rfl | hsuffix
    · rw [String.append_empty]
      exact List.mem_cons_self
    · exact List.mem_cons_of_mem _ (List.mem_map_of_mem hsuffix)

/-- A listed file has one of the names of the family. -/
theorem exists_suffix_of_mem_named (hw : w.tree.ProperNames) {patterns : List Glob.Pattern}
    {base extension : String} (h : g ∈ named w config top patterns base extension) :
    ∃ suffix ∈ "" :: config.specSuffixes, g.fileName? = some (base ++ suffix ++ extension) := by
  obtain ⟨found, hfound, rfl⟩ := List.mem_map.1 (Path.mem_of_mem_sorted h)
  obtain ⟨hfiles, hname⟩ := List.mem_filter.1 hfound
  rw [List.contains_iff_mem, mem_memberNames] at hname
  obtain ⟨suffix, hsuffix, hname⟩ := hname
  exact ⟨suffix, hsuffix, by rw [Workspace.fileName?_of_mem_files hw hfiles, hname]⟩

theorem exists_members {patterns : List Glob.Pattern} {name : String}
    (hpatterns : excludeSet exclude = .ok patterns) (hname : g.fileName? = some name) :
    ∃ own, members w config top g exclude = .ok own :=
  ⟨_, members_eq_ok_iff.2 ⟨_, patterns, by rw [Path.stem?, hname, Option.map_some], hpatterns, rfl⟩⟩

/-- A member has a name of the family, and is in a family of its own; that is the same one if the
name keeps its cut. -/
theorem members_of_mem (hw : w.tree.ProperNames) {stem : String} (hstem : f.stem? = some stem)
    (h : members w config top f exclude = .ok family) (hg : g ∈ family) :
    ∃ suffix ∈ "" :: config.specSuffixes,
      g.fileName? = some (base config stem ++ suffix ++ f.dottedExtension) ∧
      (∃ own, members w config top g exclude = .ok own) ∧
      (KeepsCut config (base config stem) f.dottedExtension suffix →
        members w config top g exclude = .ok family) := by
  obtain ⟨stem', patterns, hstem', hpatterns, rfl⟩ := members_eq_ok_iff.1 h
  obtain rfl : stem = stem' := Option.some.inj (hstem.symm.trans hstem')
  obtain ⟨suffix, hsuffix, hname⟩ := exists_suffix_of_mem_named hw hg
  refine ⟨suffix, hsuffix, hname, exists_members hpatterns hname, ?_⟩
  rintro ⟨hsplits, hcut⟩
  obtain ⟨hstemG, hextensionG⟩ := Path.stem?_of_splits hname hsplits
  refine members_eq_ok_iff.2 ⟨_, patterns, hstemG, hpatterns, ?_⟩
  rw [base_of_cut hcut, hextensionG]

theorem mem_of_next? {current next : Path} (h : next? w family current = some next) :
    next ∈ family := by
  unfold next? at h
  split at h
  · cases h
  · split at h
    · exact List.mem_of_getElem? h
    · exact List.mem_of_head? h

end Listing

/-! ## Switching -/

/-- The arguments of a switch from a file, the others being the same for every file. -/
def switchFrom (others : List (String × Json)) (p : Path) : Json :=
  .obj (("file_path", .str p.text) :: others)

/-- One switch leads from `p` to `q`. -/
def Switches (defaults : Config) (others : List (String × Json)) (w : Workspace) (p q : Path) :
    Prop :=
  ∃ family, Tool.toggle defaults (switchFrom others p) w =
    .ok (Tool.toggleResult p (some q) family)

/-- The other arguments of a switch ask for a family with this configuration, below a fixed
directory, and without what is excluded. -/
structure AsksFor (defaults : Config) (others : List (String × Json)) (config : Config) (top : Path)
    (exclude : List String) : Prop where
  config_eq : Tool.effectiveConfig defaults (.obj others) = config
  top_eq : ((Json.obj others).field "root").str? = some top.text
  exclude_eq : ((Json.obj others).field "exclude").someStrings?.getD Tool.skippedByDefault = exclude

section Switching

variable {w : Workspace} {defaults config : Config} {others : List (String × Json)}
  {top p q : Path} {exclude : List String} {family : List Path}

theorem field_switchFrom {key : String} (h : (key == "file_path") = false) :
    (switchFrom others p).field key = (Json.obj others).field key := by
  simp only [switchFrom, Json.field, List.lookup_cons, h]

theorem text_ne_empty_of_members (h : members w config top p exclude = .ok family) :
    p.text ≠ "" := by
  obtain ⟨stem, patterns, hstem, -, -⟩ := members_eq_ok_iff.1 h
  intro hempty
  obtain rfl : p = ⟨""⟩ := by
    cases p
    exact congrArg Path.mk hempty
  cases hstem

/-- A switch answers with the family of the file, and with the member after it. -/
theorem toggle_eq_of_members (hasks : AsksFor defaults others config top exclude)
    (h : members w config top p exclude = .ok family) :
    Tool.toggle defaults (switchFrom others p) w =
      .ok (Tool.toggleResult p (next? w family p) family) := by
  have hpath : Tool.filePath (switchFrom others p) = .ok p :=
    Tool.filePath_eq_ok_iff.2 ⟨rfl, text_ne_empty_of_members h⟩
  have hconfig : Tool.effectiveConfig defaults (switchFrom others p) = config := by
    rw [← hasks.config_eq]
    unfold Tool.effectiveConfig
    rw [field_switchFrom rfl, field_switchFrom rfl]
  unfold Tool.toggle
  rw [hpath]
  simp only [field_switchFrom (show ("root" == "file_path") = false from rfl),
    field_switchFrom (show ("exclude" == "file_path") = false from rfl), hasks.top_eq,
    hasks.exclude_eq, hconfig, Option.map_some, Option.getD_some, h]

theorem next?_of_switches (hasks : AsksFor defaults others config top exclude)
    (h : members w config top p exclude = .ok family) (hswitch : Switches defaults others w p q) :
    next? w family p = some q := by
  obtain ⟨found, hfound⟩ := hswitch
  rw [toggle_eq_of_members hasks h] at hfound
  have hresult := Except.ok.inj hfound
  simp only [Tool.toggleResult, Json.obj.injEq, List.cons_append, List.cons.injEq,
    Prod.mk.injEq] at hresult
  obtain ⟨-, ⟨-, hnext⟩, -⟩ := hresult
  cases hnext? : next? w family p with
  | none =>
    rw [hnext?] at hnext
    cases hnext
  | some next =>
    rw [hnext?] at hnext
    obtain ⟨text⟩ := next
    obtain ⟨text'⟩ := q
    obtain rfl := Json.str.inj hnext
    rfl

/-- If the members of a family are all listed under it, the family stays the same from switch to
switch. -/
theorem members_of_reflTransGen (hasks : AsksFor defaults others config top exclude)
    (hmembers : ∀ g ∈ family, members w config top g exclude = .ok family)
    (hp : members w config top p exclude = .ok family)
    (hrun : Relation.ReflTransGen (Switches defaults others w) p q) :
    members w config top q exclude = .ok family ∧ (q = p ∨ q ∈ family) := by
  induction hrun with
  | refl => exact ⟨hp, .inl rfl⟩
  | tail _ hswitch ih =>
    have hmem := mem_of_next? (next?_of_switches hasks ih.1 hswitch)
    exact ⟨hmembers _ hmem, .inr hmem⟩

end Switching

/-! ## Symmetry -/

/-- The members of a family are in one family, as far as their names keep their cut.  Each member
has the base of the family, a suffix or none, and the extension for its name, and a family can be
listed for it too; where the name keeps its cut, this is the same family.  Where that is so for
every member, all switches below one directory, one after the other, from the file or from any
member, answer with the family and lead to members of it. -/
theorem family_of_member (w : Workspace) (hw : w.tree.ProperNames) (config : Config)
    (top f : Path) (exclude : List String) (family : List Path)
    (h : members w config top f exclude = .ok family) :
    ∃ stem, f.stem? = some stem ∧
      (∀ g ∈ family, ∃ suffix ∈ "" :: config.specSuffixes,
        g.fileName? = some (base config stem ++ suffix ++ f.dottedExtension) ∧
        (∃ own, members w config top g exclude = .ok own) ∧
        (KeepsCut config (base config stem) f.dottedExtension suffix →
          members w config top g exclude = .ok family)) ∧
      ((∀ g ∈ family, ∀ suffix ∈ "" :: config.specSuffixes,
          g.fileName? = some (base config stem ++ suffix ++ f.dottedExtension) →
            KeepsCut config (base config stem) f.dottedExtension suffix) →
        ∀ defaults others, AsksFor defaults others config top exclude →
          ∀ p, p = f ∨ p ∈ family →
            ∀ q, Relation.ReflTransGen (Switches defaults others w) p q →
              (q = p ∨ q ∈ family) ∧
                Tool.toggle defaults (switchFrom others q) w =
                  .ok (Tool.toggleResult q (next? w family q) family)) := by
  obtain ⟨stem, -, hstem, -, -⟩ := members_eq_ok_iff.1 h
  refine ⟨stem, hstem, fun g hg => members_of_mem hw hstem h hg, ?_⟩
  intro hkeeps defaults others hasks p hp q hrun
  have hmembers : ∀ g ∈ family, members w config top g exclude = .ok family := by
    intro g hg
    obtain ⟨suffix, hsuffix, hname, -, hsame⟩ := members_of_mem hw hstem h hg
    exact hsame (hkeeps g hg suffix hsuffix hname)
  have hstart : members w config top p exclude = .ok family := by
    rcases hp with rfl | hp
    · exact h
    · exact hmembers p hp
  obtain ⟨hq, hmem⟩ := members_of_reflTransGen hasks hmembers hstart hrun
  exact ⟨hmem, toggle_eq_of_members hasks hq⟩

/-- A source with a test, and a test of that test. -/
def nestedSpecs : Workspace :=
  ⟨.dir [("foo.spec.spec.ts", .file (.text "")), ("foo.spec.ts", .file (.text "")),
    ("foo.ts", .file (.text ""))], []⟩

theorem nestedSpecs_properNames : nestedSpecs.tree.ProperNames := by
  refine .dir ?_ ?_
  · intro entry hentry
    simp only [List.mem_cons, List.not_mem_nil, or_false] at hentry
    rcases hentry with rfl | rfl | rfl <;> exact ⟨by decide, by decide, by decide, by decide⟩
  · intro entry hentry
    simp only [List.mem_cons, List.not_mem_nil, or_false] at hentry
    rcases hentry with rfl | rfl | rfl <;> exact .file _

/-- A listing of files that are met in order. -/
theorem members_of_pairwise {w : Workspace} {config : Config} {top f : Path}
    {exclude : List String} {stem : String} {patterns : List Glob.Pattern} {family : List Path}
    (hstem : f.stem? = some stem) (hpatterns : excludeSet exclude = .ok patterns)
    (hfound : ((w.files top (isExcluded patterns)).filter fun found =>
      (memberNames config (base config stem) f.dottedExtension).contains found.name).map
        (·.path) = family)
    (horder : family.Pairwise fun p q => Path.le p q = true)
    (honce : Path.dropRepeats family = family) :
    members w config top f exclude = .ok family := by
  refine members_eq_ok_iff.2 ⟨stem, patterns, hstem, hpatterns, ?_⟩
  rw [named, hfound, Path.sorted, List.mergeSort_of_pairwise horder, honce]

theorem members_nestedSpecs_foo :
    members nestedSpecs {} ⟨"."⟩ ⟨"foo.ts"⟩ [] = .ok [⟨"./foo.spec.ts"⟩, ⟨"./foo.ts"⟩] :=
  members_of_pairwise rfl rfl (by decide +kernel) (by decide +kernel) (by decide +kernel)

/-- From a source, switches go round the source and its test. -/
theorem family_of_foo_kept :
    (∃ stem, (⟨"foo.ts"⟩ : Path).stem? = some stem ∧
      ∀ suffix ∈ "" :: ({} : Config).specSuffixes, KeepsCut {} (base {} stem) ".ts" suffix) ∧
      ∀ q, Relation.ReflTransGen
          (Switches {} [("root", .str "."), ("exclude", .arr [])] nestedSpecs) ⟨"foo.ts"⟩ q →
        Tool.toggle {} (switchFrom [("root", .str "."), ("exclude", .arr [])] q) nestedSpecs =
          .ok (Tool.toggleResult q
            (next? nestedSpecs [⟨"./foo.spec.ts"⟩, ⟨"./foo.ts"⟩] q)
            [⟨"./foo.spec.ts"⟩, ⟨"./foo.ts"⟩]) := by
  obtain ⟨stem, hstem, -, hrun⟩ := family_of_member nestedSpecs nestedSpecs_properNames {} ⟨"."⟩
    ⟨"foo.ts"⟩ [] _ members_nestedSpecs_foo
  obtain rfl : "foo" = stem := Option.some.inj hstem
  have hkeeps : ∀ suffix ∈ "" :: ({} : Config).specSuffixes,
      KeepsCut {} (base {} "foo") ".ts" suffix :=
    keepsCut_of_unrelated (by decide) (by decide) (by decide) (by decide)
  exact ⟨⟨"foo", rfl, hkeeps⟩, fun q hq =>
    (hrun (fun _ _ suffix hsuffix _ => hkeeps suffix hsuffix) {} _ ⟨rfl, rfl, rfl⟩ _ (.inl rfl) q
      hq).2⟩

theorem members_nestedSpecs_foo_spec_spec :
    members nestedSpecs {} ⟨"."⟩ ⟨"foo.spec.spec.ts"⟩ [] =
      .ok [⟨"./foo.spec.spec.ts"⟩, ⟨"./foo.spec.ts"⟩] :=
  members_of_pairwise rfl rfl (by decide +kernel) (by decide +kernel) (by decide +kernel)

theorem members_nestedSpecs_foo_spec :
    members nestedSpecs {} ⟨"."⟩ ⟨"./foo.spec.ts"⟩ [] = .ok [⟨"./foo.spec.ts"⟩, ⟨"./foo.ts"⟩] :=
  members_of_pairwise rfl rfl (by decide +kernel) (by decide +kernel) (by decide +kernel)

/-- A test of a test has a family with the test, but the test has one with the source. -/
theorem family_of_test_of_test_not_symmetric :
    ¬∀ (w : Workspace) (config : Config) (top f : Path) (exclude : List String)
      (family : List Path), w.tree.ProperNames → members w config top f exclude = .ok family →
        ∀ g ∈ family, members w config top g exclude = .ok family := by
  intro hsymmetric
  have hsame := hsymmetric nestedSpecs {} ⟨"."⟩ ⟨"foo.spec.spec.ts"⟩ [] _ nestedSpecs_properNames
    members_nestedSpecs_foo_spec_spec ⟨"./foo.spec.ts"⟩ (by simp)
  rw [members_nestedSpecs_foo_spec] at hsame
  exact absurd hsame (by decide)

end Family

end SpecScaffold
