import SpecScaffold.Proofs.Code.Imports
import SpecScaffold.Proofs.Code.Receivers
import SpecScaffold.Proofs.Source.Caret

/-!
# What tests import from their source

Tests of a whole file import the first class that has a name or, in a file without such a class, the
functions that are exported, each once.  Of these only the functions are asked whether they are
exported:

    imported_names_exported_iff : all names of an import are exported exactly if the first class
      that has a name, where there is one, shares the name with an exported declaration
-/

namespace SpecScaffold

theorem nodup_eraseDups (names : List String) : names.eraseDups.Nodup := by
  match names with
  | [] => exact List.nodup_nil
  | name :: names =>
    rw [List.eraseDups_cons, List.nodup_cons]
    constructor
    · intro hmem
      have hother := (List.mem_filter.1 (List.mem_eraseDups.1 hmem)).2
      simp at hother
    · exact nodup_eraseDups _
termination_by names.length
decreasing_by exact Nat.lt_succ_of_le (List.length_filter_le _ _)

namespace Source

variable {src : Source}

/-! ## Exported declarations -/

/-- A declaration of one of the kinds that stands right after `export` has this name. -/
def Exports (src : Source) (kinds : List DeclarationKind) (name : String) : Prop :=
  ∃ s ∈ src.declarations kinds src.top, s.isExported = true ∧ src.nameOf? s.node = some name

instance (src : Source) (kinds : List DeclarationKind) (name : String) :
    Decidable (src.Exports kinds name) :=
  inferInstanceAs (Decidable (∃ s ∈ src.declarations kinds src.top, _))

theorem Exports.mono {kinds more : List DeclarationKind} {name : String}
    (h : src.Exports kinds name) (hsub : kinds ⊆ more) : src.Exports more name := by
  obtain ⟨s, hs, hexported, hname⟩ := h
  obtain ⟨hin, hkind⟩ := List.mem_filter.1 hs
  exact ⟨s, List.mem_filter.2 ⟨hin, isOf_mono hsub hkind⟩, hexported, hname⟩

/-- A function can be seen from outside if it is exported and not private. -/
theorem isVisible_function_iff {s : Site} (h : src.kindOf? s = some .function) :
    src.isVisible s = true ↔
      src.hasKeyword s.node "private" = false ∧ s.isExported = true := by
  rw [isVisible, h, Bool.and_eq_true, Bool.not_eq_true']

theorem mem_exportedFunctions_iff {name : String} :
    name ∈ src.exportedFunctions ↔
      ∃ s ∈ src.declarations [.function] src.top, s.isExported = true ∧
        src.hasKeyword s.node "private" = false ∧ src.nameOf? s.node = some name := by
  have hvisible : ∀ s ∈ src.declarations [.function] src.top, src.isVisible s = true ↔
      src.hasKeyword s.node "private" = false ∧ s.isExported = true := by
    intro s hs
    obtain ⟨k, hk, hkind⟩ := isOf_iff.1 (List.mem_filter.1 hs).2
    rw [List.mem_singleton.1 hk] at hkind
    exact isVisible_function_iff hkind
  rw [exportedFunctions, List.mem_eraseDups, List.mem_filterMap]
  constructor
  · rintro ⟨s, hs, hname⟩
    obtain ⟨hin, hseen⟩ := List.mem_filter.1 hs
    obtain ⟨hprivate, hexported⟩ := (hvisible s hin).1 hseen
    exact ⟨s, hin, hexported, hprivate, hname⟩
  · rintro ⟨s, hin, hexported, hprivate, hname⟩
    exact ⟨s, List.mem_filter.2 ⟨hin, (hvisible s hin).2 ⟨hprivate, hexported⟩⟩, hname⟩

theorem exports_of_mem_exportedFunctions {name : String} (h : name ∈ src.exportedFunctions) :
    src.Exports [.function] name := by
  obtain ⟨s, hs, hexported, -, hname⟩ := mem_exportedFunctions_iff.1 h
  exact ⟨s, hs, hexported, hname⟩

/-! ## The first class -/

theorem FirstClass.className?_eq {first : Site} {later : List Site} {name : String}
    (h : src.FirstClass first later name) : src.className? = some name := by
  obtain ⟨earlier, hsplit, hnone⟩ := h.split
  exact List.findSome?_eq_some_iff.2 ⟨earlier, first, later, hsplit, h.name, hnone⟩

theorem FirstClass.exports {first : Site} {later : List Site} {name : String}
    (h : src.FirstClass first later name) (hexported : first.isExported = true) :
    src.Exports [.classDecl] name := by
  obtain ⟨earlier, hsplit, -⟩ := h.split
  refine ⟨first, ?_, hexported, h.name⟩
  rw [hsplit]
  exact List.mem_append_right _ List.mem_cons_self

end Source

/-! ## The import of a spec -/

namespace Command

theorem nodup_importedNames (src : Source) : (importedNames src).Nodup := by
  unfold importedNames
  split
  · exact List.nodup_singleton _
  · exact nodup_eraseDups _

/-- Where the first class shares its name with an exported declaration, or no class has a name, all
imported names are exported. -/
theorem forall_exports_importedNames_iff (src : Source) {kinds : List DeclarationKind}
    (hkinds : DeclarationKind.function ∈ kinds) :
    (∀ name ∈ importedNames src, src.Exports kinds name) ↔
      ∀ name, src.className? = some name → src.Exports kinds name := by
  unfold importedNames
  cases src.className? with
  | some cls => simp
  | none =>
    have hfunctions : ∀ name ∈ src.exportedFunctions, src.Exports kinds name := by
      intro name hname
      exact (Source.exports_of_mem_exportedFunctions hname).mono (by simpa using hkinds)
    simpa using hfunctions

end Command

/-- The import of a spec has every name once.  In a file without a class that has a name, these are
the names of the functions that are exported and not private.  In any other file it is the name of
the first class, exported or not; so all imported names are exported exactly if this one is. -/
theorem imported_names_exported_iff (src : Source) (source target : Path) (exportedOnly : Bool)
    (spec : Spec) (line : String)
    (hspec : Command.fileSpec src source target exportedOnly = .ok spec)
    (hline : spec.importLine? = some line) :
    ∃ names stem, source.stem? = some stem ∧
      line = localImport (commaList names) stem ∧
      spec.headerLines = [Suite.helpersImport.toList, line.toList] ∧
      names ≠ [] ∧ names.Nodup ∧
      (src.className? = none → ∀ name, name ∈ names ↔
        ∃ s ∈ src.declarations [.function] src.top, s.isExported = true ∧
          src.hasKeyword s.node "private" = false ∧ src.nameOf? s.node = some name) ∧
      (∀ first later name, src.FirstClass first later name → names = [name] ∧
        (first.isExported = true → src.Exports [.classDecl, .function] name)) ∧
      ((∀ name ∈ names, src.Exports [.classDecl, .function] name) ↔
        ∀ first later name, src.FirstClass first later name →
          src.Exports [.classDecl, .function] name) := by
  obtain ⟨stem, hstem, hne, rfl⟩ := Command.fileSpec_importLine? hspec hline
  refine ⟨Command.importedNames src, stem, hstem, rfl, ?_, hne, Command.nodup_importedNames src,
    ?_, ?_, ?_⟩
  · have hlocal : spec.toSuite.ImportsLocally := by
      intro other hother
      obtain rfl := Option.some.inj (hline.symm.trans hother)
      exact ⟨_, _, rfl⟩
    rw [Suite.headerLines_eq hlocal, hline]
    rfl
  · intro hnone name
    rw [Command.importedNames, hnone]
    exact Source.mem_exportedFunctions_iff
  · intro first later name hfirst
    refine ⟨?_, fun hexported => (hfirst.exports hexported).mono (by simp)⟩
    rw [Command.importedNames, hfirst.className?_eq]
  · rw [Command.forall_exports_importedNames_iff src (by simp)]
    constructor
    · intro hclass first later name hfirst
      exact hclass name hfirst.className?_eq
    · intro hclass name hname
      obtain ⟨first, later, hfirst⟩ := Source.exists_firstClass hname
      exact hclass first later name hfirst

/-- A class that is not exported. -/
def sampleHidden : Source :=
  let text := "class Hidden \x7b run() \x7b \x7d \x7d"
  ⟨text, Plain.parser .typeScript text⟩

/-- The class is imported, though nothing of its name is exported. -/
theorem sampleHidden_imports_hidden :
    (Command.fileSpec sampleHidden ⟨"a.ts"⟩ ⟨"a.spec.ts"⟩ false).toOption.map (·.importLine?) =
        some (some "import \x7b Hidden \x7d from './a';") ∧
      ¬ sampleHidden.Exports [.classDecl, .function] "Hidden" := by
  decide +kernel

/-- Two functions that are exported, one of them twice, and one that is not. -/
def sampleTwice : Source :=
  let text := "export function open() \x7b \x7d function hide() \x7b \x7d " ++
    "export function open() \x7b \x7d export function shut() \x7b \x7d"
  ⟨text, Plain.parser .typeScript text⟩

/-- The exported functions are imported, each once. -/
theorem sampleTwice_imports_exported :
    sampleTwice.className? = none ∧
      ∃ spec, Command.fileSpec sampleTwice ⟨"a.ts"⟩ ⟨"a.spec.ts"⟩ false = .ok spec ∧
        spec.importLine? = some "import \x7b open, shut \x7d from './a';" ∧
        ∃ names, "import \x7b open, shut \x7d from './a';" = localImport (commaList names) "a" ∧
          names.Nodup ∧ ∀ name ∈ names, sampleTwice.Exports [.classDecl, .function] name := by
  have hclass : sampleTwice.className? = none := by decide +kernel
  have hsome : (Command.fileSpec sampleTwice ⟨"a.ts"⟩ ⟨"a.spec.ts"⟩ false).toOption.map
      (·.importLine?) = some (some "import \x7b open, shut \x7d from './a';") := by
    decide +kernel
  obtain ⟨spec, hspec, hline⟩ := Option.map_eq_some_iff.1 hsome
  have hok : Command.fileSpec sampleTwice ⟨"a.ts"⟩ ⟨"a.spec.ts"⟩ false = .ok spec := by
    generalize Command.fileSpec sampleTwice ⟨"a.ts"⟩ ⟨"a.spec.ts"⟩ false = result at hspec
    cases result with
    | error e => cases hspec
    | ok found => exact congrArg Except.ok (Option.some.inj hspec)
  obtain ⟨names, stem, hstem, hnames, -, -, hnodup, -, -, hexported⟩ :=
    imported_names_exported_iff sampleTwice ⟨"a.ts"⟩ ⟨"a.spec.ts"⟩ false spec _ hok hline
  have ha : (⟨"a.ts"⟩ : Path).stem? = some "a" := by decide +kernel
  obtain rfl : "a" = stem := Option.some.inj (ha.symm.trans hstem)
  refine ⟨hclass, spec, hok, hline, names, hnames, hnodup, hexported.2 ?_⟩
  intro first later name hfirst
  rw [hfirst.className?_eq] at hclass
  cases hclass

end SpecScaffold
