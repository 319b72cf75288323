import SpecScaffold.Proofs.Code.Imports
import SpecScaffold.Proofs.Session.Basic

/-!
# Imports in a test file

A test file can be written to many times: for single methods, for whole files, and from sources that
have changed in between.  Whatever the order, the import of the helpers gets into it with the first
code, and every other import with the first code that brings it:

    imports_exactly_once : in a file that was missing or blank when the session began, the import of
      the helpers and every import that a call has generated stand exactly once

One call is `ImportsOnce.step`, on the spec that `Tool.specFor?` says the call delivers.
-/

namespace SpecScaffold

open Text

/-! ## The spec of a call -/

namespace Command

/-- The target of a command, and the spec that goes there. -/
def specFor? (setting : Setting) (command : String) (config : Config) (source : Path)
    (specOf : Source → Path → Except Error Spec) (st : State) : Option (Path × Spec) :=
  match load setting.parser command config source st with
  | (.error _, _) => none
  | (.ok src, st) =>
    let target := Companion.target st.files config source
    match specOf src target with
    | .error _ => none
    | .ok spec => some (target, spec)

/-- A command that succeeds has inserted its spec into its target. -/
theorem exists_rewrites_of_done {setting : Setting} {command : String} {config : Config}
    {source : Path} {specOf : Source → Path → Except Error Spec} {st : State} {outcome : Outcome}
    (h : (generate setting command config source specOf st).1 = .done outcome) :
    ∃ target spec, specFor? setting command config source specOf st = some (target, spec) ∧
      ∃ place old new,
        (generate setting command config source specOf st).2.files.place? target = some place ∧
          st.files.Rewrites (generate setting command config source specOf st).2.files place old
            new ∧
          (planFor spec old).applyTo? old = some new := by
  have hfiles := load_files setting.parser command config source st
  unfold generate at h ⊢
  unfold specFor?
  rcases hload : load setting.parser command config source st with ⟨_ | src, loaded⟩
  · rw [hload] at h
    cases h
  · rw [hload] at h hfiles
    simp only at h hfiles ⊢
    cases hspec : specOf src (Companion.target loaded.files config source) with
    | error e =>
      rw [hspec] at h
      cases h
    | ok spec =>
      rw [hspec] at h
      refine ⟨_, spec, rfl, ?_⟩
      rcases deliver_cases setting.host command source
          (Companion.target loaded.files config source) spec loaded.files with
        ⟨e, he⟩ | ⟨w', dir, name, old, new, hwrites, hrewrites, happly, hdeliver⟩
      · simp only [he] at h
        cases h
      · simp only [hdeliver]
        refine ⟨dir ++ [name], old, new, ?_, hfiles ▸ hrewrites, happly⟩
        exact hwrites.place?_eq (Workspace.occupant?_eq_file_iff.1 hrewrites.after)

/-- What a command imports, if anything, is from the source beside the test file. -/
theorem importsLocally_of_specFor? {setting : Setting} {command : String} {config : Config}
    {source : Path} {specOf : Source → Path → Except Error Spec} {st : State} {target : Path}
    {spec : Spec}
    (hspecs : ∀ src target spec, specOf src target = .ok spec → spec.toSuite.ImportsLocally)
    (h : specFor? setting command config source specOf st = some (target, spec)) :
    spec.toSuite.ImportsLocally := by
  unfold specFor? at h
  split at h
  · cases h
  · next src loaded _ =>
    simp only at h
    split at h
    · cases h
    · next found hfound =>
      obtain ⟨-, rfl⟩ := Prod.mk.inj (Option.some.inj h)
      exact hspecs _ _ _ hfound

theorem importsLocally_caretSpec {src : Source} {target : Path} {line column : Nat} {spec : Spec}
    (h : caretSpec src target line column = .ok spec) : spec.toSuite.ImportsLocally := by
  intro text htext
  unfold caretSpec at h
  split at h
  · cases h
  · cases h
  · obtain rfl := Except.ok.inj h
    cases htext

theorem importsLocally_fileSpec {src : Source} {source target : Path} {exportedOnly : Bool}
    {spec : Spec} (h : fileSpec src source target exportedOnly = .ok spec) :
    spec.toSuite.ImportsLocally := by
  intro text htext
  obtain ⟨stem, -, -, hline⟩ := fileSpec_importLine? h htext
  exact ⟨commaList (importedNames src), stem, hline⟩

end Command

namespace Tool

/-- The target of a call that generates tests, and the spec that goes there. -/
def specFor? (setting : Setting) (tool : Tool) (arguments : Json) (st : State) :
    Option (Path × Spec) :=
  match tool with
  | .mockThis =>
    match filePath arguments, line arguments, column arguments with
    | .ok path, .ok line, .ok column =>
      Command.specFor? setting Command.mockThisTitle (effectiveConfig setting.config arguments) path
        (fun src target => Command.caretSpec src target line column) st
    | _, _, _ => none
  | .mockEverything =>
    match filePath arguments with
    | .ok path =>
      Command.specFor? setting Command.mockEverythingTitle
        (effectiveConfig setting.config arguments) path
        (fun src target => Command.fileSpec src path target
          ((arguments.field "exported_only").bool?.getD false)) st
    | .error _ => none
  | .toggleSpec => none
  | .resolveSpecFile => none

theorem importsLocally_of_specFor? {setting : Setting} {tool : Tool} {arguments : Json}
    {st : State} {target : Path} {spec : Spec}
    (h : tool.specFor? setting arguments st = some (target, spec)) :
    spec.toSuite.ImportsLocally := by
  cases tool with
  | toggleSpec => cases h
  | resolveSpecFile => cases h
  | mockThis =>
    simp only [specFor?] at h
    split at h
    · exact Command.importsLocally_of_specFor? (fun _ _ _ => Command.importsLocally_caretSpec) h
    · cases h
  | mockEverything =>
    simp only [specFor?] at h
    split at h
    · exact Command.importsLocally_of_specFor? (fun _ _ _ => Command.importsLocally_fileSpec) h
    · cases h

/-- A command that is reported as a success has inserted its spec into its target. -/
theorem exists_rewrites_of_report {setting : Setting} {command : String} {config : Config}
    {source : Path} {specOf : Source → Path → Except Error Spec} {st : State} {answer : Json}
    (h : (report setting.host command
      (Command.generate setting command config source specOf st)).1 = .ok answer) :
    ∃ target spec,
      Command.specFor? setting command config source specOf st = some (target, spec) ∧
        ∃ place old new,
          (Command.generate setting command config source specOf st).2.files.place? target =
              some place ∧
            st.files.Rewrites (Command.generate setting command config source specOf st).2.files
              place old new ∧
            (Command.planFor spec old).applyTo? old = some new := by
  unfold report at h
  cases hattempt : (Command.generate setting command config source specOf st).1 with
  | done outcome => exact Command.exists_rewrites_of_done hattempt
  | failed e =>
    rw [hattempt] at h
    cases h
  | fault message? =>
    rw [hattempt] at h
    cases h

/-- A call that generates tests and succeeds has a spec, and has inserted it into its target. -/
theorem exists_rewrites_of_ok {setting : Setting} {tool : Tool} {arguments : Json} {st : State}
    {answer : Json} (hgenerates : tool = .mockThis ∨ tool = .mockEverything)
    (h : (tool.run setting arguments st).1 = .ok answer) :
    ∃ target spec, tool.specFor? setting arguments st = some (target, spec) ∧
      ∃ place old new,
        (tool.run setting arguments st).2.files.place? target = some place ∧
          st.files.Rewrites (tool.run setting arguments st).2.files place old new ∧
          (Command.planFor spec old).applyTo? old = some new := by
  rcases hgenerates with rfl | rfl
  · simp only [run, runMockThis] at h ⊢
    split at h
    · cases h
    · cases h
    · cases h
    · next path line column hpath hline hcolumn =>
      simp only [specFor?, hpath, hline, hcolumn]
      exact exists_rewrites_of_report h
  · simp only [run, runMockEverything] at h ⊢
    split at h
    · cases h
    · next path hpath =>
      simp only [specFor?, hpath]
      exact exists_rewrites_of_report h

end Tool

/-! ## Sessions that write to one file -/

namespace Workspace

/-- The text of the file at a place, where a missing file counts as empty. -/
def Holds (w : Workspace) (place : List String) (text : String) : Prop :=
  w.occupant? place = some (.file (.text text)) ∨ w.occupant? place = none ∧ text = ""

theorem Holds.unique {w : Workspace} {place : List String} {text text' : String}
    (h : w.Holds place text) (h' : w.Holds place text') : text = text' := by
  rcases h with h | ⟨h, rfl⟩ <;> rcases h' with h' | ⟨h', rfl⟩
  · rw [h] at h'
    exact Content.text.inj (Occupant.file.inj (Option.some.inj h'))
  · rw [h] at h'
    cases h'
  · rw [h] at h'
    cases h'
  · rfl

end Workspace

namespace Session

/-- A session and the specs of its calls that write to one place, each of which succeeds.  Every
other step leaves what stands at that place as it is: a change of the sources, or a call that fails
or has another target. -/
inductive WritesTo (setting : Setting) (place : List String) :
    State → List Step → List Spec → Prop where
  | nil (st : State) : WritesTo setting place st [] []
  | write {st : State} {tool : Tool} {arguments answer : Json} {target : Path} {spec : Spec}
      {steps : List Step} {specs : List Spec}
      (generates : tool = .mockThis ∨ tool = .mockEverything)
      (succeeds : (tool.run setting arguments st).1 = .ok answer)
      (delivers : tool.specFor? setting arguments st = some (target, spec))
      (here : (tool.run setting arguments st).2.files.place? target = some place)
      (rest : WritesTo setting place (tool.run setting arguments st).2 steps specs) :
      WritesTo setting place st (.call tool arguments :: steps) (spec :: specs)
  | apart {st : State} {step : Step} {steps : List Step} {specs : List Spec}
      (keeps : (step.run setting st).2.files.occupant? place = st.files.occupant? place)
      (rest : WritesTo setting place (step.run setting st).2 steps specs) :
      WritesTo setting place st (step :: steps) specs

/-- Along a session the imports of a test file are kept, none gets in twice, and those of every spec
are there at the end. -/
theorem WritesTo.importsOnce {setting : Setting} {place : List String} {st : State}
    {steps : List Step} {specs : List Spec} (h : WritesTo setting place st steps specs)
    (htexts : ∀ spec ∈ specs, ∀ t ∈ spec.texts, OnOneLine t) {old : String}
    (hold : st.files.Holds place old) (hok : trim old.toList = [] ∨ ImportsOnce old.toList) :
    ∃ document, (after setting steps st).files.Holds place document ∧
      (trim document.toList = [] ∨ ImportsOnce document.toList) ∧
      (∀ line, IsImportLine line →
        lineCount line old.toList ≤ lineCount line document.toList) ∧
      ∀ spec ∈ specs, 0 < lineCount Suite.helpersImport.toList document.toList ∧
        ∀ line, spec.importLine? = some line → IsImportLine line.toList ∧
          0 < lineCount line.toList document.toList := by
  induction h generalizing old with
  | nil st => exact ⟨old, hold, hok, fun _ _ => Nat.le_refl _, by simp⟩
  | apart keeps rest ih =>
    refine ih htexts ?_ hok
    unfold Workspace.Holds at hold ⊢
    rwa [keeps]
  | @write st tool arguments answer target spec steps specs generates succeeds delivers here rest
      ih =>
    obtain ⟨target', spec', hspec, place', old', new, hplace, hrewrites, happly⟩ :=
      Tool.exists_rewrites_of_ok generates succeeds
    rw [delivers] at hspec
    obtain ⟨rfl, rfl⟩ := Prod.mk.inj (Option.some.inj hspec)
    rw [here] at hplace
    obtain rfl := Option.some.inj hplace
    obtain rfl : old' = old := Workspace.Holds.unique hrewrites.before hold
    have hlocal := Tool.importsLocally_of_specFor? delivers
    obtain ⟨honce, himport, hkept⟩ := ImportsOnce.step hlocal
      (htexts spec List.mem_cons_self) happly hok
    obtain ⟨document, hdocument, hend, hmono, hspecs⟩ :=
      ih (fun spec' hspec' => htexts spec' (List.mem_cons_of_mem _ hspec'))
        (.inl hrewrites.after) (.inr honce)
    refine ⟨document, hdocument, hend, fun line hline => (hkept line hline).trans
      (hmono line hline), fun spec' hspec' => ?_⟩
    rcases List.mem_cons.1 hspec' with rfl | hspec'
    · refine ⟨?_, fun line hline => ?_⟩
      · have hhelpers := hmono _ .helpers
        rw [honce.helpers] at hhelpers
        exact hhelpers
      · obtain ⟨names, stem, rfl⟩ := hlocal line hline
        have hshape := isImportLine_localImport names stem
        have hthere := hmono _ hshape
        rw [himport _ hline] at hthere
        exact ⟨hshape, hthere⟩
    · exact hspecs spec' hspec'

/-- Imports neither vanish nor get into a test file twice.  If a file was missing or blank when a
session began, and at least one call of the session has written to it, then it has the import of the
helpers on exactly one line, and so it has every import that one of these calls generated. -/
theorem imports_exactly_once (setting : Setting) (place : List String) (st : State)
    (steps : List Step) (specs : List Spec) (hrun : WritesTo setting place st steps specs)
    (hne : specs ≠ [])
    (hstart : st.files.occupant? place = none ∨
      ∃ text, st.files.occupant? place = some (.file (.text text)) ∧ trim text.toList = [])
    (htexts : ∀ spec ∈ specs, ∀ t ∈ spec.texts, OnOneLine t) :
    ∃ document,
      (after setting steps st).files.occupant? place = some (.file (.text document)) ∧
        lineCount Suite.helpersImport.toList document.toList = 1 ∧
        ∀ spec ∈ specs, ∀ line, spec.importLine? = some line →
          lineCount line.toList document.toList = 1 := by
  obtain ⟨old, hold, hblank⟩ : ∃ old, st.files.Holds place old ∧ trim old.toList = [] := by
    rcases hstart with hnone | ⟨text, htext, hblank⟩
    · exact ⟨"", .inr ⟨hnone, rfl⟩, rfl⟩
    · exact ⟨text, .inl htext, hblank⟩
  obtain ⟨document, hdocument, hend, -, hspecs⟩ := hrun.importsOnce htexts hold (.inl hblank)
  obtain ⟨first, hfirst⟩ := List.exists_mem_of_ne_nil specs hne
  have hthere := (hspecs first hfirst).1
  -- the import of the helpers is there, so that the file is not blank
  have hnotBlank : trim document.toList ≠ [] := by
    intro hnil
    rw [lineCount_of_blank IsImportLine.helpers.ne_nil (trim_eq_nil_iff.1 hnil)] at hthere
    exact absurd hthere (by decide)
  have honce := hend.resolve_left hnotBlank
  refine ⟨document, ?_, honce.helpers, fun spec hspec line hline => ?_⟩
  · rcases hdocument with hfile | ⟨-, rfl⟩
    · exact hfile
    · exact absurd rfl hnotBlank
  · obtain ⟨hshape, hpos⟩ := (hspecs spec hspec).2 line hline
    exact Nat.le_antisymm (honce.atMost _ hshape) hpos

/-! ## A small session -/

/-- The tree of a source with one exported function, whose name is one letter. -/
def exportTree : Node :=
  ⟨"program", 0, 22, true, none,
    [⟨"export_statement", 0, 22, true, none,
      [⟨"function_declaration", 7, 22, true, none,
        [⟨"identifier", 16, 17, true, some .name, []⟩]⟩]⟩]⟩

def exportSetting : Setting :=
  { config := {}
    host := ⟨"linux", "x86_64"⟩
    parser := fun _ _ => exportTree }

/-- A source, and its test file, which is blank. -/
def exportStart : State :=
  { files := ⟨.dir [("a.ts", .file (.text "export function f() \x7b\x7d")),
      ("a.spec.ts", .file (.text " \n"))], []⟩ }

def exportArguments : Json :=
  .obj [("file_path", .str "a.ts"), ("line", .int 1), ("column", .int 17)]

/-- A test for the function, then another name for it, then tests for the whole file. -/
def exportSteps : List Step :=
  [.call .mockThis exportArguments,
    .edit (.write ⟨"a.ts"⟩ (.text "export function g() \x7b\x7d")),
    .call .mockEverything exportArguments]

/-- The spec of the function, which brings an import if it is for the whole file. -/
def exportSpec (name : String) (importLine? : Option String) : Spec :=
  { importLine? := importLine?
    className? := none
    constructor? := none
    tests := [⟨name, [], none, false, false, false⟩]
    fileName := "a.spec.ts"
    joinsGroup := importLine?.isNone }

theorem exportSteps_writesTo :
    WritesTo exportSetting ["a.spec.ts"] exportStart exportSteps
      [exportSpec "f" none, exportSpec "g" (some "import \x7b g \x7d from './a';")] := by
  let first := Tool.mockThis.run exportSetting exportArguments exportStart
  let edited := (Step.run exportSetting first.2
    (.edit (.write ⟨"a.ts"⟩ (.text "export function g() \x7b\x7d")))).2
  let second := Tool.mockEverything.run exportSetting exportArguments edited
  -- one evaluation for all the facts, because the later states contain the earlier ones
  have hfacts : first.1.toBool = true ∧
      Tool.mockThis.specFor? exportSetting exportArguments exportStart =
        some (⟨"a.spec.ts"⟩, exportSpec "f" none) ∧
      first.2.files.place? ⟨"a.spec.ts"⟩ = some ["a.spec.ts"] ∧
      edited.files.occupant? ["a.spec.ts"] = first.2.files.occupant? ["a.spec.ts"] ∧
      second.1.toBool = true ∧
      Tool.mockEverything.specFor? exportSetting exportArguments edited =
        some (⟨"a.spec.ts"⟩, exportSpec "g" (some "import \x7b g \x7d from './a';")) ∧
      second.2.files.place? ⟨"a.spec.ts"⟩ = some ["a.spec.ts"] := by
    decide +kernel
  have hok : ∀ {answer : Except Error Json}, answer.toBool = true → ∃ json, answer = .ok json := by
    intro answer h
    cases answer with
    | error e => cases h
    | ok json => exact ⟨json, rfl⟩
  obtain ⟨hfirst, hspec, hplace, hkeeps, hsecond, hspec', hplace'⟩ := hfacts
  obtain ⟨answer, hanswer⟩ := hok hfirst
  obtain ⟨answer', hanswer'⟩ := hok hsecond
  exact .write (.inl rfl) hanswer hspec hplace
    (.apart hkeeps (.write (.inr rfl) hanswer' hspec' hplace' (.nil _)))

/-- The second call brings an import into a file that is not blank any more. -/
theorem exportSteps_imports_once :
    ∃ document,
      (after exportSetting exportSteps exportStart).files.occupant? ["a.spec.ts"] =
          some (.file (.text document)) ∧
        lineCount Suite.helpersImport.toList document.toList = 1 ∧
        lineCount "import \x7b g \x7d from './a';".toList document.toList = 1 := by
  obtain ⟨document, hfile, hhelpers, himports⟩ := imports_exactly_once exportSetting
    ["a.spec.ts"] exportStart exportSteps _ exportSteps_writesTo (by simp)
    (.inr ⟨" \n", by decide +kernel, by decide⟩) (by decide +kernel)
  exact ⟨document, hfile, hhelpers, himports _ (List.mem_cons_of_mem _ List.mem_cons_self) _ rfl⟩

end Session

end SpecScaffold
