import SpecScaffold.Proofs.Config
import SpecScaffold.Proofs.Family.Listing
import SpecScaffold.Proofs.Session.Basic

/-!
# Which argument is blamed

A tool reads its arguments one after the other and blames the first one that it cannot use.  Nothing
that runs after the arguments have been read blames one (`generate_ne_invalidArgument`), with one
exception: a switch between files looks for the family of its path, and whatever goes wrong there
is put down to the patterns of what to leave out.  But a path without a file name has no family
either:

    a tool blames an argument ↔ it is the first one at fault, or the tool is a switch, the argument
      `exclude` and the path one without a file name
-/

namespace SpecScaffold

namespace Tool

/-! ## Arguments at fault -/

/-- The argument of that name cannot be used: a path that is missing, not a string or empty, a line
or a column that is not an unsigned number of 32 bits, where a column may be missing, or a list of
what to leave out in which a string is not a pattern. -/
def AtFault (arguments : Json) : String → Prop
  | "file_path" => ¬∃ text, arguments.field "file_path" = .str text ∧ text ≠ ""
  | "line" => ¬∃ n : UInt32, arguments.field "line" = .int n.toNat
  | "column" => arguments.field "column" ≠ .null ∧
      ¬∃ n : UInt32, arguments.field "column" = .int n.toNat
  | "exclude" => ∃ items text, arguments.field "exclude" = .arr items ∧ .str text ∈ items ∧
      ¬Family.IsExclude text
  | _ => False

/-- The arguments that a tool cannot run without understanding them, in the order in which it reads
them. -/
def checked : Tool → List String
  | .mockThis => ["file_path", "line", "column"]
  | .mockEverything => ["file_path"]
  | .toggleSpec => ["file_path", "exclude"]
  | .resolveSpecFile => ["file_path"]

/-- The first argument at fault. -/
def FirstAtFault (arguments : Json) : List String → String → Prop
  | [], _ => False
  | first :: rest, name =>
    AtFault arguments first ∧ name = first ∨
      ¬AtFault arguments first ∧ FirstAtFault arguments rest name

/-- The path is given, but does not end in the name of a file. -/
def LacksFileName (arguments : Json) : Prop :=
  ∃ text, arguments.field "file_path" = .str text ∧ text ≠ "" ∧ (Path.mk text).fileName? = none

theorem FirstAtFault.atFault {arguments : Json} {names : List String} {name : String}
    (h : FirstAtFault arguments names name) : AtFault arguments name := by
  induction names with
  | nil => exact h.elim
  | cons first rest ih =>
    rcases h with ⟨hfirst, rfl⟩ | ⟨-, hrest⟩
    · exact hfirst
    · exact ih hrest

theorem firstAtFault_of_atFault {arguments : Json} {first name : String} {rest : List String}
    (h : AtFault arguments first) :
    FirstAtFault arguments (first :: rest) name ↔ first = name := by
  simp only [FirstAtFault, h, true_and, not_true_eq_false, false_and, or_false]
  exact eq_comm

theorem firstAtFault_of_not_atFault {arguments : Json} {first name : String} {rest : List String}
    (h : ¬AtFault arguments first) :
    FirstAtFault arguments (first :: rest) name ↔ FirstAtFault arguments rest name := by
  simp only [FirstAtFault, h, false_and, not_false_eq_true, true_and, false_or]

end Tool

/-! ## Reading -/

theorem Json.word?_cases (j : Json) :
    (∃ n : UInt32, j = .int n.toNat ∧ j.word? = some n.toNat) ∨
      (¬∃ n : UInt32, j = .int n.toNat) ∧ j.word? = none := by
  by_cases hword : ∃ n : UInt32, j = .int n.toNat
  · obtain ⟨n, rfl⟩ := hword
    have hlt : n.toNat < 4294967296 := n.toNat_lt
    refine .inl ⟨n, rfl, ?_⟩
    rw [word?, if_pos (by omega), Int.toNat_natCast]
  · refine .inr ⟨hword, ?_⟩
    cases j with
    | int i =>
      rw [word?]
      refine if_neg fun hbounds => hword ?_
      -- a number within the bounds is that of a word
      have hlt : i.toNat < UInt32.size := by
        show i.toNat < 4294967296
        omega
      refine ⟨UInt32.ofNatLT i.toNat hlt, ?_⟩
      rw [UInt32.toNat_ofNatLT, Int.toNat_of_nonneg hbounds.1]
    | _ => rfl

namespace Tool

/-- A reader of one argument: it blames that argument if it is at fault, and succeeds otherwise. -/
def Checks {α : Type} (read : Json → Except Error α) (name : String) : Prop :=
  ∀ arguments, AtFault arguments name ∧ read arguments = .error (.invalidArgument name) ∨
    ¬AtFault arguments name ∧ ∃ a, read arguments = .ok a

theorem checks_filePath : Checks filePath "file_path" := by
  intro arguments
  cases hread : filePath arguments with
  | ok path =>
    obtain ⟨hfield, hne⟩ := filePath_eq_ok_iff.1 hread
    exact .inr ⟨fun hfault => hfault ⟨path.text, hfield, hne⟩, path, rfl⟩
  | error e =>
    refine .inl ⟨?_, ?_⟩
    · rintro ⟨text, hfield, hne⟩
      have hok : filePath arguments = .ok ⟨text⟩ := filePath_eq_ok_iff.2 ⟨hfield, hne⟩
      rw [hok] at hread
      cases hread
    · unfold filePath at hread
      split at hread
      · split at hread
        · exact hread.symm
        · cases hread
      · exact hread.symm

theorem checks_line : Checks line "line" := by
  intro arguments
  unfold line
  rcases (arguments.field "line").word?_cases with ⟨n, hfield, hread⟩ | ⟨hfault, hread⟩
  · rw [hread]
    exact .inr ⟨fun hfault => hfault ⟨n, hfield⟩, n.toNat, rfl⟩
  · rw [hread]
    exact .inl ⟨hfault, rfl⟩

theorem checks_column : Checks column "column" := by
  intro arguments
  unfold column
  by_cases hnull : arguments.field "column" = .null
  · rw [hnull]
    exact .inr ⟨fun hfault => hfault.1 hnull, 1, rfl⟩
  · rw [Json.nullable?_of_ne_null _ hnull]
    rcases (arguments.field "column").word?_cases with ⟨n, hfield, hread⟩ | ⟨hfault, hread⟩
    · rw [hread]
      exact .inr ⟨fun hfault => hfault.2 ⟨n, hfield⟩, n.toNat, rfl⟩
    · rw [hread]
      exact .inl ⟨⟨hnull, hfault⟩, rfl⟩

end Tool

/-! ## Commands blame no argument -/

namespace Command

variable {name : String}

theorem load_ne_invalidArgument (parser : Parser) (command : String) (config : Config) (p : Path)
    (st : State) : (load parser command config p st).1 ≠ .error (.invalidArgument name) := by
  unfold load accept
  split
  · next e haccept =>
    split at haccept
    · rintro ⟨⟩
      cases haccept
    · split at haccept
      · rintro ⟨⟩
        cases haccept
      · cases haccept
  · split
    · rintro ⟨⟩
    · rintro ⟨⟩

/-- A command blames no argument, as long as the maker of its spec blames none. -/
theorem generate_ne_invalidArgument (setting : Setting) (command : String) (config : Config)
    (source : Path) {specOf : Source → Path → Except Error Spec}
    (hspec : ∀ src target, specOf src target ≠ .error (.invalidArgument name)) (st : State) :
    (generate setting command config source specOf st).1 ≠ .failed (.invalidArgument name) := by
  have hload : (load setting.parser command config source st).1 ≠ .error (.invalidArgument name) :=
    load_ne_invalidArgument _ _ _ _ _
  unfold generate
  rcases hloaded : load setting.parser command config source st with ⟨e | src, loaded⟩
  · rintro ⟨⟩
    rw [hloaded] at hload
    exact hload rfl
  · simp only
    cases hmade : specOf src (Companion.target loaded.files config source) with
    | error e =>
      rintro ⟨⟩
      exact hspec _ _ hmade
    | ok spec =>
      simp only
      rcases deliver_cases setting.host command source
          (Companion.target loaded.files config source) spec loaded.files with
        ⟨e, he⟩ | ⟨w', dir, file, old, new, -, -, -, hdeliver⟩
      · rw [he]
        rintro ⟨⟩
      · rw [hdeliver]
        rintro ⟨⟩

theorem caretSpec_ne_invalidArgument (line column : Nat) (src : Source) (target : Path) :
    caretSpec src target line column ≠ .error (.invalidArgument name) := by
  unfold caretSpec
  split <;> rintro ⟨⟩

theorem fileSpec_ne_invalidArgument (source : Path) (exportedOnly : Bool) (src : Source)
    (target : Path) : fileSpec src source target exportedOnly ≠ .error (.invalidArgument name) := by
  rw [fileSpec]
  split <;> rintro ⟨⟩

end Command

/-! ## What the tools blame -/

namespace Tool

section

variable {setting : Setting} {arguments : Json} {st : State} {name : String}

theorem report_ne_invalidArgument {host : Host} {command : String}
    {result : Attempt Outcome × State} (h : result.1 ≠ .failed (.invalidArgument name)) :
    (report host command result).1 ≠ .error (.invalidArgument name) := by
  unfold report
  cases hresult : result.1 with
  | done value => rintro ⟨⟩
  | failed e =>
    rintro ⟨⟩
    exact h hresult
  | fault message? => rintro ⟨⟩

theorem runMockThis_eq_invalidArgument_iff :
    (runMockThis setting arguments st).1 = .error (.invalidArgument name) ↔
      FirstAtFault arguments mockThis.checked name := by
  unfold runMockThis checked
  rcases checks_filePath arguments with ⟨hfault, hpath⟩ | ⟨hpathFine, path, hpath⟩
  · simp [hpath, firstAtFault_of_atFault hfault]
  rw [firstAtFault_of_not_atFault hpathFine]
  rcases checks_line arguments with ⟨hfault, hline⟩ | ⟨hlineFine, line, hline⟩
  · simp [hpath, hline, firstAtFault_of_atFault hfault]
  rw [firstAtFault_of_not_atFault hlineFine]
  rcases checks_column arguments with ⟨hfault, hcolumn⟩ | ⟨hcolumnFine, column, hcolumn⟩
  · simp [hpath, hline, hcolumn, firstAtFault_of_atFault hfault]
  rw [firstAtFault_of_not_atFault hcolumnFine]
  simp only [hpath, hline, hcolumn, FirstAtFault, iff_false]
  exact report_ne_invalidArgument (Command.generate_ne_invalidArgument _ _ _ _
    (Command.caretSpec_ne_invalidArgument line column) _)

theorem runMockEverything_eq_invalidArgument_iff :
    (runMockEverything setting arguments st).1 = .error (.invalidArgument name) ↔
      FirstAtFault arguments mockEverything.checked name := by
  unfold runMockEverything checked
  rcases checks_filePath arguments with ⟨hfault, hpath⟩ | ⟨hpathFine, path, hpath⟩
  · simp [hpath, firstAtFault_of_atFault hfault]
  rw [firstAtFault_of_not_atFault hpathFine]
  simp only [hpath, FirstAtFault, iff_false]
  exact report_ne_invalidArgument (Command.generate_ne_invalidArgument _ _ _ _
    (Command.fileSpec_ne_invalidArgument path _) _)

theorem resolve_eq_invalidArgument_iff {config : Config} {w : Workspace} :
    resolve config arguments w = .error (.invalidArgument name) ↔
      FirstAtFault arguments resolveSpecFile.checked name := by
  unfold resolve checked
  rcases checks_filePath arguments with ⟨hfault, hpath⟩ | ⟨hpathFine, path, hpath⟩
  · simp [hpath, firstAtFault_of_atFault hfault]
  rw [firstAtFault_of_not_atFault hpathFine]
  simp only [hpath, FirstAtFault, iff_false]
  split <;> rintro ⟨⟩

theorem isExclude_of_mem_skippedByDefault :
    ∀ text ∈ skippedByDefault, Family.IsExclude text := by
  intro text htext
  obtain rfl := List.mem_singleton.1 htext
  exact ⟨_, rfl, by decide +kernel⟩

/-- What is left out by default is never at fault, so that only a list that is given can be. -/
theorem atFault_exclude_iff :
    AtFault arguments "exclude" ↔
      ¬∀ text ∈ (arguments.field "exclude").someStrings?.getD skippedByDefault,
        Family.IsExclude text := by
  cases hread : (arguments.field "exclude").someStrings? with
  | none =>
    refine iff_of_false ?_ (not_not.2 isExclude_of_mem_skippedByDefault)
    rintro ⟨items, text, hitems, -, -⟩
    rw [hitems] at hread
    cases hread
  | some texts =>
    obtain ⟨items, hitems, rfl⟩ := Json.someStrings?_eq_some_iff.1 hread
    simp only [AtFault, hitems, Option.getD_some, Json.mem_filterMap_str?_iff, Json.arr.injEq]
    simp

theorem lacksFileName_iff {path : Path} (hpath : filePath arguments = .ok path) :
    LacksFileName arguments ↔ path.fileName? = none := by
  obtain ⟨hfield, hne⟩ := filePath_eq_ok_iff.1 hpath
  constructor
  · rintro ⟨text, htext, -, hnone⟩
    obtain rfl : path.text = text := Json.str.inj (hfield.symm.trans htext)
    exact hnone
  · intro hnone
    exact ⟨path.text, hfield, hne, hnone⟩

/-- A switch blames the patterns also for a path that has no family. -/
theorem toggle_eq_invalidArgument_iff {config : Config} {w : Workspace} :
    toggle config arguments w = .error (.invalidArgument name) ↔
      FirstAtFault arguments toggleSpec.checked name ∨
        name = "exclude" ∧ LacksFileName arguments := by
  unfold toggle checked
  rcases checks_filePath arguments with ⟨hfault, hpath⟩ | ⟨hpathFine, path, hpath⟩
  · have hgiven : ¬LacksFileName arguments := fun ⟨text, hfield, hne, _⟩ =>
      hfault ⟨text, hfield, hne⟩
    simp [hpath, firstAtFault_of_atFault hfault, hgiven]
  rw [firstAtFault_of_not_atFault hpathFine, lacksFileName_iff hpath]
  simp only [hpath, FirstAtFault, and_false, or_false, atFault_exclude_iff]
  generalize (arguments.field "exclude").someStrings?.getD skippedByDefault = exclude
  generalize ((arguments.field "root").str?.map Path.mk).getD (directoryOf path) = top
  -- the search for the family fails for one of two reasons, and both are reported alike
  have hlisted := Family.exists_members_iff w (effectiveConfig config arguments) top path exclude
  split
  · next e hmembers =>
    rw [hmembers] at hlisted
    have hreason : path.fileName? = none ∨ ¬∀ text ∈ exclude, Family.IsExclude text := by
      by_contra hnone
      rw [not_or, not_not] at hnone
      obtain ⟨family, hfamily⟩ := hlisted.2 hnone
      cases hfamily
    constructor
    · intro h
      obtain rfl : "exclude" = name := Error.invalidArgument.inj (Except.error.inj h)
      rcases hreason with hnone | hbad
      · exact .inr ⟨rfl, hnone⟩
      · exact .inl ⟨hbad, rfl⟩
    · rintro (⟨-, rfl⟩ | ⟨rfl, -⟩) <;> rfl
  · next family hmembers =>
    obtain ⟨hname, hfine⟩ := hlisted.1 ⟨family, hmembers⟩
    refine iff_of_false (by rintro ⟨⟩) ?_
    rintro (⟨hbad, -⟩ | ⟨-, hnone⟩)
    · exact hbad hfine
    · exact hname hnone

theorem run_eq_invalidArgument_iff {tool : Tool} :
    (tool.run setting arguments st).1 = .error (.invalidArgument name) ↔
      FirstAtFault arguments tool.checked name ∨
        tool = .toggleSpec ∧ name = "exclude" ∧ LacksFileName arguments := by
  cases tool with
  | mockThis => simpa [run] using runMockThis_eq_invalidArgument_iff
  | mockEverything => simpa [run] using runMockEverything_eq_invalidArgument_iff
  | toggleSpec => simpa [run] using toggle_eq_invalidArgument_iff
  | resolveSpecFile => simpa [run] using resolve_eq_invalidArgument_iff

end

/-- Which argument a tool blames.  It blames the first argument at fault among those that it cannot
do without, and no other, except that a switch between files blames `exclude` if the path does not
end in the name of a file.  So the blamed argument is at fault in every call but that of a switch
with such a path and patterns that are all in order. -/
theorem blamed_argument_iff (setting : Setting) (tool : Tool) (arguments : Json) (st : State) :
    (∀ name, (tool.run setting arguments st).1 = .error (.invalidArgument name) ↔
      FirstAtFault arguments tool.checked name ∨
        tool = .toggleSpec ∧ name = "exclude" ∧ LacksFileName arguments) ∧
      ((∀ name, (tool.run setting arguments st).1 = .error (.invalidArgument name) →
          AtFault arguments name) ↔
        (tool = .toggleSpec → LacksFileName arguments → AtFault arguments "exclude")) := by
  refine ⟨fun name => run_eq_invalidArgument_iff, ?_⟩
  constructor
  · intro hright htool hlacks
    exact hright "exclude" (run_eq_invalidArgument_iff.2 (.inr ⟨htool, rfl, hlacks⟩))
  · intro hexclude name h
    rcases run_eq_invalidArgument_iff.1 h with hfirst | ⟨htool, rfl, hlacks⟩
    · exact hfirst.atFault
    · exact hexclude htool hlacks

/-- A switch from the directory above blames patterns that are not given. -/
theorem switch_blames_absent_exclude : ¬∀ setting (tool : Tool) arguments st name,
    (tool.run setting arguments st).1 = .error (.invalidArgument name) →
      AtFault arguments name := by
  intro h
  obtain ⟨items, text, hitems, -⟩ := h Session.sampleSetting .toggleSpec
    (.obj [("file_path", .str "..")]) ⟨{}, Session.sampleFiles⟩ "exclude" rfl
  cases hitems

end Tool

end SpecScaffold
