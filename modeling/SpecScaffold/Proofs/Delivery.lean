import SpecScaffold.Proofs.Code.Insertion
import SpecScaffold.Proofs.Workspace.Writing
import SpecScaffold.Tool.Run

/-!
# What a call does to the files

`deliver_cases` is the inversion of delivering a spec: either it fails and the workspace is what it
was, or one file is rewritten to its old text with the spec inserted.  Touching the file first does
no harm, because from then on reading, planning and writing all succeed, unless the file was there
before and is no text.  A fault never happens.

    Tool.run_cases : a call leaves all files as they were, or it succeeds, reports a target and an
      inserted text, and `InsertsInto` holds between the two workspaces
-/

namespace SpecScaffold

namespace Workspace

/-- The file at `place` has the text `new` in `w'` and had `old` in `w`, where a missing file counts
as empty; everywhere else the two workspaces agree. -/
structure Rewrites (w w' : Workspace) (place : List String) (old new : String) : Prop where
  before : w.occupant? place = some (.file (.text old)) ∨ w.occupant? place = none ∧ old = ""
  after : w'.occupant? place = some (.file (.text new))
  elsewhere : ∀ other, other ≠ place → w'.occupant? other = w.occupant? other
  here : w'.here = w.here

/-- The file that `target` names has got `inserted` between two parts of its old text. -/
def InsertsInto (w w' : Workspace) (target : Path) (inserted : String) : Prop :=
  ∃ place before after, w'.place? target = some place ∧
    w.Rewrites w' place (String.ofList (before ++ after))
      (String.ofList (before ++ inserted.toList ++ after))

section

variable {w : Workspace} {p : Path} {dir : List String} {name : String}

theorem WritesAt.read_eq (h : WritesAt w p dir name) {content : Content}
    (hc : w.occupant? (dir ++ [name]) = some (.file content)) :
    w.read p = match content with
      | .text s => .ok s
      | .binary => .error .invalidText := by
  unfold read
  rw [h.locate_eq (occupant?_eq_file_iff.1 hc)]
  cases content <;> rfl

theorem WritesAt.write_eq (h : WritesAt w p dir name) (text : String) :
    w.write p text = .ok (w.putText (dir ++ [name]) text) := by
  unfold write
  rw [h.locateForWriting_eq]

/-- Writing over a text file, or where nothing was. -/
theorem WritesAt.rewrites (h : WritesAt w p dir name) {old : String}
    (hold : w.occupant? (dir ++ [name]) = some (.file (.text old)) ∨
      w.occupant? (dir ++ [name]) = none ∧ old = "") (new : String) :
    w.Rewrites (w.putText (dir ++ [name]) new) (dir ++ [name]) old new where
  before := hold
  after := by rw [h.occupant?_putText, if_pos rfl]
  elsewhere := by
    intro other hne
    rw [h.occupant?_putText, if_neg hne]
  here := rfl

/-- A file that is made empty and then written has been written. -/
theorem WritesAt.rewrites_of_empty (h : WritesAt w p dir name)
    (hnone : w.occupant? (dir ++ [name]) = none) (new : String) :
    w.Rewrites ((w.putText (dir ++ [name]) "").putText (dir ++ [name]) new) (dir ++ [name]) ""
      new where
  before := .inr ⟨hnone, rfl⟩
  after := by rw [(h.putText "").occupant?_putText, if_pos rfl]
  elsewhere := by
    intro other hne
    rw [(h.putText "").occupant?_putText, if_neg hne, h.occupant?_putText, if_neg hne]
  here := rfl

end

end Workspace

namespace Command

open Workspace

/-! ## Delivering a spec -/

/-- Once the test file is there and is a text, the delivery succeeds. -/
theorem deliver_of_touch {host : Host} {command : String} {source target : Path} {spec : Spec}
    {w touched : Workspace} {dir : List String} {name old : String}
    (htouch : w.touch target = .ok touched) (h : WritesAt touched target dir name)
    (hold : touched.occupant? (dir ++ [name]) = some (.file (.text old))) :
    ∃ new, (planFor spec old).applyTo? old = some new ∧
      deliver host command source target spec w =
        (.done (outcomeOf (touched.putText (dir ++ [name]) new) source target spec
          (planFor spec old)), touched.putText (dir ++ [name]) new) := by
  obtain ⟨before, after, -, happly⟩ :=
    Insertion.exists_applyTo?_plan old spec.render spec.importLine?.isSome spec.joinsGroup
  refine ⟨_, happly, ?_⟩
  unfold deliver
  simp only [htouch, h.read_eq hold]
  have hplan : (planFor spec old).applyTo? old = _ := happly
  simp only [hplan, h.write_eq]

theorem deliver_cases (host : Host) (command : String) (source target : Path) (spec : Spec)
    (w : Workspace) :
    (∃ e, deliver host command source target spec w =
        (.failed (writeFailure host command target e), w)) ∨
      ∃ w' dir name old new, WritesAt w' target dir name ∧
        w.Rewrites w' (dir ++ [name]) old new ∧ (planFor spec old).applyTo? old = some new ∧
        deliver host command source target spec w =
          (.done (outcomeOf w' source target spec (planFor spec old)), w') := by
  rcases touch_cases w target with
    ⟨e, he⟩ | ⟨dir, name, h, ⟨content, hcontent, htouch⟩ | ⟨hnone, htouch⟩⟩
  · left
    refine ⟨e, ?_⟩
    unfold deliver
    rw [he]
  · cases content with
    | binary =>
      left
      refine ⟨.invalidText, ?_⟩
      unfold deliver
      simp only [htouch, h.read_eq hcontent]
    | text old =>
      right
      obtain ⟨new, happly, hdeliver⟩ := deliver_of_touch htouch h hcontent
      exact ⟨_, dir, name, old, new, h.putText new, h.rewrites (.inl hcontent) new, happly,
        hdeliver⟩
  · right
    have hempty : (w.putText (dir ++ [name]) "").occupant? (dir ++ [name]) =
        some (.file (.text "")) := by
      rw [h.occupant?_putText, if_pos rfl]
    obtain ⟨new, happly, hdeliver⟩ := deliver_of_touch htouch (h.putText "") hempty
    exact ⟨_, dir, name, "", new, (h.putText "").putText new, h.rewrites_of_empty hnone new, happly,
      hdeliver⟩

/-- A delivery fails without a trace or inserts what it reports into the target. -/
theorem deliver_inserts (host : Host) (command : String) (source target : Path) (spec : Spec)
    (w : Workspace) :
    (∃ e, deliver host command source target spec w = (.failed e, w)) ∨
      ∃ w' outcome, deliver host command source target spec w = (.done outcome, w') ∧
        w.InsertsInto w' outcome.target outcome.inserted := by
  rcases deliver_cases host command source target spec w with
    ⟨e, he⟩ | ⟨w', dir, name, old, new, hwrites, hrewrites, happly, hdeliver⟩
  · exact .inl ⟨_, he⟩
  · right
    refine ⟨w', _, hdeliver, dir ++ [name], ?_⟩
    obtain ⟨before, after, hold, hnew⟩ := Insertion.eq_append_of_applyTo? happly
    refine ⟨before, after, hwrites.place?_eq (occupant?_eq_file_iff.1 hrewrites.after), ?_⟩
    have holdText : String.ofList (before ++ after) = old := by rw [hold, String.ofList_toList]
    rw [holdText]
    exact hnew ▸ hrewrites

/-! ## The commands -/

theorem load_files (parser : Parser) (command : String) (config : Config) (p : Path) (st : State) :
    (load parser command config p st).2.files = st.files := by
  unfold load
  split
  · rfl
  · split <;> rfl

/-- A command fails and leaves all files as they were, or inserts what it reports. -/
theorem generate_cases (setting : Setting) (command : String) (config : Config) (source : Path)
    (specOf : Source → Path → Except Error Spec) (st : State) :
    ((∃ e, (generate setting command config source specOf st).1 = .failed e) ∧
        (generate setting command config source specOf st).2.files = st.files) ∨
      ∃ outcome, (generate setting command config source specOf st).1 = .done outcome ∧
        st.files.InsertsInto (generate setting command config source specOf st).2.files
          outcome.target outcome.inserted := by
  have hfiles := load_files setting.parser command config source st
  unfold generate
  rcases hload : load setting.parser command config source st with ⟨_ | src, loaded⟩
  · next e =>
    rw [hload] at hfiles
    exact .inl ⟨⟨e, rfl⟩, hfiles⟩
  · rw [hload] at hfiles
    simp only at hfiles ⊢
    cases hspec : specOf src (Companion.target loaded.files config source) with
    | error e => exact .inl ⟨⟨e, rfl⟩, hfiles⟩
    | ok spec =>
      simp only
      rcases deliver_inserts setting.host command source
          (Companion.target loaded.files config source) spec loaded.files with
        ⟨e, he⟩ | ⟨w', outcome, hdeliver, hinserts⟩
      · rw [he]
        exact .inl ⟨⟨e, rfl⟩, hfiles⟩
      · rw [hdeliver]
        exact .inr ⟨outcome, rfl, hfiles ▸ hinserts⟩

end Command

/-! ## Calls -/

/-- An answer that reports a target file and what was inserted into it. -/
def Reports (answer : Except Error Json) (target : Path) (inserted : String) : Prop :=
  ∃ result, answer = .ok result ∧ result.field "target_file" = .str target.text ∧
    result.field "inserted" = .str inserted

theorem Outcome.reports (o : Outcome) : Reports (.ok o.toJson) o.target o.inserted := by
  refine ⟨o.toJson, rfl, rfl, ?_⟩
  unfold Outcome.toJson
  cases o.uri? <;> rfl

namespace Tool

/-- A command run as a tool: it leaves all files as they were, or its answer reports what it did. -/
theorem report_cases (host : Host) (command : String) {result : Attempt Outcome × State}
    {files : Workspace}
    (h : (∃ e, result.1 = .failed e) ∧ result.2.files = files ∨
      ∃ outcome, result.1 = .done outcome ∧
        files.InsertsInto result.2.files outcome.target outcome.inserted) :
    (report host command result).2.files = files ∨
      ∃ target inserted, Reports (report host command result).1 target inserted ∧
        files.InsertsInto (report host command result).2.files target inserted := by
  rcases h with ⟨-, hfiles⟩ | ⟨outcome, hdone, hinserts⟩
  · exact .inl hfiles
  · refine .inr ⟨outcome.target, outcome.inserted, ?_, hinserts⟩
    have hanswer : (report host command result).1 = .ok outcome.toJson := by
      unfold report
      rw [hdone]
      rfl
    rw [hanswer]
    exact outcome.reports

/-- A call changes no file, or it is one of the two that generate tests, and then it inserts what it
reports into the target it reports. -/
theorem run_cases (setting : Setting) (tool : Tool) (arguments : Json) (st : State) :
    (run setting tool arguments st).2.files = st.files ∨
      (tool = .mockThis ∨ tool = .mockEverything) ∧
        ∃ target inserted, Reports (run setting tool arguments st).1 target inserted ∧
          st.files.InsertsInto (run setting tool arguments st).2.files target inserted := by
  cases tool with
  | toggleSpec => exact .inl rfl
  | resolveSpecFile => exact .inl rfl
  | mockThis =>
    rw [show run setting .mockThis arguments st = runMockThis setting arguments st from rfl]
    unfold runMockThis
    split
    · exact .inl rfl
    · exact .inl rfl
    · exact .inl rfl
    · rcases report_cases setting.host Command.mockThisTitle
          (Command.generate_cases setting _ _ _ _ st) with hfiles | hinserts
      · exact .inl hfiles
      · exact .inr ⟨.inl rfl, hinserts⟩
  | mockEverything =>
    rw [show run setting .mockEverything arguments st = runMockEverything setting arguments st from
      rfl]
    unfold runMockEverything
    split
    · exact .inl rfl
    · rcases report_cases setting.host Command.mockEverythingTitle
          (Command.generate_cases setting _ _ _ _ st) with hfiles | hinserts
      · exact .inl hfiles
      · exact .inr ⟨.inr rfl, hinserts⟩

/-- A call that fails leaves every file and directory as it was. -/
theorem files_of_run_error {setting : Setting} {tool : Tool} {arguments : Json} {st : State}
    {e : Error} (h : (run setting tool arguments st).1 = .error e) :
    (run setting tool arguments st).2.files = st.files := by
  rcases run_cases setting tool arguments st with hfiles | ⟨-, target, inserted, hreports, -⟩
  · exact hfiles
  · obtain ⟨result, hok, -⟩ := hreports
    rw [h] at hok
    cases hok

end Tool

end SpecScaffold
