import SpecScaffold.Proofs.Delivery
import SpecScaffold.Workspace.Edit

/-!
# Sessions

A session is a sequence of calls on one state, with changes of the files by others in between.  What
a call does to the files is said by `Tool.run_cases`; here it is carried along a whole sequence of
calls.

    calls_only_insert : every call of a sequence changes at most the file it reports, by inserting
      the text it reports, so what a file held at the start is a subsequence of what it holds at
      the end
-/

namespace SpecScaffold

/-- Everything that the one content has is in the other, in the same order. -/
def Content.GrowsInto : Content → Content → Prop
  | .text s, .text t => s.toList.Sublist t.toList
  | .binary, .binary => True
  | _, _ => False

theorem Content.GrowsInto.refl (c : Content) : c.GrowsInto c := by
  cases c with
  | text s => exact List.Sublist.refl s.toList
  | binary => trivial

theorem Content.GrowsInto.trans {a b c : Content} (hab : a.GrowsInto b) (hbc : b.GrowsInto c) :
    a.GrowsInto c := by
  cases a <;> cases b <;> cases c <;> simp_all only [GrowsInto]
  exact hab.trans hbc

namespace Workspace

/-- Every file of `w` is still there in `w'`, with at least what it held. -/
def GrowsInto (w w' : Workspace) : Prop :=
  ∀ place content, w.occupant? place = some (.file content) →
    ∃ content', w'.occupant? place = some (.file content') ∧ content.GrowsInto content'

theorem GrowsInto.refl (w : Workspace) : w.GrowsInto w :=
  fun _ content h => ⟨content, h, Content.GrowsInto.refl content⟩

theorem GrowsInto.trans {w₁ w₂ w₃ : Workspace} (h₁₂ : w₁.GrowsInto w₂) (h₂₃ : w₂.GrowsInto w₃) :
    w₁.GrowsInto w₃ := by
  intro place content h
  obtain ⟨content₂, h₂, hg₂⟩ := h₁₂ place content h
  obtain ⟨content₃, h₃, hg₃⟩ := h₂₃ place content₂ h₂
  exact ⟨content₃, h₃, hg₂.trans hg₃⟩

/-- An insertion loses nothing. -/
theorem InsertsInto.growsInto {w w' : Workspace} {target : Path} {inserted : String}
    (h : w.InsertsInto w' target inserted) : w.GrowsInto w' := by
  obtain ⟨place, before, after, -, hr⟩ := h
  intro other content hother
  by_cases hne : other = place
  · subst hne
    refine ⟨_, hr.after, ?_⟩
    rcases hr.before with hold | ⟨hnone, -⟩
    · rw [hold] at hother
      obtain rfl := Occupant.file.inj (Option.some.inj hother)
      simp [Content.GrowsInto]
    · rw [hnone] at hother
      cases hother
  · exact ⟨content, by rw [hr.elsewhere other hne, hother], Content.GrowsInto.refl content⟩

end Workspace

namespace Session

/-- A step of a session: a call of a tool, or a change of the files by somebody else. -/
inductive Step where
  | call (tool : Tool) (arguments : Json)
  | edit (change : Edit)

/-- The answer to a step, if it is a call, and the state after it. -/
def Step.run (setting : Setting) (st : State) : Step → Option (Except Error Json) × State
  | .call tool arguments =>
    let (answer, st) := tool.run setting arguments st
    (some answer, st)
  | .edit change => (none, { st with files := st.files.edit change })

/-- The state after a sequence of steps. -/
def after (setting : Setting) (steps : List Step) (st : State) : State :=
  steps.foldl (fun st step => (step.run setting st).2) st

/-- The answers to the calls of a sequence of steps. -/
def answers (setting : Setting) : List Step → State → List (Except Error Json)
  | [], _ => []
  | step :: steps, st =>
    (step.run setting st).1.toList ++ answers setting steps (step.run setting st).2

/-- The state after a sequence of calls that nothing comes between. -/
def afterCalls (setting : Setting) (calls : List (Tool × Json)) (st : State) : State :=
  after setting (calls.map fun c => .call c.1 c.2) st

theorem afterCalls_cons (setting : Setting) (tool : Tool) (arguments : Json)
    (calls : List (Tool × Json)) (st : State) :
    afterCalls setting ((tool, arguments) :: calls) st =
      afterCalls setting calls (tool.run setting arguments st).2 := rfl

theorem run_growsInto (setting : Setting) (tool : Tool) (arguments : Json) (st : State) :
    st.files.GrowsInto (tool.run setting arguments st).2.files := by
  rcases Tool.run_cases setting tool arguments st with hfiles | ⟨-, target, inserted, -, hinserts⟩
  · rw [hfiles]
    exact Workspace.GrowsInto.refl st.files
  · exact hinserts.growsInto

theorem afterCalls_growsInto (setting : Setting) (calls : List (Tool × Json)) (st : State) :
    st.files.GrowsInto (afterCalls setting calls st).files := by
  induction calls generalizing st with
  | nil => exact Workspace.GrowsInto.refl st.files
  | cons call calls ih =>
    obtain ⟨tool, arguments⟩ := call
    rw [afterCalls_cons]
    exact (run_growsInto setting tool arguments st).trans (ih _)

/-- No text is lost in a sequence of calls.  Each call leaves all files as they were, or it is one
of the two that generate tests and inserts the text it reports into the file it reports, leaving
everything else as it was; so at the end every file holds what it held at the start, and more. -/
theorem calls_only_insert (setting : Setting) (calls : List (Tool × Json)) (st : State) :
    (∀ earlier tool arguments later, calls = earlier ++ (tool, arguments) :: later →
      ∀ answer next,
        tool.run setting arguments (afterCalls setting earlier st) = (answer, next) →
          next.files = (afterCalls setting earlier st).files ∨
            (tool = .mockThis ∨ tool = .mockEverything) ∧
              ∃ target inserted, Reports answer target inserted ∧
                (afterCalls setting earlier st).files.InsertsInto next.files target inserted) ∧
      st.files.GrowsInto (afterCalls setting calls st).files := by
  refine ⟨?_, afterCalls_growsInto setting calls st⟩
  intro earlier tool arguments later _ answer next hrun
  have hcases := Tool.run_cases setting tool arguments (afterCalls setting earlier st)
  rw [hrun] at hcases
  exact hcases

/-! ## A small workspace -/

/-- The tree of a source with one function. -/
def sampleTree : Node :=
  ⟨"program", 0, 15, true, none,
    [⟨"function_declaration", 0, 15, true, none, [⟨"identifier", 9, 10, true, some .name, []⟩]⟩]⟩

/-- A setting whose parser knows one source; every other text is a program without declarations. -/
def sampleSetting : Setting :=
  { config := {}
    host := ⟨"linux", "x86_64"⟩
    parser := fun _ text =>
      if text == "function f() \x7b\x7d" then sampleTree else ⟨"program", 0, 0, true, none, []⟩ }

/-- A source with a function, and one without. -/
def sampleFiles : Workspace :=
  ⟨.dir [("a.ts", .file (.text "function f() \x7b\x7d")), ("b.ts", .file (.text ""))], []⟩

def sampleArguments (path : String) : Json :=
  .obj [("file_path", .str path), ("line", .int 1)]

/-- The call for `a.ts` makes its test file, with the text it reports, and keeps the rest. -/
theorem calls_only_insert_sample :
    ∃ target inserted,
      Reports (Tool.mockThis.run sampleSetting (sampleArguments "a.ts") ⟨{}, sampleFiles⟩).1 target
        inserted ∧
      sampleFiles.InsertsInto
        (Tool.mockThis.run sampleSetting (sampleArguments "a.ts") ⟨{}, sampleFiles⟩).2.files target
        inserted ∧
      sampleFiles.GrowsInto
        (afterCalls sampleSetting [(.mockThis, sampleArguments "a.ts")]
          ⟨{}, sampleFiles⟩).files := by
  obtain ⟨heach, hgrows⟩ := calls_only_insert sampleSetting
    [(.mockThis, sampleArguments "a.ts")] ⟨{}, sampleFiles⟩
  rcases heach [] .mockThis (sampleArguments "a.ts") [] rfl _ _ rfl with
    hfiles | ⟨-, target, inserted, hreports, hinserts⟩
  · have hmade : (Tool.mockThis.run sampleSetting (sampleArguments "a.ts")
        ⟨{}, sampleFiles⟩).2.files.occupant? ["a.spec.ts"] ≠
          sampleFiles.occupant? ["a.spec.ts"] := by
      have hsome : ((Tool.mockThis.run sampleSetting (sampleArguments "a.ts")
          ⟨{}, sampleFiles⟩).2.files.occupant? ["a.spec.ts"]).isSome = true := by decide +kernel
      have hnone : sampleFiles.occupant? ["a.spec.ts"] = none := by decide +kernel
      rw [hnone]
      exact Option.isSome_iff_ne_none.1 hsome
    exact absurd (congrArg (fun w => w.occupant? ["a.spec.ts"]) hfiles) hmade
  · exact ⟨target, inserted, hreports, hinserts, hgrows⟩

end Session

end SpecScaffold
