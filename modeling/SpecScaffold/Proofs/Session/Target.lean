import SpecScaffold.Proofs.Session.Basic
import SpecScaffold.Proofs.Target

/-!
# One target for a source

As long as nobody else changes the files, every test of a source goes to one file, whatever is
called in which order, and that file can be asked for beforehand:

    target_predicted_and_kept : the target that a call reports is the one that is found just before
      it, the same for all calls, and from the first success on it is found to exist
-/

namespace SpecScaffold

open Workspace

namespace Session

/-- A call about `source`, whose settings are `config` with the overrides of the call, that
generates tests or asks where they go. -/
structure Concerns (setting : Setting) (source : Path) (config : Config) (tool : Tool)
    (arguments : Json) : Prop where
  tool : tool = .mockThis ∨ tool = .mockEverything ∨ tool = .resolveSpecFile
  path : Tool.filePath arguments = .ok source
  config : Tool.effectiveConfig setting.config arguments = config

variable {setting : Setting} {source : Path} {config : Config}

theorem Concerns.generates {tool : Tool} {arguments : Json}
    (h : Concerns setting source config tool arguments) (hne : tool ≠ .resolveSpecFile) :
    tool = .mockThis ∨ tool = .mockEverything := by
  rcases h.tool with hthis | heverything | hresolve
  · exact .inl hthis
  · exact .inr heverything
  · exact absurd hresolve hne

/-- One call that generates tests and succeeds. -/
theorem target_of_success (hconfig : Companion.StaysInFolder config) {tool : Tool}
    {arguments answer : Json} {st : State} (hcall : Concerns setting source config tool arguments)
    (hgenerates : tool = .mockThis ∨ tool = .mockEverything)
    (h : (tool.run setting arguments st).1 = .ok answer) :
    Companion.isTestFile config source = false ∧
      answer.field "target_file" = .str (Companion.target st.files config source).text ∧
      (∃ inserted, st.files.InsertsInto (tool.run setting arguments st).2.files
        (Companion.target st.files config source) inserted) ∧
      Companion.target (tool.run setting arguments st).2.files config source =
        Companion.target st.files config source ∧
      (tool.run setting arguments st).2.files.exists?
        (Companion.target st.files config source) = true := by
  obtain ⟨command, specOf, outcome, hdone, hafter, rfl⟩ :=
    Tool.exists_done_of_ok hgenerates hcall.path h
  rw [hcall.config] at hdone hafter
  obtain ⟨⟨language, haccept⟩, htarget, dir, name, old, new, hwrites, hrewrites⟩ :=
    Command.generate_done hdone
  obtain ⟨⟨own, hown⟩, htest⟩ := Command.accept_eq_ok haccept
  rw [htarget] at hwrites
  have hstays := Companion.target_of_rewrites hown hconfig hwrites hrewrites
  have hinserts : st.files.InsertsInto
      (Command.generate setting command config source specOf st).2.files outcome.target
      outcome.inserted := by
    rcases Command.generate_cases setting command config source specOf st with
      ⟨⟨e, he⟩, -⟩ | ⟨found, hfound, hinserts⟩
    · rw [hdone] at he
      cases he
    · rw [hdone] at hfound
      obtain rfl := Attempt.done.inj hfound
      exact hinserts
  rw [hafter]
  refine ⟨htest, ?_, ⟨outcome.inserted, htarget ▸ hinserts⟩, hstays⟩
  rw [← htarget]
  rfl

/-- One call. -/
theorem target_of_run (hconfig : Companion.StaysInFolder config) {tool : Tool} {arguments : Json}
    (hcall : Concerns setting source config tool arguments) (st : State) :
    Companion.target (tool.run setting arguments st).2.files config source =
      Companion.target st.files config source := by
  cases hanswer : (tool.run setting arguments st).1 with
  | error e => rw [Tool.files_of_run_error hanswer]
  | ok answer =>
    by_cases hresolve : tool = .resolveSpecFile
    · rw [hresolve]
      rfl
    · have hgenerates := hcall.generates hresolve
      exact (target_of_success hconfig hcall hgenerates hanswer).2.2.2.1

/-- A sequence of calls. -/
theorem target_afterCalls (hconfig : Companion.StaysInFolder config) {calls : List (Tool × Json)}
    (hcalls : ∀ call ∈ calls, Concerns setting source config call.1 call.2) (st : State) :
    Companion.target (afterCalls setting calls st).files config source =
      Companion.target st.files config source := by
  induction calls generalizing st with
  | nil => rfl
  | cons call calls ih =>
    obtain ⟨tool, arguments⟩ := call
    have hfirst := hcalls (tool, arguments) List.mem_cons_self
    rw [afterCalls_cons, ih fun later hlater => hcalls later (List.mem_cons_of_mem _ hlater)]
    exact target_of_run hconfig hfirst st

/-- What exists before a sequence of calls exists after it. -/
theorem exists?_afterCalls {p : Path} (calls : List (Tool × Json)) {st : State}
    (h : st.files.exists? p = true) : (afterCalls setting calls st).files.exists? p = true := by
  induction calls generalizing st with
  | nil => exact h
  | cons call calls ih =>
    obtain ⟨tool, arguments⟩ := call
    rw [afterCalls_cons]
    apply ih
    rcases Tool.run_cases setting tool arguments st with
      hfiles | ⟨-, target, inserted, -, place, before, after, -, hrewrites⟩
    · rw [hfiles]
      exact h
    · exact hrewrites.keeps.exists? h

/-- Tests of a source go to one target, which can be asked for.  In a sequence of calls about one
source under one configuration, every call that generates tests and succeeds reports the same
target, has inserted its tests there, and is preceded by a state in which that target is found; from
then on the target is found, and found to exist, whatever is called. -/
theorem target_predicted_and_kept (setting : Setting) (source : Path) (config : Config)
    (hconfig : Companion.StaysInFolder config) (st : State) (calls : List (Tool × Json))
    (hcalls : ∀ call ∈ calls, Concerns setting source config call.1 call.2) :
    ∃ target : Path, ∀ earlier tool arguments later answer next,
      calls = earlier ++ (tool, arguments) :: later → tool ≠ .resolveSpecFile →
      tool.run setting arguments (afterCalls setting earlier st) = (.ok answer, next) →
        answer.field "target_file" = .str target.text ∧
        (∃ inserted, (afterCalls setting earlier st).files.InsertsInto next.files target
          inserted) ∧
        (∃ found,
          (Tool.resolveSpecFile.run setting arguments (afterCalls setting earlier st)).1 =
              .ok found ∧
            found.field "target_file" = .str target.text) ∧
        ∀ between rest asked, later = between ++ rest →
          Concerns setting source config .resolveSpecFile asked →
            ∃ found,
              (Tool.resolveSpecFile.run setting asked (afterCalls setting between next)).1 =
                  .ok found ∧
                found.field "target_file" = .str target.text ∧
                found.field "exists" = .bool true := by
  refine ⟨Companion.target st.files config source, ?_⟩
  rintro earlier tool arguments later answer next rfl htool hrun
  have hearlier : ∀ call ∈ earlier, Concerns setting source config call.1 call.2 := by
    intro call hmem
    exact hcalls call (List.mem_append_left _ hmem)
  have hcall : Concerns setting source config tool arguments :=
    hcalls (tool, arguments) (by simp)
  have hgenerates := hcall.generates htool
  have hsame := target_afterCalls hconfig hearlier st
  generalize afterCalls setting earlier st = before at hrun hsame ⊢
  obtain ⟨htest, hreported, hinserts, hkept, hexists⟩ :=
    target_of_success hconfig hcall hgenerates (congrArg Prod.fst hrun)
  rw [hrun] at hinserts hkept hexists
  rw [hsame] at hreported hinserts hkept hexists
  refine ⟨hreported, hinserts, ?_, ?_⟩
  · obtain ⟨found, hfound, htarget, -⟩ := Tool.exists_resolve_eq before.files hcall.path
      (by rw [hcall.config]; exact htest)
    rw [hcall.config, hsame] at htarget
    exact ⟨found, hfound, htarget⟩
  · rintro between rest asked rfl hasked
    have hbetween : ∀ call ∈ between, Concerns setting source config call.1 call.2 := by
      intro call hmem
      exact hcalls call (by simp [hmem])
    obtain ⟨found, hfound, htarget, hthere⟩ := Tool.exists_resolve_eq
      (afterCalls setting between next).files hasked.path (by rw [hasked.config]; exact htest)
    have hlater := target_afterCalls hconfig hbetween next
    rw [hkept] at hlater
    rw [hasked.config, hlater] at htarget hthere
    rw [exists?_afterCalls between hexists] at hthere
    exact ⟨found, hfound, htarget, hthere⟩

/-- A call about `a.ts` that knows two suffixes, neither of which has a file yet. -/
def twoSuffixes : Json :=
  .obj [("file_path", .str "a.ts"), ("line", .int 1),
    ("spec_suffix", .ofStrings [".spec", ".test"])]

theorem target_of_two_suffixes_kept :
    ∃ target : Path, ∃ answer found,
      (Tool.mockThis.run sampleSetting twoSuffixes ⟨{}, sampleFiles⟩).1 = .ok answer ∧
        answer.field "target_file" = .str target.text ∧
        (Tool.resolveSpecFile.run sampleSetting twoSuffixes
          (afterCalls sampleSetting [(.mockThis, twoSuffixes), (.mockEverything, twoSuffixes)]
            ⟨{}, sampleFiles⟩)).1 = .ok found ∧
        found.field "target_file" = .str target.text ∧ found.field "exists" = .bool true := by
  have hconcerns : ∀ tool, tool = Tool.mockThis ∨ tool = .mockEverything ∨
      tool = .resolveSpecFile →
      Concerns sampleSetting ⟨"a.ts"⟩ ⟨[".spec", ".test"], ".spec"⟩ tool twoSuffixes :=
    fun tool htool => ⟨htool, rfl, by decide +kernel⟩
  obtain ⟨target, hcalls⟩ := target_predicted_and_kept sampleSetting ⟨"a.ts"⟩
    ⟨[".spec", ".test"], ".spec"⟩ (by decide) ⟨{}, sampleFiles⟩
    [(.mockThis, twoSuffixes), (.mockEverything, twoSuffixes)]
    (by
      intro call hcall
      rcases List.mem_cons.1 hcall with rfl | hcall
      · exact hconcerns _ (.inl rfl)
      · obtain rfl := List.mem_singleton.1 hcall
        exact hconcerns _ (.inr (.inl rfl)))
  have hok : (Tool.mockThis.run sampleSetting twoSuffixes ⟨{}, sampleFiles⟩).1.toBool = true := by
    decide +kernel
  cases hanswer : (Tool.mockThis.run sampleSetting twoSuffixes ⟨{}, sampleFiles⟩).1 with
  | error e =>
    rw [hanswer] at hok
    cases hok
  | ok answer =>
    obtain ⟨hreported, -, -, hlater⟩ := hcalls [] .mockThis twoSuffixes
      [(.mockEverything, twoSuffixes)] answer
      (Tool.mockThis.run sampleSetting twoSuffixes ⟨{}, sampleFiles⟩).2 rfl (by decide)
      (Prod.ext hanswer rfl)
    obtain ⟨found, hfound, htarget, hexists⟩ := hlater [(.mockEverything, twoSuffixes)] []
      twoSuffixes rfl (hconcerns _ (.inr (.inr rfl)))
    rw [← afterCalls_cons] at hfound
    exact ⟨target, answer, found, rfl, hreported, hfound, htarget, hexists⟩

end Session

end SpecScaffold
