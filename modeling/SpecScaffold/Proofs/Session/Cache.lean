import SpecScaffold.Proofs.Session.Basic
import SpecScaffold.Proofs.TreeCache

/-!
# The cache is invisible

Two states agree when they have the same files and each has a sound cache, whatever is in the two
caches.  A call gives states that agree the same answer and leaves them in agreement
(`Tool.run_agree`), and so does a whole session (`Session.agree_after`).  Two consequences:

    answers_as_without_failed_call : a call that fails leaves no trace, in the files or in what is
      answered later, though it may have filled the cache
    shared_cache_invisible : a call in a session answers and writes what it would on a fresh cache
-/

namespace SpecScaffold

/-- The same files, and caches that hold nothing stale. -/
structure Agree (parser : Parser) (st₁ st₂ : State) : Prop where
  files : st₁.files = st₂.files
  left : st₁.cache.Sound parser
  right : st₂.cache.Sound parser

namespace Agree

theorem fresh {parser : Parser} {st : State} (h : st.cache.Sound parser) :
    Agree parser st ⟨{}, st.files⟩ :=
  ⟨rfl, h, TreeCache.sound_empty parser⟩

end Agree

namespace Command

/-- Loading from states that agree gives the same source. -/
theorem load_agree {parser : Parser} (command : String) (config : Config) (p : Path)
    {st₁ st₂ : State} (h : Agree parser st₁ st₂) :
    (load parser command config p st₁).1 = (load parser command config p st₂).1 ∧
      Agree parser (load parser command config p st₁).2 (load parser command config p st₂).2 := by
  unfold load
  cases accept command config p with
  | error e => exact ⟨rfl, h⟩
  | ok language =>
    simp only [h.files]
    cases st₂.files.read p with
    | error e => exact ⟨rfl, h⟩
    | ok text =>
      refine ⟨?_, rfl, h.left.step (.parse p text language),
        h.right.step (.parse p text language)⟩
      simp only [h.left.parse_fst, h.right.parse_fst]

theorem generate_agree {setting : Setting} (command : String) (config : Config) (source : Path)
    (specOf : Source → Path → Except Error Spec) {st₁ st₂ : State}
    (h : Agree setting.parser st₁ st₂) :
    (generate setting command config source specOf st₁).1 =
        (generate setting command config source specOf st₂).1 ∧
      Agree setting.parser (generate setting command config source specOf st₁).2
        (generate setting command config source specOf st₂).2 := by
  obtain ⟨hsource, hagree⟩ := load_agree command config source h
  unfold generate
  rcases hload₁ : load setting.parser command config source st₁ with ⟨result, loaded₁⟩
  rcases hload₂ : load setting.parser command config source st₂ with ⟨result₂, loaded₂⟩
  rw [hload₁, hload₂] at hsource hagree
  obtain rfl : result = result₂ := hsource
  cases result with
  | error e => exact ⟨rfl, hagree⟩
  | ok src =>
    have hfiles : loaded₁.files = loaded₂.files := hagree.files
    simp only [hfiles]
    cases specOf src (Companion.target loaded₂.files config source) with
    | error e => exact ⟨rfl, hagree⟩
    | ok spec => exact ⟨rfl, rfl, hagree.left, hagree.right⟩

end Command

namespace Tool

/-- One call on states that agree. -/
theorem run_agree {setting : Setting} (tool : Tool) (arguments : Json) {st₁ st₂ : State}
    (h : Agree setting.parser st₁ st₂) :
    (run setting tool arguments st₁).1 = (run setting tool arguments st₂).1 ∧
      Agree setting.parser (run setting tool arguments st₁).2
        (run setting tool arguments st₂).2 := by
  cases tool with
  | toggleSpec => exact ⟨by simp only [run, h.files], h⟩
  | resolveSpecFile => exact ⟨by simp only [run, h.files], h⟩
  | mockThis =>
    simp only [run, runMockThis]
    split
    · exact ⟨rfl, h⟩
    · exact ⟨rfl, h⟩
    · exact ⟨rfl, h⟩
    · next path line column _ _ _ =>
      obtain ⟨hattempt, hagree⟩ := Command.generate_agree Command.mockThisTitle
        (effectiveConfig setting.config arguments) path
        (fun src target => Command.caretSpec src target line column) h
      refine ⟨?_, hagree⟩
      simp only [report, Command.mockThis, hattempt]
  | mockEverything =>
    simp only [run, runMockEverything]
    split
    · exact ⟨rfl, h⟩
    · next path _ =>
      obtain ⟨hattempt, hagree⟩ := Command.generate_agree Command.mockEverythingTitle
        (effectiveConfig setting.config arguments) path
        (fun src target => Command.fileSpec src path target
          ((arguments.field "exported_only").bool?.getD false)) h
      refine ⟨?_, hagree⟩
      simp only [report, Command.mockEverything, hattempt]

end Tool

namespace Session

theorem Step.run_agree {setting : Setting} (step : Step) {st₁ st₂ : State}
    (h : Agree setting.parser st₁ st₂) :
    (step.run setting st₁).1 = (step.run setting st₂).1 ∧
      Agree setting.parser (step.run setting st₁).2 (step.run setting st₂).2 := by
  cases step with
  | call tool arguments =>
    obtain ⟨hanswer, hagree⟩ := Tool.run_agree tool arguments h
    exact ⟨congrArg some hanswer, hagree⟩
  | edit change =>
    exact ⟨rfl, congrArg (fun files => files.edit change) h.files, h.left, h.right⟩

/-- A whole session on states that agree. -/
theorem agree_after {setting : Setting} (steps : List Step) {st₁ st₂ : State}
    (h : Agree setting.parser st₁ st₂) :
    answers setting steps st₁ = answers setting steps st₂ ∧
      Agree setting.parser (after setting steps st₁) (after setting steps st₂) := by
  induction steps generalizing st₁ st₂ with
  | nil => exact ⟨rfl, h⟩
  | cons step steps ih =>
    obtain ⟨hanswer, hagree⟩ := step.run_agree h
    obtain ⟨hanswers, hrest⟩ := ih hagree
    refine ⟨?_, hrest⟩
    simp only [answers, hanswer, hanswers]

/-- No cache of a session ever holds anything stale. -/
theorem sound_after (setting : Setting) (steps : List Step) (w : Workspace) :
    (after setting steps ⟨{}, w⟩).cache.Sound setting.parser := by
  have hsound := TreeCache.sound_empty setting.parser
  have hstart : Agree setting.parser ⟨{}, w⟩ ⟨{}, w⟩ := ⟨rfl, hsound, hsound⟩
  exact (agree_after steps hstart).2.left

/-- A call that fails leaves no trace: every file and directory is what it was, and later calls are
answered, and change files, as if it had not been made. -/
theorem answers_as_without_failed_call (setting : Setting) (w : Workspace) (steps : List Step)
    (tool : Tool) (arguments : Json) (e : Error) (failed : State)
    (h : tool.run setting arguments (after setting steps ⟨{}, w⟩) = (.error e, failed)) :
    failed.files = (after setting steps ⟨{}, w⟩).files ∧
      ∀ later,
        answers setting later failed = answers setting later (after setting steps ⟨{}, w⟩) ∧
          (after setting later failed).files =
            (after setting later (after setting steps ⟨{}, w⟩)).files := by
  have hsound := sound_after setting steps w
  generalize after setting steps ⟨{}, w⟩ = st at h hsound ⊢
  have hfiles : failed.files = st.files := by
    have hsame := Tool.files_of_run_error (congrArg Prod.fst h)
    rwa [h] at hsame
  have hfailed : failed.cache.Sound setting.parser := by
    have hagree := (Tool.run_agree tool arguments (Agree.fresh hsound)).2
    rw [h] at hagree
    exact hagree.left
  refine ⟨hfiles, fun later => ?_⟩
  obtain ⟨hanswers, hagree⟩ := agree_after later ⟨hfiles, hfailed, hsound⟩
  exact ⟨hanswers, hagree.files⟩

/-- Nothing is declared in `b.ts`: the call fails after the tree has gone into the cache, and the
test of `a.ts` that is asked for next is what it would have been. -/
theorem answers_as_without_call_on_empty_source :
    ∃ e failed,
      Tool.mockThis.run sampleSetting (sampleArguments "b.ts") ⟨{}, sampleFiles⟩ =
        (.error e, failed) ∧ failed.cache.size = 1 ∧ failed.files = sampleFiles ∧
      answers sampleSetting [.call .mockThis (sampleArguments "a.ts")] failed =
        answers sampleSetting [.call .mockThis (sampleArguments "a.ts")] ⟨{}, sampleFiles⟩ := by
  have hrun : Tool.mockThis.run sampleSetting (sampleArguments "b.ts") ⟨{}, sampleFiles⟩ =
      (.error (.noAnalyzableNode Command.mockThisTitle),
        (Tool.mockThis.run sampleSetting (sampleArguments "b.ts") ⟨{}, sampleFiles⟩).2) := by
    refine Prod.ext ?_ rfl
    show (Tool.mockThis.run sampleSetting (sampleArguments "b.ts") ⟨{}, sampleFiles⟩).1 = _
    rfl
  obtain ⟨hfiles, hlater⟩ := answers_as_without_failed_call sampleSetting sampleFiles [] .mockThis
    (sampleArguments "b.ts") _ _ hrun
  exact ⟨_, _, hrun, by decide +kernel, hfiles, (hlater _).1⟩

/-- The cache is invisible.  In a session with any changes of the files between the calls, a call is
answered, and changes the files, as it would with an empty cache; and after any sequence of parsing
and forgetting, every entry holds the tree of its own text, parsing returns and stores an entry of
the text and language asked for, and other paths keep their entries. -/
theorem shared_cache_invisible (setting : Setting) (w : Workspace) :
    (∀ steps tool arguments,
      (Tool.run setting tool arguments (after setting steps ⟨{}, w⟩)).1 =
          (Tool.run setting tool arguments ⟨{}, (after setting steps ⟨{}, w⟩).files⟩).1 ∧
        (Tool.run setting tool arguments (after setting steps ⟨{}, w⟩)).2.files =
          (Tool.run setting tool arguments ⟨{}, (after setting steps ⟨{}, w⟩).files⟩).2.files) ∧
      ∀ (cacheSteps : List TreeCache.Step) (c : TreeCache),
        c = TreeCache.after setting.parser cacheSteps {} →
          c.Sound setting.parser ∧
            ∀ p text language,
              (c.parse setting.parser p text language).1 =
                  ⟨⟨text, setting.parser language text⟩, language⟩ ∧
                (c.parse setting.parser p text language).2.get? p =
                  some (c.parse setting.parser p text language).1 ∧
                (c.forget p).get? p = none ∧
                ∀ q : Path, q.components ≠ p.components →
                  (c.parse setting.parser p text language).2.get? q = c.get? q ∧
                    (c.forget p).get? q = c.get? q := by
  constructor
  · intro steps tool arguments
    obtain ⟨hanswer, hagree⟩ :=
      Tool.run_agree tool arguments (Agree.fresh (sound_after setting steps w))
    exact ⟨hanswer, hagree.files⟩
  · rintro cacheSteps c rfl
    have hsound := (TreeCache.sound_empty setting.parser).after cacheSteps
    refine ⟨hsound, fun p text language => ⟨hsound.parse_fst p text language, ?_, ?_, ?_⟩⟩
    · exact TreeCache.get?_parse_self _ setting.parser p text language
    · exact TreeCache.get?_forget_self _ p
    · intro q hq
      exact ⟨TreeCache.get?_parse_of_ne hq _ setting.parser text language,
        TreeCache.get?_forget_of_ne hq _⟩

/-- A call for `a.ts` after somebody has emptied it: the cache has an entry of the path, of its
earlier text, and the answer is the one without any entry.  An entry of `b.ts` does not touch it. -/
theorem shared_cache_invisible_after_edit :
    let st := after sampleSetting
      [.call .mockThis (sampleArguments "a.ts"), .edit (.write ⟨"a.ts"⟩ (.text ""))]
      ⟨{}, sampleFiles⟩
    (st.cache.get? ⟨"a.ts"⟩).map (fun entry => entry.source.text) = some "function f() \x7b\x7d" ∧
      (Tool.run sampleSetting .mockThis (sampleArguments "a.ts") st).1 =
        (Tool.run sampleSetting .mockThis (sampleArguments "a.ts") ⟨{}, st.files⟩).1 ∧
      let c := TreeCache.after sampleSetting.parser [.parse ⟨"a.ts"⟩ "" .typeScript] {}
      (c.parse sampleSetting.parser ⟨"b.ts"⟩ "" .typeScript).2.get? ⟨"a.ts"⟩ =
        c.get? ⟨"a.ts"⟩ := by
  obtain ⟨hcalls, hcache⟩ := shared_cache_invisible sampleSetting sampleFiles
  obtain ⟨-, hparse⟩ := hcache [.parse ⟨"a.ts"⟩ "" .typeScript] _ rfl
  obtain ⟨-, -, -, hother⟩ := hparse ⟨"b.ts"⟩ "" .typeScript
  have hstored : ((after sampleSetting
      [.call .mockThis (sampleArguments "a.ts"), .edit (.write ⟨"a.ts"⟩ (.text ""))]
      ⟨{}, sampleFiles⟩).cache.get? ⟨"a.ts"⟩).map (fun entry => entry.source.text) =
        some "function f() \x7b\x7d" := by
    decide +kernel
  have hne : Path.components ⟨"a.ts"⟩ ≠ Path.components ⟨"b.ts"⟩ := by decide +kernel
  exact ⟨hstored, (hcalls _ _ _).1, (hother _ hne).1⟩

end Session

end SpecScaffold
