import SpecScaffold.Proofs.Config
import SpecScaffold.Proofs.Recognition
import SpecScaffold.Proofs.Session.Basic
import SpecScaffold.Proofs.Workspace.Folder

/-!
# The source is never written

Tests are written next to the source, under a name that has the suffix more.  An empty suffix would
make that the name of the source.  The suffix of new files cannot be empty, because a blank one is
not taken over; a known suffix can, if a request says so, but then every file is a test file and is
refused.

    source_never_written : a call leaves the source as it was, and if it succeeds its target is
      another file of the same directory
-/

namespace SpecScaffold

open Text

/-! ## Files that are not written -/

namespace Workspace

variable {w w' : Workspace} {p : Path} {place : List String} {content : Content}

theorem locate_eq_file_iff :
    w.locate p = .ok (place, .file content) ↔ checkOpened p = .ok () ∧ endsInSlash p = false ∧
      w.follow (w.start p) (segments p) = .ok place ∧
      w.occupant? place = some (.file content) := by
  rw [occupant?_eq_file_iff]
  constructor
  · intro h
    obtain ⟨-, hfollow, hfind, hslash⟩ := opened_of_locate h
    exact ⟨(reach_of_locate h).1, hslash rfl, hfollow, hfind⟩
  · rintro ⟨hopen, hslash, hfollow, hfind⟩
    unfold locate reach
    simp only [hopen, hfollow, hfind, hslash, Bool.false_and, Bool.false_eq_true, if_false]

/-- A path to another file than the one that is written leads where it did, to what was there. -/
theorem Rewrites.locate_of_ne {written : List String} {old new : String}
    (h : w.Rewrites w' written old new) (hne : place ≠ written)
    (hlocate : w.locate p = .ok (place, .file content)) :
    w'.locate p = .ok (place, .file content) := by
  obtain ⟨hopen, hslash, hfollow, hfile⟩ := locate_eq_file_iff.1 hlocate
  refine locate_eq_file_iff.2 ⟨hopen, hslash, ?_, ?_⟩
  · rw [h.keeps.start_eq]
    exact h.keeps.follow hfollow
  · rw [h.elsewhere place hne, hfile]

theorem place?_of_locate {e : Entry} (h : w.locate p = .ok (place, e)) :
    w.place? p = some place := by
  obtain ⟨hopen, hreach⟩ := reach_of_locate h
  unfold place?
  rw [checkPath_of_checkOpened hopen, hreach]

theorem exists_locate_of_read {text : String} (h : w.read p = .ok text) :
    ∃ place, w.locate p = .ok (place, .file (.text text)) := by
  unfold read at h
  split at h
  · cases h
  · cases h
  · cases h
  · next found s hlocate =>
    obtain rfl := Except.ok.inj h
    exact ⟨found, hlocate⟩

end Workspace

/-! ## The target of a source -/

namespace Companion

open Workspace

variable {source : Path} {stem extension suffix : String}

/-- A companion is written into the directory that the source stands in. -/
theorem place_eq_of_writesAt {w w' : Workspace} (hnamed : source.Named stem extension)
    (hslash : '/' ∉ suffix.toList) {place : List String} {content : Content}
    (hlocate : w.locate source = .ok (place, .file content)) (hkeeps : Keeps w w')
    {dir : List String} {name : String} (hwrites : WritesAt w' (path source suffix) dir name) :
    place = dir ++ [stem ++ "." ++ extension] ∧ name = stem ++ suffix ++ "." ++ extension := by
  obtain ⟨folderPlace, own, hown, hplace, hfolder⟩ := follow_folder_of_locate hlocate
  obtain ⟨hname, hreached⟩ := writesAt_path hnamed.fileName hslash hwrites
  rw [hkeeps.start_eq, hkeeps.follow hfolder] at hreached
  obtain rfl := Except.ok.inj hreached
  rw [hnamed.fileName] at hown
  obtain rfl := Option.some.inj hown
  exact ⟨hplace, by rw [hname, fileName_of_named hnamed]⟩

end Companion

namespace Command

open Workspace Companion

theorem read_of_load {parser : Parser} {command : String} {config : Config} {p : Path}
    {st loaded : State} {src : Source} (h : load parser command config p st = (.ok src, loaded)) :
    ∃ text, st.files.read p = .ok text := by
  unfold load at h
  split at h
  · cases h
  · cases hread : st.files.read p with
    | error e =>
      rw [hread] at h
      cases h
    | ok text => exact ⟨text, rfl⟩

/-- A command that succeeds has read its source. -/
theorem read_of_generate {setting : Setting} {command : String} {config : Config} {source : Path}
    {specOf : Source → Path → Except Error Spec} {st : State} {outcome : Outcome}
    (h : (generate setting command config source specOf st).1 = .done outcome) :
    ∃ text, st.files.read source = .ok text := by
  unfold generate at h
  rcases hload : load setting.parser command config source st with ⟨_ | src, loaded⟩
  · rw [hload] at h
    cases h
  · exact read_of_load hload

/-- An accepted source has no empty suffix among those that its target can have. -/
theorem suffix_ne_empty {command : String} {config : Config} {source : Path} {language : Language}
    (haccept : accept command config source = .ok language) (hnew : config.newFileSuffix ≠ "")
    {suffix : String} (hsuffix : suffix ∈ config.newFileSuffix :: config.specSuffixes) :
    suffix ≠ "" := by
  rcases List.mem_cons.1 hsuffix with rfl | hknown
  · exact hnew
  · rintro rfl
    obtain ⟨-, stem, extension, -, hends⟩ := exists_named_of_accept haccept
    exact hends "" hknown List.nil_suffix

/-- A command that succeeds leaves its source where and as it was, and has written another file of
the same directory. -/
theorem source_kept_of_generate {setting : Setting} {command : String} {config : Config}
    {source : Path} {specOf : Source → Path → Except Error Spec} {st : State} {outcome : Outcome}
    (hconfig : StaysInFolder config) (hnew : config.newFileSuffix ≠ "")
    (h : (generate setting command config source specOf st).1 = .done outcome) :
    ∃ stem extension suffix dir text, source.Named stem extension ∧
      suffix ∈ config.newFileSuffix :: config.specSuffixes ∧ suffix ≠ "" ∧
      outcome.target.Named (stem ++ suffix) extension ∧
      st.files.locate source = .ok (dir ++ [stem ++ "." ++ extension], .file (.text text)) ∧
      (generate setting command config source specOf st).2.files.locate source =
        .ok (dir ++ [stem ++ "." ++ extension], .file (.text text)) ∧
      (generate setting command config source specOf st).2.files.place? outcome.target =
        some (dir ++ [stem ++ suffix ++ "." ++ extension]) := by
  obtain ⟨⟨language, haccept⟩, htarget, dir, name, old, new, hwrites, hrewrites⟩ :=
    generate_done h
  obtain ⟨text, hread⟩ := read_of_generate h
  obtain ⟨place, hlocate⟩ := exists_locate_of_read hread
  obtain ⟨-, stem, extension, hnamed, -⟩ := exists_named_of_accept haccept
  obtain ⟨suffix, hsuffix, hpath, hnamedTarget⟩ := exists_named_target st.files hconfig hnamed
  have hne := suffix_ne_empty haccept hnew hsuffix
  have hplace := hwrites.place?_eq (occupant?_eq_file_iff.1 hrewrites.after)
  rw [htarget, hpath] at hwrites
  obtain ⟨rfl, rfl⟩ := place_eq_of_writesAt hnamed (hconfig suffix hsuffix) hlocate hrewrites.keeps
    hwrites
  have hother : dir ++ [stem ++ "." ++ extension] ≠
      dir ++ [stem ++ suffix ++ "." ++ extension] := by
    intro heq
    have hlast : stem ++ "" ++ "." ++ extension = stem ++ suffix ++ "." ++ extension := by
      simpa using heq
    rw [← fileName_of_named hnamed, ← fileName_of_named hnamed, fileName_inj] at hlast
    exact hne hlast.symm
  exact ⟨stem, extension, suffix, dir, text, hnamed, hsuffix, hne, htarget ▸ hnamedTarget, hlocate,
    hrewrites.locate_of_ne hother hlocate, hplace⟩

end Command

namespace Tool

/-- A call that generates tests and succeeds has got a path. -/
theorem filePath_of_ok {setting : Setting} {tool : Tool} {arguments answer : Json} {source : Path}
    {st : State} (hgenerates : tool = .mockThis ∨ tool = .mockEverything)
    (hsource : arguments.field "file_path" = .str source.text)
    (h : (tool.run setting arguments st).1 = .ok answer) : filePath arguments = .ok source := by
  refine filePath_eq_ok_iff.2 ⟨hsource, fun hempty => ?_⟩
  have hpath : filePath arguments = .error (.invalidArgument "file_path") := by
    unfold filePath
    rw [hsource, hempty]
    rfl
  rcases hgenerates with rfl | rfl
  · simp only [run, runMockThis, hpath] at h
    cases h
  · simp only [run, runMockEverything, hpath] at h
    cases h

end Tool

namespace Session

open Companion

/-- The source is never written.  Under a configuration that the environment and the request give,
with suffixes that lead to no other directory, a call that generates tests leaves the file that it
is about where it was, with the content it had.  If the call succeeds, the target it reports is a
file of the same directory, whose name is the stem of the source, a suffix that is not empty, a dot
and the extension of the source. -/
theorem source_never_written (lookup : String → Option String) (host : Host) (parser : Parser)
    (tool : Tool) (htool : tool = .mockThis ∨ tool = .mockEverything) (arguments : Json)
    (source : Path) (hsource : arguments.field "file_path" = .str source.text) (config : Config)
    (hbuilt : Tool.effectiveConfig (Config.ofLookup lookup) arguments = config)
    (hconfig : StaysInFolder config) (st next : State) (answer : Except Error Json)
    (hrun : tool.run ⟨Config.ofLookup lookup, host, parser⟩ arguments st = (answer, next)) :
    next.files.place? source = st.files.place? source ∧
      (∀ place, st.files.place? source = some place →
        next.files.occupant? place = st.files.occupant? place) ∧
      next.files.read source = st.files.read source ∧
      ∀ result, answer = .ok result → ∃ target stem extension suffix dir,
        result.field "target_file" = .str (Path.text target) ∧
        source.stem? = some stem ∧ source.extension? = some extension ∧
        suffix ∈ config.newFileSuffix :: config.specSuffixes ∧ suffix ≠ "" ∧
        target.fileName? = some (stem ++ suffix ++ "." ++ extension) ∧
        target.extension? = some extension ∧
        st.files.place? source = some (dir ++ [stem ++ "." ++ extension]) ∧
        next.files.place? target = some (dir ++ [stem ++ suffix ++ "." ++ extension]) := by
  cases answer with
  | error e =>
    have hfiles : next.files = st.files := by
      have hkept := Tool.files_of_run_error (congrArg Prod.fst hrun)
      rwa [hrun] at hkept
    rw [hfiles]
    exact ⟨rfl, fun _ _ => rfl, rfl, fun result hok => by cases hok⟩
  | ok result =>
    have hanswer := congrArg Prod.fst hrun
    have hpath := Tool.filePath_of_ok htool hsource hanswer
    obtain ⟨command, specOf, outcome, hdone, hafter, rfl⟩ :=
      Tool.exists_done_of_ok htool hpath hanswer
    have hnew : config.newFileSuffix ≠ "" := by
      rw [← hbuilt]
      have husable := Config.isUsable_ofLookup lookup
      exact (husable.toIsComplete.overriddenBy _ _).newFileSuffix_ne_empty
    rw [hbuilt] at hdone hafter
    obtain ⟨stem, extension, suffix, dir, text, hnamed, hsuffix, hne, hnamedTarget, hbefore, hkept,
      hwritten⟩ := Command.source_kept_of_generate hconfig hnew hdone
    rw [hrun] at hafter
    rw [← hafter] at hkept hwritten
    have hplace := Workspace.place?_of_locate hbefore
    refine ⟨?_, ?_, ?_, ?_⟩
    · rw [hplace, Workspace.place?_of_locate hkept]
    · intro place hsome
      rw [hplace] at hsome
      obtain rfl := Option.some.inj hsome
      rw [(Workspace.locate_eq_file_iff.1 hkept).2.2.2,
        (Workspace.locate_eq_file_iff.1 hbefore).2.2.2]
    · unfold Workspace.read
      rw [hkept, hbefore]
    · intro result hresult
      obtain rfl := Except.ok.inj hresult
      exact ⟨outcome.target, stem, extension, suffix, dir, rfl, hnamed.stem?_eq,
        hnamed.extension?_eq, hsuffix, hne, hnamedTarget.fileName, hnamedTarget.extension?_eq,
        hplace, hwritten⟩

/-- An environment with a suffix for new files that is not a known one. -/
def unitEnvironment (key : String) : Option String :=
  if key = Config.newFileSuffixVariable then some " .unit " else none

/-- The source is given under another spelling of its path. -/
theorem sampleFiles_source_kept :
    ∃ result target suffix next,
      Tool.mockThis.run { sampleSetting with config := Config.ofLookup unitEnvironment }
          (sampleArguments ".//./a.ts") ⟨{}, sampleFiles⟩ = (.ok result, next) ∧
        next.files.read ⟨".//./a.ts"⟩ = .ok "function f() \x7b\x7d" ∧
        result.field "target_file" = .str (Path.text target) ∧ suffix ≠ "" ∧
        next.files.place? target = some ["a" ++ suffix ++ ".ts"] := by
  have hok : (Tool.mockThis.run { sampleSetting with config := Config.ofLookup unitEnvironment }
      (sampleArguments ".//./a.ts") ⟨{}, sampleFiles⟩).1.toBool = true := by decide +kernel
  cases hrun : Tool.mockThis.run { sampleSetting with config := Config.ofLookup unitEnvironment }
      (sampleArguments ".//./a.ts") ⟨{}, sampleFiles⟩ with
  | mk answer next =>
    rw [hrun] at hok
    cases answer with
    | error e => cases hok
    | ok result =>
      obtain ⟨-, -, hread, hsuccess⟩ := source_never_written unitEnvironment sampleSetting.host
        sampleSetting.parser .mockThis (.inl rfl) (sampleArguments ".//./a.ts") ⟨".//./a.ts"⟩ rfl
        ⟨[".spec"], ".unit"⟩ (by decide +kernel) (by decide) ⟨{}, sampleFiles⟩ next (.ok result)
        hrun
      obtain ⟨target, stem, extension, suffix, dir, hreported, hstem, hextension, -, hne, -, -,
        hsource, htarget⟩ := hsuccess result rfl
      obtain rfl : "a" = stem := by
        have hfound : (⟨".//./a.ts"⟩ : Path).stem? = some "a" := by decide +kernel
        exact Option.some.inj (hfound.symm.trans hstem)
      obtain rfl : "ts" = extension := by
        have hfound : (⟨".//./a.ts"⟩ : Path).extension? = some "ts" := by decide +kernel
        exact Option.some.inj (hfound.symm.trans hextension)
      obtain rfl : [] = dir := by
        have hfound : sampleFiles.place? ⟨".//./a.ts"⟩ = some ["a.ts"] := by decide +kernel
        rw [hfound] at hsource
        simpa using hsource
      have hold : sampleFiles.read ⟨".//./a.ts"⟩ = .ok "function f() \x7b\x7d" := by rfl
      refine ⟨result, target, suffix, next, rfl, hread.trans hold, hreported, hne, ?_⟩
      rw [htarget, List.nil_append, String.append_assoc]
      rfl

end Session

end SpecScaffold
