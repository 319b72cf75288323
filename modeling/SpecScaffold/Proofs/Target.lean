import SpecScaffold.Proofs.Delivery
import SpecScaffold.Proofs.Path.Companion

/-!
# The target stays the target

Tests go to the first companion that exists, and writing them makes one.  A file that is written
where there was none is the default companion, which is not looked for; and the other companions,
which are different files of the same directory, exist after the write if they did before.  So a
source has one target from the first write on:

    target_of_rewrites : what has been the target is the target after it has been written, and
      exists then
    generate_done : a command that succeeds has written the target of its source
-/

namespace SpecScaffold

open Text

/-! ## What exists -/

namespace Workspace

/-- A path names something if its names lead somewhere, and to a directory if it ends in a slash. -/
theorem exists?_iff {w : Workspace} {p : Path} :
    w.exists? p = true ↔ checkOpened p = .ok () ∧
      ∃ place, w.follow (w.start p) (segments p) = .ok place ∧ (w.occupant? place).isSome ∧
        (endsInSlash p = true → w.occupant? place = some .directory) := by
  unfold exists? locate reach occupant?
  cases checkOpened p with
  | error e => simp
  | ok u =>
    cases w.follow (w.start p) (segments p) with
    | error e => simp
    | ok place =>
      cases hfind : w.tree.find? place with
      | none => simp [hfind]
      | some e => cases e <;> cases endsInSlash p <;> simp [hfind, Entry.isDir, Entry.occupant]

section

variable {w w' : Workspace} {p : Path}

theorem Keeps.start_eq (h : Keeps w w') (p : Path) : w'.start p = w.start p := by
  unfold start
  rw [h.here]

theorem Keeps.exists? (h : Keeps w w') (he : w.exists? p = true) : w'.exists? p = true := by
  obtain ⟨hopen, place, hfollow, hsome, hslash⟩ := exists?_iff.1 he
  refine exists?_iff.2 ⟨hopen, place, ?_, h.isSome place hsome, ?_⟩
  · rw [h.start_eq]
    exact h.follow hfollow
  · intro hend
    exact h.directory place (hslash hend)

/-- The way to a directory goes through directories, and through nothing else. -/
theorem follow_of_directories
    (hsame : ∀ place, w'.occupant? place = some .directory → w.occupant? place = some .directory)
    {place last : List String} (hlast : w'.occupant? last = some .directory) {names : List String}
    (h : w'.follow place names = .ok last) : w.follow place names = .ok last := by
  induction names generalizing place with
  | nil => exact h
  | cons name names ih =>
    simp only [follow] at h ⊢
    cases hs : w'.step place name with
    | error e => rw [hs] at h; cases h
    | ok next =>
      rw [hs] at h
      have hnext : w'.occupant? next = some .directory := by
        cases names with
        | nil =>
          obtain rfl : next = last := Except.ok.inj h
          exact hlast
        | cons further names =>
          simp only [follow] at h
          cases hf : w'.step next further with
          | error e => rw [hf] at h; cases h
          | ok place => exact (step_eq_ok_iff.1 hf).1
      have hstep : w.step place name = .ok next := by
        rw [step_eq_ok_iff] at hs ⊢
        obtain ⟨hdir, hname⟩ := hs
        refine ⟨hsame place hdir, ?_⟩
        rcases hname with hdot | hdots | ⟨h1, h2, h3, -, h5⟩
        · exact .inl hdot
        · exact .inr (.inl hdots)
        · refine .inr (.inr ⟨h1, h2, h3, ?_, h5⟩)
          rw [← h5, hsame next hnext]
          rfl
      rw [hstep]
      exact ih h

/-! ## After a file has been written -/

variable {place : List String} {old new : String}

/-- Writing a file neither makes nor removes a directory. -/
theorem Rewrites.occupant?_eq_directory_iff (h : w.Rewrites w' place old new)
    (other : List String) :
    w'.occupant? other = some .directory ↔ w.occupant? other = some .directory := by
  by_cases hother : other = place
  · rw [hother, h.after]
    rcases h.before with hold | ⟨hnone, -⟩
    · rw [hold]
      simp
    · rw [hnone]
      simp
  · rw [h.elsewhere other hother]

theorem Rewrites.keeps (h : w.Rewrites w' place old new) : Keeps w w' where
  directory := fun other hdir => (h.occupant?_eq_directory_iff other).2 hdir
  isSome := by
    intro other hsome
    by_cases hother : other = place
    · rw [hother, h.after]
      rfl
    · rwa [h.elsewhere other hother]
  here := h.here

/-- Where there was a file before, nothing has come into existence. -/
theorem Rewrites.keeps_back (h : w.Rewrites w' place old new) (hold : w.occupant? place ≠ none) :
    Keeps w' w where
  directory := fun other hdir => (h.occupant?_eq_directory_iff other).1 hdir
  isSome := by
    intro other hsome
    by_cases hother : other = place
    · rw [hother]
      exact Option.isSome_iff_ne_none.2 hold
    · rwa [← h.elsewhere other hother]
  here := h.here.symm

/-- A path to another name in the directory of the written file names nothing new. -/
theorem Rewrites.exists?_of_other_name {dir : List String} {name other : String}
    (h : w.Rewrites w' (dir ++ [name]) old new) (hne : other ≠ name) {names : List String}
    (hsegments : segments p = names ++ [other]) (hslash : endsInSlash p = false)
    (hreached : w'.follow (w'.start p) names = .ok dir)
    (hdir : w'.occupant? dir = some .directory) (he : w'.exists? p = true) :
    w.exists? p = true := by
  obtain ⟨hopen, place, hfollow, hsome, -⟩ := exists?_iff.1 he
  have hs : w'.step dir other = .ok place := by
    rw [hsegments, follow_append, hreached] at hfollow
    rwa [← follow_singleton]
  rw [step_eq_ok_iff] at hs
  have hplace : place ≠ dir ++ [name] := by
    rcases hs.2 with ⟨-, rfl⟩ | ⟨-, rfl⟩ | ⟨-, -, -, -, rfl⟩
    · simp
    · intro heq
      have hlength := congrArg List.length heq
      rw [List.length_dropLast, List.length_append] at hlength
      simp at hlength
    · simpa using hne
  have hsame : w'.occupant? place = w.occupant? place := h.elsewhere place hplace
  have hstep : w.step dir other = .ok place := by
    rw [step_eq_ok_iff]
    refine ⟨(h.occupant?_eq_directory_iff dir).1 hdir, ?_⟩
    rcases hs.2 with hdot | hdots | ⟨h1, h2, h3, h4, rfl⟩
    · exact .inl hdot
    · exact .inr (.inl hdots)
    · exact .inr (.inr ⟨h1, h2, h3, hsame ▸ h4, rfl⟩)
  have hback : w.follow (w.start p) names = .ok dir := by
    rw [← h.keeps.start_eq]
    exact follow_of_directories (fun other => (h.occupant?_eq_directory_iff other).1) hdir hreached
  refine exists?_iff.2 ⟨hopen, place, ?_, hsame ▸ hsome, ?_⟩
  · rw [hsegments, follow_append, hback]
    simp only [follow, hstep]
  · intro hend
    rw [hslash] at hend
    cases hend

end

end Workspace

/-! ## The target -/

namespace Companion

open Workspace

theorem target_eq_of_exists? {w w' : Workspace} {config : Config} {source : Path}
    (h : ∀ p ∈ alternatives config source, w'.exists? p = w.exists? p) :
    target w' config source = target w config source := by
  unfold target
  rw [← List.head?_filter, ← List.head?_filter, List.filter_congr h]

/-- The target exists, or it is the default companion. -/
theorem target_cases (w : Workspace) (config : Config) (source : Path) :
    w.exists? (target w config source) = true ∨
      target w config source = path source config.newFileSuffix := by
  unfold target
  cases hfind : (alternatives config source).find? w.exists? with
  | none => exact .inr rfl
  | some p => exact .inl (List.find?_some hfind)

/-- Neither a suffix nor the suffix of new files leads to another directory. -/
def StaysInFolder (config : Config) : Prop :=
  ∀ suffix ∈ config.newFileSuffix :: config.specSuffixes, '/' ∉ suffix.toList

instance (config : Config) : Decidable (StaysInFolder config) :=
  inferInstanceAs (Decidable (∀ suffix ∈ _, '/' ∉ String.toList suffix))

/-- A companion is written under its own name into the folder of the source. -/
theorem writesAt_path {w : Workspace} {source : Path} {own suffix : String}
    (hown : source.fileName? = some own) (hslash : '/' ∉ suffix.toList) {dir : List String}
    {name : String} (h : WritesAt w (path source suffix) dir name) :
    name = fileName source suffix ∧
      w.follow (w.start (folder source)) (segments (folder source)) = .ok dir := by
  have hlast := h.last
  have hreached := h.reached
  rw [segments_path hown hslash] at hlast hreached
  rw [List.dropLast_concat, start_path hown hslash] at hreached
  exact ⟨by simpa using hlast.symm, hreached⟩

/-- What has been the target is the target after it has been written, and exists then. -/
theorem target_of_rewrites {w w' : Workspace} {config : Config} {source : Path} {own : String}
    (hown : source.fileName? = some own) (hconfig : StaysInFolder config) {dir : List String}
    {name old new : String} (hwrites : WritesAt w' (target w config source) dir name)
    (hrewrites : w.Rewrites w' (dir ++ [name]) old new) :
    target w' config source = target w config source ∧
      w'.exists? (target w config source) = true := by
  refine ⟨target_eq_of_exists? fun p hp => ?_, ?_⟩
  · by_cases hold : w.occupant? (dir ++ [name]) = none
    · -- the target has just been made, so it is the default companion and `p` is another file
      have hnew : w.exists? (target w config source) ≠ true := by
        intro he
        obtain ⟨-, place, hfollow, hsome, -⟩ := exists?_iff.1 he
        have hthere := hwrites.follow_eq (by rw [hrewrites.after]; rfl)
        rw [hrewrites.keeps.start_eq, hrewrites.keeps.follow hfollow] at hthere
        obtain rfl := Except.ok.inj hthere
        rw [hold] at hsome
        cases hsome
      have hdefault := (target_cases w config source).resolve_left hnew
      rw [hdefault] at hwrites
      obtain ⟨suffix, hsuffix, rfl⟩ := List.mem_map.1 hp
      obtain ⟨hmem, hne⟩ := List.mem_filter.1 hsuffix
      have hslash := hconfig suffix (List.mem_cons_of_mem _ hmem)
      have hnewSlash := hconfig config.newFileSuffix List.mem_cons_self
      obtain ⟨hname, hreached⟩ := writesAt_path hown hnewSlash hwrites
      rw [← start_path hown hslash] at hreached
      rw [Bool.eq_iff_iff]
      constructor
      · refine hrewrites.exists?_of_other_name ?_ (segments_path hown hslash)
          (endsInSlash_path hown hslash) hreached hwrites.directory
        rw [hname, Ne, fileName_inj]
        simpa using hne
      · exact hrewrites.keeps.exists?
    · rw [Bool.eq_iff_iff]
      exact ⟨(hrewrites.keeps_back hold).exists?, hrewrites.keeps.exists?⟩
  · have hlocate := hwrites.locate_eq (occupant?_eq_file_iff.1 hrewrites.after)
    unfold exists?
    rw [hlocate]

end Companion

/-! ## The commands -/

namespace Command

/-- A source that is accepted has a file name, and not that of a test file. -/
theorem accept_eq_ok {command : String} {config : Config} {p : Path} {language : Language}
    (h : accept command config p = .ok language) :
    (∃ own, p.fileName? = some own) ∧ Companion.isTestFile config p = false := by
  unfold accept at h
  split at h
  · cases h
  · next found hdetect =>
    split at h
    · cases h
    · next htest =>
      refine ⟨?_, Bool.eq_false_iff.2 htest⟩
      cases hname : p.fileName? with
      | some own => exact ⟨own, rfl⟩
      | none =>
        unfold Language.detect Path.extension? at hdetect
        rw [hname] at hdetect
        cases hdetect

theorem accept_of_load {parser : Parser} {command : String} {config : Config} {p : Path}
    {st loaded : State} {src : Source} (h : load parser command config p st = (.ok src, loaded)) :
    ∃ language, accept command config p = .ok language := by
  unfold load at h
  cases haccept : accept command config p with
  | error e => rw [haccept] at h; cases h
  | ok language => exact ⟨language, rfl⟩

/-- A command that succeeds has accepted its source, and has written the target of the source. -/
theorem generate_done {setting : Setting} {command : String} {config : Config} {source : Path}
    {specOf : Source → Path → Except Error Spec} {st : State} {outcome : Outcome}
    (h : (generate setting command config source specOf st).1 = .done outcome) :
    (∃ language, accept command config source = .ok language) ∧
      outcome.target = Companion.target st.files config source ∧
      ∃ dir name old new,
        Workspace.WritesAt (generate setting command config source specOf st).2.files
            outcome.target dir name ∧
          st.files.Rewrites (generate setting command config source specOf st).2.files
            (dir ++ [name]) old new := by
  have hfiles := load_files setting.parser command config source st
  unfold generate at h ⊢
  rcases hload : load setting.parser command config source st with ⟨_ | src, loaded⟩
  · rw [hload] at h
    cases h
  · rw [hload] at h hfiles
    simp only at h hfiles ⊢
    refine ⟨accept_of_load hload, ?_⟩
    cases hspec : specOf src (Companion.target loaded.files config source) with
    | error e =>
      rw [hspec] at h
      cases h
    | ok spec =>
      rw [hspec] at h
      simp only at h ⊢
      rcases deliver_cases setting.host command source
          (Companion.target loaded.files config source) spec loaded.files with
        ⟨e, he⟩ | ⟨w', dir, name, old, new, hwrites, hrewrites, -, hdeliver⟩
      · rw [he] at h
        cases h
      · rw [hdeliver] at h ⊢
        obtain rfl := Attempt.done.inj h
        rw [hfiles] at hwrites hrewrites ⊢
        exact ⟨rfl, dir, name, old, new, hwrites, hrewrites⟩

end Command

namespace Tool

theorem done_of_report {host : Host} {command : String} {result : Attempt Outcome × State}
    {answer : Json} (h : (report host command result).1 = .ok answer) :
    ∃ outcome, result.1 = .done outcome ∧ answer = outcome.toJson := by
  unfold report at h
  cases hattempt : result.1 with
  | done outcome =>
    rw [hattempt] at h
    exact ⟨outcome, rfl, (Except.ok.inj h).symm⟩
  | failed e => rw [hattempt] at h; cases h
  | fault message? => rw [hattempt] at h; cases h

/-- A call that generates tests and succeeds is a command that succeeds. -/
theorem exists_done_of_ok {setting : Setting} {tool : Tool} {arguments answer : Json}
    {source : Path} {st : State} (hgenerates : tool = .mockThis ∨ tool = .mockEverything)
    (hpath : filePath arguments = .ok source)
    (h : (tool.run setting arguments st).1 = .ok answer) :
    ∃ command specOf outcome,
      (Command.generate setting command (effectiveConfig setting.config arguments) source specOf
          st).1 = .done outcome ∧
        (tool.run setting arguments st).2 =
          (Command.generate setting command (effectiveConfig setting.config arguments) source
            specOf st).2 ∧
        answer = outcome.toJson := by
  rcases hgenerates with rfl | rfl
  · simp only [run, runMockThis, hpath] at h ⊢
    split at h
    · cases h
    · cases h
    · cases h
    · next path line column hfound hline hcolumn =>
      obtain rfl := Except.ok.inj hfound
      obtain ⟨outcome, hdone, hanswer⟩ := done_of_report h
      exact ⟨_, _, outcome, hdone, rfl, hanswer⟩
  · simp only [run, runMockEverything, hpath] at h ⊢
    obtain ⟨outcome, hdone, hanswer⟩ := done_of_report h
    exact ⟨_, _, outcome, hdone, rfl, hanswer⟩

/-- What is found for a source that is not a test file. -/
theorem exists_resolve_eq {config : Config} {arguments : Json} {source : Path} (w : Workspace)
    (hpath : filePath arguments = .ok source)
    (htest : Companion.isTestFile (effectiveConfig config arguments) source = false) :
    ∃ found, resolve config arguments w = .ok found ∧
      found.field "target_file" =
        .str (Companion.target w (effectiveConfig config arguments) source).text ∧
      found.field "exists" =
        .bool (w.exists? (Companion.target w (effectiveConfig config arguments) source)) := by
  unfold resolve
  rw [hpath]
  simp only [htest, Bool.false_eq_true, if_false]
  exact ⟨_, rfl, rfl, rfl⟩

end Tool

end SpecScaffold
