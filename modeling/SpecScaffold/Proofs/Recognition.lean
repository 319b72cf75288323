import SpecScaffold.Proofs.Path.FileName
import SpecScaffold.Proofs.Target
import SpecScaffold.Workspace.Edit

/-!
# Recognising test files

A test file is recognised by the end of its stem, and the stem of a companion is that of the source
with the suffix.  So a companion with one of the known suffixes is recognised.  The suffix of new
files need not be a known one, and then a new file is recognised only if the source and this suffix
happen to end in a known one:

    isTestFile_target_iff : the target is recognised exactly if it is another companion than the
      default one, or the stem of the source and the suffix of new files end in a known suffix
-/

namespace SpecScaffold

namespace Path

/-- A path to a file whose name has a stem and an extension. -/
structure Named (p : Path) (stem extension : String) : Prop where
  fileName : p.fileName? = some (stem ++ "." ++ extension)
  stem_ne : stem ≠ ""
  extension_ne : extension ≠ ""
  noDot : '.' ∉ extension.toList

namespace Named

variable {p : Path} {stem extension : String} (h : p.Named stem extension)

include h

theorem stem?_eq : p.stem? = some stem := by
  rw [stem?, h.fileName, Option.map_some, splitName_concat h.stem_ne h.noDot]

theorem extension?_eq : p.extension? = some extension := by
  rw [extension?, h.fileName, Option.bind_some, splitName_concat h.stem_ne h.noDot]

theorem dottedExtension_eq : p.dottedExtension = "." ++ extension := by
  rw [dottedExtension, h.extension?_eq]

end Named

end Path

/-! ## Languages -/

/-- A file with a language has an extension, and one that is not empty. -/
theorem Language.exists_named {p : Path} {language : Language}
    (h : Language.detect p = .ok language) : ∃ stem extension, p.Named stem extension := by
  unfold detect at h
  cases hextension : p.extension? with
  | none =>
    rw [hextension] at h
    cases h
  | some extension =>
    rw [hextension] at h
    unfold Path.extension? at hextension
    obtain ⟨name, hname, hsplit⟩ := Option.bind_eq_some_iff.1 hextension
    rcases Path.splitName_cases name with ⟨hwhole, -⟩ | ⟨stem, found, hparts, hstem, hdot, hconcat⟩
    · rw [hwhole] at hsplit
      cases hsplit
    · rw [hparts] at hsplit
      obtain rfl := Option.some.inj hsplit
      refine ⟨stem, found, ?_, hstem, ?_, hdot⟩
      · rw [hname, hconcat]
      · rintro rfl
        cases h

/-- The extension alone decides the language. -/
theorem Language.detect_of_extension? {p q : Path} {language : Language}
    (hsame : q.extension? = p.extension?) (h : Language.detect p = .ok language) :
    Language.detect q = .ok language := by
  unfold detect at h ⊢
  rw [hsame]
  cases hextension : p.extension? with
  | none =>
    rw [hextension] at h
    cases h
  | some extension =>
    rw [hextension] at h
    exact h

namespace Companion

/-! ## The stem of a companion -/

section

variable {source : Path} {stem extension suffix : String}

theorem fileName_of_named (h : source.Named stem extension) (suffix : String) :
    fileName source suffix = stem ++ suffix ++ "." ++ extension := by
  rw [fileName, h.stem?_eq, Option.getD_some, h.dottedExtension_eq, ← String.append_assoc]

/-- A companion has the stem of the source with the suffix, and the extension of the source. -/
theorem named_path (h : source.Named stem extension) (hslash : '/' ∉ suffix.toList) :
    (path source suffix).Named (stem ++ suffix) extension := by
  have hname := fileName_of_named h suffix
  have hlength : 3 ≤ (fileName source suffix).length := by
    have hstem : stem.length ≠ 0 := fun hzero => h.stem_ne (String.length_eq_zero_iff.1 hzero)
    have hextension : extension.length ≠ 0 :=
      fun hzero => h.extension_ne (String.length_eq_zero_iff.1 hzero)
    have hdot : ".".length = 1 := rfl
    rw [hname]
    simp only [String.length_append]
    omega
  have hentry : Path.IsEntryName (fileName source suffix) := by
    obtain ⟨-, hnot⟩ := fileName_spec h.fileName hslash
    refine ⟨?_, ?_, ?_, hnot⟩
    · intro hempty
      rw [hempty] at hlength
      exact absurd hlength (by decide)
    · intro hdot
      rw [hdot] at hlength
      exact absurd hlength (by decide)
    · intro hdots
      rw [hdots] at hlength
      exact absurd hlength (by decide)
  refine ⟨?_, ?_, h.extension_ne, h.noDot⟩
  · rw [path_eq, Path.fileName?_join hentry, hname]
  · intro hempty
    exact h.stem_ne (String.append_eq_empty_iff.1 hempty).1

theorem isTestFile_iff (h : source.Named stem extension) {config : Config} :
    isTestFile config source = true ↔
      ∃ suffix ∈ config.specSuffixes, suffix.toList <:+ stem.toList := by
  unfold isTestFile
  rw [h.stem?_eq, Option.any_some, List.any_eq_true]
  simp only [List.isSuffixOf_iff_suffix]

/-- Which companion the target is. -/
theorem target_eq_path (w : Workspace) (config : Config) (source : Path) :
    (∃ suffix ∈ config.specSuffixes, suffix ≠ config.newFileSuffix ∧
        w.exists? (path source suffix) = true ∧ target w config source = path source suffix) ∨
      (∀ suffix ∈ config.specSuffixes, suffix ≠ config.newFileSuffix →
          w.exists? (path source suffix) = false) ∧
        target w config source = path source config.newFileSuffix := by
  unfold target
  cases hfind : (alternatives config source).find? w.exists? with
  | none =>
    refine .inr ⟨fun suffix hsuffix hother => ?_, rfl⟩
    have hmem : path source suffix ∈ alternatives config source :=
      List.mem_map_of_mem (List.mem_filter.2 ⟨hsuffix, bne_iff_ne.2 hother⟩)
    exact Bool.eq_false_iff.2 (List.find?_eq_none.1 hfind _ hmem)
  | some p =>
    obtain ⟨suffix, hsuffix, rfl⟩ := List.mem_map.1 (List.mem_of_find?_eq_some hfind)
    obtain ⟨hmem, hother⟩ := List.mem_filter.1 hsuffix
    exact .inl ⟨suffix, hmem, bne_iff_ne.1 hother, List.find?_some hfind, rfl⟩

/-- A companion with a known suffix is recognised. -/
theorem isTestFile_path (h : source.Named stem extension) {config : Config}
    (hslash : '/' ∉ suffix.toList) (hsuffix : suffix ∈ config.specSuffixes) :
    isTestFile config (path source suffix) = true := by
  rw [isTestFile_iff (named_path h hslash)]
  refine ⟨suffix, hsuffix, ?_⟩
  rw [String.toList_append]
  exact List.suffix_append stem.toList suffix.toList

theorem isTestFile_target_iff {w : Workspace} {config : Config} (hconfig : StaysInFolder config)
    (h : source.Named stem extension) :
    isTestFile config (target w config source) = true ↔
      (∃ suffix ∈ config.specSuffixes, suffix ≠ config.newFileSuffix ∧
          w.exists? (path source suffix) = true) ∨
        ∃ suffix ∈ config.specSuffixes,
          suffix.toList <:+ (stem ++ config.newFileSuffix).toList := by
  have hnew := named_path h (hconfig config.newFileSuffix List.mem_cons_self)
  rcases target_eq_path w config source with
    ⟨suffix, hsuffix, hother, hexists, htarget⟩ | ⟨hnone, htarget⟩
  · rw [htarget]
    have hslash := hconfig suffix (List.mem_cons_of_mem _ hsuffix)
    exact iff_of_true (isTestFile_path h hslash hsuffix) (.inl ⟨suffix, hsuffix, hother, hexists⟩)
  · rw [htarget, isTestFile_iff hnew]
    constructor
    · exact .inr
    · rintro (⟨suffix, hsuffix, hother, hexists⟩ | hends)
      · rw [hnone suffix hsuffix hother] at hexists
        cases hexists
      · exact hends

/-- The target has the stem of the source with one of the suffixes, and its extension. -/
theorem exists_named_target (w : Workspace) {config : Config} (hconfig : StaysInFolder config)
    (h : source.Named stem extension) :
    ∃ suffix ∈ config.newFileSuffix :: config.specSuffixes,
      target w config source = path source suffix ∧
        (target w config source).Named (stem ++ suffix) extension := by
  have hsuffix : ∃ suffix ∈ config.newFileSuffix :: config.specSuffixes,
      target w config source = path source suffix := by
    rcases target_eq_path w config source with ⟨suffix, hmem, -, -, htarget⟩ | ⟨-, htarget⟩
    · exact ⟨suffix, List.mem_cons_of_mem _ hmem, htarget⟩
    · exact ⟨config.newFileSuffix, List.mem_cons_self, htarget⟩
  obtain ⟨suffix, hmem, htarget⟩ := hsuffix
  refine ⟨suffix, hmem, htarget, ?_⟩
  rw [htarget]
  exact named_path h (hconfig suffix hmem)

end

end Companion

/-! ## Refusing -/

namespace Command

open Companion

/-- A source that is accepted has a language, and its stem ends in no known suffix. -/
theorem exists_named_of_accept {command : String} {config : Config} {source : Path}
    {language : Language} (h : accept command config source = .ok language) :
    Language.detect source = .ok language ∧ ∃ stem extension, source.Named stem extension ∧
      ∀ suffix ∈ config.specSuffixes, ¬suffix.toList <:+ stem.toList := by
  obtain ⟨-, htest⟩ := accept_eq_ok h
  have hdetect : Language.detect source = .ok language := by
    unfold accept at h
    cases hfound : Language.detect source with
    | error e =>
      rw [hfound] at h
      cases h
    | ok found =>
      rw [hfound] at h
      simp only [htest, Bool.false_eq_true, if_false] at h
      rw [Except.ok.inj h]
  obtain ⟨stem, extension, hnamed⟩ := Language.exists_named hdetect
  refine ⟨hdetect, stem, extension, hnamed, fun suffix hsuffix hends => ?_⟩
  have hrecognised := (isTestFile_iff hnamed).2 ⟨suffix, hsuffix, hends⟩
  rw [htest] at hrecognised
  cases hrecognised

theorem accept_of_detect {config : Config} {p : Path} {language : Language}
    (h : Language.detect p = .ok language) (command : String) :
    accept command config p =
      if isTestFile config p then .error (.specFileRefused p.text) else .ok language := by
  unfold accept
  rw [h]

/-- A source that is not accepted leaves everything as it was. -/
theorem generate_of_not_accepted {command : String} {config : Config} {source : Path} {e : Error}
    (h : accept command config source = .error e) (setting : Setting)
    (specOf : Source → Path → Except Error Spec) (st : State) :
    generate setting command config source specOf st = (.failed e, st) := by
  unfold generate load
  rw [h]

/-- When a test file is recognised.  The target of an accepted source is recognised as a test file
exactly if it is a companion that exists with a known suffix other than that of new files, or the
stem of the source and the suffix of new files end in a known suffix; so it is whenever the suffix of
new files is a known one.  A target that is recognised is refused by both commands, in every state;
one that is not is accepted as a source. -/
theorem target_refused_iff (config : Config) (hconfig : StaysInFolder config) (w : Workspace)
    (command : String) (source : Path) (language : Language)
    (haccept : accept command config source = .ok language) (target : Path)
    (htarget : Companion.target w config source = target) :
    ∃ stem, source.stem? = some stem ∧
      (isTestFile config target = true ↔
        (∃ suffix ∈ config.specSuffixes, suffix ≠ config.newFileSuffix ∧
            w.exists? (path source suffix) = true) ∨
          ∃ suffix ∈ config.specSuffixes,
            suffix.toList <:+ (stem ++ config.newFileSuffix).toList) ∧
      (config.newFileSuffix ∈ config.specSuffixes → isTestFile config target = true) ∧
      (isTestFile config target = true → ∀ setting st,
        (∀ line column, mockThis setting config target line column st =
            (.failed (.specFileRefused target.text), st)) ∧
          ∀ exportedOnly, mockEverything setting config target exportedOnly st =
            (.failed (.specFileRefused target.text), st)) ∧
      (isTestFile config target = false → ∀ again, accept again config target = .ok language) := by
  obtain ⟨hdetect, stem, extension, hnamed, -⟩ := exists_named_of_accept haccept
  have hiff := isTestFile_target_iff (w := w) hconfig hnamed
  obtain ⟨suffix, -, -, hnamedTarget⟩ := exists_named_target w hconfig hnamed
  rw [htarget] at hiff hnamedTarget
  have hsame : target.extension? = source.extension? := by
    rw [hnamedTarget.extension?_eq, hnamed.extension?_eq]
  have hlanguage := Language.detect_of_extension? hsame hdetect
  refine ⟨stem, hnamed.stem?_eq, hiff, fun hknown => hiff.2 (.inr ?_), ?_, ?_⟩
  · refine ⟨config.newFileSuffix, hknown, ?_⟩
    rw [String.toList_append]
    exact List.suffix_append _ _
  · intro htest setting st
    have hrefused : ∀ again, accept again config target =
        .error (.specFileRefused target.text) := by
      intro again
      rw [accept_of_detect hlanguage, if_pos htest]
    refine ⟨fun line column => ?_, fun exportedOnly => ?_⟩
    · exact generate_of_not_accepted (hrefused mockThisTitle) setting _ st
    · exact generate_of_not_accepted (hrefused mockEverythingTitle) setting _ st
  · intro htest again
    rw [accept_of_detect hlanguage, htest, if_neg Bool.false_ne_true]

/-- A suffix of new files that is not a known one but ends in one. -/
def unitSpecs : Config :=
  { newFileSuffix := ".unit.spec" }

theorem unitSpecs_target_refused :
    accept mockThisTitle unitSpecs ⟨"a.ts"⟩ = .ok .typeScript ∧
      Companion.target (.empty []) unitSpecs ⟨"a.ts"⟩ = ⟨"a.unit.spec.ts"⟩ ∧
      ∀ setting line column st,
        mockThis setting unitSpecs ⟨"a.unit.spec.ts"⟩ line column st =
          (.failed (.specFileRefused "a.unit.spec.ts"), st) := by
  have haccept : accept mockThisTitle unitSpecs ⟨"a.ts"⟩ = .ok .typeScript := by rfl
  have htarget : Companion.target (.empty []) unitSpecs ⟨"a.ts"⟩ = ⟨"a.unit.spec.ts"⟩ := by
    decide +kernel
  obtain ⟨stem, hstem, hiff, -, hrefused, -⟩ := target_refused_iff unitSpecs (by decide)
    (.empty []) mockThisTitle ⟨"a.ts"⟩ .typeScript haccept _ htarget
  obtain rfl : "a" = stem := Option.some.inj hstem
  have htest := hiff.2 (.inr ⟨".spec", by simp [unitSpecs], by decide⟩)
  exact ⟨haccept, htarget, fun setting line column st => (hrefused htest setting st).1 line column⟩

/-- Where the environment gives a suffix of new files that is not a known one, a new test file is not
recognised. -/
theorem new_test_file_not_recognised :
    ¬∀ (lookup : String → Option String) (suffixes? : Option (List String))
        (extension? : Option String) (config : Config),
      config = (Config.ofLookup lookup).overriddenBy suffixes? extension? →
        StaysInFolder config → ∀ (w : Workspace) (command : String) (source : Path)
          (language : Language), accept command config source = .ok language →
            isTestFile config (Companion.target w config source) = true := by
  intro hall
  have hrecognised := hall
    (fun key => if key = Config.newFileSuffixVariable then some ".test" else none) none none
    ⟨[".spec"], ".test"⟩ (by decide +kernel) (by decide) (.empty []) mockThisTitle ⟨"a.ts"⟩
    .typeScript rfl
  revert hrecognised
  decide +kernel

end Command

end SpecScaffold
