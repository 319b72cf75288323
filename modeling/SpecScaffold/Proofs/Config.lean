import SpecScaffold.Proofs.Text.LineCount
import SpecScaffold.Tool.Run

/-!
# Which configurations are usable

A suffix can only tell test files from others if it is a text: every name ends in the empty one.  A
usable configuration has suffixes, and these and the suffix of new files have no white space around
them.  Overrides come in two layers.  The environment cannot spoil a configuration, because each of
its suffixes is trimmed and a blank one is dropped.  A request cannot take the suffixes away or give
new files a blank one, but its list of suffixes is taken over as it is:

    the configuration of a request is usable ↔ every suffix that it lists is trimmed
-/

namespace SpecScaffold

open Text

/-! ## Reading arguments -/

namespace Json

theorem nullable?_of_ne_null {α : Type} (read : Json → Option α) {j : Json} (h : j ≠ .null) :
    j.nullable? read = (read j).map some := by
  cases j with
  | null => exact absurd rfl h
  | _ => rfl

theorem someStrings?_eq_some_iff {j : Json} {texts : List String} :
    j.someStrings? = some texts ↔ ∃ items, j = .arr items ∧ items.filterMap str? = texts := by
  cases j <;> simp [someStrings?]

theorem mem_filterMap_str?_iff {items : List Json} {text : String} :
    text ∈ items.filterMap str? ↔ .str text ∈ items := by
  rw [List.mem_filterMap]
  constructor
  · rintro ⟨item, hmem, hread⟩
    cases item with
    | str s =>
      obtain rfl := Option.some.inj hread
      exact hmem
    | _ => cases hread
  · exact fun hmem => ⟨.str text, hmem, rfl⟩

end Json

theorem Tool.filePath_eq_ok_iff {arguments : Json} {path : Path} :
    filePath arguments = .ok path ↔
      arguments.field "file_path" = .str path.text ∧ path.text ≠ "" := by
  unfold filePath
  cases arguments.field "file_path" with
  | str text =>
    simp only [Json.str?, Json.str.injEq]
    by_cases hempty : text = ""
    · rw [if_pos (by simpa using hempty)]
      constructor
      · rintro ⟨⟩
      · rintro ⟨rfl, hne⟩
        exact absurd hempty hne
    · rw [if_neg (by simpa using hempty)]
      constructor
      · intro h
        obtain rfl := Except.ok.inj h
        exact ⟨rfl, hempty⟩
      · rintro ⟨rfl, -⟩
        rfl
  | _ => simp [Json.str?]

namespace Config

/-! ## Reading suffixes -/

theorem isTrimmed_of_trimmed? {raw text : String} (h : trimmed? raw = some text) :
    IsTrimmed text.toList := by
  unfold trimmed? at h
  split at h
  · cases h
  · next cs hne =>
    obtain rfl := Option.some.inj h
    rw [String.toList_ofList]
    exact isTrimmed_trim hne

theorem isTrimmed_of_mem_readSuffixes {raw suffix : String} (h : suffix ∈ readSuffixes raw) :
    IsTrimmed suffix.toList := by
  obtain ⟨piece, -, hpiece⟩ := List.mem_filterMap.1 h
  exact isTrimmed_of_trimmed? hpiece

/-! ## Overrides -/

theorem newFileSuffix_withSuffixes (c : Config) (suffixes : List String) :
    (c.withSuffixes suffixes).newFileSuffix = c.newFileSuffix := by
  unfold withSuffixes
  split <;> rfl

theorem specSuffixes_withSuffixes (c : Config) (suffixes : List String) :
    (c.withSuffixes suffixes).specSuffixes =
      if suffixes = [] then c.specSuffixes else suffixes := by
  cases suffixes <;> rfl

theorem specSuffixes_withNewFileSuffix (c : Config) (raw : String) :
    (c.withNewFileSuffix raw).specSuffixes = c.specSuffixes := by
  unfold withNewFileSuffix
  split <;> rfl

/-- The suffix of new files does not touch the others. -/
theorem specSuffixes_overriddenBy (c : Config) (suffixes? : Option (List String))
    (extension? : Option String) :
    (c.overriddenBy suffixes? extension?).specSuffixes =
      ((suffixes?.map c.withSuffixes).getD c).specSuffixes := by
  cases extension? with
  | none => rfl
  | some raw => exact specSuffixes_withNewFileSuffix _ raw

/-- There is a suffix to know test files by, and new ones get a text for a suffix. -/
structure IsComplete (c : Config) : Prop where
  ne_nil : c.specSuffixes ≠ []
  newFileSuffix : IsTrimmed c.newFileSuffix.toList

/-- A complete configuration whose suffixes are all texts without white space around them. -/
structure IsUsable (c : Config) : Prop extends IsComplete c where
  specSuffixes : ∀ suffix ∈ c.specSuffixes, IsTrimmed suffix.toList

namespace IsComplete

variable {c : Config} (h : c.IsComplete)

include h

theorem withSuffixes (suffixes : List String) : (c.withSuffixes suffixes).IsComplete where
  ne_nil := by
    rw [specSuffixes_withSuffixes]
    split
    · exact h.ne_nil
    · next hne => exact hne
  newFileSuffix := by
    rw [newFileSuffix_withSuffixes]
    exact h.newFileSuffix

theorem withNewFileSuffix (raw : String) : (c.withNewFileSuffix raw).IsComplete where
  ne_nil := by
    rw [specSuffixes_withNewFileSuffix]
    exact h.ne_nil
  newFileSuffix := by
    unfold Config.withNewFileSuffix
    split
    · exact h.newFileSuffix
    · next extension htrimmed => exact isTrimmed_of_trimmed? htrimmed

/-- Whatever is given, overrides keep a configuration complete. -/
theorem overriddenBy (suffixes? : Option (List String)) (extension? : Option String) :
    (c.overriddenBy suffixes? extension?).IsComplete := by
  have hsuffixes : ((suffixes?.map c.withSuffixes).getD c).IsComplete := by
    cases suffixes? with
    | none => exact h
    | some suffixes => exact h.withSuffixes suffixes
  cases extension? with
  | none => exact hsuffixes
  | some raw => exact hsuffixes.withNewFileSuffix raw

theorem newFileSuffix_ne_empty : c.newFileSuffix ≠ "" := fun hempty =>
  h.newFileSuffix.ne_nil (by rw [hempty]; rfl)

end IsComplete

/-- Overrides keep a configuration usable exactly if they list trimmed suffixes only. -/
theorem IsUsable.overriddenBy_iff {c : Config} (h : c.IsUsable) (suffixes? : Option (List String))
    (extension? : Option String) :
    (c.overriddenBy suffixes? extension?).IsUsable ↔
      ∀ suffixes, suffixes? = some suffixes →
        ∀ suffix ∈ suffixes, IsTrimmed suffix.toList := by
  have hcomplete := h.toIsComplete.overriddenBy suffixes? extension?
  have hspec := specSuffixes_overriddenBy c suffixes? extension?
  constructor
  · rintro husable suffixes rfl suffix hmem
    refine husable.specSuffixes suffix ?_
    rw [hspec, Option.map_some, Option.getD_some, specSuffixes_withSuffixes,
      if_neg (List.ne_nil_of_mem hmem)]
    exact hmem
  · intro hlisted
    refine ⟨hcomplete, ?_⟩
    rw [hspec]
    cases suffixes? with
    | none => exact h.specSuffixes
    | some suffixes =>
      rw [Option.map_some, Option.getD_some, specSuffixes_withSuffixes]
      split
      · exact h.specSuffixes
      · exact hlisted suffixes rfl

/-! ## The layers -/

theorem isUsable_default : ({} : Config).IsUsable := by
  have hsuffix : IsTrimmed ".spec".toList := ⟨by decide, by decide, by decide⟩
  refine ⟨⟨by decide, hsuffix⟩, fun suffix hmem => ?_⟩
  obtain rfl := List.mem_singleton.1 hmem
  exact hsuffix

/-- No environment spoils the configuration. -/
theorem isUsable_ofLookup (lookup : String → Option String) : (ofLookup lookup).IsUsable := by
  refine (isUsable_default.overriddenBy_iff _ _).2 fun suffixes hread suffix hmem => ?_
  obtain ⟨raw, -, rfl⟩ := Option.map_eq_some_iff.1 hread
  exact isTrimmed_of_mem_readSuffixes hmem

/-- What an environment and a request give.  The environment always gives a usable configuration,
and whatever the request says, there are suffixes left and new files get one that is trimmed.  The
known suffixes are all trimmed if and only if those are that the request lists. -/
theorem effective_usable_iff (lookup : String → Option String) (arguments : Json) :
    (ofLookup lookup).IsUsable ∧ (Tool.effectiveConfig (ofLookup lookup) arguments).IsComplete ∧
      ((Tool.effectiveConfig (ofLookup lookup) arguments).IsUsable ↔
        ∀ items, arguments.field "spec_suffix" = .arr items →
          ∀ suffix, .str suffix ∈ items → IsTrimmed suffix.toList) := by
  have husable := isUsable_ofLookup lookup
  refine ⟨husable, husable.toIsComplete.overriddenBy _ _, ?_⟩
  rw [Tool.effectiveConfig, husable.overriddenBy_iff]
  constructor
  · intro hlisted items hitems suffix hmem
    refine hlisted _ (Json.someStrings?_eq_some_iff.2 ⟨items, hitems, rfl⟩) suffix ?_
    exact Json.mem_filterMap_str?_iff.2 hmem
  · intro hlisted suffixes hread suffix hmem
    obtain ⟨items, hitems, rfl⟩ := Json.someStrings?_eq_some_iff.1 hread
    exact hlisted items hitems suffix (Json.mem_filterMap_str?_iff.1 hmem)

/-- A request may list an empty suffix and one with a space before it, and gets both. -/
theorem empty_suffix_from_request : ¬∀ lookup arguments,
    (Tool.effectiveConfig (ofLookup lookup) arguments).IsUsable := by
  intro h
  have husable := h (fun _ => none)
    (.obj [("spec_suffix", .arr [.str "", .str " .test"]), ("default_extension", .null)])
  exact (husable.specSuffixes "" (by decide +kernel)).ne_nil rfl

end Config

end SpecScaffold
