import SpecScaffold.Proofs.Config
import SpecScaffold.Proofs.Session.Basic
import SpecScaffold.Tool.Call

/-!
# A decoded call is the call

A request goes through two readers.  It is decoded strictly into a call, the call is written out
again with `null` for what is absent, and the tool reads that leniently.  Where the strict reader
accepts, the lenient one finds the same values in the arguments as they came:

    decode? tool arguments = some call → call.run setting st = tool.run setting arguments st

The new-file suffix is the one value that only one side may see: a switch between files has no such
argument, but reads it if it is there.  Which files are a family does not depend on it
(`Family.members_eq_of_specSuffixes`).
-/

namespace SpecScaffold

/-! ## Strict and lenient readers -/

namespace Json

theorem field_eq_getD (key : String) (j : Json) : j.field key = (j.field? key).getD .null := by
  cases j <;> rfl

theorem filterMap_str?_of_mapM {items : List Json} {ss : List String}
    (h : items.mapM str? = some ss) : items.filterMap str? = ss := by
  induction items generalizing ss with
  | nil => exact Option.some.inj h
  | cons item items ih =>
    rw [List.mapM_cons] at h
    obtain ⟨s, hs, hrest⟩ := Option.bind_eq_some_iff.1 h
    obtain ⟨rest, hitems, heq⟩ := Option.bind_eq_some_iff.1 hrest
    obtain rfl : s :: rest = ss := Option.some.inj heq
    rw [List.filterMap_cons_some hs, ih hitems]

/-- Of a list of strings and nothing else, the strings are all. -/
theorem someStrings?_of_strings? {j : Json} {ss : List String} (h : j.strings? = some ss) :
    j.someStrings? = some ss := by
  cases j with
  | arr items => exact congrArg some (filterMap_str?_of_mapM h)
  | _ => cases h

theorem someStrings?_ofStrings (ss : List String) : (ofStrings ss).someStrings? = some ss := by
  show some ((ss.map Json.str).filterMap str?) = some ss
  rw [List.filterMap_map]
  exact congrArg some (List.filterMap_some)

/-- A number that has been read as a word can be written and read again. -/
theorem word?_ofNat_of_word? {j : Json} {n : Nat} (h : j.word? = some n) :
    (ofNat n).word? = some n := by
  cases j with
  | int i =>
    rw [word?] at h
    split at h
    · next hbounds =>
      have hn : i.toNat = n := Option.some.inj h
      rw [ofNat, word?, if_pos (by omega), Int.toNat_natCast]
    · cases h
  | _ => cases h

/-- A value that is read strictly, or `null`, is what a lenient reader finds. -/
theorem lenient_of_nullable? {α : Type} {strict lenient : Json → Option α} {j : Json}
    {a? : Option α} (hnull : lenient .null = none)
    (hstrict : ∀ j a, strict j = some a → lenient j = some a)
    (h : j.nullable? strict = some a?) : lenient j = a? := by
  by_cases hj : j = .null
  · subst hj
    rw [hnull]
    exact Option.some.inj h
  · rw [nullable?_of_ne_null strict hj] at h
    obtain ⟨a, ha, rfl⟩ := Option.map_eq_some_iff.1 h
    exact hstrict j a ha

theorem str?_ofOption (s? : Option String) : (ofOption Json.str s?).str? = s? := by
  cases s? <;> rfl

theorem someStrings?_ofOption (ss? : Option (List String)) :
    (ofOption ofStrings ss?).someStrings? = ss? := by
  cases ss? with
  | none => rfl
  | some ss => exact someStrings?_ofStrings ss

theorem nullable?_word?_ofOption {j : Json} {n? : Option Nat} (h : j.nullable? word? = some n?) :
    (ofOption ofNat n?).nullable? word? = some n? := by
  cases n? with
  | none => rfl
  | some n =>
    have hword : j.word? = some n := lenient_of_nullable? rfl (fun _ _ ha => ha) h
    show ((ofNat n).word?).map some = some (some n)
    rw [word?_ofNat_of_word? hword]
    rfl

end Json

/-! ## Families and the suffix of new files -/

namespace Family

theorem members_eq_of_specSuffixes {c c' : Config} (h : c.specSuffixes = c'.specSuffixes)
    (w : Workspace) (top current : Path) (exclude : List String) :
    members w c top current exclude = members w c' top current exclude := by
  simp only [members, memberNames, base, h]

end Family

/-! ## What a tool reads -/

namespace Tool

/-- Two objects of arguments in which the readings that all tools make are the same. -/
structure ReadAlike (a b : Json) : Prop where
  path : (a.field "file_path").str? = (b.field "file_path").str?
  suffixes : (a.field "spec_suffix").someStrings? = (b.field "spec_suffix").someStrings?

namespace ReadAlike

variable {a b : Json} (h : ReadAlike a b)

include h

theorem filePath_eq : filePath a = filePath b := by
  rw [filePath, h.path, filePath]

theorem effectiveConfig_eq
    (hextension : (a.field "default_extension").str? = (b.field "default_extension").str?)
    (config : Config) : effectiveConfig config a = effectiveConfig config b := by
  rw [effectiveConfig, h.suffixes, hextension, effectiveConfig]

theorem runMockThis_eq
    (hextension : (a.field "default_extension").str? = (b.field "default_extension").str?)
    (hline : (a.field "line").word? = (b.field "line").word?)
    (hcolumn : (a.field "column").nullable? Json.word? = (b.field "column").nullable? Json.word?)
    (setting : Setting) (st : State) : runMockThis setting a st = runMockThis setting b st := by
  have hlineEq : line a = line b := by rw [line, hline, line]
  have hcolumnEq : column a = column b := by rw [column, hcolumn, column]
  rw [runMockThis, h.filePath_eq, hlineEq, hcolumnEq, h.effectiveConfig_eq hextension, runMockThis]

theorem runMockEverything_eq
    (hextension : (a.field "default_extension").str? = (b.field "default_extension").str?)
    (hflag : (a.field "exported_only").bool?.getD false =
      (b.field "exported_only").bool?.getD false)
    (setting : Setting) (st : State) :
    runMockEverything setting a st = runMockEverything setting b st := by
  rw [runMockEverything, h.filePath_eq, hflag, h.effectiveConfig_eq hextension, runMockEverything]

/-- A switch makes no use of the suffix of new files. -/
theorem toggle_eq (hroot : (a.field "root").str? = (b.field "root").str?)
    (hexclude : (a.field "exclude").someStrings? = (b.field "exclude").someStrings?)
    (config : Config) (w : Workspace) : toggle config a w = toggle config b w := by
  have hspec : (effectiveConfig config a).specSuffixes =
      (effectiveConfig config b).specSuffixes := by
    simp only [effectiveConfig, Config.specSuffixes_overriddenBy, h.suffixes]
  unfold toggle
  simp only [h.filePath_eq, hroot, hexclude, Family.members_eq_of_specSuffixes hspec]

theorem resolve_eq
    (hextension : (a.field "default_extension").str? = (b.field "default_extension").str?)
    (config : Config) (w : Workspace) : resolve config a w = resolve config b w := by
  rw [resolve, h.filePath_eq, h.effectiveConfig_eq hextension, resolve]

end ReadAlike

end Tool

/-! ## Decoding -/

namespace ToolCall

open Session (sampleSetting sampleFiles)

section

variable {arguments : Json} {key : String}

theorem read_field_of_required? {α : Type} {read : Json → Option α} {a : α}
    (h : required? read key arguments = some a) : read (arguments.field key) = some a := by
  obtain ⟨value, hvalue, ha⟩ := Option.bind_eq_some_iff.1 h
  rw [Json.field_eq_getD, hvalue]
  exact ha

theorem nullable?_field_of_optional? {α : Type} {read : Json → Option α} {a? : Option α}
    (h : optional? read key arguments = some a?) :
    (arguments.field key).nullable? read = some a? := by
  rw [Json.field_eq_getD]
  unfold optional? at h
  cases hfield : arguments.field? key with
  | none =>
    rw [hfield] at h
    exact h
  | some value =>
    rw [hfield] at h
    exact h

theorem str?_field_of_optional? {s? : Option String}
    (h : optional? Json.str? key arguments = some s?) : (arguments.field key).str? = s? :=
  Json.lenient_of_nullable? rfl (fun _ _ hs => hs) (nullable?_field_of_optional? h)

theorem someStrings?_field_of_optional? {ss? : Option (List String)}
    (h : optional? Json.strings? key arguments = some ss?) :
    (arguments.field key).someStrings? = ss? :=
  Json.lenient_of_nullable? rfl (fun _ _ => Json.someStrings?_of_strings?)
    (nullable?_field_of_optional? h)

theorem bool?_field_of_flag? {b : Bool} (h : flag? key arguments = some b) :
    (arguments.field key).bool?.getD false = b := by
  rw [Json.field_eq_getD]
  unfold flag? at h
  cases hfield : arguments.field? key with
  | none =>
    rw [hfield] at h
    exact Option.some.inj h
  | some value =>
    rw [hfield] at h
    have hb : value.bool? = some b := h
    rw [Option.getD_some, hb, Option.getD_some]

end

/-! ## Running what has been decoded -/

/-- Running a call is running the tool on the arguments that the call was decoded from. -/
theorem run_of_decode? {tool : Tool} {arguments : Json} {call : ToolCall}
    (h : decode? tool arguments = some call) (setting : Setting) (st : State) :
    call.run setting st = tool.run setting arguments st := by
  simp only [decode?, Option.bind_eq_bind, Option.bind_eq_some_iff] at h
  obtain ⟨path, hpath, suffixes?, hsuffixes, hrest⟩ := h
  have hpath := (read_field_of_required? hpath).symm
  have hsuffixes := (Json.someStrings?_ofOption suffixes?).trans
    (someStrings?_field_of_optional? hsuffixes).symm
  cases tool with
  | mockThis =>
    simp only [Option.bind_eq_some_iff] at hrest
    obtain ⟨line, hline, column?, hcolumn, extension?, hextension, hcall⟩ := hrest
    obtain rfl := Option.some.inj hcall
    have hword := read_field_of_required? hline
    have hnullable := nullable?_field_of_optional? hcolumn
    have halike : Tool.ReadAlike
        (ToolCall.mockThis path line column? suffixes? extension?).arguments arguments :=
      ⟨hpath, hsuffixes⟩
    refine halike.runMockThis_eq ?_ ?_ ?_ setting st
    · exact (Json.str?_ofOption extension?).trans (str?_field_of_optional? hextension).symm
    · exact (Json.word?_ofNat_of_word? hword).trans hword.symm
    · exact (Json.nullable?_word?_ofOption hnullable).trans hnullable.symm
  | mockEverything =>
    simp only [Option.bind_eq_some_iff] at hrest
    obtain ⟨exportedOnly, hflag, extension?, hextension, hcall⟩ := hrest
    obtain rfl := Option.some.inj hcall
    have halike : Tool.ReadAlike
        (ToolCall.mockEverything path exportedOnly suffixes? extension?).arguments arguments :=
      ⟨hpath, hsuffixes⟩
    refine halike.runMockEverything_eq ?_ ?_ setting st
    · exact (Json.str?_ofOption extension?).trans (str?_field_of_optional? hextension).symm
    · exact (bool?_field_of_flag? hflag).symm
  | toggleSpec =>
    simp only [Option.bind_eq_some_iff] at hrest
    obtain ⟨root?, hroot, exclude?, hexclude, hcall⟩ := hrest
    obtain rfl := Option.some.inj hcall
    have halike : Tool.ReadAlike
        (ToolCall.toggleSpec path root? exclude? suffixes?).arguments arguments :=
      ⟨hpath, hsuffixes⟩
    refine congrArg (·, st) (halike.toggle_eq ?_ ?_ setting.config st.files)
    · exact (Json.str?_ofOption root?).trans (str?_field_of_optional? hroot).symm
    · exact (Json.someStrings?_ofOption exclude?).trans
        (someStrings?_field_of_optional? hexclude).symm
  | resolveSpecFile =>
    simp only [Option.bind_eq_some_iff] at hrest
    obtain ⟨extension?, hextension, hcall⟩ := hrest
    obtain rfl := Option.some.inj hcall
    have halike : Tool.ReadAlike
        (ToolCall.resolveSpecFile path suffixes? extension?).arguments arguments :=
      ⟨hpath, hsuffixes⟩
    refine congrArg (·, st) (halike.resolve_eq ?_ setting.config st.files)
    exact (Json.str?_ofOption extension?).trans (str?_field_of_optional? hextension).symm

theorem ofName?_name (tool : Tool) : Tool.ofName? tool.name = some tool := by
  cases tool <;> decide

/-- A request and a direct call of a tool agree: for every object of arguments that decodes into a
call, running the call gives the answer, or the error, and the state that the tool gives on the
arguments as they came, and so does the handler of requests. -/
theorem request_agrees_with_direct_call (setting : Setting) (tool : Tool)
    (fields : List (String × Json)) (call : ToolCall) (st : State)
    (h : decode? tool (.obj fields) = some call) :
    call.run setting st = tool.run setting (.obj fields) st ∧
      handle setting tool.name (.obj fields) st =
        ((tool.run setting (.obj fields) st).1.mapError RequestError.failed,
          (tool.run setting (.obj fields) st).2) := by
  have hrun := run_of_decode? h setting st
  refine ⟨hrun, ?_⟩
  have hrequest : ofRequest tool.name (.obj fields) = .ok call := by
    simp only [ofRequest, ofName?_name, h]
  rw [handle, hrequest]
  simp only [hrun]
  rcases tool.run setting (.obj fields) st with ⟨answer, next⟩
  cases answer <;> rfl

/-- A switch between files with `null` for its directory, two suffixes, and two fields that it does
not decode, one of which it reads. -/
def sampleSwitch : List (String × Json) :=
  [("file_path", .str "a.ts"), ("root", .null), ("spec_suffix", .ofStrings [".spec", ".test"]),
    ("default_extension", .str ".test"), ("column", .bool true)]

theorem sampleSwitch_agrees :
    decode? .toggleSpec (.obj sampleSwitch) =
        some (.toggleSpec "a.ts" none none (some [".spec", ".test"])) ∧
      ToolCall.run sampleSetting (.toggleSpec "a.ts" none none (some [".spec", ".test"]))
          ⟨{}, sampleFiles⟩ =
        Tool.toggleSpec.run sampleSetting (.obj sampleSwitch) ⟨{}, sampleFiles⟩ :=
  ⟨rfl, (request_agrees_with_direct_call sampleSetting .toggleSpec sampleSwitch _
    ⟨{}, sampleFiles⟩ rfl).1⟩

end ToolCall

end SpecScaffold
