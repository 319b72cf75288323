import SpecScaffold.Proofs.Code.Texts
import SpecScaffold.Proofs.Text.Nesting

/-!
# Generated code is nested

The brackets of a block are opened by one line and closed by another, in a form that depends on how
the test completes.  Since a nested text can stand anywhere in a nested text, it is enough that each
pair of such lines is nested without what comes between.

Inserting loses only lines that are imports, each of which is nested, and adds only white space:

    generated_code_nested : for texts that are nested, each on one line, the code is nested, and a
      nested document into which it is inserted stays nested
-/

namespace SpecScaffold

open Text

/-! ## Names and arguments -/

theorem nested_toList_append {s t : String} (hs : Nested s.toList) (ht : Nested t.toList) :
    Nested (s ++ t).toList := by
  rw [String.toList_append]
  exact hs.append ht

/-- A nested text between two texts that are nested without it. -/
theorem nested_toList_between {before text after : String} (h : Nested (before ++ after).toList)
    (htext : Nested text.toList) : Nested (before ++ text ++ after).toList := by
  rw [String.toList_append] at h
  rw [String.toList_append, String.toList_append]
  exact h.insert htext

theorem nested_title {name : String} (h : Nested name.toList) : Nested (title name).toList := by
  rw [title, String.toList_ofList]
  exact (nested_congr (filter_wordsOf _)).2 h

theorem nested_variableName {name : String} (h : Nested name.toList) :
    Nested (variableName name).toList := by
  rw [variableName, String.toList_ofList]
  exact (nested_congr (filter_decapitalize _)).2 h

/-- What holds of the parts and the separator, and of two lists together if of each, holds of the
parts with the separator between them. -/
theorem intercalate_induction {α : Type} {P : List α → Prop} {sep : List α} {parts : List (List α)}
    (hnil : P []) (happend : ∀ as bs, P as → P bs → P (as ++ bs)) (hsep : P sep)
    (h : ∀ part ∈ parts, P part) : P (sep.intercalate parts) := by
  induction parts with
  | nil => exact hnil
  | cons part parts ih =>
    have hpart := h part List.mem_cons_self
    have hrest := ih fun p hp => h p (List.mem_cons_of_mem _ hp)
    cases parts with
    | nil => simpa using hpart
    | cons next parts =>
      rw [List.intercalate_cons_cons]
      exact happend _ _ (happend _ _ hpart hsep) hrest

theorem nested_commaList {names : List String} (h : ∀ name ∈ names, Nested name.toList) :
    Nested (commaList names).toList := by
  rw [commaList, String.toList_intercalate]
  refine intercalate_induction .nil (fun _ _ => Nested.append) (by decide) fun part hpart => ?_
  obtain ⟨name, hname, rfl⟩ := List.mem_map.1 hpart
  exact h name hname

/-- The characters of a name are no brackets, whatever stands in the type after it. -/
theorem nested_typeVariable {type name : String} (h : Binding.typeVariable? type = some name) :
    Nested name.toList := by
  unfold Binding.typeVariable? at h
  split at h
  · cases h
  · next c cs htake =>
    split at h
    · cases h
    · obtain rfl := Option.some.inj h
      rw [String.toList_ofList, nested_congr (filter_decapitalize _), ← htake]
      refine nested_of_no_bracket fun d hd => ?_
      exact not_isBracket (List.mem_takeWhile_imp hd) (by decide +kernel)

theorem nested_binding {p : Parameter} (h : ∀ t ∈ p.texts, Nested t.toList) :
    Nested (Binding.ofParameter p).declared.toList ∧
      Nested (Binding.ofParameter p).argument.toList := by
  unfold Parameter.texts at h
  unfold Binding.ofParameter
  split
  · next hempty =>
    have hname : Nested p.name.toList := h p.name (by simp [hempty])
    exact ⟨hname, hname⟩
  · next hempty =>
    rw [if_neg hempty] at h
    have hbound : ∀ i ∈ p.identifiers, Nested i.name.toList := fun i hi =>
      h i.name (List.mem_append_left _ (List.mem_map_of_mem hi))
    have hvar : ∀ name, p.type?.bind Binding.typeVariable? = some name → Nested name.toList := by
      intro name hname
      obtain ⟨type, -, hvariable⟩ := Option.bind_eq_some_iff.1 hname
      exact nested_typeVariable hvariable
    have hnames : Nested (commaList (p.identifiers.map (·.name))).toList := by
      refine nested_commaList fun name hname => ?_
      obtain ⟨i, hi, rfl⟩ := List.mem_map.1 hname
      exact hbound i hi
    generalize p.type?.bind Binding.typeVariable? = typeVar? at hvar
    constructor
    · refine nested_commaList fun name hname => ?_
      obtain ⟨i, hi, rfl⟩ := List.mem_map.1 (List.mem_eraseDups.1 hname)
      unfold Binding.declaredName
      split
      · exact hvar _ rfl
      · exact hbound i hi
    · simp only [Binding.argumentOf]
      split
      · cases typeVar? with
        | none => exact nested_toList_between (by decide) hnames
        | some name => exact hvar name rfl
      · exact nested_toList_between (by decide) hnames

/-! ## Lines -/

namespace Line

/-- The text of a line without its indentation and its end. -/
def bare : Line → List Char
  | .blank => []
  | .code _ text => text.toList

/-- Lines are nested if their texts are, one after the other. -/
def Nests (ls : List Line) : Prop :=
  Nested (ls.flatMap bare)

theorem Nests.append {ls ms : List Line} (hl : Nests ls) (hm : Nests ms) : Nests (ls ++ ms) := by
  unfold Nests
  rw [List.flatMap_append]
  exact Nested.append hl hm

theorem nests_of_forall {ls : List Line} (h : ∀ l ∈ ls, Nested l.bare) : Nests ls :=
  nested_flatMap h

theorem nests_nil : Nests [] :=
  .nil

theorem nests_blank : Nests [.blank] :=
  .nil

theorem nests_code (depth : Nat) {text : String} (h : Nested text.toList) :
    Nests [.code depth text] := by
  simpa [Nests, bare] using h

/-- A block: what stands between two lines that are nested without it. -/
theorem nests_block {opening closing : String} {inner : List Line}
    (h : Nested (opening ++ closing).toList) (hinner : Nests inner) (depth depth' : Nat) :
    Nests (.code depth opening :: inner ++ [.code depth' closing]) := by
  rw [String.toList_append] at h
  have hblock := h.insert hinner
  simpa [Nests, bare] using hblock

theorem nests_map_nest {ls : List Line} : Nests (ls.map nest) ↔ Nests ls := by
  have hbare : ∀ l : Line, l.nest.bare = l.bare := by
    intro l
    cases l <;> rfl
  unfold Nests
  rw [List.flatMap_map]
  simp only [hbare]

theorem filter_chars (l : Line) : l.chars.filter isBracket = l.bare.filter isBracket := by
  cases l with
  | blank => rfl
  | code depth text =>
    have hindent : (List.replicate depth indent).flatten.filter isBracket = [] := by
      rw [List.filter_eq_nil_iff]
      intro c hc
      obtain ⟨part, hpart, hin⟩ := List.mem_flatten.1 hc
      rw [List.eq_of_mem_replicate hpart] at hin
      exact List.any_eq_false.1 (by decide) c hin
    rw [chars, List.filter_append, List.filter_append, hindent, List.nil_append]
    exact List.append_nil _

/-- Indentation and line feeds do not matter. -/
theorem nested_text_iff {ls : List Line} : Nested (text ls) ↔ Nests ls := by
  refine nested_congr ?_
  rw [text, List.filter_flatMap, List.filter_flatMap]
  simp only [filter_chars]

end Line

open Line

/-! ## One test -/

namespace Suite

section

variable {s : Suite} {m : Method} (hs : ∀ t ∈ s.receivers, Nested t.toList)

include hs

theorem nested_instance {i : String} (h : s.instance? = some i) : Nested i.toList := by
  obtain ⟨name, hname, rfl⟩ := Option.map_eq_some_iff.1 h
  exact nested_variableName (hs name (by simp [receivers, hname]))

theorem nested_receiverClass {c : String} (h : s.receiverClass? = some c) : Nested c.toList := by
  rcases Option.or_eq_some_iff.1 h with hname | ⟨-, hctor⟩
  · exact hs c (by simp [receivers, hname])
  · exact hs c (by simp [receivers, hctor])

theorem nested_callee (hm : ∀ t ∈ m.texts, Nested t.toList) : Nested (s.callee m).toList := by
  have hname : Nested m.name.toList := hm m.name List.mem_cons_self
  unfold callee
  split
  · cases hi : s.instance? with
    | none => exact hname
    | some i =>
      have haccess : Nested ("['" ++ m.name ++ "']").toList :=
        nested_toList_between (by decide) hname
      have hinstance := nested_toList_append (nested_instance hs hi) haccess
      simpa [String.append_assoc] using hinstance
  · split
    · cases hc : s.receiverClass? with
      | none => exact hname
      | some c =>
        exact nested_toList_append
          (nested_toList_append (nested_receiverClass hs hc) (by decide)) hname
    · cases hi : s.instance? with
      | none => exact hname
      | some i =>
        exact nested_toList_append (nested_toList_append (nested_instance hs hi) (by decide)) hname

theorem nested_call (hm : ∀ t ∈ m.texts, Nested t.toList) : Nested (s.call m).toList := by
  have harguments : Nested
      (commaList (m.params.map fun p => (Binding.ofParameter p).argument)).toList := by
    refine nested_commaList fun name hname => ?_
    obtain ⟨p, hp, rfl⟩ := List.mem_map.1 hname
    refine (nested_binding fun t ht => hm t (List.mem_cons_of_mem _ ?_)).2
    exact List.mem_flatMap.2 ⟨p, hp, ht⟩
  have hlist : Nested ("(" ++ commaList (m.params.map fun p => (Binding.ofParameter p).argument) ++
      ")").toList := nested_toList_between (by decide) harguments
  have hcall := nested_toList_append (nested_callee hs hm) hlist
  simpa [call, String.append_assoc] using hcall

end

theorem nested_declaration {p : Parameter} (h : ∀ t ∈ p.texts, Nested t.toList) :
    Nested (declaration p).bare := by
  have hbare : Nested ("let " ++ (Binding.ofParameter p).declared ++ ";").toList :=
    nested_toList_between (by decide) (nested_binding h).1
  unfold declaration
  cases htype : p.type? with
  | none => exact hbare
  | some type =>
    have hin : type ∈ p.texts := List.mem_append_right _ (by simp [htype])
    exact nested_toList_append (nested_toList_append hbare (by decide)) (h type hin)

theorem nests_awaited {call method : String} (hcall : Nested call.toList)
    (hmethod : Nested (method ++ "(result => \x7b" ++ "\x7d);").toList) :
    Nests (awaited call method) := by
  have hexpectation : Nests [.code 1 expectation] := nests_code 1 (by decide)
  exact (nests_code 0 hcall).append (nests_block hmethod hexpectation 0 0)

theorem nests_completion {call : String} (hcall : Nested call.toList)
    (returns? : Option ResultShape) : Nests (completion call returns?) := by
  cases returns? with
  | none => exact nests_code 0 (nested_toList_append hcall (by decide))
  | some r =>
    simp only [completion]
    split
    · exact nests_awaited hcall (by decide)
    · split
      · exact nests_awaited hcall (by decide)
      · have hbound : Nested ("let result = " ++ call ++ ";").toList :=
          nested_toList_between (by decide) hcall
        exact (nests_code 0 hbound).append (nests_code 0 (by decide))

section

variable {s : Suite} {m : Method} (hs : ∀ t ∈ s.receivers, Nested t.toList)

include hs

theorem nests_testBody (hm : ∀ t ∈ m.texts, Nested t.toList) (failing : Bool) :
    Nests (s.testBody m failing) := by
  have hdeclarations : Nests (m.params.map declaration) := by
    refine nests_of_forall fun l hl => ?_
    obtain ⟨p, hp, rfl⟩ := List.mem_map.1 hl
    refine nested_declaration fun t ht => hm t (List.mem_cons_of_mem _ ?_)
    exact List.mem_flatMap.2 ⟨p, hp, ht⟩
  have hcompletion := nests_completion (nested_call hs hm) m.returns?
  unfold testBody
  refine ((hdeclarations.append hcompletion).append ?_).append ?_
  · split
    · exact nests_code 0 (by decide)
    · exact nests_nil
  · split
    · exact nests_code 0 (by decide)
    · exact nests_nil

/-- However a test completes, its first and last lines fit together. -/
theorem nests_testLines (hm : ∀ t ∈ m.texts, Nested t.toList) (failing : Bool) :
    Nests (s.testLines m failing) := by
  have htitle := nested_title (hm m.name List.mem_cons_self)
  unfold testLines
  refine nests_block ?_ (nests_map_nest.2 (nests_testBody hs hm failing)) 0 0
  have hframe : ∀ style : TestStyle,
      Nested ("it('" ++ ("', " ++ style.opening ++ style.closing)).toList := by
    intro style
    cases style <;> decide
  have hlines := nested_toList_between (hframe (TestStyle.ofMethod m)) htitle
  simpa [String.append_assoc] using hlines

theorem nests_allTests (hm : ∀ m ∈ s.tests, ∀ t ∈ m.texts, Nested t.toList) (failing : Bool) :
    Nests (s.allTests failing) := by
  refine intercalate_induction nests_nil (fun _ _ => Nests.append) nests_blank
    fun block hblock => ?_
  obtain ⟨m, hmem, rfl⟩ := List.mem_map.1 hblock
  exact nests_testLines hs (hm m hmem) failing

/-! ## A group -/

theorem nests_groupVariables (hstubs : ∀ t ∈ s.stubs, Nested t.toList) :
    Nests s.groupVariables := by
  refine nests_of_forall fun l hl => ?_
  rcases List.mem_append.1 hl with hl | hl
  · obtain ⟨name, hname, rfl⟩ := Option.map_eq_some_iff.1 (Option.mem_toList.1 hl)
    have hclass := hs name (by simp [receivers, hname])
    have hvariable : Nested ("let " ++ variableName name ++ ": ").toList :=
      nested_toList_between (by decide) (nested_variableName hclass)
    exact nested_toList_append (nested_toList_append hvariable hclass) (by decide)
  · obtain ⟨name, hname, rfl⟩ := List.mem_map.1 hl
    exact nested_toList_between (by decide) (hstubs name hname)

theorem nests_groupSetup (hstubs : ∀ t ∈ s.stubs, Nested t.toList) : Nests s.groupSetup := by
  have hinstance : Nested (s.instance?.getD "instance").toList := by
    cases hi : s.instance? with
    | none => decide
    | some i => exact nested_instance hs hi
  unfold groupSetup
  split
  · next c name names hc hnames =>
    rw [hnames] at hstubs
    have hspies : Nests ((name :: names).map fun n =>
        Line.code 1 (n ++ " = jasmine.createSpyObj('" ++ n ++ "', ['']);")) := by
      refine nests_of_forall fun l hl => ?_
      obtain ⟨stub, hstub, rfl⟩ := List.mem_map.1 hl
      have hstub := hstubs stub hstub
      have hspy : Nested (" = jasmine.createSpyObj('" ++ stub ++ "', ['']);").toList :=
        nested_toList_between (by decide) hstub
      have hline := nested_toList_append hstub hspy
      simpa [bare, String.append_assoc] using hline
    have hmade : Nested (s.instance?.getD "instance" ++ " = new " ++ c.name ++ "(" ++
        commaList (name :: names) ++ ");").toList := by
      have hname : Nested c.name.toList := hs c.name (by simp [receivers, hc])
      have hlist : Nested ("(" ++ commaList (name :: names) ++ ");").toList :=
        nested_toList_between (by decide) (nested_commaList hstubs)
      have hnew : Nested (s.instance?.getD "instance" ++ " = new ").toList :=
        nested_toList_append hinstance (by decide)
      have hline := nested_toList_append (nested_toList_append hnew hname) hlist
      simpa [String.append_assoc] using hline
    have hframe : Nested ("beforeEach(() => \x7b" ++ "\x7d);").toList := by decide
    have hblock := nests_block hframe (hspies.append (nests_code 1 hmade)) 0 0
    have hsetup := hblock.append nests_blank
    simpa using hsetup
  · exact nests_nil

theorem nests_group {heading : String} (hstubs : ∀ t ∈ s.stubs, Nested t.toList)
    (hm : ∀ m ∈ s.tests, ∀ t ∈ m.texts, Nested t.toList) (hheading : Nested heading.toList) :
    Nests (s.group heading) := by
  have hinner := (((nests_groupVariables hs hstubs).append nests_blank).append
    (nests_groupSetup hs hstubs)).append (nests_allTests hs hm true)
  unfold group
  refine nests_block ?_ (nests_map_nest.2 hinner) 0 0
  have hlines : Nested ("describe('" ++ title heading ++ ("', () => \x7b" ++ "\x7d);")).toList :=
    nested_toList_between (by decide) (nested_title hheading)
  simpa [String.append_assoc] using hlines

end

/-! ## The whole code -/

theorem nests_body {s : Suite} {heading : String} (h : ∀ t ∈ s.texts heading, Nested t.toList) :
    Nests (s.body heading) := by
  have hs : ∀ t ∈ s.receivers, Nested t.toList := fun t ht => h t (mem_texts_of_receivers ht _)
  have hm : ∀ m ∈ s.tests, ∀ t ∈ m.texts, Nested t.toList := fun m hmem t ht =>
    h t (mem_texts_of_tests hmem ht _)
  unfold body
  split
  · next hgrouped =>
    have hgroup : ∀ t ∈ heading :: s.stubs, Nested t.toList := by
      intro t ht
      refine h t (List.mem_append_left _ (List.mem_append_right _ ?_))
      rwa [if_pos hgrouped]
    exact nests_group hs (fun t ht => hgroup t (List.mem_cons_of_mem _ ht)) hm
      (hgroup heading List.mem_cons_self)
  · exact nests_allTests hs hm false

theorem nested_headerLines {s : Suite} {heading : String}
    (h : ∀ t ∈ s.texts heading, Nested t.toList) : ∀ l ∈ s.headerLines, Nested l := by
  intro l hl
  rcases List.mem_cons.1 hl with rfl | hl
  · decide
  · obtain ⟨hmap, -⟩ := Option.filter_eq_some_iff.1 (Option.mem_toList.1 hl)
    obtain ⟨line, hline, rfl⟩ := Option.map_eq_some_iff.1 hmap
    exact (nested_congr (filter_trimEnd _)).2 (h line (by simp [texts, hline]))

theorem nested_renderTitled {s : Suite} {heading : String}
    (h : ∀ t ∈ s.texts heading, Nested t.toList) : Nested (s.renderTitled heading).toList := by
  have hheader : Nested (s.headerLines.flatMap (· ++ ['\n'])) :=
    nested_flatMap fun l hl => (nested_headerLines h l hl).append (by decide)
  rw [renderTitled, String.toList_ofList, header_eq]
  exact (hheader.append (by decide)).append (nested_text_iff.2 (nests_body h))

/-- The lines that an insertion may leave out are nested each. -/
theorem nested_of_isImport {s : Suite} {heading : String}
    (h : ∀ t ∈ s.texts heading, OnOneLine t ∧ Nested t.toList) :
    ∀ l ∈ pieces '\n' (s.renderTitled heading).toList, Insertion.isImport l = true → Nested l := by
  intro l hl himport
  rw [pieces_renderTitled fun t ht => (h t ht).1] at hl
  simp only [List.mem_append, List.mem_cons, List.not_mem_nil, or_false, List.mem_map] at hl
  rcases hl with (hl | rfl | ⟨line, hline, rfl⟩) | rfl
  · exact nested_headerLines (fun t ht => (h t ht).2) l hl
  · exact .nil
  · rw [isImport_body s heading line hline] at himport
    cases himport
  · exact .nil

end Suite

/-! ## Inserting -/

namespace Insertion

theorem filter_joined (ps : List (List Char)) :
    (joined ['\n'] ps).filter isBracket = ps.flatten.filter isBracket := by
  induction ps with
  | nil => rfl
  | cons p ps ih =>
    cases ps with
    | nil => simp [joined]
    | cons next ps =>
      rw [joined_cons _ _ (by simp), List.filter_append, List.filter_append, ih, List.flatten_cons,
        List.filter_append]
      simp [isBracket, brackets]

/-- Pieces that are nested each can be left out. -/
theorem pending_flatten_filter {keep : List Char → Bool} {ps : List (List Char)}
    (h : ∀ p ∈ ps, keep p = false → Nested p) (expected : List Char) :
    pending expected (ps.filter keep).flatten = pending expected ps.flatten := by
  induction ps generalizing expected with
  | nil => rfl
  | cons p ps ih =>
    have hrest := ih fun q hq => h q (List.mem_cons_of_mem _ hq)
    cases hp : keep p with
    | true =>
      rw [List.filter_cons_of_pos hp, List.flatten_cons, List.flatten_cons, pending_append,
        pending_append]
      exact congrArg _ (funext fun after => hrest after)
    | false =>
      have hnested := h p List.mem_cons_self hp
      rw [List.filter_cons_of_neg (by simp [hp]), List.flatten_cons, pending_append,
        hnested.pending_eq, Option.bind_some, hrest]

theorem nested_joined_filter {keep : List Char → Bool} {cs : List Char} (hcs : Nested cs)
    (h : ∀ p ∈ pieces '\n' cs, keep p = false → Nested p) :
    Nested (joined ['\n'] ((pieces '\n' cs).filter keep)) := by
  rw [nested_iff, pending_congr (filter_joined _), pending_flatten_filter h,
    ← pending_congr (filter_joined _), joined_pieces]
  exact hcs.pending_eq []

theorem nested_insertedBody {document generated : List Char} (hg : Nested generated)
    (h : ∀ l ∈ pieces '\n' generated, isImport l = true → Nested l) (hasImport : Bool) :
    Nested (insertedBody document generated hasImport) := by
  unfold insertedBody
  rw [nested_congr (filter_dropWhile (by decide) _)]
  split
  · refine nested_joined_filter hg fun l hl hdropped => h l hl ?_
    simp only [Bool.not_eq_false', Bool.and_eq_true] at hdropped
    exact hdropped.1
  · refine nested_joined_filter hg fun l hl hdropped => h l hl ?_
    simpa using hdropped

theorem filter_deepenLine {margin : List Char} (hmargin : ∀ c ∈ margin, isBlank c = true)
    (line : List Char) :
    (deepenLine margin line).filter isBracket = line.filter isBracket := by
  unfold deepenLine
  split
  · exact filter_dropWhile (by decide) line
  · have hnone : margin.filter isBracket = [] := by
      rw [List.filter_eq_nil_iff]
      intro c hc
      simp [not_isBracket_of_isBlank (hmargin c hc)]
    rw [List.filter_append, hnone, List.nil_append]

theorem filter_deepen {margin : List Char} (hmargin : ∀ c ∈ margin, isBlank c = true)
    (cs : List Char) : (deepen margin cs).filter isBracket = cs.filter isBracket := by
  rw [deepen, List.filter_flatMap]
  simp only [filter_deepenLine hmargin]
  rw [← List.filter_flatMap, List.flatMap_id', flatten_fullLines]

/-- What a plan inserts is nested. -/
theorem nested_text_plan {generated : String} (hg : Nested generated.toList)
    (h : ∀ l ∈ pieces '\n' generated.toList, isImport l = true → Nested l) (document : String)
    (hasImport joinsGroup : Bool) :
    Nested (plan document generated hasImport joinsGroup).text.toList := by
  have hbody : Nested (insertedBody document.toList generated.toList hasImport) :=
    nested_insertedBody hg h hasImport
  rcases plan_cases document generated hasImport joinsGroup with
    ⟨-, hplan⟩ | ⟨-, before, closing, after, -, -, hplan⟩ | ⟨-, -, hplan⟩
  · rw [hplan]
    exact hg
  · rw [hplan, inGroup, String.toList_ofList]
    refine .plain (by decide) ?_
    exact (nested_congr (filter_deepen isBlank_of_mem_margin _)).2 hbody
  · rw [hplan, atEnd, String.toList_ofList]
    refine Nested.append ?_ hbody
    split <;> decide

/-- The code is nested, and can be inserted into any nested document, which is nested then. -/
def KeepsNested (generated : String) : Prop :=
  Nested generated.toList ∧
    ∀ document : String, Nested document.toList → ∀ hasImport joinsGroup : Bool,
      ∃ result, (plan document generated hasImport joinsGroup).applyTo? document = some result ∧
        Nested result.toList

theorem keepsNested {generated : String} (hg : Nested generated.toList)
    (h : ∀ l ∈ pieces '\n' generated.toList, isImport l = true → Nested l) :
    KeepsNested generated := by
  refine ⟨hg, fun document hdocument hasImport joinsGroup => ?_⟩
  obtain ⟨before, after, hdoc, happly⟩ :=
    exists_applyTo?_plan document generated hasImport joinsGroup
  refine ⟨_, happly, ?_⟩
  rw [hdoc] at hdocument
  rw [String.toList_ofList]
  exact hdocument.insert (nested_text_plan hg h document hasImport joinsGroup)

end Insertion

theorem Suite.keepsNested_renderTitled {s : Suite} {heading : String}
    (h : ∀ t ∈ s.texts heading, OnOneLine t ∧ Nested t.toList) :
    Insertion.KeepsNested (s.renderTitled heading) :=
  Insertion.keepsNested (nested_renderTitled fun t ht => (h t ht).2) (nested_of_isImport h)

/-- Generated code is nested and keeps documents nested.  For every suite, and for every spec, whose
texts are nested and on one line each, the code is nested, and a nested document into which it is
inserted in any way is nested again. -/
theorem generated_code_nested :
    (∀ s : Suite, (∀ t ∈ s.texts (s.className?.getD ""), OnOneLine t ∧ Nested t.toList) →
        Insertion.KeepsNested s.render) ∧
      ∀ s : Spec, (∀ t ∈ s.texts, OnOneLine t ∧ Nested t.toList) →
        Insertion.KeepsNested s.render :=
  ⟨fun _ h => Suite.keepsNested_renderTitled h, fun _ h => Suite.keepsNested_renderTitled h⟩

/-- A method with brackets in the types of its parameters, one of which is destructured. -/
def sampleHandler : Method :=
  ⟨"onChange", [⟨"f", some "(x: number[]) => void", []⟩,
      ⟨"[a, \n b]", some "[string, \x7b n: number \x7d]",
        [⟨"a", true, false⟩, ⟨"b", true, false⟩]⟩],
    some { observable := true }, false, true, false⟩

theorem sampleHandler_keepsNested :
    (∀ t ∈ Spec.texts { Spec.sampleCart with tests := Spec.sampleCart.tests ++ [sampleHandler] },
        OnOneLine t ∧ Nested t.toList) ∧
      Insertion.KeepsNested
        (Suite.render ⟨none, none, none, [sampleHandler]⟩) ∧
      Insertion.KeepsNested (Spec.render
        { Spec.sampleCart with tests := Spec.sampleCart.tests ++ [sampleHandler] }) := by
  have htexts : ∀ t ∈
      Spec.texts { Spec.sampleCart with tests := Spec.sampleCart.tests ++ [sampleHandler] },
        OnOneLine t ∧ Nested t.toList := by
    decide +kernel
  obtain ⟨hsuite, hspec⟩ := generated_code_nested
  exact ⟨htexts, hsuite _ (by decide +kernel), hspec _ htexts⟩

end SpecScaffold
