import SpecScaffold.Proofs.Code.Nesting
import SpecScaffold.Proofs.Code.Siblings

/-!
# A group and its tests alone

A test is written in two places: alone, at the left margin, or in a group, one level deeper and with
a line that makes it fail.  Depth is only counted while lines are put together, so the one text can
be made of the other without reading the code in it:

    asMember (Line.text (s.testLines m false)) = Line.text ((s.testLines m true).map Line.nest)

    render_eq_members : a group is its setup and the tests alone, in order, as members of it;
      fewer than two tests are written without a group

Every template leaves the depth as it has found it (`KeepsLevel`): a line that opens a block makes
the lines up to the one that closes it one level deeper, and nothing else changes the depth.
-/

namespace SpecScaffold

open Text

/-! ## Levels -/

namespace Line

/-- The text of a line that opens a block.  A declaration opens none, whatever its comment ends
in. -/
def opens (text : String) : Bool :=
  text.toList.getLast? == some '\x7b' && !"let ".toList.isPrefixOf text.toList

/-- The text of a line that closes a block. -/
def closes (text : String) : Bool :=
  text == "\x7d);" || text == "\x7d));"

/-- The blocks that are open after a line, if the line is as deep as there are blocks around it. -/
def levelAfter? (level : Nat) : Line → Option Nat
  | .blank => some level
  | .code depth text =>
    if closes text then
      if depth + 1 = level then some depth else none
    else if depth = level then some (if opens text then level + 1 else level)
    else none

/-- Lines that are as deep as there are blocks around them, and leave no block open. -/
def KeepsLevel (level : Nat) (ls : List Line) : Prop :=
  ls.foldlM levelAfter? level = some level

theorem keepsLevel_nil (level : Nat) : KeepsLevel level [] :=
  rfl

theorem keepsLevel_blank (level : Nat) : KeepsLevel level [.blank] :=
  rfl

theorem KeepsLevel.append {level : Nat} {ls ms : List Line} (hl : KeepsLevel level ls)
    (hm : KeepsLevel level ms) : KeepsLevel level (ls ++ ms) := by
  rw [KeepsLevel, List.foldlM_append, hl]
  exact hm

theorem keepsLevel_of_forall {level : Nat} {ls : List Line}
    (h : ∀ l ∈ ls, KeepsLevel level [l]) : KeepsLevel level ls := by
  induction ls with
  | nil => exact keepsLevel_nil level
  | cons l ls ih =>
    exact (h l List.mem_cons_self).append (ih fun l' hl' => h l' (List.mem_cons_of_mem _ hl'))

/-- A line that neither opens nor closes a block. -/
theorem keepsLevel_code {text : String} (hopens : opens text = false)
    (hcloses : closes text = false) (level : Nat) : KeepsLevel level [.code level text] := by
  simp [KeepsLevel, levelAfter?, hopens, hcloses]

/-- A text closes no block if something holds of it that does not hold of the two that do. -/
theorem closes_eq_false_of {P : String → Prop} {text : String} (h : P text)
    (hplain : ¬P "\x7d);") (hwrapped : ¬P "\x7d));") : closes text = false := by
  rw [closes, Bool.or_eq_false_iff, beq_eq_false_iff_ne, beq_eq_false_iff_ne]
  constructor
  · rintro rfl
    exact hplain h
  · rintro rfl
    exact hwrapped h

/-- A block: lines one level deeper between a line that opens it and a line that closes it. -/
theorem keepsLevel_block {level : Nat} {start stop : String} {inner : List Line}
    (hstart : opens start = true) (hstop : closes stop = true)
    (hinner : KeepsLevel (level + 1) inner) :
    KeepsLevel level (.code level start :: inner ++ [.code level stop]) := by
  have hcloses : closes start = false :=
    closes_eq_false_of (P := fun t => opens t = true) hstart (by decide) (by decide)
  have hopened : levelAfter? level (.code level start) = some (level + 1) := by
    simp [levelAfter?, hcloses, hstart]
  have hclosed : levelAfter? (level + 1) (.code level stop) = some level := by
    simp [levelAfter?, hstop]
  rw [KeepsLevel, List.cons_append, List.foldlM_cons, hopened]
  show (inner ++ [Line.code level stop]).foldlM levelAfter? (level + 1) = some level
  rw [List.foldlM_append, hinner]
  simp [hclosed]

theorem levelAfter?_nest (level : Nat) (l : Line) :
    levelAfter? (level + 1) l.nest = (levelAfter? level l).map (· + 1) := by
  cases l with
  | blank => rfl
  | code depth text =>
    simp only [nest, levelAfter?, Nat.add_right_cancel_iff]
    split
    · split <;> rfl
    · split
      · split <;> rfl
      · rfl

theorem foldlM_levelAfter?_nest (level : Nat) (ls : List Line) :
    (ls.map nest).foldlM levelAfter? (level + 1) = (ls.foldlM levelAfter? level).map (· + 1) := by
  induction ls generalizing level with
  | nil => rfl
  | cons l ls ih =>
    rw [List.map_cons, List.foldlM_cons, List.foldlM_cons, levelAfter?_nest]
    cases levelAfter? level l with
    | none => rfl
    | some next => exact ih next

theorem KeepsLevel.nest {level : Nat} {ls : List Line} (h : KeepsLevel level ls) :
    KeepsLevel (level + 1) (ls.map Line.nest) := by
  rw [KeepsLevel, foldlM_levelAfter?_nest, h]
  rfl

/-! ## Texts that open and close blocks -/

theorem getLast?_append {stop : String} {c : Char} (h : stop.toList.getLast? = some c)
    (text : String) : (text ++ stop).toList.getLast? = some c := by
  rw [String.toList_append, List.getLast?_append, h]
  rfl

theorem opens_of_head? {text : String} (hhead : text.toList.head? ≠ some 'l')
    (hlast : text.toList.getLast? = some '\x7b') : opens text = true := by
  have hlet : "let ".toList.isPrefixOf text.toList = false := by
    rw [Bool.eq_false_iff, Ne, List.isPrefixOf_iff_prefix]
    rintro ⟨rest, hrest⟩
    exact hhead (by rw [← hrest]; rfl)
  rw [opens, hlast, hlet]
  rfl

theorem opens_eq_false_of_getLast? {text : String} {c : Char}
    (h : text.toList.getLast? = some c) (hc : c ≠ '\x7b') : opens text = false := by
  have hlast : text.toList.getLast? ≠ some '\x7b' := by simpa [h] using hc
  rw [opens, beq_eq_false_iff_ne.2 hlast, Bool.false_and]

theorem opens_let (text : String) : opens ("let " ++ text) = false := by
  have hlet : "let ".toList.isPrefixOf ("let " ++ text).toList = true := by
    rw [List.isPrefixOf_iff_prefix, String.toList_append]
    exact List.prefix_append _ _
  rw [opens, hlet, Bool.not_true, Bool.and_false]

theorem keepsLevel_let (level : Nat) (text : String) :
    KeepsLevel level [.code level ("let " ++ text)] := by
  refine keepsLevel_code (opens_let text) ?_ level
  exact closes_eq_false_of (P := fun t => t.toList.head? = some 'l') (by simp) (by decide)
    (by decide)

theorem keepsLevel_of_bracket {text : String} (hbracket : '(' ∈ text.toList)
    {c : Char} (hlast : text.toList.getLast? = some c) (hc : c ≠ '\x7b') (level : Nat) :
    KeepsLevel level [.code level text] := by
  refine keepsLevel_code (opens_eq_false_of_getLast? hlast hc) ?_ level
  exact closes_eq_false_of (P := fun t => '(' ∈ t.toList) hbracket (by decide) (by decide)

end Line

open Line

/-! ## Every template keeps the level -/

namespace Suite

theorem getLast?_call (s : Suite) (m : Method) : (s.call m).toList.getLast? = some ')' :=
  getLast?_append rfl _

theorem keepsLevel_declaration (p : Parameter) : KeepsLevel 0 [declaration p] := by
  unfold declaration
  cases p.type? with
  | none =>
    have hline := keepsLevel_let 0 ((Binding.ofParameter p).declared ++ ";")
    rwa [← String.append_assoc] at hline
  | some type =>
    have hline := keepsLevel_let 0 ((Binding.ofParameter p).declared ++ ";" ++ " // " ++ type)
    simpa only [← String.append_assoc] using hline

theorem keepsLevel_awaited {call method : String} (hbracket : '(' ∈ call.toList)
    (hlast : call.toList.getLast? = some ')')
    (hmethod : opens (method ++ "(result => \x7b") = true) :
    KeepsLevel 0 (awaited call method) := by
  have hexpectation : KeepsLevel 1 [.code 1 expectation] :=
    keepsLevel_of_bracket (by decide) rfl (by decide) 1
  exact (keepsLevel_of_bracket hbracket hlast (by decide) 0).append
    (keepsLevel_block hmethod (by decide) hexpectation)

theorem keepsLevel_completion (s : Suite) (m : Method) :
    KeepsLevel 0 (completion (s.call m) m.returns?) := by
  have hbracket := bracket_mem_call s m
  have hlast := s.getLast?_call m
  cases m.returns? with
  | none => exact keepsLevel_of_bracket (by simp [hbracket]) (getLast?_append rfl _) (by decide) 0
  | some r =>
    simp only [completion]
    split
    · exact keepsLevel_awaited hbracket hlast (by decide)
    · split
      · exact keepsLevel_awaited hbracket hlast (by decide)
      · have hbound := keepsLevel_let 0 ("result = " ++ s.call m ++ ";")
        have hexpectation : KeepsLevel 0 [.code 0 expectation] :=
          keepsLevel_of_bracket (by decide) rfl (by decide) 0
        rw [← String.append_assoc, ← String.append_assoc] at hbound
        exact hbound.append hexpectation

theorem keepsLevel_testBody (s : Suite) (m : Method) (failing : Bool) :
    KeepsLevel 0 (s.testBody m failing) := by
  have hdeclarations : KeepsLevel 0 (m.params.map declaration) := by
    refine keepsLevel_of_forall fun l hl => ?_
    obtain ⟨p, -, rfl⟩ := List.mem_map.1 hl
    exact keepsLevel_declaration p
  unfold testBody
  refine ((hdeclarations.append (s.keepsLevel_completion m)).append ?_).append ?_
  · split
    · exact keepsLevel_of_bracket (by decide) rfl (by decide) 0
    · exact keepsLevel_nil 0
  · split
    · exact keepsLevel_of_bracket (by decide) rfl (by decide) 0
    · exact keepsLevel_nil 0

theorem keepsLevel_testLines (s : Suite) (m : Method) (failing : Bool) :
    KeepsLevel 0 (s.testLines m failing) := by
  refine keepsLevel_block ?_ ?_ (s.keepsLevel_testBody m failing).nest
  · have hstart : (TestStyle.ofMethod m).opening.toList.getLast? = some '\x7b' := by
      cases TestStyle.ofMethod m <;> decide
    exact opens_of_head? (by simp) (getLast?_append hstart _)
  · cases TestStyle.ofMethod m <;> decide

theorem keepsLevel_allTests (s : Suite) (failing : Bool) : KeepsLevel 0 (s.allTests failing) := by
  refine intercalate_induction (keepsLevel_nil 0) (fun _ _ => KeepsLevel.append)
    (keepsLevel_blank 0) fun block hblock => ?_
  obtain ⟨m, -, rfl⟩ := List.mem_map.1 hblock
  exact s.keepsLevel_testLines m failing

theorem keepsLevel_groupVariables (s : Suite) : KeepsLevel 0 s.groupVariables := by
  refine keepsLevel_of_forall fun l hl => ?_
  rcases List.mem_append.1 hl with hl | hl
  · obtain ⟨name, -, rfl⟩ := Option.map_eq_some_iff.1 (Option.mem_toList.1 hl)
    have hline := keepsLevel_let 0 (variableName name ++ ": " ++ name ++ ";")
    simpa only [← String.append_assoc] using hline
  · obtain ⟨name, -, rfl⟩ := List.mem_map.1 hl
    have hline := keepsLevel_let 0 (name ++ ";")
    rwa [← String.append_assoc] at hline

theorem keepsLevel_groupSetup (s : Suite) : KeepsLevel 0 s.groupSetup := by
  unfold groupSetup
  split
  · next c name names _ _ =>
    have hspies : KeepsLevel 1 ((name :: names).map fun n =>
        Line.code 1 (n ++ " = jasmine.createSpyObj('" ++ n ++ "', ['']);")) := by
      refine keepsLevel_of_forall fun l hl => ?_
      obtain ⟨stub, -, rfl⟩ := List.mem_map.1 hl
      exact keepsLevel_of_bracket (by simp) (getLast?_append rfl _) (by decide) 1
    have hmade : KeepsLevel 1 [.code 1 (s.instance?.getD "instance" ++ " = new " ++ c.name ++ "(" ++
        commaList (name :: names) ++ ");")] :=
      keepsLevel_of_bracket (by simp) (getLast?_append rfl _) (by decide) 1
    have hstart : opens "beforeEach(() => \x7b" = true := by decide
    have hblock := keepsLevel_block hstart (by decide : closes "\x7d);" = true)
      (hspies.append hmade)
    have hsetup := hblock.append (keepsLevel_blank 0)
    simpa using hsetup
  · exact keepsLevel_nil 0

/-- However the tests are laid out, every line is as deep as there are blocks around it. -/
theorem keepsLevel_body (s : Suite) (heading : String) : KeepsLevel 0 (s.body heading) := by
  unfold body
  split
  · have hinner := ((s.keepsLevel_groupVariables.append (keepsLevel_blank 0)).append
      s.keepsLevel_groupSetup).append (s.keepsLevel_allTests true)
    have hstart : opens ("describe('" ++ title heading ++ "', () => \x7b") = true :=
      opens_of_head? (by simp) (getLast?_append rfl _)
    exact keepsLevel_block hstart (by decide) hinner.nest
  · exact s.keepsLevel_allTests false

/-! ## The lines of one test -/

/-- What a line of a test can be: its start, a declaration, the call, or one of a few that are the
same in all tests. -/
inductive TestText (s : Suite) (m : Method) : String → Prop where
  | start (text : String) : TestText s m ("it('" ++ text)
  | declares (text : String) : TestText s m ("let " ++ text)
  | awaits : TestText s m (s.call m)
  | calls (h : m.returns? = none) : TestText s m (s.call m ++ ";")
  | fixed {text : String} (h : text ∈ [".then(result => \x7b", ".subscribe(result => \x7b",
      expectation, "tick();", "\x7d);", "\x7d));"]) : TestText s m text

section

variable {s : Suite} {m : Method} {depth : Nat} {text : String}

theorem testText_declaration {p : Parameter} (h : declaration p = .code depth text) :
    s.TestText m text := by
  obtain ⟨-, rfl⟩ := Line.code.inj h
  cases p.type? with
  | none =>
    simp only [String.append_assoc]
    exact .declares _
  | some type =>
    simp only [String.append_assoc]
    exact .declares _

theorem testText_awaited {method : String}
    (hmethod : method ++ "(result => \x7b" ∈ [".then(result => \x7b", ".subscribe(result => \x7b"])
    (h : Line.code depth text ∈ awaited (s.call m) method) : s.TestText m text := by
  simp only [awaited, List.mem_cons, List.not_mem_nil, or_false, Line.code.injEq] at h
  rcases h with ⟨-, rfl⟩ | ⟨-, rfl⟩ | ⟨-, rfl⟩ | ⟨-, rfl⟩
  · exact .awaits
  · exact .fixed (List.mem_append_left _ hmethod)
  · exact .fixed (by simp)
  · exact .fixed (by simp)

theorem testText_completion (h : Line.code depth text ∈ completion (s.call m) m.returns?) :
    s.TestText m text := by
  cases hreturns : m.returns? with
  | none =>
    rw [hreturns] at h
    obtain ⟨-, rfl⟩ := Line.code.inj (List.mem_singleton.1 h)
    exact .calls hreturns
  | some r =>
    rw [hreturns] at h
    simp only [completion] at h
    split at h
    · exact testText_awaited (by decide) h
    · split at h
      · exact testText_awaited (by decide) h
      · simp only [List.mem_cons, List.not_mem_nil, or_false, Line.code.injEq] at h
        rcases h with ⟨-, rfl⟩ | ⟨-, rfl⟩
        · rw [String.append_assoc]
          exact .declares ("result = " ++ (s.call m ++ ";"))
        · exact .fixed (by simp)

theorem testText_testBody (h : Line.code depth text ∈ s.testBody m false) : s.TestText m text := by
  unfold testBody at h
  rw [if_neg Bool.false_ne_true, List.append_nil] at h
  rcases List.mem_append.1 h with h | h
  · rcases List.mem_append.1 h with h | h
    · obtain ⟨p, -, hp⟩ := List.mem_map.1 h
      exact testText_declaration hp
    · exact testText_completion h
  · split at h
    · obtain ⟨-, rfl⟩ := Line.code.inj (List.mem_singleton.1 h)
      exact .fixed (by simp)
    · cases h

theorem testText_testLines (h : Line.code depth text ∈ s.testLines m false) :
    s.TestText m text := by
  unfold testLines at h
  rcases List.mem_append.1 h with h | h
  · rcases List.mem_cons.1 h with h | h
    · obtain ⟨-, rfl⟩ := Line.code.inj h
      rw [String.append_assoc, String.append_assoc]
      exact .start _
    · obtain ⟨l, hl, hnest⟩ := List.mem_map.1 h
      cases l with
      | blank => cases hnest
      | code d t =>
        obtain ⟨-, rfl⟩ := Line.code.inj hnest
        exact testText_testBody hl
  · obtain ⟨-, rfl⟩ := Line.code.inj (List.mem_singleton.1 h)
    refine .fixed ?_
    cases TestStyle.ofMethod m <;> simp [TestStyle.closing]

/-- No line of a test opens a group or its setup. -/
theorem TestText.not_opens_group (h : s.TestText m text) (hopens : opens text = true) :
    ¬"describe(".toList <+: text.toList ∧ ¬"beforeEach(".toList <+: text.toList := by
  cases h with
  | start rest => simp
  | declares rest =>
    rw [opens_let] at hopens
    cases hopens
  | awaits =>
    rw [opens_eq_false_of_getLast? (s.getLast?_call m) (by decide)] at hopens
    cases hopens
  | calls hreturns =>
    rw [opens_eq_false_of_getLast? (getLast?_append rfl _) (by decide)] at hopens
    cases hopens
  | fixed hfixed =>
    simp only [List.mem_cons, List.not_mem_nil, or_false] at hfixed
    rcases hfixed with rfl | rfl | rfl | rfl | rfl | rfl <;> decide

/-- A line of a test makes it fail only if that is the call. -/
theorem TestText.call_eq (h : s.TestText m text) (htext : text = "fail('not implemented');") :
    m.returns? = none ∧ s.call m = "fail('not implemented')" := by
  cases h with
  | start rest => simp [String.ext_iff] at htext
  | declares rest => simp [String.ext_iff] at htext
  | awaits =>
    have hlast := s.getLast?_call m
    rw [htext] at hlast
    exact absurd hlast (by decide)
  | calls hreturns =>
    refine ⟨hreturns, ?_⟩
    have hcall : s.call m ++ ";" = "fail('not implemented')" ++ ";" := htext
    exact (String.append_left_inj ";").1 hcall
  | fixed hfixed =>
    rw [htext] at hfixed
    exact absurd hfixed (by decide)

end

end Suite

/-! ## A test as a member of a group -/

/-- A text two blanks deeper, with the line that makes a test fail before its last line. -/
def asMember (body : List Char) : List Char :=
  let lines := (fullLines body).map fun line => ' ' :: ' ' :: line
  (lines.dropLast ++ ["    fail('not implemented');\n".toList] ++ lines.getLast?.toList).flatten

namespace Suite

/-- The lines of a group before its tests. -/
def groupLines (s : Suite) : List Line :=
  s.groupVariables ++ [Line.blank] ++ s.groupSetup

theorem map_chars_nest {ls : List Line} (h : ∀ l ∈ ls, l.Solid) :
    (ls.map Line.nest).map chars = (ls.map chars).map fun line => ' ' :: ' ' :: line := by
  rw [List.map_map, List.map_map]
  refine List.map_congr_left fun l hl => ?_
  cases l with
  | blank => exact (h _ hl).elim
  | code depth text => exact chars_nest_code depth text

/-- The test in a group is the test alone as a member. -/
theorem asMember_text_testLines {s : Suite} {m : Method}
    (hs : ∀ t ∈ s.receivers, OnOneLine t) (hm : ∀ t ∈ m.texts, OnOneLine t) :
    asMember (Line.text (s.testLines m false)) =
      Line.text ((s.testLines m true).map Line.nest) := by
  have hsolid := solid_testLines hs hm false
  have hlines := fullLines_text fun l hl => (hsolid l hl).flat
  obtain ⟨first, last, hfalse, htrue⟩ := s.testLines_false_eq m
  have hfail : "    fail('not implemented');\n".toList =
      (Line.code 1 "fail('not implemented');").nest.chars := by decide
  rw [asMember, hlines, ← map_chars_nest hsolid, hfalse, htrue, hfail]
  simp [Line.text, List.flatMap_def]

theorem text_nest_allTests (s : Suite) (failing : Bool) :
    Line.text ((s.allTests failing).map Line.nest) =
      ['\n'].intercalate
        (s.tests.map fun m => Line.text ((s.testLines m failing).map Line.nest)) := by
  unfold allTests
  induction s.tests with
  | nil => rfl
  | cons m ms ih =>
    cases ms with
    | nil => simp
    | cons next ms =>
      simp only [List.map_cons] at ih ⊢
      rw [List.intercalate_cons_cons, List.intercalate_cons_cons, ← ih]
      simp [Line.text, Line.nest, Line.chars]

/-- A single test as code. -/
theorem toList_render_alone (s : Suite) (m : Method) :
    (Suite.render { s with tests := [m] }).toList =
      s.header ++ Line.text (s.testLines m false) := by
  have hbody : ∀ heading, Suite.body { s with tests := [m] } heading = s.testLines m false := by
    intro heading
    show [Line.blank].intercalate [s.testLines m false] = s.testLines m false
    exact List.intercalate_singleton
  rw [render, renderTitled, String.toList_ofList, hbody]
  rfl

/-- Several tests as code. -/
theorem toList_render_group {s : Suite} (h : 2 ≤ s.tests.length) :
    s.render.toList = s.header ++
      ("describe('" ++ title (s.className?.getD "") ++ "', () => \x7b\n").toList ++
      Line.text (s.groupLines.map Line.nest) ++
      ['\n'].intercalate
        (s.tests.map fun m => Line.text ((s.testLines m true).map Line.nest)) ++
      "\x7d);\n".toList := by
  have hgrouped : s.isGrouped = true := decide_eq_true h
  rw [render, renderTitled, String.toList_ofList, body, if_pos hgrouped, ← text_nest_allTests]
  simp [group, groupLines, Line.text, Line.chars]

theorem body_of_length_lt {s : Suite} (h : s.tests.length < 2) (heading : String) :
    s.body heading = s.tests.flatMap fun m => s.testLines m false := by
  have hgrouped : s.isGrouped = false := decide_eq_false (by omega)
  rw [body, hgrouped, if_neg Bool.false_ne_true, allTests]
  generalize s.tests = tests at h
  cases tests with
  | nil => rfl
  | cons m rest =>
    rw [List.length_cons] at h
    obtain rfl : rest = [] := List.length_eq_zero_iff.1 (by omega)
    simp

theorem not_opens_group_of_length_lt {s : Suite} (h : s.tests.length < 2) {heading : String}
    {depth : Nat} {text : String} (hline : Line.code depth text ∈ s.body heading)
    (hopens : opens text = true) :
    ¬"describe(".toList <+: text.toList ∧ ¬"beforeEach(".toList <+: text.toList := by
  rw [body_of_length_lt h] at hline
  obtain ⟨m, -, hm⟩ := List.mem_flatMap.1 hline
  exact (testText_testLines hm).not_opens_group hopens

theorem call_eq_of_length_lt {s : Suite} (h : s.tests.length < 2) {heading : String} {depth : Nat}
    (hline : Line.code depth "fail('not implemented');" ∈ s.body heading) :
    ∃ m ∈ s.tests, m.returns? = none ∧ s.call m = "fail('not implemented')" := by
  rw [body_of_length_lt h] at hline
  obtain ⟨m, hmem, hm⟩ := List.mem_flatMap.1 hline
  exact ⟨m, hmem, (testText_testLines hm).call_eq rfl⟩

/-- Several tests are written as a group: the line that opens it, its setup, and for each test in
order what is written for the test alone, as a member of the group.  A test by itself has neither a
group nor a setup, and does not fail unless that is what is called.  Either way the lines are as
deep as there are blocks around them. -/
theorem render_eq_members (s : Suite)
    (h : ∀ t ∈ Suite.texts { s with importLine? := none } (s.className?.getD ""), OnOneLine t) :
    (2 ≤ s.tests.length → ∃ alone : Method → List Char,
      (∀ m, (Suite.render { s with tests := [m] }).toList = s.header ++ alone m) ∧
        s.render.toList = s.header ++
          ("describe('" ++ title (s.className?.getD "") ++ "', () => \x7b\n").toList ++
          Line.text (s.groupLines.map Line.nest) ++
          ['\n'].intercalate (s.tests.map fun m => asMember (alone m)) ++ "\x7d);\n".toList) ∧
    (s.tests.length < 2 →
      s.body (s.className?.getD "") = (s.tests.flatMap fun m => s.testLines m false) ∧
        (∀ depth text, Line.code depth text ∈ s.body (s.className?.getD "") → opens text = true →
          ¬"describe(".toList <+: text.toList ∧ ¬"beforeEach(".toList <+: text.toList) ∧
        ∀ depth, Line.code depth "fail('not implemented');" ∈ s.body (s.className?.getD "") →
          ∃ m ∈ s.tests, m.returns? = none ∧ s.call m = "fail('not implemented')") ∧
    s.render.toList = s.header ++ Line.text (s.body (s.className?.getD "")) ∧
    fullLines (Line.text (s.body (s.className?.getD ""))) =
      (s.body (s.className?.getD "")).map chars ∧
    (s.body (s.className?.getD "")).foldlM levelAfter? 0 = some 0 := by
  -- The import is not among the texts: it stands before the tests alone as before the group.
  have hs : ∀ t ∈ s.receivers, OnOneLine t := fun t ht =>
    h t (mem_texts_of_receivers (s := { s with importLine? := none }) ht _)
  have hm : ∀ m ∈ s.tests, ∀ t ∈ m.texts, OnOneLine t := fun m hmem t ht =>
    h t (mem_texts_of_tests (s := { s with importLine? := none }) hmem ht _)
  have hrender : s.render.toList = s.header ++ Line.text (s.body (s.className?.getD "")) := by
    rw [render, renderTitled, String.toList_ofList]
  have hlevel := s.keepsLevel_body (s.className?.getD "")
  refine ⟨fun hlength => ?_, fun hlength => ?_, hrender, ?_, hlevel⟩
  · refine ⟨fun m => Line.text (s.testLines m false), s.toList_render_alone, ?_⟩
    have hmembers : (s.tests.map fun m => asMember (Line.text (s.testLines m false))) =
        s.tests.map fun m => Line.text ((s.testLines m true).map Line.nest) :=
      List.map_congr_left fun m hmem => asMember_text_testLines hs (hm m hmem)
    rw [hmembers]
    exact toList_render_group hlength
  · exact ⟨body_of_length_lt hlength _,
      fun depth text hline hopens => not_opens_group_of_length_lt hlength hline hopens,
      fun depth hline => call_eq_of_length_lt hlength hline⟩
  · have hflat := flat_body h
    exact fullLines_text hflat

/-- A class with tests in all three styles. -/
def sampleFeed : Suite :=
  { importLine? := some "import \x7b Feed \x7d from './feed';\n"
    className? := some "Feed"
    constructor? := some ⟨"Feed", [⟨"store", some "Store", []⟩, ⟨"log", none, []⟩]⟩
    tests :=
      [⟨"addItem", [⟨"item", some "Item", []⟩], none, false, false, false⟩,
        ⟨"loadAll", [], some { promise := true }, true, false, false⟩,
        ⟨"flush", [], none, true, true, false⟩] }

theorem sampleFeed_render_eq_members :
    ∃ alone : Method → List Char,
      (∀ m, (Suite.render { sampleFeed with tests := [m] }).toList =
        sampleFeed.header ++ alone m) ∧
        sampleFeed.render.toList = sampleFeed.header ++ "describe('feed', () => \x7b\n".toList ++
          Line.text (sampleFeed.groupLines.map Line.nest) ++
          ['\n'].intercalate (sampleFeed.tests.map fun m => asMember (alone m)) ++
          "\x7d);\n".toList := by
  obtain ⟨hgroup, -⟩ := render_eq_members sampleFeed (by decide)
  exact hgroup (by decide)

end Suite

end SpecScaffold
