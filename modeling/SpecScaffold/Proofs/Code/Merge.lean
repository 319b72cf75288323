import Mathlib.Data.List.Basic
import SpecScaffold.Proofs.Code.Insertion
import SpecScaffold.Proofs.Code.OneLine

/-!
# Joining a group one test at a time

A group can be written at once, or for some of its tests and then be joined by the others one after
the other.  The one way counts depth while it writes, the other looks for the line that closes the
last group and indents the text of a single test.  Both give the same document, except that a test
that joins does not fail by itself:

    merge_eq_group_without_fail_lines

One insertion puts the lines of a test, one level deeper, before the closing line
(`mergeTest?_eq_some`), which is then the last line again.
-/

namespace SpecScaffold

open Text

/-! ## Indenting -/

namespace Line

/-- The line some levels deeper; a blank line has no depth. -/
def deeper (levels : Nat) : Line → Line
  | .blank => .blank
  | .code depth text => .code (depth + levels) text

theorem deeper_one : deeper 1 = nest := by
  funext l
  cases l <;> rfl

/-- The indentation of a line. -/
def margin (depth : Nat) : List Char :=
  (List.replicate depth indent).flatten

theorem isBlank_of_mem_margin {depth : Nat} : ∀ c ∈ margin depth, isBlank c = true := by
  intro c hc
  obtain ⟨part, hpart, hin⟩ := List.mem_flatten.1 hc
  rw [List.eq_of_mem_replicate hpart] at hin
  exact List.all_eq_true.1 (by decide) c hin

theorem chars_deeper_code (levels depth : Nat) (text : String) :
    (deeper levels (.code depth text)).chars = margin levels ++ (Line.code depth text).chars := by
  have hsplit : List.replicate (depth + levels) indent =
      List.replicate levels indent ++ List.replicate depth indent := by
    rw [List.replicate_append_replicate, Nat.add_comm]
  simp only [deeper, chars, margin, hsplit, List.flatten_append, List.append_assoc]

end Line

namespace Insertion

theorem deepenLine_chars {l : Line} (h : l.Solid) (levels : Nat) :
    deepenLine (Line.margin levels) l.chars = (l.deeper levels).chars := by
  cases l with
  | blank => exact h.elim
  | code depth text =>
    obtain ⟨c, hc, hblank⟩ := h.2
    have hmem : c ∈ (Line.code depth text).chars := by simp [Line.chars, hc]
    have htrim : (trim (Line.code depth text).chars).isEmpty = false := by
      rw [List.isEmpty_eq_false_iff]
      intro hnil
      rw [trim_eq_nil_iff.1 hnil c hmem] at hblank
      cases hblank
    rw [deepenLine, htrim, Line.chars_deeper_code]
    rfl

/-- Indenting the text of lines gives the text of the lines as many levels deeper. -/
theorem deepen_text {ls : List Line} (h : ∀ l ∈ ls, l.Solid) (levels : Nat) :
    deepen (Line.margin levels) (Line.text ls) = Line.text (ls.map (Line.deeper levels)) := by
  rw [deepen, Line.fullLines_text fun l hl => (h l hl).flat, Line.text, List.flatMap_map,
    List.flatMap_map]
  exact List.flatMap_congr fun l hl => deepenLine_chars (h l hl) levels

/-! ## The closing line -/

/-- The line that closes the outermost group. -/
def closingLine : List Char :=
  (Line.code 0 "\x7d);").chars

theorem chars_closing (depth : Nat) :
    (Line.code depth "\x7d);").chars = Line.margin depth ++ closingLine := by
  rw [Line.chars, Line.margin, List.append_assoc]
  rfl

theorem leadingBlank_closing (depth : Nat) :
    leadingBlank (Line.code depth "\x7d);").chars = Line.margin depth := by
  rw [chars_closing, leadingBlank, List.takeWhile_append_of_pos Line.isBlank_of_mem_margin]
  exact List.append_nil _

theorem closesGroup_closing (depth : Nat) :
    closesGroup (Line.code depth "\x7d);").chars = true := by
  have htrim : trimStart (Line.code depth "\x7d);").chars = closingLine := by
    rw [chars_closing, trimStart, List.dropWhile_append_of_pos Line.isBlank_of_mem_margin]
    rfl
  rw [closesGroup, trim, htrim]
  decide

/-- Joining a document whose last line that closes a group is followed by the lines `back`. -/
theorem plan_before_closing {document : String} {front : List Char} {depth : Nat}
    {back : List Line}
    (hdoc : document.toList = front ++ Line.text (.code depth "\x7d);" :: back))
    (hfront : IsWholeLines front)
    (hback : ∀ l ∈ back, l.Flat ∧ closesGroup l.chars = false) (generated : String) :
    (plan document generated false true).offset = byteLength front ∧
      (plan document generated false true).text.toList =
        '\n' :: deepen (Line.margin (depth + 1))
          (insertedBody document.toList generated.toList false) := by
  have hflat : ∀ l ∈ Line.code depth "\x7d);" :: back, l.Flat := by
    intro l hl
    rcases List.mem_cons.1 hl with rfl | hl
    · exact (by decide : OnOneLine "\x7d);")
    · exact (hback l hl).1
  have hlast : lastClosing? document.toList =
      some ((fullLines front).reverse, (Line.code depth "\x7d);").chars) := by
    refine lastClosing?_eq_some_iff.2 ⟨back.map Line.chars, ?_, closesGroup_closing depth, ?_⟩
    · rw [hdoc, fullLines_append hfront, List.reverse_reverse, Line.fullLines_text hflat]
      rfl
    · intro line hline
      obtain ⟨l, hl, rfl⟩ := List.mem_map.1 hline
      exact (hback l hl).2
  have hnotBlank : trim document.toList ≠ [] := by
    intro hnil
    have hmem : '\x7d' ∈ document.toList := by
      rw [hdoc]
      simp [Line.text, Line.chars]
    exact absurd (trim_eq_nil_iff.1 hnil _ hmem) (by decide)
  have hmargin : Line.margin depth ++ [' ', ' '] = Line.margin (depth + 1) := by
    rw [Line.margin, Line.margin, List.replicate_succ', List.flatten_append]
    rfl
  rw [plan_of_lastClosing? hnotBlank hlast]
  constructor
  · rw [inGroup, List.reverse_reverse, flatten_fullLines]
  · rw [inGroup, String.toList_ofList, leadingBlank_closing, hmargin]

end Insertion

open Insertion

/-! ## One test -/

namespace Suite

theorem isImport_helpersImport : isImport helpersImport.toList = true := by
  decide

/-- No line of a test is taken for an import. -/
theorem isImport_testLines (s : Suite) (m : Method) (failing : Bool) :
    ∀ l ∈ s.testLines m failing, isImport l.content = false := by
  intro l hl
  unfold testLines at hl
  rcases List.mem_append.1 hl with hl | hl
  · rcases List.mem_cons.1 hl with rfl | hl
    · simp [Line.content, isImport, List.isPrefixOf]
    · obtain ⟨inner, hinner, rfl⟩ := List.mem_map.1 hl
      cases inner with
      | blank => rfl
      | code depth text =>
        simp [Line.nest, Line.content, Line.indent, isImport, List.replicate_succ, List.isPrefixOf]
  · obtain rfl := List.mem_singleton.1 hl
    cases TestStyle.ofMethod m <;> rfl

/-- What is left of the text of a single test without imports. -/
theorem insertedBody_header_testLines {s : Suite} {m : Method}
    (hs : ∀ t ∈ s.receivers, OnOneLine t) (hm : ∀ t ∈ m.texts, OnOneLine t)
    (document : List Char) :
    insertedBody document
        (helpersImport.toList ++ '\n' :: '\n' :: Line.text (s.testLines m false)) false =
      Line.text (s.testLines m false) := by
  have hsolid := solid_testLines hs hm false
  have hpieces : pieces '\n' ('\n' :: Line.text (s.testLines m false)) =
      [] :: pieces '\n' (Line.text (s.testLines m false)) := by
    rw [pieces, if_pos rfl]
  have hkeep : (pieces '\n' (Line.text (s.testLines m false))).filter (fun line => !isImport line) =
      pieces '\n' (Line.text (s.testLines m false)) := by
    refine List.filter_eq_self.2 fun line hline => ?_
    rw [Line.pieces_text fun l hl => (hsolid l hl).flat] at hline
    rcases List.mem_append.1 hline with hline | hline
    · obtain ⟨l, hl, rfl⟩ := List.mem_map.1 hline
      rw [isImport_testLines s m false l hl]
      rfl
    · obtain rfl := List.mem_singleton.1 hline
      rfl
  have hwithout : withoutImports
      (helpersImport.toList ++ '\n' :: '\n' :: Line.text (s.testLines m false)) =
        '\n' :: Line.text (s.testLines m false) := by
    rw [withoutImports, pieces_append_cons oneLine_helpersImport, hpieces,
      List.filter_cons_of_neg (by simp [isImport_helpersImport]),
      List.filter_cons_of_pos (by decide), hkeep,
      joined_cons _ _ (pieces_ne_nil _ _), joined_pieces, List.nil_append, List.singleton_append]
  rw [insertedBody, if_neg (by decide), hwithout, List.dropWhile_cons_of_pos (by decide)]
  simp [testLines, Line.text, Line.chars]

/-! ## Parts of a group -/

/-- A test of a group up to the line that closes it. -/
def blockStart (s : Suite) (m : Method) : List Char :=
  Line.text ((s.testLines m false).dropLast.map Line.nest)

/-- The line that closes a test of a group. -/
def blockEnd (s : Suite) (m : Method) : List Char :=
  Line.text ((s.testLines m false).getLast?.toList.map Line.nest)

/-- The line that makes a test of a group fail. -/
def failLine : List Char :=
  (Line.code 2 "fail('not implemented');").chars

theorem testLines_false_eq (s : Suite) (m : Method) :
    ∃ first last, s.testLines m false = first ++ [last] ∧
      s.testLines m true = first ++ [.code 1 "fail('not implemented');"] ++ [last] := by
  refine ⟨_, .code 0 (TestStyle.ofMethod m).closing, rfl, ?_⟩
  have hbody : s.testBody m true = s.testBody m false ++ [.code 0 "fail('not implemented');"] := by
    simp [testBody]
  rw [testLines, hbody, List.map_append]
  simp [Line.nest]

/-- A test in a group, as it is when it has joined the group. -/
theorem text_nest_testLines_false (s : Suite) (m : Method) :
    Line.text ((s.testLines m false).map Line.nest) = s.blockStart m ++ s.blockEnd m := by
  obtain ⟨first, last, hfalse, -⟩ := s.testLines_false_eq m
  rw [blockStart, blockEnd, hfalse]
  simp

/-- A test in a group, as it is when it has been written with the group. -/
theorem text_nest_testLines_true (s : Suite) (m : Method) :
    Line.text ((s.testLines m true).map Line.nest) =
      s.blockStart m ++ failLine ++ s.blockEnd m := by
  obtain ⟨first, last, hfalse, htrue⟩ := s.testLines_false_eq m
  rw [blockStart, blockEnd, hfalse, htrue]
  simp [failLine, Line.text, Line.nest]

/-- The text of a group before the line that closes it. -/
def groupStart (s : Suite) (heading : String) : List Char :=
  Line.text (.code 0 ("describe('" ++ title heading ++ "', () => \x7b") ::
    (s.groupVariables ++ [Line.blank] ++ s.groupSetup ++ s.allTests true).map Line.nest)

theorem text_group (s : Suite) (heading : String) :
    Line.text (s.group heading) = s.groupStart heading ++ closingLine := by
  rw [group, Line.text_append, groupStart]
  simp [Line.text, closingLine]

theorem intercalate_append {α : Type} (sep : List α) {parts : List (List α)} (h : parts ≠ [])
    (more : List (List α)) :
    sep.intercalate (parts ++ more) = sep.intercalate parts ++ more.flatMap (sep ++ ·) := by
  induction parts with
  | nil => exact absurd rfl h
  | cons part parts ih =>
    cases parts with
    | nil =>
      induction more generalizing part with
      | nil => simp
      | cons next more ihMore =>
        rw [List.singleton_append, List.intercalate_cons_cons, List.flatMap_cons,
          ← List.singleton_append, ihMore next (by simp) (by simp)]
        simp
    | cons next parts =>
      rw [List.cons_append, List.cons_append, List.intercalate_cons_cons,
        List.intercalate_cons_cons, ← List.cons_append, ih (by simp)]
      simp

/-- Tests that are written with a group follow the others after a blank line each. -/
theorem groupStart_append (s : Suite) (heading : String) (us : List Method) (h : s.tests ≠ []) :
    ({ s with tests := s.tests ++ us } : Suite).groupStart heading =
      s.groupStart heading ++
        us.flatMap fun u => '\n' :: (s.blockStart u ++ failLine ++ s.blockEnd u) := by
  have htests : ({ s with tests := s.tests ++ us } : Suite).allTests true =
      s.allTests true ++ us.flatMap fun u => Line.blank :: s.testLines u true := by
    have hne : s.tests.map (fun m => s.testLines m true) ≠ [] := by simpa using h
    show [Line.blank].intercalate ((s.tests ++ us).map fun m => s.testLines m true) = _
    rw [List.map_append, intercalate_append _ hne, List.flatMap_map]
    rfl
  have hblocks : Line.text ((us.flatMap fun u => Line.blank :: s.testLines u true).map Line.nest) =
      us.flatMap fun u => '\n' :: (s.blockStart u ++ failLine ++ s.blockEnd u) := by
    rw [Line.text, List.map_flatMap, List.flatMap_assoc]
    refine List.flatMap_congr fun u _ => ?_
    rw [← text_nest_testLines_true]
    rfl
  rw [groupStart, htests, groupStart, ← hblocks]
  simp [groupVariables, groupSetup, stubs, instance?, Line.text]

end Suite

/-! ## Joining -/

namespace Spec

/-- The document after the test of one method has joined its last group. -/
def mergeTest? (s : Spec) (document : String) (m : Method) : Option String :=
  (Insertion.plan document (Spec.render { s with importLine? := none, tests := [m] }) false
    true).applyTo? document

/-- The document after the tests of some methods have joined its last group, one after the other. -/
def mergeTests? (s : Spec) (document : String) (ms : List Method) : Option String :=
  ms.foldlM s.mergeTest? document

/-- A single test as code. -/
theorem toList_render_single (s : Spec) (m : Method) :
    (Spec.render { s with importLine? := none, tests := [m] }).toList =
      Suite.helpersImport.toList ++ '\n' :: '\n' :: Line.text (s.testLines m false) := by
  have hbody : ∀ heading,
      Suite.body { s.toSuite with importLine? := none, tests := [m] } heading =
        s.testLines m false := by
    intro heading
    show [Line.blank].intercalate [s.testLines m false] = s.testLines m false
    exact List.intercalate_singleton
  have hheader : Suite.header { s.toSuite with importLine? := none, tests := [m] } =
      Suite.helpersImport.toList ++ ['\n', '\n'] := by
    simp [Suite.header, Suite.importText?]
  rw [render, Suite.renderTitled, String.toList_ofList, hbody, hheader]
  simp

/-- A group as code. -/
theorem toList_render_of_isGrouped {s : Spec} (h : s.isGrouped = true) :
    s.render.toList =
      s.header ++ s.groupStart (s.className?.getD (baseTitle s.fileName)) ++ closingLine := by
  rw [render, Suite.renderTitled, String.toList_ofList, Suite.body, if_pos h, Suite.text_group,
    List.append_assoc]

/-- A test joins as the last member of the group, and the closing line is the last line again. -/
theorem mergeTest?_eq_some {s : Spec} {m : Method} (hs : ∀ t ∈ s.receivers, OnOneLine t)
    (hm : ∀ t ∈ m.texts, OnOneLine t) {document : String} {front : List Char}
    (hdoc : document.toList = front ++ closingLine) (hfront : IsWholeLines front) :
    s.mergeTest? document m = some (String.ofList
      (front ++ '\n' :: (s.blockStart m ++ s.blockEnd m) ++ closingLine)) := by
  have hclosing : document.toList = front ++ Line.text [.code 0 "\x7d);"] := by
    simpa [Line.text, closingLine] using hdoc
  obtain ⟨hoffset, htext⟩ := plan_before_closing hclosing hfront (by simp)
    (Spec.render { s with importLine? := none, tests := [m] })
  rw [toList_render_single, Suite.insertedBody_header_testLines hs hm,
    deepen_text (Suite.solid_testLines hs hm false), Line.deeper_one,
    Suite.text_nest_testLines_false] at htext
  rw [mergeTest?, applyTo?_eq_some hdoc hoffset, htext]

theorem isWholeLines_block (s : Suite) (m : Method) :
    IsWholeLines ('\n' :: (s.blockStart m ++ s.blockEnd m)) := by
  have hblock : IsWholeLines (s.blockStart m ++ s.blockEnd m) := by
    rw [← Suite.text_nest_testLines_false]
    exact Line.isWholeLines_text _
  exact (isWholeLines_concat []).append hblock

/-- Tests that join one after the other stand in the group in that order. -/
theorem mergeTests?_eq_some {s : Spec} (hs : ∀ t ∈ s.receivers, OnOneLine t) {us : List Method}
    (hus : ∀ u ∈ us, ∀ t ∈ u.texts, OnOneLine t) {document : String} {front : List Char}
    (hdoc : document.toList = front ++ closingLine) (hfront : IsWholeLines front) :
    s.mergeTests? document us = some (String.ofList
      (front ++ us.flatMap (fun u => '\n' :: (s.blockStart u ++ s.blockEnd u)) ++
        closingLine)) := by
  induction us generalizing document front with
  | nil =>
    rw [List.flatMap_nil, List.append_nil, ← hdoc, String.ofList_toList]
    rfl
  | cons u us ih =>
    have hstep := mergeTest?_eq_some hs (hus u List.mem_cons_self) hdoc hfront
    have hrest := ih (fun m hm => hus m (List.mem_cons_of_mem _ hm)) (String.toList_ofList)
      (hfront.append (isWholeLines_block s.toSuite u))
    rw [mergeTests?, List.foldlM_cons, hstep, List.flatMap_cons, ← List.append_assoc]
    exact hrest

/-- Writing a group of at least two tests and letting others join it one after the other gives the
group of all of them, without the lines that make the joined ones fail: each stands at the end of
the group, in the order in which they joined, one level deeper than alone.  The texts that calls are
made on, and those written of the tests that join, have no line feed. -/
theorem merge_eq_group_without_fail_lines (s : Spec) (us : List Method)
    (hts : 2 ≤ s.tests.length) (hs : ∀ t ∈ s.receivers, OnOneLine t)
    (hus : ∀ u ∈ us, ∀ t ∈ u.texts, OnOneLine t) :
    ∃ front,
      s.render.toList = front ++ closingLine ∧
        (Spec.render { s with tests := s.tests ++ us }).toList =
          front ++ us.flatMap (fun u =>
            '\n' :: (s.blockStart u ++ Suite.failLine ++ s.blockEnd u)) ++ closingLine ∧
        s.mergeTests? s.render us = some (String.ofList
          (front ++ us.flatMap (fun u => '\n' :: (s.blockStart u ++ s.blockEnd u)) ++
            closingLine)) ∧
        ∀ u ∈ us, s.blockStart u ++ s.blockEnd u =
          Line.text ((s.testLines u false).map Line.nest) := by
  have hgrouped : s.isGrouped = true := by
    rw [Suite.isGrouped, decide_eq_true_eq]
    omega
  have hgroupedAll : ({ s with tests := s.tests ++ us } : Spec).isGrouped = true := by
    show decide (1 < (s.tests ++ us).length) = true
    rw [decide_eq_true_eq, List.length_append]
    omega
  have hne : s.tests ≠ [] := by
    intro hnil
    rw [hnil] at hts
    exact absurd hts (by decide)
  have hrender := toList_render_of_isGrouped hgrouped
  have hfront : IsWholeLines
      (s.header ++ s.groupStart (s.className?.getD (baseTitle s.fileName))) := by
    refine IsWholeLines.append ?_ (Line.isWholeLines_text _)
    exact isWholeLines_concat _
  refine ⟨_, hrender, ?_, mergeTests?_eq_some hs hus hrender hfront, ?_⟩
  · rw [toList_render_of_isGrouped hgroupedAll]
    have hstart := s.groupStart_append (s.className?.getD (baseTitle s.fileName)) us hne
    rw [List.append_assoc s.header, ← hstart]
    rfl
  · intro u _
    exact (Suite.text_nest_testLines_false s.toSuite u).symm

/-- The group of a class with two tests, for which a third one is asked for. -/
def sampleCart : Spec :=
  { importLine? := some "import \x7b Cart \x7d from './cart';"
    className? := some "Cart"
    constructor? := some ⟨"Cart", [⟨"store", some "Store", []⟩]⟩
    tests :=
      [⟨"addItem", [⟨"item", some "Item", []⟩], none, false, false, false⟩,
        ⟨"load", [], some { promise := true }, true, false, false⟩]
    fileName := "cart.spec.ts"
    joinsGroup := false }

/-- The test that joins; the pattern of its parameter takes two lines, but is not written. -/
def sampleTotal : Method :=
  ⟨"totalPrice", [⟨"\x7b rate,\n  tax \x7d", some "Rates",
    [⟨"rate", false, true⟩, ⟨"tax", false, true⟩]⟩], some { number := true }, false, true, false⟩

theorem sampleTotal_joins_sampleCart :
    2 ≤ sampleCart.tests.length ∧ (∀ t ∈ sampleCart.receivers, OnOneLine t) ∧
      (∀ u ∈ [sampleTotal], ∀ t ∈ u.texts, OnOneLine t) ∧
      ∃ front,
        sampleCart.render.toList = front ++ closingLine ∧
          sampleCart.mergeTests? sampleCart.render [sampleTotal] = some (String.ofList
            (front ++ [sampleTotal].flatMap (fun u =>
              '\n' :: (sampleCart.blockStart u ++ sampleCart.blockEnd u)) ++ closingLine)) := by
  have hts : 2 ≤ sampleCart.tests.length := by decide
  have hs : ∀ t ∈ sampleCart.receivers, OnOneLine t := by decide
  have hus : ∀ u ∈ [sampleTotal], ∀ t ∈ u.texts, OnOneLine t := by decide
  obtain ⟨front, hrender, -, hmerge, -⟩ :=
    merge_eq_group_without_fail_lines sampleCart [sampleTotal] hts hs hus
  exact ⟨hts, hs, hus, front, hrender, hmerge⟩

end Spec

end SpecScaffold
