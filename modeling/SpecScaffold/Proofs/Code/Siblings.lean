import SpecScaffold.Proofs.Code.Texts

/-!
# Two tests in a new file

A test for one method joins the last group of a file, and the end of a group is told by a line that
is `});`.  A file that a single test has been written to has no group, but a test may end in such a
line itself, or close the handler of its result with one.

    second_test_beside_first_iff : the block of the first test stays in one piece exactly if it
      completes with simulated time, which is closed by `}));`; otherwise the second test goes in
      before the last line of the first block that is `});`
-/

namespace SpecScaffold

open Text Insertion

/-! ## Lines that close no group -/

theorem mem_dropWhile_of_mem {α : Type} {p : α → Bool} {a : α} {as : List α} (h : a ∈ as)
    (ha : p a = false) : a ∈ as.dropWhile p := by
  rw [← List.takeWhile_append_dropWhile (p := p) (l := as)] at h
  rcases List.mem_append.1 h with h | h
  · rw [List.mem_takeWhile_imp h] at ha
    cases ha
  · exact h

/-- Trimming keeps what is not blank. -/
theorem mem_trim_of_mem {c : Char} {cs : List Char} (h : c ∈ cs) (hc : isBlank c = false) :
    c ∈ trim cs := by
  unfold trim trimEnd dropEndWhile trimStart
  have hstart := mem_dropWhile_of_mem h hc
  exact List.mem_reverse.2 (mem_dropWhile_of_mem (List.mem_reverse.2 hstart) hc)

/-- A line with something on it that the end of a group does not have. -/
def Line.NotClosing : Line → Prop
  | .blank => False
  | .code _ text => ∃ c ∈ text.toList, isBlank c = false ∧ c ∉ closingMark

theorem Line.NotClosing.nest {l : Line} (h : l.NotClosing) : l.nest.NotClosing := by
  cases l with
  | blank => exact h
  | code depth text => exact h

theorem Line.NotClosing.closesGroup {l : Line} (h : l.NotClosing) :
    closesGroup l.chars = false := by
  cases l with
  | blank => exact h.elim
  | code depth text =>
    obtain ⟨c, hc, hblank, hmark⟩ := h
    have hmem : c ∈ (Line.code depth text).chars := by simp [Line.chars, hc]
    cases hcloses : Insertion.closesGroup (Line.code depth text).chars with
    | false => rfl
    | true =>
      have htrim : trim (Line.code depth text).chars = closingMark := by
        simpa [Insertion.closesGroup] using hcloses
      have hin := mem_trim_of_mem hmem hblank
      rw [htrim] at hin
      exact absurd hin hmark

theorem Line.notClosing_of_bracket {depth : Nat} {text : String} (h : '(' ∈ text.toList) :
    (Line.code depth text).NotClosing :=
  ⟨'(', h, by decide, by decide⟩

/-- An indented line does not start with a closing bracket. -/
theorem Line.head?_chars_nest (l : Line) : l.nest.chars.head? ≠ some '\x7d' := by
  cases l with
  | blank => decide
  | code depth text => simp [nest, chars, indent, List.replicate_succ]

namespace Suite

theorem notClosing_declaration (p : Parameter) : (declaration p).NotClosing := by
  unfold declaration
  cases p.type? with
  | none => exact ⟨'l', by simp, by decide, by decide⟩
  | some type => exact ⟨'l', by simp, by decide, by decide⟩

/-! ## How a test ends -/

/-- The call of a test, and what is expected of it: a handler, or lines of which the last has a
bracket and none closes a group. -/
theorem completion_cases {call : String} (hcall : '(' ∈ call.toList) (m : Method) :
    (TestStyle.ofMethod m = .async ∧ ∃ method, completion call m.returns? = awaited call method) ∨
      TestStyle.ofMethod m ≠ .async ∧ ∃ first text,
        completion call m.returns? = first ++ [.code 0 text] ∧ '(' ∈ text.toList ∧
          ∀ l ∈ first, l.NotClosing := by
  unfold TestStyle.ofMethod
  cases m.returns? with
  | none =>
    refine .inr ⟨?_, [], call ++ ";", rfl, by simp [hcall], by simp⟩
    cases m.isAsync <;> simp
  | some r =>
    cases hp : r.promise with
    | true =>
      refine .inl ⟨by simp [hp], ".then", ?_⟩
      simp only [completion, hp, if_true]
    | false =>
      cases ho : r.observable with
      | true =>
        refine .inl ⟨by simp [ho], ".subscribe", ?_⟩
        simp only [completion, hp, ho, Bool.false_eq_true, if_false, if_true]
      | false =>
        refine .inr ⟨?_, [.code 0 ("let result = " ++ call ++ ";")], expectation, ?_, by decide, ?_⟩
        · cases m.isAsync <;> simp [hp, ho]
        · simp only [completion, hp, ho, Bool.false_eq_true, if_false]
          rfl
        · intro l hl
          obtain rfl := List.mem_singleton.1 hl
          exact ⟨'l', by simp, by decide, by decide⟩

/-- The first line of the test of a method. -/
def opening (m : Method) : Line :=
  .code 0 ("it('" ++ title m.name ++ "', " ++ (TestStyle.ofMethod m).opening)

theorem notClosing_opening (m : Method) : (opening m).NotClosing :=
  Line.notClosing_of_bracket (by simp)

/-- With simulated time no line of a test closes a group. -/
theorem closesGroup_testLines_of_fakeAsync {s : Suite} {m : Method}
    (h : TestStyle.ofMethod m = .fakeAsync) :
    ∀ l ∈ s.testLines m false, closesGroup l.chars = false := by
  rcases completion_cases (bracket_mem_call s m) m with
    ⟨hasync, -⟩ | ⟨-, first, text, hcompletion, hbracket, hfirst⟩
  · rw [h] at hasync
    cases hasync
  · have hbody : ∀ l ∈ s.testBody m false, l.NotClosing := by
      intro l hl
      simp only [testBody, hcompletion, h, if_true, Bool.false_eq_true, if_false, List.append_nil,
        List.mem_append, List.mem_singleton, List.mem_map] at hl
      rcases hl with (⟨p, -, rfl⟩ | hl | rfl) | rfl
      · exact notClosing_declaration p
      · exact hfirst l hl
      · exact Line.notClosing_of_bracket hbracket
      · exact Line.notClosing_of_bracket (by decide)
    intro l hl
    unfold testLines at hl
    rcases List.mem_append.1 hl with hl | hl
    · rcases List.mem_cons.1 hl with rfl | hl
      · exact (notClosing_opening m).closesGroup
      · obtain ⟨inner, hinner, rfl⟩ := List.mem_map.1 hl
        exact (hbody inner hinner).nest.closesGroup
    · obtain rfl := List.mem_singleton.1 hl
      rw [h]
      decide

/-- In every other form a test has a last line that is the end of a group: its own end, or the end
of the handler, after which its own end follows.  A line with a bracket stands before it. -/
theorem exists_last_closing {s : Suite} {m : Method} (h : TestStyle.ofMethod m ≠ .fakeAsync) :
    ∃ body last depth back,
      s.testLines m false = opening m :: (body ++ [last]) ++ .code depth "\x7d);" :: back ∧
        (∀ l ∈ body ++ [last], l.chars.head? ≠ some '\x7d') ∧ '(' ∈ last.chars ∧
        (depth = 0 ∧ back = [] ∨ depth = 1 ∧ back = [.code 0 "\x7d));"]) := by
  have hnested : ∀ (ls : List Line) (last : Line), ∀ l ∈ ls.map Line.nest ++ [last.nest],
      l.chars.head? ≠ some '\x7d' := by
    intro ls last l hl
    rcases List.mem_append.1 hl with hl | hl
    · obtain ⟨inner, -, rfl⟩ := List.mem_map.1 hl
      exact inner.head?_chars_nest
    · obtain rfl := List.mem_singleton.1 hl
      exact last.head?_chars_nest
  rcases completion_cases (bracket_mem_call s m) m with
    ⟨hasync, method, hcompletion⟩ | ⟨hsync, first, text, hcompletion, hbracket, -⟩
  · refine ⟨(m.params.map declaration ++
        [Line.code 0 (s.call m), Line.code 0 (method ++ "(result => \x7b")]).map Line.nest,
      (Line.code 1 expectation).nest, 1, [.code 0 "\x7d));"], ?_, ?_, by decide, .inr ⟨rfl, rfl⟩⟩
    · simp only [testLines, testBody, hcompletion, hasync, awaited, opening, TestStyle.closing]
      simp [Line.nest]
    · exact hnested _ _
  · have hstyle : TestStyle.ofMethod m = .sync := by
      cases hs : TestStyle.ofMethod m with
      | sync => rfl
      | async => exact absurd hs hsync
      | fakeAsync => exact absurd hs h
    refine ⟨(m.params.map declaration ++ first).map Line.nest, (Line.code 0 text).nest, 0, [], ?_,
      ?_, ?_, .inl ⟨rfl, rfl⟩⟩
    · simp only [testLines, testBody, hcompletion, hstyle, opening, TestStyle.closing]
      simp
    · exact hnested _ _
    · simp [Line.nest, Line.chars, hbracket]

/-- The last line of a test has no bracket that opens. -/
theorem bracket_notMem_closing (style : TestStyle) (depth : Nat) :
    '(' ∉ (Line.code depth style.closing).chars := by
  intro hmem
  have hmargin : '(' ∉ Line.margin depth := fun h =>
    absurd (Line.isBlank_of_mem_margin _ h) (by decide)
  have htext : '(' ∉ style.closing.toList := by cases style <;> decide
  simp only [Line.chars, List.mem_append, List.mem_singleton] at hmem
  rcases hmem with (hmem | hmem) | hmem
  · exact hmargin hmem
  · exact htext hmem
  · exact absurd hmem (by decide)

end Suite

/-! ## Lines of a part of a text -/

theorem Line.deeper_succ (levels : Nat) (l : Line) :
    deeper (levels + 1) l = nest (deeper levels l) := by
  cases l <;> rfl

theorem Line.Flat.deeper {l : Line} (h : l.Flat) (levels : Nat) : (l.deeper levels).Flat := by
  cases l with
  | blank => exact h
  | code depth text => exact h

/-- Lines that follow each other in a text follow each other in it as lines, the first one apart. -/
theorem Line.tail_infix_of_text {first : Line} {ls ds : List Line}
    (hls : ∀ l ∈ ls, l.Flat) (hds : ∀ l ∈ ds, l.Flat)
    (h : Line.text (first :: ls) <:+: Line.text ds) :
    ls.map chars <:+: ds.map chars := by
  obtain ⟨before, after, hsplit⟩ := h
  have hstart : IsWholeLines (before ++ first.chars) := by
    rw [chars_eq, ← List.append_assoc]
    exact isWholeLines_concat _
  refine ⟨fullLines (before ++ first.chars), fullLines after, ?_⟩
  rw [← fullLines_text hds, ← hsplit, ← fullLines_text hls, List.append_assoc,
    ← fullLines_append (isWholeLines_text ls), ← fullLines_append hstart]
  simp [text]

/-- A part of a list that ends as the list does is at its end, if the last element is nowhere else
in the list. -/
theorem suffix_of_append_infix {α : Type} {as bs init : List α} {z : α} (hz : z ∉ bs ++ init)
    (h : as ++ (init ++ [z]) <:+: bs ++ (init ++ [z])) : as <:+ bs := by
  obtain ⟨before, after, hsplit⟩ := h
  rcases List.eq_nil_or_concat after with rfl | ⟨after, last, rfl⟩
  · rw [List.append_nil, ← List.append_assoc] at hsplit
    exact ⟨before, List.append_cancel_right hsplit⟩
  · rw [List.concat_eq_append, ← List.append_assoc, ← List.append_assoc bs] at hsplit
    have hinit := (List.append_inj' hsplit rfl).1
    exact absurd (by rw [← hinit]; simp) hz

namespace Spec

/-! ## The first test -/

/-- The lines of a file with a single test. -/
def singleLines (s : Spec) (m : Method) : List Line :=
  .code 0 Suite.helpersImport :: .blank :: s.testLines m false

theorem toList_render_single_eq_text (s : Spec) (m : Method) :
    (Spec.render { s with importLine? := none, tests := [m] }).toList =
      Line.text (s.singleLines m) := by
  rw [toList_render_single]
  simp [singleLines, Line.text, Line.chars]

theorem flat_singleLines {s : Spec} {m : Method} (hs : ∀ t ∈ s.receivers, OnOneLine t)
    (hm : ∀ t ∈ m.texts, OnOneLine t) : ∀ l ∈ s.singleLines m, l.Flat := by
  intro l hl
  rcases List.mem_cons.1 hl with rfl | hl
  · exact Suite.oneLine_helpersImport
  rcases List.mem_cons.1 hl with rfl | hl
  · trivial
  · exact (Suite.solid_testLines hs hm false l hl).flat

/-- An empty file gets the code of the test as it is. -/
theorem mergeTest?_empty (s : Spec) (m : Method) :
    s.mergeTest? "" m = some (String.ofList (Line.text (s.singleLines m))) := by
  have hplan : plan "" (Spec.render { s with importLine? := none, tests := [m] }) false true =
      ⟨0, 0, Spec.render { s with importLine? := none, tests := [m] }, true⟩ := rfl
  have hempty : "".toList = [] ++ [] := rfl
  rw [mergeTest?, hplan, applyTo?_eq_some hempty rfl, toList_render_single_eq_text]
  simp

/-- What the second test adds is its block, without the import. -/
theorem insertedBody_single {s : Spec} {m : Method} (hs : ∀ t ∈ s.receivers, OnOneLine t)
    (hm : ∀ t ∈ m.texts, OnOneLine t) (document : List Char) :
    insertedBody document
        (Spec.render { s with importLine? := none, tests := [m] }).toList false =
      Line.text (s.testLines m false) := by
  rw [toList_render_single, Suite.insertedBody_header_testLines hs hm]

/-! ## The second test -/

/-- The lines up to a second test that stands in the block of the first, after its lines `front`. -/
def splitFront (s : Spec) (t₂ : Method) (front : List Line) (depth : Nat) : List Line :=
  .code 0 Suite.helpersImport :: .blank :: front ++
    .blank :: (s.testLines t₂ false).map (Line.deeper (depth + 1))

theorem flat_splitFront {s : Spec} {t₂ : Method} {front : List Line} (depth : Nat)
    (hs : ∀ t ∈ s.receivers, OnOneLine t) (h₂ : ∀ t ∈ t₂.texts, OnOneLine t)
    (hfront : ∀ l ∈ front, l.Flat) : ∀ l ∈ s.splitFront t₂ front depth, l.Flat := by
  intro l hl
  simp only [splitFront, List.cons_append, List.mem_cons, List.mem_append] at hl
  rcases hl with rfl | rfl | hl | rfl | hl
  · exact Suite.oneLine_helpersImport
  · trivial
  · exact hfront l hl
  · trivial
  · obtain ⟨inner, hinner, rfl⟩ := List.mem_map.1 hl
    exact (Suite.solid_testLines hs h₂ false inner hinner).flat.deeper _

theorem head?_splitFront {s : Spec} {t₂ : Method} {front : List Line} (depth : Nat)
    (hfront : ∀ l ∈ front, l.chars.head? ≠ some '\x7d') :
    ∀ l ∈ s.splitFront t₂ front depth, l.chars.head? ≠ some '\x7d' := by
  intro l hl
  simp only [splitFront, List.cons_append, List.mem_cons, List.mem_append] at hl
  rcases hl with rfl | rfl | hl | rfl | hl
  · decide
  · decide
  · exact hfront l hl
  · decide
  · obtain ⟨inner, -, rfl⟩ := List.mem_map.1 hl
    rw [Line.deeper_succ]
    exact Line.head?_chars_nest _

theorem splitFront_eq_concat (s : Spec) (t₂ : Method) (front : List Line) (depth : Nat) :
    ∃ init, s.splitFront t₂ front depth =
      init ++ [.code (depth + 1) (TestStyle.ofMethod t₂).closing] := by
  obtain ⟨first, last, htest⟩ : ∃ first last, s.testLines t₂ false = first ++ [last] ∧
      last = .code 0 (TestStyle.ofMethod t₂).closing := ⟨_, _, rfl, rfl⟩
  refine ⟨.code 0 Suite.helpersImport :: .blank :: front ++
    .blank :: first.map (Line.deeper (depth + 1)), ?_⟩
  simp [splitFront, htest, Line.deeper]

section

variable {s : Spec} {t₁ t₂ : Method} (hs : ∀ t ∈ s.receivers, OnOneLine t)
  (h₁ : ∀ t ∈ t₁.texts, OnOneLine t) (h₂ : ∀ t ∈ t₂.texts, OnOneLine t)

include hs h₁ h₂

/-- After a test with simulated time the second one stands at the end, after a blank line. -/
theorem mergeTest?_after_fakeAsync (hstyle : TestStyle.ofMethod t₁ = .fakeAsync) :
    s.mergeTest? (String.ofList (Line.text (s.singleLines t₁))) t₂ =
      some (String.ofList
        (Line.text (s.singleLines t₁ ++ .blank :: s.testLines t₂ false))) := by
  generalize hdoc : String.ofList (Line.text (s.singleLines t₁)) = document
  have hchars : document.toList = Line.text (s.singleLines t₁) := by
    rw [← hdoc, String.toList_ofList]
  have hnone : lastClosing? document.toList = none := by
    refine lastClosing?_eq_none_iff.2 fun line hline => ?_
    rw [hchars, Line.fullLines_text (flat_singleLines hs h₁)] at hline
    obtain ⟨l, hl, rfl⟩ := List.mem_map.1 hline
    rcases List.mem_cons.1 hl with rfl | hl
    · decide
    rcases List.mem_cons.1 hl with rfl | hl
    · decide
    · exact Suite.closesGroup_testLines_of_fakeAsync hstyle l hl
  have hmem : 'i' ∈ document.toList := by
    rw [hchars, singleLines, Line.text, List.flatMap_cons]
    exact List.mem_append_left _ (by decide)
  have hnotBlank : trim document.toList ≠ [] := fun hnil =>
    absurd (trim_eq_nil_iff.1 hnil _ hmem) (by decide)
  have hend : document.toList.getLast? = some '\n' := by
    rw [List.getLast?_eq_some_getLast (List.ne_nil_of_mem hmem)]
    have hwhole : IsWholeLines document.toList := hchars ▸ Line.isWholeLines_text _
    rw [hwhole _ (List.getLast?_eq_some_getLast (List.ne_nil_of_mem hmem))]
  have hplan : plan document (Spec.render { s with importLine? := none, tests := [t₂] }) false
      true = atEnd document.toList (Line.text (s.testLines t₂ false)) := by
    rw [plan_of_no_group hnotBlank fun _ => hnone, insertedBody_single hs h₂]
  rw [mergeTest?, hplan, applyTo?_eq_some (List.append_nil _).symm rfl, atEnd,
    String.toList_ofList, hend, hchars]
  simp [Line.text, Line.chars]

/-- After a test with a last line that closes a group the second one stands before that line. -/
theorem mergeTest?_before_closing {front back : List Line} {depth : Nat}
    (hlines : s.testLines t₁ false = front ++ .code depth "\x7d);" :: back)
    (hback : ∀ l ∈ back, closesGroup l.chars = false) :
    s.mergeTest? (String.ofList (Line.text (s.singleLines t₁))) t₂ =
      some (String.ofList
        (Line.text (s.splitFront t₂ front depth ++ .code depth "\x7d);" :: back))) := by
  have hdoc : (String.ofList (Line.text (s.singleLines t₁))).toList =
      Line.text (.code 0 Suite.helpersImport :: .blank :: front) ++
        Line.text (.code depth "\x7d);" :: back) := by
    rw [String.toList_ofList, singleLines, hlines, ← Line.text_append]
    rfl
  have hflat : ∀ l ∈ back, l.Flat ∧ closesGroup l.chars = false := by
    intro l hl
    refine ⟨(Suite.solid_testLines hs h₁ false l ?_).flat, hback l hl⟩
    rw [hlines]
    exact List.mem_append_right _ (List.mem_cons_of_mem _ hl)
  obtain ⟨hoffset, htext⟩ := plan_before_closing hdoc (Line.isWholeLines_text _) hflat
    (Spec.render { s with importLine? := none, tests := [t₂] })
  rw [insertedBody_single hs h₂,
    deepen_text (Suite.solid_testLines hs h₂ false)] at htext
  rw [mergeTest?, applyTo?_eq_some hdoc hoffset, htext]
  simp [splitFront, Line.text, Line.chars]

/-- The block of the first test is in pieces then: a block ends in a closing bracket without
indentation, which the file has at its end only, and what stands before the end of the first block
there is the end of the second. -/
theorem block_not_infix {body back : List Line} {last : Line} {depth : Nat}
    (hlines : s.testLines t₁ false = Suite.opening t₁ :: (body ++ [last]) ++
      .code depth "\x7d);" :: back)
    (hbody : ∀ l ∈ body ++ [last], l.chars.head? ≠ some '\x7d') (hlast : '(' ∈ last.chars)
    (hend : depth = 0 ∧ back = [] ∨ depth = 1 ∧ back = [.code 0 "\x7d));"]) :
    ¬ Line.text (s.testLines t₁ false) <:+: Line.text
      (s.splitFront t₂ (Suite.opening t₁ :: (body ++ [last])) depth ++
        .code depth "\x7d);" :: back) := by
  intro hinfix
  have hflat : ∀ l ∈ s.testLines t₁ false, l.Flat := fun l hl =>
    (Suite.solid_testLines hs h₁ false l hl).flat
  rw [hlines] at hinfix hflat
  obtain ⟨init, z, hsplit, hinit, hz⟩ : ∃ init z, Line.code depth "\x7d);" :: back = init ++ [z] ∧
      (∀ l ∈ init, l.chars.head? ≠ some '\x7d') ∧ z.chars.head? = some '\x7d' := by
    rcases hend with ⟨rfl, rfl⟩ | ⟨rfl, rfl⟩
    · exact ⟨[], _, rfl, by simp, by decide⟩
    · exact ⟨[.code 1 "\x7d);"], _, rfl, by decide, by decide⟩
  have hfront := flat_splitFront (s := s) depth hs h₂ fun l hl =>
    hflat l (List.mem_append_left _ hl)
  rw [hsplit, List.cons_append] at hinfix hflat
  have htail := Line.tail_infix_of_text (fun l hl => hflat l (List.mem_cons_of_mem _ hl))
    (fun l hl => (List.mem_append.1 hl).elim (hfront l) fun h =>
      hflat l (List.mem_cons_of_mem _ (List.mem_append_right _ h))) hinfix
  have hhead : ∀ l ∈ s.splitFront t₂ (Suite.opening t₁ :: (body ++ [last])) depth ++ init,
      l.chars.head? ≠ some '\x7d' := by
    intro l hl
    rcases List.mem_append.1 hl with hl | hl
    · refine head?_splitFront depth (fun l hl => ?_) l hl
      rcases List.mem_cons.1 hl with rfl | hl
      · simp [Suite.opening, Line.chars]
      · exact hbody l hl
    · exact hinit l hl
  have hnotMem : z.chars ∉
      (s.splitFront t₂ (Suite.opening t₁ :: (body ++ [last])) depth ++ init).map Line.chars := by
    intro hmem
    obtain ⟨l, hl, heq⟩ := List.mem_map.1 hmem
    exact hhead l hl (heq ▸ hz)
  have hends : ∀ ls : List Line, (ls ++ (init ++ [z])).map Line.chars =
      ls.map Line.chars ++ (init.map Line.chars ++ [z.chars]) := by
    intro ls
    simp
  rw [List.map_append] at hnotMem
  rw [hends, hends] at htail
  obtain ⟨before, hbefore⟩ := suffix_of_append_infix hnotMem htail
  obtain ⟨first, hfirst⟩ := s.splitFront_eq_concat t₂ (Suite.opening t₁ :: (body ++ [last])) depth
  have hsame : last.chars = (Line.code (depth + 1) (TestStyle.ofMethod t₂).closing).chars := by
    rw [hfirst, List.map_append, List.map_append, ← List.append_assoc] at hbefore
    simpa using (List.append_inj' hbefore rfl).2
  exact Suite.bracket_notMem_closing _ _ (hsame ▸ hlast)

end

/-! ## Both tests -/

theorem mergeTests?_pair (s : Spec) (t₁ t₂ : Method) :
    s.mergeTests? "" [t₁, t₂] =
      s.mergeTest? (String.ofList (Line.text (s.singleLines t₁))) t₂ := by
  simp only [mergeTests?, List.foldlM_cons, List.foldlM_nil, mergeTest?_empty,
    Option.bind_eq_bind, Option.bind_some, bind_pure]

/-- Two tests that are asked for one after the other in an empty file.  The block of the first one
is in one piece exactly if it completes with simulated time, and the second then follows after a
blank line.  Otherwise the second stands in the block of the first, directly before the last line
there that is the end of a group, one level deeper than that line. -/
theorem second_test_beside_first_iff (s : Spec) (t₁ t₂ : Method)
    (hs : ∀ t ∈ s.receivers, OnOneLine t) (h₁ : ∀ t ∈ t₁.texts, OnOneLine t)
    (h₂ : ∀ t ∈ t₂.texts, OnOneLine t) :
    ∃ document, s.mergeTests? "" [t₁, t₂] = some document ∧
      (Line.text (s.testLines t₁ false) <:+: document.toList ↔
        TestStyle.ofMethod t₁ = .fakeAsync) ∧
      (TestStyle.ofMethod t₁ = .fakeAsync →
        document.toList = Line.text
          (.code 0 Suite.helpersImport :: .blank :: s.testLines t₁ false ++
            .blank :: s.testLines t₂ false)) ∧
      (TestStyle.ofMethod t₁ ≠ .fakeAsync →
        ∃ front depth back,
          s.testLines t₁ false = front ++ .code depth "\x7d);" :: back ∧
            (∀ l ∈ back, closesGroup l.chars = false) ∧
            document.toList = Line.text
              (.code 0 Suite.helpersImport :: .blank :: front ++
                .blank :: (s.testLines t₂ false).map (Line.deeper (depth + 1)) ++
                .code depth "\x7d);" :: back)) := by
  rw [mergeTests?_pair]
  by_cases hstyle : TestStyle.ofMethod t₁ = .fakeAsync
  · refine ⟨_, mergeTest?_after_fakeAsync hs h₁ h₂ hstyle, ?_, ?_,
      fun hne => absurd hstyle hne⟩
    · refine iff_of_true ?_ hstyle
      rw [String.toList_ofList]
      refine ⟨Line.text [.code 0 Suite.helpersImport, .blank],
        Line.text (.blank :: s.testLines t₂ false), ?_⟩
      rw [← Line.text_append, ← Line.text_append]
      rfl
    · intro _
      rw [String.toList_ofList, singleLines]
  · obtain ⟨body, last, depth, back, hlines, hbody, hlast, hend⟩ :=
      Suite.exists_last_closing (s := s.toSuite) hstyle
    have hback : ∀ l ∈ back, closesGroup l.chars = false := by
      rcases hend with ⟨-, rfl⟩ | ⟨-, rfl⟩
      · simp
      · decide
    refine ⟨_, mergeTest?_before_closing hs h₁ h₂ hlines hback, ?_,
      fun h => absurd h hstyle, fun _ => ⟨_, depth, back, hlines, hback, ?_⟩⟩
    · refine iff_of_false ?_ hstyle
      rw [String.toList_ofList]
      exact block_not_infix hs h₁ h₂ hlines hbody hlast hend
    · rw [String.toList_ofList, splitFront]

/-- A class whose tests are asked for one by one. -/
def sampleCalculator : Spec :=
  { importLine? := none
    className? := some "Calculator"
    constructor? := some ⟨"Calculator", [⟨"logger", some "Logger", []⟩]⟩
    tests := []
    fileName := "calculator.spec.ts"
    joinsGroup := true }

def sampleReset : Method :=
  ⟨"reset", [], none, false, true, false⟩

def sampleCreate : Method :=
  ⟨"create", [⟨"logger", some "Logger", []⟩], some {}, false, false, true⟩

theorem sampleCreate_after_sampleReset :
    ∃ document, sampleCalculator.mergeTests? "" [sampleReset, sampleCreate] = some document ∧
      ¬ Line.text (sampleCalculator.testLines sampleReset false) <:+: document.toList := by
  obtain ⟨document, hmerge, hiff, -⟩ := second_test_beside_first_iff sampleCalculator sampleReset
    sampleCreate (by decide) (by decide) (by decide)
  exact ⟨document, hmerge, fun h => absurd (hiff.1 h) (by decide)⟩

/-- What the two tests of the class make of an empty file. -/
def sampleSplit : List Line :=
  [.code 0 Suite.helpersImport, .blank, .code 0 "it('reset', () => \x7b",
    .code 1 "calculator['reset']();", .blank, .code 1 "it('create', () => \x7b",
    .code 2 "let logger; // Logger", .code 2 "let result = Calculator.create(logger);",
    .code 2 "expect(result).toBeDefined();", .code 1 "\x7d);", .code 0 "\x7d);"]

/-- The block of the first test need not be in one piece. -/
theorem sampleReset_in_pieces :
    (∀ t ∈ sampleCalculator.receivers ++ sampleReset.texts ++ sampleCreate.texts, OnOneLine t) ∧
      sampleCalculator.mergeTests? "" [sampleReset, sampleCreate] =
        some (String.ofList (Line.text sampleSplit)) ∧
      ¬ Line.text (sampleCalculator.testLines sampleReset false) <:+: Line.text sampleSplit := by
  refine ⟨by decide, ?_, by decide +kernel⟩
  have hlines : sampleCalculator.testLines sampleReset false =
      [.code 0 "it('reset', () => \x7b", .code 1 "calculator['reset']();"] ++
        .code 0 "\x7d);" :: [] := by
    decide +kernel
  have hsplit : sampleCalculator.splitFront sampleCreate
      [.code 0 "it('reset', () => \x7b", .code 1 "calculator['reset']();"] 0 ++
        [.code 0 "\x7d);"] = sampleSplit := by
    decide +kernel
  rw [mergeTests?_pair, ← hsplit]
  exact mergeTest?_before_closing (by decide) (by decide) (by decide) hlines (by simp)

end Spec

end SpecScaffold
