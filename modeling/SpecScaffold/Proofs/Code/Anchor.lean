import SpecScaffold.Proofs.Code.Imports

/-!
# Joining a group of any document

What joins a document goes before the last line that closes a group, indented one level deeper than
that line.  It is whole lines, so the closing line stays a line of its own and is the last one
again: it is an anchor for everything that joins later.

    Anchored document before closing after →
      ∃ result, (plan document generated hasImport true).applyTo? document = some result ∧
        Anchored result (before ++ fullLines text) closing after                (Anchored.step)

Texts that join one after the other therefore stand before the closing line in the order in which
they came, whatever lines they have themselves.
-/

namespace SpecScaffold.Insertion

open Text

/-! ## What is inserted -/

theorem isWholeLines_insertedBody_of_generated {generated : List Char} (h : IsWholeLines generated)
    (document : List Char) (hasImport : Bool) :
    IsWholeLines (insertedBody document generated hasImport) := by
  obtain ⟨ls, hls, rfl⟩ := h.exists_lines
  have hpieces : pieces '\n' (ls.flatMap (· ++ ['\n'])) = ls ++ [[]] := by
    rw [← List.append_nil (ls.flatMap _), pieces_flatMap_append hls]
    rfl
  exact isWholeLines_insertedBody hpieces document hasImport

/-- Every line of an indented text is a line of the text, indented. -/
theorem fullLines_deepen {margin : List Char} (hmargin : ∀ c ∈ margin, isBlank c = true)
    (hfeed : '\n' ∉ margin) {cs : List Char} (hcs : IsWholeLines cs) :
    fullLines (deepen margin cs) = (fullLines cs).map (deepenLine margin) := by
  obtain ⟨ls, hls, rfl⟩ := hcs.exists_lines
  rw [deepen, fullLines_flatMap hls, List.flatMap_map, List.map_map]
  clear hcs
  induction ls with
  | nil => rfl
  | cons l ls ih =>
    obtain ⟨k, hk, -, heq⟩ := exists_deepenLine_eq hmargin hfeed (hls l List.mem_cons_self)
    have hrest := ih fun l' hl' => hls l' (List.mem_cons_of_mem _ hl')
    rw [List.flatMap_cons, List.map_cons, heq, fullLines_append (isWholeLines_concat k),
      fullLines_line hk, hrest, Function.comp_apply, heq]
    rfl

/-- A line of an indented text that is not blank starts with the indentation. -/
theorem prefix_of_mem_deepen {margin : List Char} (hmargin : ∀ c ∈ margin, isBlank c = true)
    (hfeed : '\n' ∉ margin) {cs line : List Char} (hcs : IsWholeLines cs)
    (hline : line ∈ fullLines (deepen margin cs)) (hblank : trim line ≠ []) : margin <+: line := by
  rw [fullLines_deepen hmargin hfeed hcs] at hline
  obtain ⟨l, -, rfl⟩ := List.mem_map.1 hline
  unfold deepenLine at hblank ⊢
  split
  · next hempty =>
    rw [if_pos hempty] at hblank
    refine absurd (trim_eq_nil_iff.2 fun c hc => ?_) hblank
    exact trim_eq_nil_iff.1 (List.isEmpty_iff.1 hempty) c
      ((List.dropWhile_sublist _).subset hc)
  · exact List.prefix_append _ _

/-! ## The anchor -/

/-- The lines of a document around the last one that closes a group. -/
structure Anchored (document : String) (before : List (List Char)) (closing : List Char)
    (after : List (List Char)) : Prop where
  lines : fullLines document.toList = before ++ closing :: after
  closes : closesGroup closing = true
  last : ∀ line ∈ after, closesGroup line = false

theorem exists_anchored {document : String}
    (h : ∃ line ∈ fullLines document.toList, closesGroup line = true) :
    ∃ before closing after, Anchored document before closing after := by
  cases hlast : lastClosing? document.toList with
  | none =>
    obtain ⟨line, hline, hcloses⟩ := h
    rw [lastClosing?_eq_none_iff.1 hlast line hline] at hcloses
    cases hcloses
  | some found =>
    obtain ⟨before, closing⟩ := found
    obtain ⟨after, hlines, hcloses, hafter⟩ := lastClosing?_eq_some_iff.1 hlast
    exact ⟨before.reverse, closing, after, hlines, hcloses, hafter⟩

/-- Texts that join the last group of a document one after the other, each with or without an import
of its own: what comes out, and what is inserted each time. -/
def joinAll? (document : String) : List (String × Bool) → Option (String × List String)
  | [] => some (document, [])
  | (generated, hasImport) :: rest => do
    let insertion := plan document generated hasImport true
    let next ← insertion.applyTo? document
    let (result, texts) ← joinAll? next rest
    return (result, insertion.text :: texts)

namespace Anchored

variable {document : String} {before after : List (List Char)} {closing : List Char}
  (h : Anchored document before closing after)

include h

theorem toList_eq : document.toList = before.flatten ++ (closing :: after).flatten := by
  rw [← flatten_fullLines document.toList, h.lines, List.flatten_append]

theorem isWholeLines_before : IsWholeLines before.flatten :=
  isWholeLines_of_fullLines h.lines (by simp)

theorem trim_ne_nil : trim document.toList ≠ [] := by
  intro hnil
  have hclosing : trim closing = closingMark := by simpa [closesGroup] using h.closes
  have hblank : trim closing = [] := by
    refine trim_eq_nil_iff.2 fun c hc => trim_eq_nil_iff.1 hnil c ?_
    rw [h.toList_eq, List.flatten_cons]
    exact List.mem_append_right _ (List.mem_append_left _ hc)
  rw [hblank] at hclosing
  exact absurd hclosing (by decide)

/-- Where and what a plan inserts that joins the group. -/
theorem plan_eq (generated : String) (hasImport : Bool) :
    plan document generated hasImport true =
      inGroup before.reverse closing
        (insertedBody document.toList generated.toList hasImport) := by
  have hlast : lastClosing? document.toList = some (before.reverse, closing) :=
    lastClosing?_eq_some_iff.2 ⟨after, by rw [List.reverse_reverse, h.lines], h.closes, h.last⟩
  exact plan_of_lastClosing? h.trim_ne_nil hlast _ _

theorem lineFeed_notMem_margin : '\n' ∉ leadingBlank closing ++ [' ', ' '] := by
  intro hmem
  rcases List.mem_append.1 hmem with hmem | hmem
  · exact lineFeed_notMem_leadingBlank (by rw [h.lines]; simp) h.closes hmem
  · exact absurd hmem (by decide)

/-- What joins is an empty line and indented lines, all of them with their line feed. -/
theorem text_plan {generated : String} (hgenerated : IsWholeLines generated.toList)
    (hasImport : Bool) :
    IsWholeLines (plan document generated hasImport true).text.toList ∧
      ∀ line ∈ fullLines (plan document generated hasImport true).text.toList, trim line ≠ [] →
        leadingBlank closing ++ [' ', ' '] <+: line := by
  rw [h.plan_eq, inGroup, String.toList_ofList]
  have hbody := isWholeLines_insertedBody_of_generated hgenerated document.toList hasImport
  have hfirst : IsWholeLines ['\n'] := isWholeLines_concat []
  constructor
  · have hdeepen := (lineCount_deepen isBlank_of_mem_margin h.lineFeed_notMem_margin hbody []).1
    exact hfirst.append hdeepen
  · intro line hline hblank
    rw [← List.singleton_append, fullLines_append hfirst, List.mem_append] at hline
    rcases hline with hline | hline
    · obtain rfl := List.mem_singleton.1 hline
      exact absurd (by decide) hblank
    · exact prefix_of_mem_deepen isBlank_of_mem_margin h.lineFeed_notMem_margin hbody hline hblank

/-- Joining puts lines before the closing line, which is the last one again. -/
theorem step {generated : String} (hgenerated : IsWholeLines generated.toList)
    (hasImport : Bool) :
    (plan document generated hasImport true).offset = byteLength before.flatten ∧
      ∃ result, (plan document generated hasImport true).applyTo? document = some result ∧
        Anchored result
          (before ++ fullLines (plan document generated hasImport true).text.toList)
          closing after := by
  have hoffset : (plan document generated hasImport true).offset = byteLength before.flatten := by
    rw [h.plan_eq, inGroup, List.reverse_reverse]
  have hwhole := (h.text_plan hgenerated hasImport).1
  obtain ⟨hbefore, hafter⟩ := fullLines_flatten h.lines (by simp)
  refine ⟨hoffset, _, applyTo?_eq_some h.toList_eq hoffset, ?_, h.closes, h.last⟩
  rw [String.toList_ofList, fullLines_append (h.isWholeLines_before.append hwhole),
    fullLines_append h.isWholeLines_before, hbefore, hafter]

end Anchored

/-- The run: every text stands before the closing line, in the order in which they joined. -/
theorem exists_joinAll?_eq {steps : List (String × Bool)}
    (hsteps : ∀ step ∈ steps, IsWholeLines step.1.toList) {document : String}
    {before after : List (List Char)} {closing : List Char}
    (h : Anchored document before closing after) :
    ∃ result texts, joinAll? document steps = some (result, texts) ∧
      texts.length = steps.length ∧
      Anchored result (before ++ texts.flatMap fun text => fullLines text.toList) closing
        after := by
  induction steps generalizing document before with
  | nil => exact ⟨document, [], rfl, rfl, by simpa using h⟩
  | cons step steps ih =>
    obtain ⟨generated, hasImport⟩ := step
    obtain ⟨-, next, happly, hnext⟩ := h.step (hsteps _ List.mem_cons_self) hasImport
    obtain ⟨result, texts, hrest, hlength, hresult⟩ :=
      ih (fun step hstep => hsteps step (List.mem_cons_of_mem _ hstep)) hnext
    refine ⟨result, (plan document generated hasImport true).text :: texts, ?_, ?_, ?_⟩
    · simp [joinAll?, happly, hrest]
    · simp [hlength]
    · rw [List.flatMap_cons, ← List.append_assoc]
      exact hresult

theorem isWholeLines_of_getLast? {cs : List Char} (h : cs.getLast? = some '\n') :
    IsWholeLines cs := by
  intro c hc
  rw [h] at hc
  exact (Option.some.inj hc).symm

/-- The last line of a document that closes a group is where texts join it.  A text that ends in a
line feed is inserted at the start of that line; all its lines that are not blank are indented one
level deeper than it; and afterwards the same line, with all that follows it, is the last one again.
So texts that join one after the other stand between what was before the line and the line itself,
in the order in which they joined. -/
theorem closing_line_is_anchor (document : String)
    (hclosing : ∃ line ∈ fullLines document.toList, closesGroup line = true) :
    ∃ before closing after, Anchored document before closing after ∧
      (∀ (generated : String) (hasImport : Bool), generated.toList.getLast? = some '\n' →
        (plan document generated hasImport true).offset = byteLength before.flatten ∧
        (∀ line ∈ fullLines (plan document generated hasImport true).text.toList,
          trim line ≠ [] → leadingBlank closing ++ [' ', ' '] <+: line) ∧
        ∃ result, (plan document generated hasImport true).applyTo? document = some result ∧
          Anchored result
            (before ++ fullLines (plan document generated hasImport true).text.toList)
            closing after) ∧
      ∀ steps : List (String × Bool), (∀ step ∈ steps, step.1.toList.getLast? = some '\n') →
        ∃ result texts, joinAll? document steps = some (result, texts) ∧
          texts.length = steps.length ∧
          result.toList = before.flatten ++ texts.flatMap String.toList ++
            (closing :: after).flatten ∧
          Anchored result (before ++ texts.flatMap fun text => fullLines text.toList) closing
            after := by
  obtain ⟨before, closing, after, h⟩ := exists_anchored hclosing
  refine ⟨before, closing, after, h, fun generated hasImport hgenerated => ?_,
    fun steps hsteps => ?_⟩
  · have hwhole := isWholeLines_of_getLast? hgenerated
    obtain ⟨hoffset, hresult⟩ := h.step hwhole hasImport
    exact ⟨hoffset, (h.text_plan hwhole hasImport).2, hresult⟩
  · obtain ⟨result, texts, hjoin, hlength, hresult⟩ :=
      exists_joinAll?_eq (fun step hstep => isWholeLines_of_getLast? (hsteps step hstep)) h
    refine ⟨result, texts, hjoin, hlength, ?_, hresult⟩
    have hlines : (texts.flatMap fun text => fullLines text.toList).flatten =
        texts.flatMap String.toList := by
      rw [← List.flatMap_id, List.flatMap_assoc]
      refine List.flatMap_congr fun text _ => ?_
      rw [List.flatMap_id, flatten_fullLines]
    rw [hresult.toList_eq, List.flatten_append, hlines]

/-- A group that is closed after a tab, in a document with carriage returns that goes on
after it. -/
def sampleTabbed : String :=
  "describe('caf\u00e9', () => \x7b\r\n\t\x7d);\r\n// caf\u00e9"

/-- A test, which ends in a line that closes a group, and an import with nothing after it. -/
def sampleSteps : List (String × Bool) :=
  [("import x;\n\nit('a', () => \x7b\n  a();\n\x7d);\n", false), ("import y;\n", true)]

theorem sampleSteps_join_sampleTabbed :
    (∃ line ∈ fullLines sampleTabbed.toList, closesGroup line = true) ∧
      (∀ step ∈ sampleSteps, step.1.toList.getLast? = some '\n') ∧
      ∃ before closing after, Anchored sampleTabbed before closing after ∧
        ∃ result texts, joinAll? sampleTabbed sampleSteps = some (result, texts) ∧
          result.toList = before.flatten ++ texts.flatMap String.toList ++
            (closing :: after).flatten := by
  have hclosing : ∃ line ∈ fullLines sampleTabbed.toList, closesGroup line = true := by
    decide +kernel
  have hsteps : ∀ step ∈ sampleSteps, step.1.toList.getLast? = some '\n' := by
    decide +kernel
  obtain ⟨before, closing, after, hanchored, -, hjoin⟩ :=
    closing_line_is_anchor sampleTabbed hclosing
  obtain ⟨result, texts, hresult, -, htext, -⟩ := hjoin sampleSteps hsteps
  exact ⟨hclosing, hsteps, before, closing, after, hanchored, result, texts, hresult, htext⟩

end SpecScaffold.Insertion
