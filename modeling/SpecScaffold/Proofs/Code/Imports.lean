import Mathlib.Data.List.Nodup
import SpecScaffold.Generation
import SpecScaffold.Proofs.Code.Texts
import SpecScaffold.Proofs.Text.LineCount

/-!
# Imports in a document

Generated code starts with an import of the helpers for tests, and may have an import of what is
tested.  In a blank document both are kept; in another one all imports are dropped, or those that
the document has already.  So no import gets into a document twice, and none that is there is lost:

    ImportsOnce.step : a document that is blank, or has the import of the helpers once and no import
      twice, has got both imports of the inserted code once, and still has no import twice
-/

namespace SpecScaffold

open Text

/-! ## Lines with an import -/

/-- A line that starts with the word `import` and ends in a quoted module. -/
structure IsImportLine (cs : List Char) : Prop where
  start : "import".toList <+: cs
  stop : "';".toList <:+ cs

namespace IsImportLine

theorem ne_nil {cs : List Char} (h : IsImportLine cs) : cs ≠ [] := by
  rintro rfl
  exact absurd h.start (by decide)

theorem isImport {cs : List Char} (h : IsImportLine cs) : Insertion.isImport cs = true := by
  rw [Insertion.isImport, List.isPrefixOf_iff_prefix]
  exact h.start

theorem trim_eq {cs : List Char} (h : IsImportLine cs) : trim cs = cs := by
  have hstart : IsTrimmed "import".toList := ⟨by decide, by decide, by decide⟩
  have hstop : IsTrimmed "';".toList := ⟨by decide, by decide, by decide⟩
  exact hstart.trim_eq_self hstop h.start h.stop

theorem helpers : IsImportLine Suite.helpersImport.toList :=
  ⟨by decide, by decide⟩

end IsImportLine

/-- The import of names from a file beside the test file. -/
def localImport (names stem : String) : String :=
  "import \x7b " ++ names ++ " \x7d from './" ++ stem ++ "';"

theorem isImportLine_localImport (names stem : String) :
    IsImportLine (localImport names stem).toList := by
  constructor
  · simp [localImport]
  · rw [localImport, String.toList_append]
    exact List.suffix_append _ _

/-- The helpers are not imported from a file beside the test file. -/
theorem localImport_ne_helpersImport (names stem : String) :
    (localImport names stem).toList ≠ Suite.helpersImport.toList := by
  intro h
  have hinfix : "'.".toList <:+: (localImport names stem).toList :=
    ⟨("import \x7b " ++ names ++ " \x7d from ").toList, ("/" ++ stem ++ "';").toList,
      by simp [localImport]⟩
  rw [h] at hinfix
  exact absurd hinfix (by decide +kernel)

/-- The import of a spec is of the names that its source gives. -/
theorem Command.fileSpec_importLine? {src : Source} {source target : Path} {exportedOnly : Bool}
    {spec : Spec} {line : String} (hspec : fileSpec src source target exportedOnly = .ok spec)
    (hline : spec.importLine? = some line) :
    ∃ stem, source.stem? = some stem ∧ importedNames src ≠ [] ∧
      line = localImport (commaList (importedNames src)) stem := by
  simp only [fileSpec] at hspec
  split at hspec
  · cases hspec
  · obtain rfl := Except.ok.inj hspec
    have himport : importOf? source (importedNames src) = some line := hline
    unfold importOf? at himport
    split at himport
    · cases himport
    · next hne =>
      obtain ⟨stem, hstem, rfl⟩ := Option.map_eq_some_iff.1 himport
      exact ⟨stem, hstem, by simpa using hne, rfl⟩

/-! ## Lines without one -/

/-- How a line ends that is a call or opens a block. -/
def statementEnds : List (List Char) :=
  [");".toList, ")".toList, "\x7b".toList]

/-- A line that ends as a statement or starts as a declaration. -/
def Line.IsStatement : Line → Prop
  | .blank => True
  | .code _ text => (∃ e ∈ statementEnds, e <:+ text.toList) ∨ "let".toList <+: text.toList

theorem Line.IsStatement.nest {l : Line} (h : l.IsStatement) : l.nest.IsStatement := by
  cases l with
  | blank => exact h
  | code depth text => exact h

theorem Line.isStatement_of_end (depth : Nat) (s : String) {t : String}
    (h : ∃ e ∈ statementEnds, e <:+ t.toList) : (Line.code depth (s ++ t)).IsStatement := by
  obtain ⟨e, he, hend⟩ := h
  refine .inl ⟨e, he, hend.trans ?_⟩
  rw [String.toList_append]
  exact List.suffix_append _ _

/-- Such a line is no import. -/
theorem Line.IsStatement.not_isImportLine {l : Line} (h : l.IsStatement) :
    ¬ IsImportLine (trim l.content) := by
  intro himport
  cases l with
  | blank => exact himport.ne_nil rfl
  | code depth text =>
    have htrim : trim (Line.code depth text).content = trim text.toList :=
      trim_blank_append isBlank_of_mem_margin _
    rw [htrim] at himport
    rcases h with ⟨e, he, hend⟩ | hlet
    · have hends : ∀ e ∈ statementEnds, trimStart e = e ∧ trimEnd e = e ∧ e ≠ [] ∧
          ¬ "';".toList <:+ e ∧ ¬ e <:+ "';".toList := by
        decide
      obtain ⟨hstart, hstop, hne, hlong, hshort⟩ := hends e he
      have hsuffix := IsTrimmed.suffix_trim ⟨hstart, hstop, hne⟩ hend
      rcases List.suffix_or_suffix_of_suffix himport.stop hsuffix with h | h
      · exact hlong h
      · exact hshort h
    · have hword : IsTrimmed "let".toList := ⟨by decide, by decide, by decide⟩
      rcases List.prefix_or_prefix_of_prefix himport.start (hword.prefix_trim hlet) with h | h
      · exact absurd h (by decide)
      · exact absurd h (by decide)

namespace Suite

theorem isStatement_call (s : Suite) (m : Method) (depth : Nat) :
    (Line.code depth (s.call m)).IsStatement :=
  Line.isStatement_of_end depth _ (by decide)

theorem isStatement_completion (s : Suite) (m : Method) :
    ∀ l ∈ completion (s.call m) m.returns?, l.IsStatement := by
  have hawaited : ∀ method, ∀ l ∈ awaited (s.call m) method, l.IsStatement := by
    intro method l hl
    simp only [awaited, List.mem_cons, List.not_mem_nil, or_false] at hl
    rcases hl with rfl | rfl | rfl | rfl
    · exact isStatement_call s m 0
    · exact Line.isStatement_of_end 0 _ (by decide)
    · exact .inl (by decide)
    · exact .inl (by decide)
  cases m.returns? with
  | none =>
    intro l hl
    obtain rfl := List.mem_singleton.1 hl
    refine .inl ⟨");".toList, by decide, (s.callee m ++ "(" ++
      commaList (m.params.map fun p => (Binding.ofParameter p).argument)).toList, ?_⟩
    simp [call]
  | some r =>
    simp only [completion]
    split
    · exact hawaited _
    · split
      · exact hawaited _
      · intro l hl
        simp only [List.mem_cons, List.not_mem_nil, or_false] at hl
        rcases hl with rfl | rfl
        · exact .inr (by simp)
        · exact .inl (by decide)

theorem isStatement_testLines (s : Suite) (m : Method) (failing : Bool) :
    ∀ l ∈ s.testLines m failing, l.IsStatement := by
  have hbody : ∀ l ∈ s.testBody m failing, l.IsStatement := by
    intro l hl
    simp only [testBody, List.mem_append, List.mem_map] at hl
    rcases hl with ((⟨p, -, rfl⟩ | hl) | hl) | hl
    · unfold declaration
      cases p.type? <;> exact .inr (by simp)
    · exact isStatement_completion s m l hl
    · split at hl
      · obtain rfl := List.mem_singleton.1 hl
        exact .inl (by decide)
      · cases hl
    · split at hl
      · obtain rfl := List.mem_singleton.1 hl
        exact .inl (by decide)
      · cases hl
  intro l hl
  unfold testLines at hl
  rcases List.mem_append.1 hl with hl | hl
  · rcases List.mem_cons.1 hl with rfl | hl
    · refine Line.isStatement_of_end 0 _ ?_
      cases TestStyle.ofMethod m <;> decide
    · obtain ⟨inner, hinner, rfl⟩ := List.mem_map.1 hl
      exact (hbody inner hinner).nest
  · obtain rfl := List.mem_singleton.1 hl
    left
    cases TestStyle.ofMethod m <;> decide

theorem isStatement_allTests (s : Suite) (failing : Bool) :
    ∀ l ∈ s.allTests failing, l.IsStatement := by
  intro l hl
  rcases mem_intercalate hl with hblank | ⟨block, hblock, hin⟩
  · obtain rfl := List.mem_singleton.1 hblank
    trivial
  · obtain ⟨m, -, rfl⟩ := List.mem_map.1 hblock
    exact isStatement_testLines s m failing l hin

theorem isStatement_groupSetup (s : Suite) : ∀ l ∈ s.groupSetup, l.IsStatement := by
  unfold groupSetup
  split
  · intro l hl
    simp only [List.mem_append, List.mem_cons, List.not_mem_nil, or_false, List.mem_map] at hl
    rcases hl with (rfl | ⟨stub, -, rfl⟩) | rfl | rfl | rfl
    · exact .inl (by decide)
    · exact Line.isStatement_of_end 1 _ (by decide)
    · exact Line.isStatement_of_end 1 _ (by decide)
    · exact .inl (by decide)
    · trivial
  · intro l hl
    cases hl

/-- Every line after the imports is a statement or a declaration. -/
theorem isStatement_body (s : Suite) (heading : String) :
    ∀ l ∈ s.body heading, l.IsStatement := by
  unfold body
  split
  · intro l hl
    unfold group at hl
    rcases List.mem_append.1 hl with hl | hl
    · rcases List.mem_cons.1 hl with rfl | hl
      · exact Line.isStatement_of_end 0 _ (by decide)
      · obtain ⟨inner, hinner, rfl⟩ := List.mem_map.1 hl
        refine Line.IsStatement.nest ?_
        simp only [List.mem_append, List.mem_singleton, groupVariables, List.mem_map,
          Option.mem_toList, Option.map_eq_some_iff] at hinner
        rcases hinner with (((⟨name, -, rfl⟩ | ⟨name, -, rfl⟩) | rfl) | hinner) | hinner
        · exact .inr (by simp)
        · exact .inr (by simp)
        · trivial
        · exact isStatement_groupSetup s inner hinner
        · exact isStatement_allTests s true inner hinner
    · obtain rfl := List.mem_singleton.1 hl
      exact .inl (by decide)
  · exact isStatement_allTests s false

/-! ## The imports of a suite -/

/-- The import of the suite, if it has one, is from a file beside the test file. -/
def ImportsLocally (s : Suite) : Prop :=
  ∀ line, s.importLine? = some line → ∃ names stem, line = localImport names stem

theorem headerLines_eq {s : Suite} (h : s.ImportsLocally) :
    s.headerLines = helpersImport.toList :: s.importLine?.toList.map String.toList := by
  rw [headerLines, importText?]
  cases hline : s.importLine? with
  | none => rfl
  | some line =>
    obtain ⟨names, stem, rfl⟩ := h line hline
    have himport := isImportLine_localImport names stem
    have htrim : trimEnd (localImport names stem).toList = (localImport names stem).toList := by
      have hstop : IsTrimmed "';".toList := ⟨by decide, by decide, by decide⟩
      obtain ⟨front, hfront⟩ := himport.stop
      rw [← hfront, hstop.trimEnd_append]
    have hne : (localImport names stem).toList.isEmpty = false := by
      simpa using himport.ne_nil
    rw [Option.map_some, htrim, Option.filter_some, if_pos (by simp [hne])]
    rfl

theorem isImportLine_headerLines {s : Suite} (h : s.ImportsLocally) :
    ∀ l ∈ s.headerLines, IsImportLine l := by
  intro l hl
  rw [headerLines_eq h] at hl
  rcases List.mem_cons.1 hl with rfl | hl
  · exact .helpers
  · obtain ⟨line, hline, rfl⟩ := List.mem_map.1 hl
    obtain ⟨names, stem, rfl⟩ := h line (Option.mem_toList.1 hline)
    exact isImportLine_localImport names stem

theorem nodup_headerLines {s : Suite} (h : s.ImportsLocally) : s.headerLines.Nodup := by
  rw [headerLines_eq h]
  cases hline : s.importLine? with
  | none => simp
  | some line =>
    obtain ⟨names, stem, rfl⟩ := h line hline
    simpa using Ne.symm (localImport_ne_helpersImport names stem)

/-- Whatever lines of generated code are kept, those that are a given import are in the header. -/
theorem count_filter_pieces {s : Suite} {heading : String} (h : s.ImportsLocally)
    (htexts : ∀ t ∈ s.texts heading, OnOneLine t) {line : List Char} (hline : IsImportLine line)
    (keep : List Char → Bool) :
    (((pieces '\n' (s.renderTitled heading).toList).filter keep).map trim).count line =
      (s.headerLines.filter keep).count line := by
  have hheader : (s.headerLines.filter keep).map trim = s.headerLines.filter keep := by
    have hself : ∀ l ∈ s.headerLines.filter keep, trim l = id l := fun l hl =>
      (isImportLine_headerLines h l (List.mem_of_mem_filter hl)).trim_eq
    rw [List.map_congr_left hself, List.map_id]
  have hrest : (((([] : List Char) :: (s.body heading).map Line.content ++ [[]]).filter keep).map
      trim).count line = 0 := by
    rw [List.count_eq_zero]
    intro hmem
    obtain ⟨l, hl, rfl⟩ := List.mem_map.1 hmem
    have hin := List.mem_of_mem_filter hl
    simp only [List.cons_append, List.mem_cons, List.mem_append, List.mem_map, List.not_mem_nil,
      or_false] at hin
    rcases hin with rfl | ⟨inner, hinner, rfl⟩ | rfl
    · exact hline.ne_nil rfl
    · exact (isStatement_body s heading inner hinner).not_isImportLine hline
    · exact hline.ne_nil rfl
  rw [pieces_renderTitled htexts, List.append_assoc, List.filter_append, List.map_append,
    List.count_append, hrest, hheader, Nat.add_zero]

end Suite

/-! ## Counting in a document after an insertion -/

namespace Insertion

theorem hasLine_iff {document line : List Char} (h : trim line = line) :
    hasLine document line = true ↔ 0 < lineCount line document := by
  rw [hasLine, lineCount, List.count_pos_iff, List.any_eq_true, List.mem_map, h]
  simp only [beq_iff_eq]

/-- A line that is indented is one line again, and the same up to white space. -/
theorem exists_deepenLine_eq {margin : List Char} (hmargin : ∀ c ∈ margin, isBlank c = true)
    (hfeed : '\n' ∉ margin) {l : List Char} (hl : '\n' ∉ l) :
    ∃ k, '\n' ∉ k ∧ trim k = trim l ∧ deepenLine margin (l ++ ['\n']) = k ++ ['\n'] := by
  rw [deepenLine, trim_concat_lineFeed]
  split
  · next hempty =>
    have hblank := trim_eq_nil_iff.1 (List.isEmpty_iff.1 hempty)
    refine ⟨l.dropWhile fun c => c == ' ' || c == '\t', ?_, ?_, ?_⟩
    · exact fun hmem => hl ((List.dropWhile_sublist _).subset hmem)
    · rw [List.isEmpty_iff.1 hempty, trim_eq_nil_iff]
      exact fun c hc => hblank c ((List.dropWhile_sublist _).subset hc)
    · rw [List.dropWhile_append]
      split
      · next hall => rw [List.isEmpty_iff.1 hall]; rfl
      · rfl
  · refine ⟨margin ++ l, ?_, trim_blank_append hmargin l, (List.append_assoc ..).symm⟩
    exact fun hmem => (List.mem_append.1 hmem).elim hfeed hl

theorem lineCount_deepenLine {margin : List Char} (hmargin : ∀ c ∈ margin, isBlank c = true)
    (hfeed : '\n' ∉ margin) {l : List Char} (hl : '\n' ∉ l) (line : List Char) :
    IsWholeLines (deepenLine margin (l ++ ['\n'])) ∧
      lineCount line (deepenLine margin (l ++ ['\n'])) = lineCount line (l ++ ['\n']) := by
  have hone : ∀ {k : List Char}, '\n' ∉ k →
      lineCount line (k ++ ['\n']) = [trim k].count line := by
    intro k hk
    rw [lineCount_eq_fullLines, fullLines_line hk, List.map_singleton, trim_concat_lineFeed]
  obtain ⟨k, hk, htrim, heq⟩ := exists_deepenLine_eq hmargin hfeed hl
  rw [heq, hone hk, hone hl, htrim]
  exact ⟨isWholeLines_concat k, rfl⟩

theorem lineCount_deepen {margin : List Char} (hmargin : ∀ c ∈ margin, isBlank c = true)
    (hfeed : '\n' ∉ margin) {cs : List Char} (hcs : IsWholeLines cs) (line : List Char) :
    IsWholeLines (deepen margin cs) ∧ lineCount line (deepen margin cs) = lineCount line cs := by
  obtain ⟨ls, hls, rfl⟩ := hcs.exists_lines
  rw [deepen, fullLines_flatMap hls, List.flatMap_map]
  clear hcs
  induction ls with
  | nil => exact ⟨isWholeLines_nil, rfl⟩
  | cons l ls ih =>
    obtain ⟨hwhole, hcount⟩ := ih fun l' hl' => hls l' (List.mem_cons_of_mem _ hl')
    obtain ⟨hfirst, hsame⟩ :=
      lineCount_deepenLine hmargin hfeed (hls l List.mem_cons_self) line
    refine ⟨?_, ?_⟩
    · rw [List.flatMap_cons]
      exact hfirst.append hwhole
    · rw [List.flatMap_cons, List.flatMap_cons, lineCount_append hfirst,
        lineCount_append (isWholeLines_concat l), hsame, hcount]

/-- The indentation of the end of a group is on its line. -/
theorem lineFeed_notMem_leadingBlank {document closing : List Char}
    (hmem : closing ∈ fullLines document) (hcloses : closesGroup closing = true) :
    '\n' ∉ leadingBlank closing := by
  have hrest : closing.dropWhile isBlank ≠ [] := by
    intro hnil
    have htrim : trim closing = closingMark := by simpa [closesGroup] using hcloses
    rw [trim, trimStart, hnil] at htrim
    exact absurd htrim (by decide)
  obtain ⟨p, hp, hclosing⟩ := exists_of_mem_fullLines hmem
  intro hfeed
  -- a line feed in the indentation would stand before the end of the line
  have hinit : '\n' ∈ closing.dropLast := by
    rw [← List.takeWhile_append_dropWhile (p := isBlank) (l := closing),
      List.dropLast_append_of_ne_nil hrest]
    exact List.mem_append_left _ hfeed
  rcases hclosing with rfl | rfl
  · rw [List.dropLast_concat] at hinit
    exact hp hinit
  · exact hp ((List.dropLast_sublist _).subset hinit)

/-- A line before the end of the last group, after a blank one. -/
theorem lineCount_inGroup {document closing body new : List Char} {before : List (List Char)}
    (hclosing : lastClosing? document = some (before, closing)) (hbody : IsWholeLines body)
    {line : List Char} (hline : line ≠ [])
    (hnew : ∃ after, document = before.reverse.flatten ++ after ∧
      new = before.reverse.flatten ++
        '\n' :: deepen (leadingBlank closing ++ [' ', ' ']) body ++ after) :
    lineCount line new = lineCount line document + lineCount line body := by
  obtain ⟨after, hlines, hcloses, -⟩ := lastClosing?_eq_some_iff.1 hclosing
  have hfront : IsWholeLines before.reverse.flatten :=
    isWholeLines_of_fullLines hlines (by simp)
  have hfeed : '\n' ∉ leadingBlank closing ++ [' ', ' '] := by
    intro hmem
    rcases List.mem_append.1 hmem with hmem | hmem
    · exact lineFeed_notMem_leadingBlank (by rw [hlines]; simp) hcloses hmem
    · exact absurd hmem (by decide)
  obtain ⟨hwhole, hcount⟩ := lineCount_deepen isBlank_of_mem_margin hfeed hbody line
  obtain ⟨rest, rfl, rfl⟩ := hnew
  rw [List.append_assoc, lineCount_append hfront, lineCount_append hfront, List.cons_append,
    lineCount_cons_lineFeed hline, lineCount_append hwhole, hcount]
  omega

/-- Lines at the end of a document, after a blank one. -/
theorem lineCount_atEnd {line : List Char} (hline : line ≠ []) (document body : List Char) :
    lineCount line
        (document ++ ((if document.getLast? == some '\n' then ['\n'] else ['\n', '\n']) ++ body)) =
      lineCount line document + lineCount line body := by
  split
  · exact lineCount_append_cons hline document body
  · show lineCount line (document ++ '\n' :: '\n' :: body) = _
    rw [lineCount_append_cons hline, lineCount_cons_lineFeed hline]

/-- An insertion into a document that is not blank adds the lines of what is inserted, and keeps
those of the document. -/
theorem lineCount_plan {document generated new : String} {hasImport joinsGroup : Bool}
    (hdoc : trim document.toList ≠ [])
    (hbody : IsWholeLines (insertedBody document.toList generated.toList hasImport))
    (happly : (plan document generated hasImport joinsGroup).applyTo? document = some new)
    {line : List Char} (hline : line ≠ []) :
    lineCount line new.toList = lineCount line document.toList +
      lineCount line (insertedBody document.toList generated.toList hasImport) := by
  rcases plan_cases document generated hasImport joinsGroup with
    ⟨hblank, -⟩ | ⟨-, before, closing, after, hclosing, hsplit, hplan⟩ | ⟨-, -, hplan⟩
  · exact absurd hblank hdoc
  · rw [hplan, applyTo?_eq_some hsplit rfl] at happly
    refine lineCount_inGroup hclosing hbody hline ⟨_, hsplit, ?_⟩
    rw [← Option.some.inj happly, String.toList_ofList, inGroup, String.toList_ofList]
  · rw [hplan, applyTo?_eq_some (List.append_nil _).symm rfl] at happly
    rw [← Option.some.inj happly, String.toList_ofList, List.append_nil, atEnd,
      String.toList_ofList]
    exact lineCount_atEnd hline _ _

/-- In a blank document the generated code comes first. -/
theorem lineCount_plan_of_blank {document generated new : String} {hasImport joinsGroup : Bool}
    (hdoc : trim document.toList = []) (hgenerated : IsWholeLines generated.toList)
    (happly : (plan document generated hasImport joinsGroup).applyTo? document = some new)
    {line : List Char} (hline : line ≠ []) :
    lineCount line new.toList = lineCount line generated.toList := by
  have hsplit : document.toList = [] ++ document.toList := rfl
  rw [plan_of_blank hdoc, applyTo?_eq_some hsplit rfl] at happly
  rw [← Option.some.inj happly, String.toList_ofList, List.nil_append,
    lineCount_append hgenerated, lineCount_of_blank hline (trim_eq_nil_iff.1 hdoc), Nat.add_zero]

/-- Which lines of generated code get into a document that is not blank. -/
def keeps (document : List Char) (hasImport : Bool) (line : List Char) : Bool :=
  !(isImport line && (!hasImport || hasLine document line))

theorem insertedBody_eq (document generated : List Char) (hasImport : Bool) :
    insertedBody document generated hasImport =
      (joined ['\n'] ((pieces '\n' generated).filter (keeps document hasImport))).dropWhile
        fun c => c == '\n' || c == '\r' := by
  have hall : keeps document false = fun line => !isImport line := by
    funext line
    simp [keeps]
  have hknown : keeps document true = fun line => !(isImport line && hasLine document line) := by
    funext line
    simp [keeps]
  cases hasImport with
  | false => rw [hall]; rfl
  | true => rw [hknown]; rfl

theorem isWholeLines_insertedBody {generated : List Char} {ps : List (List Char)}
    (h : pieces '\n' generated = ps ++ [[]]) (document : List Char) (hasImport : Bool) :
    IsWholeLines (insertedBody document generated hasImport) := by
  have hkeep : keeps document hasImport [] = true := rfl
  rw [insertedBody_eq, h, List.filter_append, List.filter_cons_of_pos hkeep, List.filter_nil]
  exact IsWholeLines.of_suffix (List.dropWhile_suffix _) (isWholeLines_joined _)

theorem lineCount_insertedBody (document generated : List Char) (hasImport : Bool)
    {line : List Char} (hline : line ≠ []) :
    lineCount line (insertedBody document generated hasImport) =
      (((pieces '\n' generated).filter (keeps document hasImport)).map trim).count line := by
  have hblank : ∀ c : Char, (c == '\n' || c == '\r') = true → isBlank c = true := by
    intro c hc
    simp only [Bool.or_eq_true, beq_iff_eq] at hc
    rcases hc with rfl | rfl <;> rfl
  rw [insertedBody_eq, lineCount_dropWhile hline hblank,
    lineCount_joined hline fun p hp => notMem_of_mem_pieces (List.mem_of_mem_filter hp)]

end Insertion

/-! ## One insertion -/

open Insertion

/-- A document with the import of the helpers, and with no import twice. -/
structure ImportsOnce (document : List Char) : Prop where
  helpers : lineCount Suite.helpersImport.toList document = 1
  atMost : ∀ line, IsImportLine line → lineCount line document ≤ 1

namespace Suite

section

variable {s : Suite} {heading : String} (hlocal : s.ImportsLocally)
  (htexts : ∀ t ∈ s.texts heading, OnOneLine t) {old new : String} {joinsGroup : Bool}
  (happly : (plan old (s.renderTitled heading) s.importLine?.isSome joinsGroup).applyTo? old =
    some new)

include hlocal htexts happly

theorem lineCount_of_blank_document (hold : trim old.toList = []) {line : List Char}
    (hline : IsImportLine line) : lineCount line new.toList = s.headerLines.count line := by
  have hgenerated : IsWholeLines (s.renderTitled heading).toList := by
    rw [renderTitled, String.toList_ofList]
    exact IsWholeLines.append (isWholeLines_concat _) (Line.isWholeLines_text _)
  have hcount := count_filter_pieces hlocal htexts hline fun _ => true
  rw [List.filter_true, List.filter_true] at hcount
  rw [lineCount_plan_of_blank hold hgenerated happly hline.ne_nil,
    lineCount_eq_pieces hline.ne_nil, hcount]

/-- An import of the code that the document does not have comes in if the code brings an import of
its own; the count of every other import stays what it was. -/
theorem lineCount_of_document (hold : trim old.toList ≠ []) {line : List Char}
    (hline : IsImportLine line) :
    lineCount line new.toList = lineCount line old.toList +
      if s.importLine?.isSome ∧ lineCount line old.toList = 0 then s.headerLines.count line
      else 0 := by
  have hwhole := isWholeLines_insertedBody (pieces_renderTitled htexts) old.toList
    s.importLine?.isSome
  rw [lineCount_plan hold hwhole happly hline.ne_nil, lineCount_insertedBody _ _ _ hline.ne_nil,
    count_filter_pieces hlocal htexts hline]
  have hkeeps : keeps old.toList s.importLine?.isSome line = true ↔
      s.importLine?.isSome ∧ lineCount line old.toList = 0 := by
    have hhas : hasLine old.toList line = true ↔ _ := hasLine_iff hline.trim_eq
    rw [keeps, hline.isImport, Bool.true_and, Bool.not_eq_true', Bool.or_eq_false_iff,
      Bool.not_eq_false', ← Bool.not_eq_true, hhas, Nat.pos_iff_ne_zero, not_not]
  split
  · next hnew => rw [List.count_filter (hkeeps.2 hnew)]
  · next hnot =>
    rw [List.count_eq_zero.2]
    exact fun hmem => hnot (hkeeps.1 (List.of_mem_filter hmem))

end

end Suite

/-- One insertion of generated code.  Afterwards the document has the helpers and what the code
imports once each, no import twice, and still all imports that it had. -/
theorem ImportsOnce.step {s : Suite} {heading : String} (hlocal : s.ImportsLocally)
    (htexts : ∀ t ∈ s.texts heading, OnOneLine t) {old new : String} {joinsGroup : Bool}
    (happly : (plan old (s.renderTitled heading) s.importLine?.isSome joinsGroup).applyTo? old =
      some new) (hold : trim old.toList = [] ∨ ImportsOnce old.toList) :
    ImportsOnce new.toList ∧
      (∀ line, s.importLine? = some line → lineCount line.toList new.toList = 1) ∧
      ∀ line, IsImportLine line → lineCount line old.toList ≤ lineCount line new.toList := by
  have hnodup := Suite.nodup_headerLines hlocal
  have hatMost : ∀ line, s.headerLines.count line ≤ 1 := List.nodup_iff_count_le_one.1 hnodup
  have hhelpers : s.headerLines.count Suite.helpersImport.toList = 1 :=
    List.count_eq_one_of_mem hnodup List.mem_cons_self
  have himport : ∀ line, s.importLine? = some line →
      IsImportLine line.toList ∧ s.headerLines.count line.toList = 1 := by
    intro line hline
    have hmem : line.toList ∈ s.headerLines := by
      rw [Suite.headerLines_eq hlocal, hline]
      simp
    exact ⟨Suite.isImportLine_headerLines hlocal _ hmem, List.count_eq_one_of_mem hnodup hmem⟩
  by_cases hblank : trim old.toList = []
  · have hcount : ∀ line, IsImportLine line →
        lineCount line new.toList = s.headerLines.count line := fun line hline =>
      Suite.lineCount_of_blank_document hlocal htexts happly hblank hline
    refine ⟨⟨?_, fun line hline => ?_⟩, fun line hline => ?_, fun line hline => ?_⟩
    · rw [hcount _ .helpers, hhelpers]
    · rw [hcount line hline]
      exact hatMost line
    · obtain ⟨hshape, hone⟩ := himport line hline
      rw [hcount _ hshape, hone]
    · rw [lineCount_of_blank hline.ne_nil (trim_eq_nil_iff.1 hblank)]
      exact Nat.zero_le _
  · have honce := hold.resolve_left hblank
    have hcount : ∀ line, IsImportLine line → lineCount line new.toList =
        lineCount line old.toList +
          if s.importLine?.isSome ∧ lineCount line old.toList = 0 then s.headerLines.count line
          else 0 := fun line hline =>
      Suite.lineCount_of_document hlocal htexts happly hblank hline
    refine ⟨⟨?_, fun line hline => ?_⟩, fun line hline => ?_, fun line hline => ?_⟩
    · rw [hcount _ .helpers, honce.helpers, if_neg (by simp)]
    · have hbound := hatMost line
      have hbefore := honce.atMost line hline
      rw [hcount line hline]
      split <;> omega
    · obtain ⟨hshape, hone⟩ := himport line hline
      have hbefore := honce.atMost _ hshape
      rw [hcount _ hshape, hone, hline]
      split
      · omega
      · next hnot =>
        have hsome : lineCount line.toList old.toList ≠ 0 := fun hzero => hnot ⟨rfl, hzero⟩
        omega
    · rw [hcount line hline]
      exact Nat.le_add_right _ _

end SpecScaffold
