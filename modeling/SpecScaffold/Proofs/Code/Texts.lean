import SpecScaffold.Proofs.Code.Merge

/-!
# The texts in generated code

The code of a suite is made of fixed words and of texts that come from elsewhere: the import, the
names that calls are made on, the title and the stubs of a group, and what is written of each test.
If each of these texts is on one line, the lines of the code can be told apart again in its text:

    pieces '\n' (s.renderTitled heading).toList =
      s.headerLines ++ [] :: (s.body heading).map Line.content ++ [[]]      (pieces_renderTitled)
-/

namespace SpecScaffold

open Text

namespace Suite

/-- The texts that the code of a suite is made of, where a group has the given title. -/
def texts (s : Suite) (heading : String) : List String :=
  s.importLine?.toList ++ s.receivers ++ (if s.isGrouped then heading :: s.stubs else []) ++
    s.tests.flatMap (·.texts)

theorem mem_texts_of_receivers {s : Suite} {t : String} (h : t ∈ s.receivers) (heading : String) :
    t ∈ s.texts heading := by
  simp [texts, h]

theorem mem_texts_of_tests {s : Suite} {m : Method} {t : String} (hm : m ∈ s.tests)
    (ht : t ∈ m.texts) (heading : String) : t ∈ s.texts heading :=
  List.mem_append_right _ (List.mem_flatMap.2 ⟨m, hm, ht⟩)

end Suite

/-- The texts that the code of a spec is made of. -/
def Spec.texts (s : Spec) : List String :=
  s.toSuite.texts (s.className?.getD (baseTitle s.fileName))

/-! ## Every line of code is one line of text -/

namespace Suite

theorem flat_allTests {s : Suite} (hs : ∀ t ∈ s.receivers, OnOneLine t)
    (hm : ∀ m ∈ s.tests, ∀ t ∈ m.texts, OnOneLine t) (failing : Bool) :
    ∀ l ∈ s.allTests failing, l.Flat := by
  intro l hl
  rcases mem_intercalate hl with hblank | ⟨block, hblock, hin⟩
  · obtain rfl := List.mem_singleton.1 hblank
    trivial
  · obtain ⟨m, hmem, rfl⟩ := List.mem_map.1 hblock
    exact (solid_testLines hs (hm m hmem) failing l hin).flat

theorem flat_groupVariables {s : Suite} (hs : ∀ t ∈ s.receivers, OnOneLine t)
    (hstubs : ∀ t ∈ s.stubs, OnOneLine t) : ∀ l ∈ s.groupVariables, l.Flat := by
  intro l hl
  rcases List.mem_append.1 hl with hl | hl
  · obtain ⟨name, hname, rfl⟩ := Option.map_eq_some_iff.1 (Option.mem_toList.1 hl)
    have hone := hs name (mem_receivers_of_className? hname)
    show OnOneLine ("let " ++ variableName name ++ ": " ++ name ++ ";")
    simpa using ⟨⟨⟨⟨by decide, oneLine_variableName hone⟩, by decide⟩, hone⟩, by decide⟩
  · obtain ⟨name, hname, rfl⟩ := List.mem_map.1 hl
    show OnOneLine ("let " ++ name ++ ";")
    simpa using ⟨⟨by decide, hstubs name hname⟩, by decide⟩

theorem flat_groupSetup {s : Suite} (hs : ∀ t ∈ s.receivers, OnOneLine t)
    (hstubs : ∀ t ∈ s.stubs, OnOneLine t) : ∀ l ∈ s.groupSetup, l.Flat := by
  have hinstance : OnOneLine (s.instance?.getD "instance") := by
    cases hname : s.instance? with
    | none => decide
    | some name => exact oneLine_instance hs hname
  unfold groupSetup
  split
  · next c name names hc hnames =>
    rw [hnames] at hstubs
    intro l hl
    simp only [List.mem_append, List.mem_cons, List.not_mem_nil, or_false, List.mem_map] at hl
    rcases hl with (rfl | ⟨stub, hstub, rfl⟩) | rfl | rfl | rfl
    · show OnOneLine "beforeEach(() => \x7b"
      decide
    · have hone := hstubs stub (by simpa using hstub)
      show OnOneLine (stub ++ " = jasmine.createSpyObj('" ++ stub ++ "', ['']);")
      simpa using ⟨⟨⟨hone, by decide⟩, hone⟩, by decide⟩
    · have hlist := oneLine_commaList hstubs
      have hname := hs c.name (mem_receivers_of_constructor? hc)
      show OnOneLine (s.instance?.getD "instance" ++ " = new " ++ c.name ++ "(" ++
        commaList (name :: names) ++ ");")
      simpa using ⟨⟨⟨⟨⟨hinstance, by decide⟩, hname⟩, by decide⟩, hlist⟩, by decide⟩
    · show OnOneLine "\x7d);"
      decide
    · trivial
  · intro l hl
    cases hl

theorem flat_group {s : Suite} {heading : String} (hs : ∀ t ∈ s.receivers, OnOneLine t)
    (hstubs : ∀ t ∈ s.stubs, OnOneLine t) (hm : ∀ m ∈ s.tests, ∀ t ∈ m.texts, OnOneLine t)
    (hheading : OnOneLine heading) : ∀ l ∈ s.group heading, l.Flat := by
  intro l hl
  unfold group at hl
  rcases List.mem_append.1 hl with hl | hl
  · rcases List.mem_cons.1 hl with rfl | hl
    · show OnOneLine ("describe('" ++ title heading ++ "', () => \x7b")
      simpa using ⟨⟨by decide, oneLine_title hheading⟩, by decide⟩
    · obtain ⟨inner, hinner, rfl⟩ := List.mem_map.1 hl
      refine Line.Flat.nest ?_
      rcases List.mem_append.1 hinner with hinner | hinner
      · rcases List.mem_append.1 hinner with hinner | hinner
        · rcases List.mem_append.1 hinner with hinner | hinner
          · exact flat_groupVariables hs hstubs inner hinner
          · obtain rfl := List.mem_singleton.1 hinner
            trivial
        · exact flat_groupSetup hs hstubs inner hinner
      · exact flat_allTests hs hm true inner hinner
  · obtain rfl := List.mem_singleton.1 hl
    show OnOneLine "\x7d);"
    decide

/-- Every line of the code is one line of text. -/
theorem flat_body {s : Suite} {heading : String} (h : ∀ t ∈ s.texts heading, OnOneLine t) :
    ∀ l ∈ s.body heading, l.Flat := by
  have hs : ∀ t ∈ s.receivers, OnOneLine t := fun t ht => h t (mem_texts_of_receivers ht _)
  have hm : ∀ m ∈ s.tests, ∀ t ∈ m.texts, OnOneLine t := fun m hmem t ht =>
    h t (mem_texts_of_tests hmem ht _)
  unfold body
  split
  · next hgrouped =>
    have hgroup : ∀ t ∈ heading :: s.stubs, OnOneLine t := by
      intro t ht
      refine h t (List.mem_append_left _ (List.mem_append_right _ ?_))
      rwa [if_pos hgrouped]
    exact flat_group hs (fun t ht => hgroup t (List.mem_cons_of_mem _ ht)) hm
      (hgroup heading List.mem_cons_self)
  · exact flat_allTests hs hm false

/-! ## Lines that are not imports -/

theorem isImport_content_nest (l : Line) : Insertion.isImport l.nest.content = false := by
  cases l with
  | blank => rfl
  | code depth text =>
    simp [Line.nest, Line.content, Line.indent, Insertion.isImport, List.replicate_succ,
      List.isPrefixOf]

theorem isImport_allTests (s : Suite) (failing : Bool) :
    ∀ l ∈ s.allTests failing, Insertion.isImport l.content = false := by
  intro l hl
  rcases mem_intercalate hl with hblank | ⟨block, hblock, hin⟩
  · obtain rfl := List.mem_singleton.1 hblank
    rfl
  · obtain ⟨m, -, rfl⟩ := List.mem_map.1 hblock
    exact isImport_testLines s m failing l hin

/-- No line after the imports is taken for an import. -/
theorem isImport_body (s : Suite) (heading : String) :
    ∀ l ∈ s.body heading, Insertion.isImport l.content = false := by
  unfold body
  split
  · intro l hl
    unfold group at hl
    rcases List.mem_append.1 hl with hl | hl
    · rcases List.mem_cons.1 hl with rfl | hl
      · simp [Line.content, Insertion.isImport, List.isPrefixOf]
      · obtain ⟨inner, -, rfl⟩ := List.mem_map.1 hl
        exact isImport_content_nest inner
    · obtain rfl := List.mem_singleton.1 hl
      rfl
  · exact isImport_allTests s false

/-! ## The pieces of the whole text -/

/-- The imports, line by line. -/
def headerLines (s : Suite) : List (List Char) :=
  helpersImport.toList :: s.importText?.toList

theorem lineFeed_notMem_importText {s : Suite} {heading : String}
    (h : ∀ t ∈ s.texts heading, OnOneLine t) {cs : List Char} (hcs : s.importText? = some cs) :
    '\n' ∉ cs := by
  obtain ⟨hmap, -⟩ := Option.filter_eq_some_iff.1 hcs
  obtain ⟨line, hline, rfl⟩ := Option.map_eq_some_iff.1 hmap
  intro hmem
  have hin : '\n' ∈ line.toList := by
    unfold trimEnd dropEndWhile at hmem
    exact List.mem_reverse.1 ((List.dropWhile_sublist _).subset (List.mem_reverse.1 hmem))
  exact h line (by simp [texts, hline]) hin

theorem header_eq (s : Suite) : s.header = s.headerLines.flatMap (· ++ ['\n']) ++ ['\n'] := by
  unfold header headerLines
  cases s.importText? <;> simp

/-- The pieces of generated code between its line feeds. -/
theorem pieces_renderTitled {s : Suite} {heading : String}
    (h : ∀ t ∈ s.texts heading, OnOneLine t) :
    pieces '\n' (s.renderTitled heading).toList =
      s.headerLines ++ [] :: (s.body heading).map Line.content ++ [[]] := by
  have hheader : ∀ l ∈ s.headerLines, '\n' ∉ l := by
    intro l hl
    rcases List.mem_cons.1 hl with rfl | hl
    · exact oneLine_helpersImport
    · exact lineFeed_notMem_importText h (Option.mem_toList.1 hl)
  have hblank : pieces '\n' ('\n' :: Line.text (s.body heading)) =
      [] :: pieces '\n' (Line.text (s.body heading)) :=
    pieces_append_cons List.not_mem_nil _
  rw [renderTitled, String.toList_ofList, header_eq, List.append_assoc,
    pieces_flatMap_append hheader, List.singleton_append, hblank,
    Line.pieces_text (flat_body h)]
  simp

end Suite

end SpecScaffold
