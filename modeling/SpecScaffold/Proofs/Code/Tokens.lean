import SpecScaffold.Generation
import SpecScaffold.Proofs.Code.Arguments
import SpecScaffold.Proofs.Code.Completion

/-!
# Source text inside tokens

Names and types are put into generated code as they stand in the source: the name of a method into
the title of its test and, if the method is private, into the access to it, the type of a parameter
into a comment.  A reader of the code takes them as one token exactly where the text allows it:

    readLiteral_append_iff : a text between quotes is read as one literal, exactly if it is sealed
    isSealed_wordsOf       : the words of a name are sealed exactly if the name is
    readComment_append_iff : a text after `//` is read as one comment, exactly if it is on one line
-/

namespace SpecScaffold

namespace Text

/-! ## Literals and comments -/

/-- Reads a literal up to its closing quote: what stands in it, and the rest of the text after it.
A backslash takes the next character into the literal; a line feed cannot stand in it. -/
def readLiteralFrom (escaped : Bool) : List Char → Option (List Char × List Char)
  | [] => none
  | c :: cs =>
    if c = '\n' then none
    else if !escaped && c == '\'' then some ([], cs)
    else (readLiteralFrom (!escaped && c == '\\') cs).map fun (inside, rest) => (c :: inside, rest)

/-- Reads a literal whose opening quote has been read. -/
def readLiteral (cs : List Char) : Option (List Char × List Char) :=
  readLiteralFrom false cs

/-- Whether a text has no line feed, no quote without a backslash before it, and no backslash that
would take the closing quote into the literal. -/
def isSealedFrom (escaped : Bool) : List Char → Bool
  | [] => !escaped
  | c :: cs => c != '\n' && (escaped || c != '\'') && isSealedFrom (!escaped && c == '\\') cs

/-- Whether a text can stand between quotes. -/
def isSealed (cs : List Char) : Bool :=
  isSealedFrom false cs

/-- Reads a comment to the end of its line. -/
def readComment (cs : List Char) : List Char × List Char :=
  cs.span (· != '\n')

theorem readLiteralFrom_append_iff (escaped : Bool) (cs rest : List Char) :
    readLiteralFrom escaped (cs ++ '\'' :: rest) = some (cs, rest) ↔
      isSealedFrom escaped cs = true := by
  induction cs generalizing escaped with
  | nil => cases escaped <;> simp [readLiteralFrom, isSealedFrom]
  | cons c cs ih =>
    rw [List.cons_append, readLiteralFrom, isSealedFrom]
    by_cases hfeed : c = '\n'
    · simp [hfeed]
    · rw [if_neg hfeed, bne_iff_ne.2 hfeed, Bool.true_and]
      by_cases hquote : (!escaped && c == '\'') = true
      · -- the literal ends before the text does
        have hopen : (escaped || c != '\'') = false := by
          cases escaped <;> simp_all
        simp [hquote, hopen]
      · have hopen : (escaped || c != '\'') = true := by
          cases escaped <;> simp_all
        rw [if_neg hquote, hopen, Bool.true_and, ← ih, Option.map_eq_some_iff]
        constructor
        · rintro ⟨⟨inside, after⟩, hread, heq⟩
          simp only [Prod.mk.injEq, List.cons.injEq, true_and] at heq
          rw [hread, heq.1, heq.2]
        · exact fun hread => ⟨(cs, rest), hread, rfl⟩

/-- A text before a quote is read as the whole of a literal exactly if it is sealed. -/
theorem readLiteral_append_iff (cs rest : List Char) :
    readLiteral (cs ++ '\'' :: rest) = some (cs, rest) ↔ isSealed cs = true :=
  readLiteralFrom_append_iff false cs rest

/-- A text before a line feed is read as the whole of a comment exactly if it is on one line. -/
theorem readComment_append_iff (cs rest : List Char) :
    readComment (cs ++ '\n' :: rest) = (cs, '\n' :: rest) ↔ '\n' ∉ cs := by
  rw [readComment, List.span_eq_takeWhile_dropWhile]
  constructor
  · intro h hmem
    have hcs : cs = (cs ++ '\n' :: rest).takeWhile (· != '\n') := (congrArg Prod.fst h).symm
    rw [hcs] at hmem
    exact absurd (List.mem_takeWhile_imp hmem) (by simp)
  · intro h
    have hall : ∀ c ∈ cs, (c != '\n') = true := by
      intro c hc
      rw [bne_iff_ne]
      rintro rfl
      exact h hc
    rw [List.takeWhile_append_of_pos hall, List.dropWhile_append_of_pos hall]
    simp

/-! ## Words -/

/-- The characters that a reader of literals looks at. -/
def isSpecial (c : Char) : Bool :=
  c == '\n' || c == '\'' || c == '\\'

theorem isSealedFrom_cons_of_not_isSpecial {c : Char} (h : isSpecial c = false) (escaped : Bool)
    (cs : List Char) : isSealedFrom escaped (c :: cs) = isSealedFrom false cs := by
  simp only [isSpecial, Bool.or_eq_false_iff, beq_eq_false_iff_ne] at h
  obtain ⟨⟨hfeed, hquote⟩, hslash⟩ := h
  rw [isSealedFrom, bne_iff_ne.2 hfeed, bne_iff_ne.2 hquote, beq_eq_false_iff_ne.2 hslash]
  simp

theorem isSealedFrom_append_of_not_isSpecial {ds : List Char} (hne : ds ≠ [])
    (h : ∀ d ∈ ds, isSpecial d = false) (escaped : Bool) (cs : List Char) :
    isSealedFrom escaped (ds ++ cs) = isSealedFrom false cs := by
  induction ds generalizing escaped with
  | nil => exact absurd rfl hne
  | cons d ds ih =>
    rw [List.cons_append, isSealedFrom_cons_of_not_isSpecial (h d List.mem_cons_self)]
    cases ds with
    | nil => rfl
    | cons d' ds => exact ih (by simp) (fun e he => h e (List.mem_cons_of_mem _ he)) false

/-- Lower-casing a special character keeps it, and brings in none. -/
theorem lowerChar_of_isSpecial {c : Char} (h : isSpecial c = true) :
    lowerChar c = [c] ∧ splitChar c = [c] := by
  simp only [isSpecial, Bool.or_eq_true, beq_iff_eq] at h
  rcases h with (rfl | rfl) | rfl <;> decide +kernel

theorem not_isSpecial_of_mem_lowerChar {c d : Char} (h : d ∈ lowerChar c)
    (hc : isSpecial c = false) : isSpecial d = false := by
  cases hd : isSpecial d with
  | false => rfl
  | true =>
    have hsame : d = c := by
      simp only [isSpecial, Bool.or_eq_true, beq_iff_eq] at hd
      rcases hd with (rfl | rfl) | rfl <;> exact mem_of_mem_lowerChar h (by decide) (by decide)
    rw [← hsame, hd] at hc
    cases hc

theorem lowerChar_ne_nil (c : Char) : lowerChar c ≠ [] := by
  unfold lowerChar
  split <;> simp

theorem not_isSpecial_of_mem_splitChar {c d : Char} (h : d ∈ splitChar c)
    (hc : isSpecial c = false) : isSpecial d = false := by
  unfold splitChar at h
  split at h
  · rcases List.mem_cons.1 h with rfl | h
    · rfl
    · exact not_isSpecial_of_mem_lowerChar h hc
  · exact not_isSpecial_of_mem_lowerChar h hc

theorem splitChar_ne_nil (c : Char) : splitChar c ≠ [] := by
  unfold splitChar
  split
  · simp
  · exact lowerChar_ne_nil c

/-- Characters can be replaced by others as long as special ones stay and none is added. -/
theorem isSealedFrom_append_congr {c : Char} {ds : List Char}
    (hspecial : isSpecial c = true → ds = [c]) (hne : ds ≠ [])
    (hother : isSpecial c = false → ∀ d ∈ ds, isSpecial d = false) {cs es : List Char}
    (h : ∀ escaped, isSealedFrom escaped es = isSealedFrom escaped cs) (escaped : Bool) :
    isSealedFrom escaped (ds ++ es) = isSealedFrom escaped (c :: cs) := by
  cases hc : isSpecial c with
  | true =>
    rw [hspecial hc, List.singleton_append, isSealedFrom, h, isSealedFrom]
  | false =>
    rw [isSealedFrom_append_of_not_isSpecial hne (hother hc), h,
      isSealedFrom_cons_of_not_isSpecial hc]

theorem isSealedFrom_flatMap_splitChar (escaped : Bool) (cs : List Char) :
    isSealedFrom escaped (cs.flatMap splitChar) = isSealedFrom escaped cs := by
  induction cs generalizing escaped with
  | nil => rfl
  | cons c cs ih =>
    rw [List.flatMap_cons]
    exact isSealedFrom_append_congr (fun hc => (lowerChar_of_isSpecial hc).2) (splitChar_ne_nil c)
      (fun hc d hd => not_isSpecial_of_mem_splitChar hd hc) ih escaped

/-- The words of a name can stand between quotes exactly if the name can. -/
theorem isSealed_wordsOf (cs : List Char) : isSealed (wordsOf cs) = isSealed cs := by
  cases cs with
  | nil => rfl
  | cons c cs =>
    exact isSealedFrom_append_congr (fun hc => (lowerChar_of_isSpecial hc).1) (lowerChar_ne_nil c)
      (fun hc d hd => not_isSpecial_of_mem_lowerChar hd hc)
      (fun escaped => isSealedFrom_flatMap_splitChar escaped cs) false

/-- An identifier can stand between quotes. -/
theorem isSealed_of_isIdentifier {cs : List Char} (h : isIdentifier cs = true) :
    isSealed cs = true := by
  have hspecial : ∀ c ∈ cs, isSpecial c = false := by
    intro c hc
    cases hs : isSpecial c with
    | false => rfl
    | true =>
      have hseparator : isSeparator c = true := by
        simp only [isSpecial, Bool.or_eq_true, beq_iff_eq] at hs
        rcases hs with (rfl | rfl) | rfl <;> decide
      exact absurd hc (notMem_of_isIdentifier h hseparator)
  have hsealed := isSealedFrom_append_of_not_isSpecial (ne_nil_of_isIdentifier h) hspecial false []
  rwa [List.append_nil] at hsealed

end Text

open Text

/-! ## Where source text stands -/

/-- A line of code stands in the text with its line feed. -/
theorem Line.exists_text_eq {lines : List Line} {depth : Nat} {code : String}
    (h : Line.code depth code ∈ lines) :
    ∃ before after, Line.text lines = before ++ code.toList ++ '\n' :: after := by
  obtain ⟨front, back, rfl⟩ := List.append_of_mem h
  refine ⟨Line.text front ++ (List.replicate depth Line.indent).flatten, Line.text back, ?_⟩
  simp [Line.text, Line.chars]

namespace Suite

variable {s : Suite} {m : Method}

/-- A line of the test of a method stands in the text of the suite. -/
theorem exists_renderTitled_line {earlier later : List Method}
    (h : s.tests = earlier ++ m :: later) (heading : String) {depth : Nat} {code : String}
    (hcode : Line.code depth code ∈ s.testLines m s.isGrouped) :
    ∃ before after,
      (s.renderTitled heading).toList = before ++ code.toList ++ '\n' :: after := by
  obtain ⟨front, back, hbody⟩ := exists_body_eq h heading
  have hplaced : ∃ d, Line.code d code ∈ s.placed (s.testLines m s.isGrouped) := by
    unfold placed
    split
    · exact ⟨depth + 1, List.mem_map_of_mem hcode⟩
    · exact ⟨depth, hcode⟩
  obtain ⟨d, hd⟩ := hplaced
  have hmem : Line.code d code ∈ s.body heading := by
    rw [hbody]
    exact List.mem_append_left _ (List.mem_append_right _ hd)
  obtain ⟨before, after, htext⟩ := Line.exists_text_eq hmem
  refine ⟨s.header ++ before, after, ?_⟩
  rw [renderTitled, String.toList_ofList, htext]
  simp

theorem mem_testLines_of_mem_testBody {failing : Bool} {depth : Nat} {code : String}
    (h : Line.code depth code ∈ s.testBody m failing) :
    Line.code (depth + 1) code ∈ s.testLines m failing := by
  rw [testLines]
  refine List.mem_append_left _ (List.mem_cons_of_mem _ ?_)
  exact List.mem_map_of_mem h

/-- The call stands on a line of its test. -/
theorem exists_call_line (s : Suite) (m : Method) (failing : Bool) :
    ∃ start stop, Line.code 1 (start ++ s.call m ++ stop) ∈ s.testLines m failing := by
  have hcompletion : ∃ start stop,
      Line.code 0 (start ++ s.call m ++ stop) ∈ completion (s.call m) m.returns? := by
    unfold completion
    split
    · exact ⟨"", ";", by simp⟩
    · split
      · exact ⟨"", "", by simp [awaited]⟩
      · split
        · exact ⟨"", "", by simp [awaited]⟩
        · exact ⟨"let result = ", ";", by simp⟩
  obtain ⟨start, stop, hline⟩ := hcompletion
  refine ⟨start, stop, mem_testLines_of_mem_testBody ?_⟩
  rw [testBody]
  exact List.mem_append_left _ (List.mem_append_left _ (List.mem_append_right _ hline))

end Suite

/-- Names and types stay in their tokens exactly where their text allows it.  The test of a method
has the name of the method as its title, between quotes; a reader takes the title for one literal
exactly if the name is sealed.  So it is for the access to a private method of a class.  The type
of a parameter is a comment; a reader takes it for one exactly if the type is on one line. -/
theorem source_text_in_token_iff (src : Source) (s : Site) (suite : Suite)
    (earlier later : List Method) (heading : String) :
    let m := src.method s
    let all : Suite := { suite with tests := earlier ++ m :: later }
    let text := (all.renderTitled heading).toList
    (∃ before after,
      text = before ++ "it('".toList ++ (title m.name).toList ++ '\'' :: after ∧
      (readLiteral ((title m.name).toList ++ '\'' :: after) = some ((title m.name).toList, after) ↔
        isSealed m.name.toList = true)) ∧
    (∀ cls, m.isPrivate = true → suite.className? = some cls → ∃ before after,
      text = before ++ (variableName cls ++ "['").toList ++ m.name.toList ++ '\'' :: ']' :: after ∧
      (readLiteral (m.name.toList ++ '\'' :: ']' :: after) = some (m.name.toList, ']' :: after) ↔
        isSealed m.name.toList = true)) ∧
    (∀ p ∈ m.params, ∀ type, p.type? = some type → ∃ before after,
      text = before ++ ("let " ++ (Binding.ofParameter p).declared ++ "; // ").toList ++
        type.toList ++ '\n' :: after ∧
      (readComment (type.toList ++ '\n' :: after) = (type.toList, '\n' :: after) ↔
        '\n' ∉ type.toList)) ∧
    (isIdentifier m.name.toList = true → isSealed m.name.toList = true) := by
  intro m all text
  have hline : ∀ {depth code}, Line.code depth code ∈ all.testLines m all.isGrouped →
      ∃ before after, text = before ++ code.toList ++ '\n' :: after :=
    fun hcode => Suite.exists_renderTitled_line (s := all) rfl heading hcode
  refine ⟨?_, ?_, ?_, isSealed_of_isIdentifier⟩
  · obtain ⟨before, after, htext⟩ := hline (List.mem_append_left _ List.mem_cons_self)
    refine ⟨before, (", " ++ (TestStyle.ofMethod m).opening).toList ++ '\n' :: after, ?_, ?_⟩
    · rw [htext]
      simp
    · rw [readLiteral_append_iff, title, String.toList_ofList, isSealed_wordsOf]
  · intro cls hprivate hclass
    have hcallee : all.callee m = variableName cls ++ "['" ++ m.name ++ "']" := by
      have hinstance : all.instance? = some (variableName cls) := by
        show suite.className?.map variableName = _
        rw [hclass]
        rfl
      rw [Suite.callee, if_pos hprivate, hinstance]
      rfl
    obtain ⟨start, stop, hcall⟩ := all.exists_call_line m all.isGrouped
    obtain ⟨before, after, htext⟩ := hline hcall
    let arguments := commaList (m.params.map fun p => (Binding.ofParameter p).argument)
    refine ⟨before ++ start.toList, ("(" ++ arguments ++ ")" ++ stop).toList ++ '\n' :: after, ?_,
      readLiteral_append_iff _ _⟩
    rw [htext, Suite.call, hcallee]
    simp [arguments]
  · intro p hp type htype
    have hdeclaration : Line.code 0 ("let " ++ (Binding.ofParameter p).declared ++ ";" ++ " // " ++
        type) ∈ all.testBody m all.isGrouped := by
      have hmem : Suite.declaration p ∈ all.testBody m all.isGrouped := by
        rw [Suite.testBody]
        exact List.mem_append_left _ (List.mem_append_left _ (List.mem_append_left _
          (List.mem_map_of_mem hp)))
      rw [Suite.declaration, htype] at hmem
      exact hmem
    obtain ⟨before, after, htext⟩ := hline (Suite.mem_testLines_of_mem_testBody hdeclaration)
    refine ⟨before, after, ?_, readComment_append_iff _ _⟩
    rw [htext]
    simp

section Samples

open Plain

/-- A class with a private method that has a quote in its name and a parameter with a type of
several lines. -/
def sampleBreakout : Source :=
  let text := "class A \x7b private \"it's\"(a: \x7b\n  x: number\n\x7d) \x7b \x7d \x7d"
  ⟨text, program text.toList
    [node "class_declaration" [fixed ⟨"class".toList, 0, 5, false⟩,
      inField .name (wordAt "type_identifier" "A" 6),
      node "class_body" [markAt '\x7b' 8,
        node "method_definition"
          [node "accessibility_modifier" [fixed ⟨"private".toList, 10, 17, false⟩],
            inField .name (node "string" [markAt '\x22' 18, wordAt "string_fragment" "it's" 19,
              markAt '\x22' 23]),
            inField .parameters (node "formal_parameters" [markAt '(' 24,
              node "required_parameter" [inField .pattern (wordAt "identifier" "a" 25),
                inField .type (node "type_annotation" [markAt ':' 26,
                  node "object_type" [markAt '\x7b' 28,
                    node "property_signature"
                      [inField .name (wordAt "property_identifier" "x" 32),
                        inField .type (node "type_annotation" [markAt ':' 33,
                          node "predefined_type" [fixed ⟨"number".toList, 35, 41, false⟩]])],
                    markAt '\x7d' 42]])],
              markAt ')' 43]),
            node "statement_block" [markAt '\x7b' 45, markAt '\x7d' 47]],
        markAt '\x7d' 49]]]⟩

end Samples

/-- The title and the access end at the quote in the name, and the comment at the first line of the
type. -/
theorem sampleBreakout_leaves_tokens :
    (Command.fileSpec sampleBreakout ⟨"a.ts"⟩ ⟨"a.spec.ts"⟩ false).toOption.map
        (fun spec => spec.body "A") =
      some [.code 0 "it('\"it's\"', () => \x7b", .code 1 "let a; // \x7b\n  x: number\n\x7d",
        .code 1 "a['\"it's\"'](a);", .code 0 "\x7d);"] ∧
    readLiteral "\"it's\"', () => \x7b\n".toList =
      some ("\"it".toList, "s\"', () => \x7b\n".toList) ∧
    readLiteral "\"it's\"'](a);\n".toList = some ("\"it".toList, "s\"'](a);\n".toList) ∧
    readComment "\x7b\n  x: number\n\x7d\n".toList =
      ("\x7b".toList, "\n  x: number\n\x7d\n".toList) := by
  decide +kernel

end SpecScaffold
