import Mathlib.Data.List.Infix
import SpecScaffold.Code.Suite
import SpecScaffold.Proofs.Source.Tree
import SpecScaffold.Source.Plain

/-!
# How a test completes

The declared type of a method, the returns in its scope and the words of its text decide how its
test is written: what opens and closes it, how the call is made, and whether time is moved on.

    completion_follows_declaration : the block of a method in a generated text, case by case

The shape of the result is told by the declaration (`resultShape?_of_silent`,
`resultShape?_of_not_silent`).  The wrapping of the test and its completion are two separate choices
that both follow that shape, so they agree (`style_of_awaited`, `completion_of_promise` and the
lemmas beside them).
-/

namespace SpecScaffold

open Text

/-! ## Words in a text -/

theorem Text.contains_iff_infix {word cs : List Char} :
    Text.contains word cs = true ↔ word <:+: cs := by
  induction cs with
  | nil => rw [Text.contains, List.isEmpty_iff, List.infix_nil]
  | cons c cs ih =>
    rw [Text.contains, Bool.or_eq_true, ih, List.isPrefixOf_iff_prefix, List.infix_cons_iff]

/-! ## The declared result -/

namespace Source

/-- The declared type of the result, without the colon; nothing if there is none. -/
def declaredResult (src : Source) (n : Node) : String :=
  ((n.child? .returnType).map src.typeAfterColon).getD ""

/-- The declared type of the result contains a word, in any case. -/
def ResultMentions (src : Source) (n : Node) (word : String) : Prop :=
  word.toList <:+: lower (src.declaredResult n).toList

/-- The text of a node contains a word. -/
def TextMentions (src : Source) (n : Node) (word : String) : Prop :=
  word.toList <:+: (src.textOf n).toList

/-- No result is declared, and no value is returned. -/
def Silent (src : Source) (n : Node) : Prop :=
  (src.declaredResult n = "" ∨ src.declaredResult n = "void") ∧ ¬∃ r, n.OwnsReturn r

/-- Something asynchronous is mentioned, be it in a comment or as part of a name. -/
def Waits (src : Source) (n : Node) : Prop :=
  ∃ word ∈ ["Observable", ".subscribe(", "Promise", "then"], src.TextMentions n word

variable {src : Source} {n : Node}

theorem mentionsAsync_iff : mentionsAsync (src.textOf n) = true ↔ src.Waits n := by
  simp only [mentionsAsync, asyncWords, List.any_eq_true, Text.contains_iff_infix, Waits,
    TextMentions]

theorem returnType?_eq :
    src.returnType? n =
      if src.declaredResult n = "" then none else some (src.declaredResult n) := by
  rw [returnType?, declaredResult]
  cases (n.child? .returnType).map src.typeAfterColon with
  | none => rfl
  | some type =>
    by_cases hempty : type = ""
    · simp [hempty]
    · simp [Option.filter, hempty]

theorem resultShape?_of_silent (h : src.Silent n) : src.resultShape? n = none := by
  obtain ⟨hdeclared, hreturn⟩ := h
  have hown : n.ownReturn?.isSome = false := by
    rw [Bool.eq_false_iff, ne_eq, Node.ownReturn?_isSome_iff]
    exact hreturn
  rcases hdeclared with hdeclared | hdeclared <;>
    simp [resultShape?, returnType?_eq, hdeclared, hown]

/-- An empty type says nothing about the result. -/
theorem ofTypeText_empty : ResultShape.ofTypeText "" = {} := by
  decide

theorem resultShape?_of_not_silent (h : ¬src.Silent n) :
    src.resultShape? n = some (ResultShape.ofTypeText (src.declaredResult n)) := by
  have hvalue : ((src.returnType? n).any (· != "void") || n.ownReturn?.isSome) = true := by
    by_contra hnot
    rw [Bool.or_eq_true, not_or, Node.ownReturn?_isSome_iff] at hnot
    refine h ⟨?_, hnot.2⟩
    by_cases hempty : src.declaredResult n = ""
    · exact .inl hempty
    · exact .inr (by simpa [returnType?_eq, hempty] using hnot.1)
  rw [resultShape?, if_pos hvalue, returnType?_eq]
  -- a missing type gives the shape without flags, which is what the empty text is read as
  split
  case isTrue hempty => rw [hempty, ofTypeText_empty]; rfl
  case isFalse => rfl

/-- A type that mentions one of the words is a result. -/
theorem not_silent_of_mentions {word : String} (hempty : ¬word.toList <:+: lower "".toList)
    (hvoid : ¬word.toList <:+: lower "void".toList) (h : src.ResultMentions n word) :
    ¬src.Silent n := by
  rintro ⟨hdeclared | hdeclared, -⟩ <;> rw [ResultMentions, hdeclared] at h
  · exact hempty h
  · exact hvoid h

end Source

/-! ## The block of a test -/

namespace Suite

/-- A test of a method: the line that opens it, its parameters, the lines given, the line that makes
it fail in a group, and the line that closes it. -/
def testBlock (m : Method) (failing : Bool) (opening : String) (inside : List Line)
    (closing : String) : List Line :=
  .code 0 ("it('" ++ title m.name ++ "', " ++ opening) ::
    (m.params.map declaration ++ inside ++
      if failing then [Line.code 0 "fail('not implemented');"] else []).map Line.nest ++
    [.code 0 closing]

theorem testLines_eq_testBlock (s : Suite) (m : Method) (failing : Bool) :
    s.testLines m failing = testBlock m failing (TestStyle.ofMethod m).opening
      (completion (s.call m) m.returns? ++
        if TestStyle.ofMethod m = .fakeAsync then [.code 0 "tick();"] else [])
      (TestStyle.ofMethod m).closing := by
  rw [testLines, testBody, testBlock, List.append_assoc (m.params.map declaration)]

/-- Where the lines of a test stand in a suite: one level deeper in a group. -/
def placed (s : Suite) (lines : List Line) : List Line :=
  if s.isGrouped then lines.map Line.nest else lines

theorem exists_intercalate_eq {α : Type} (sep : List α) (earlier : List (List α)) (part : List α)
    (later : List (List α)) :
    ∃ front back, sep.intercalate (earlier ++ part :: later) = front ++ part ++ back := by
  induction earlier with
  | nil =>
    cases later with
    | nil => exact ⟨[], [], by simp⟩
    | cons next later => exact ⟨[], sep ++ sep.intercalate (next :: later), by simp⟩
  | cons first earlier ih =>
    obtain ⟨front, back, hrest⟩ := ih
    refine ⟨first ++ sep ++ front, back, ?_⟩
    rw [List.cons_append, List.intercalate_cons_of_ne_nil (by simp), hrest]
    simp

/-- Every test of a suite stands in its text as a block. -/
theorem exists_body_eq {s : Suite} {earlier later : List Method} {m : Method}
    (h : s.tests = earlier ++ m :: later) (heading : String) :
    ∃ front back, s.body heading = front ++ s.placed (s.testLines m s.isGrouped) ++ back := by
  have htests : ∀ failing, ∃ front back,
      s.allTests failing = front ++ s.testLines m failing ++ back := by
    intro failing
    rw [allTests, h, List.map_append, List.map_cons]
    exact exists_intercalate_eq ..
  rw [body, placed]
  cases hgrouped : s.isGrouped with
  | false => exact htests false
  | true =>
    obtain ⟨front, back, hall⟩ := htests true
    refine ⟨.code 0 ("describe('" ++ title heading ++ "', () => \x7b") ::
      (s.groupVariables ++ [Line.blank] ++ s.groupSetup ++ front).map Line.nest,
      back.map Line.nest ++ [.code 0 "\x7d);"], ?_⟩
    rw [if_pos rfl, if_pos rfl, group, hall]
    simp

end Suite

/-! ## What the declaration decides -/

namespace Source

variable {src : Source} {s : Site}

theorem promise_ofTypeText_iff {n : Node} :
    (ResultShape.ofTypeText (src.declaredResult n)).promise = true ↔
      src.ResultMentions n "promise" :=
  Text.contains_iff_infix

theorem observable_ofTypeText_iff {n : Node} :
    (ResultShape.ofTypeText (src.declaredResult n)).observable = true ↔
      src.ResultMentions n "observable" :=
  Text.contains_iff_infix

/-- The result of a method arrives later. -/
def Awaited (src : Source) (n : Node) : Prop :=
  src.ResultMentions n "promise" ∨ src.ResultMentions n "observable"

theorem Awaited.not_silent {n : Node} (h : src.Awaited n) : ¬src.Silent n := by
  rcases h with h | h
  · exact not_silent_of_mentions (by decide) (by decide) h
  · exact not_silent_of_mentions (by decide) (by decide) h

theorem returns?_of_silent (h : src.Silent s.node) : (src.method s).returns? = none :=
  resultShape?_of_silent h

theorem returns?_of_not_silent (h : ¬src.Silent s.node) :
    (src.method s).returns? = some (ResultShape.ofTypeText (src.declaredResult s.node)) :=
  resultShape?_of_not_silent h

theorem returns?_any_iff_awaited :
    ((src.method s).returns?.any fun r => r.promise || r.observable) = true ↔
      src.Awaited s.node := by
  by_cases hsilent : src.Silent s.node
  · rw [returns?_of_silent hsilent]
    exact iff_of_false Bool.false_ne_true fun h => h.not_silent hsilent
  · rw [returns?_of_not_silent hsilent, Option.any_some, Bool.or_eq_true, promise_ofTypeText_iff,
      observable_ofTypeText_iff, Awaited]

theorem style_of_awaited (h : src.Awaited s.node) :
    TestStyle.ofMethod (src.method s) = .async :=
  if_pos (returns?_any_iff_awaited.2 h)

theorem style_of_waits (hnot : ¬src.Awaited s.node) (h : src.Waits s.node) :
    TestStyle.ofMethod (src.method s) = .fakeAsync := by
  have hasync : (src.method s).isAsync = true := mentionsAsync_iff.2 h
  rw [TestStyle.ofMethod, if_neg (mt returns?_any_iff_awaited.1 hnot), if_pos hasync]

theorem style_of_not_waits (hnot : ¬src.Awaited s.node) (h : ¬src.Waits s.node) :
    TestStyle.ofMethod (src.method s) = .sync := by
  have hasync : ¬(src.method s).isAsync = true := mt mentionsAsync_iff.1 h
  rw [TestStyle.ofMethod, if_neg (mt returns?_any_iff_awaited.1 hnot), if_neg hasync]

theorem completion_of_promise (h : src.ResultMentions s.node "promise") (call : String) :
    Suite.completion call (src.method s).returns? = Suite.awaited call ".then" := by
  rw [returns?_of_not_silent (Awaited.not_silent (.inl h)), Suite.completion,
    if_pos (promise_ofTypeText_iff.2 h)]

theorem completion_of_observable (hnot : ¬src.ResultMentions s.node "promise")
    (h : src.ResultMentions s.node "observable") (call : String) :
    Suite.completion call (src.method s).returns? = Suite.awaited call ".subscribe" := by
  rw [returns?_of_not_silent (Awaited.not_silent (.inr h)), Suite.completion,
    if_neg (mt promise_ofTypeText_iff.1 hnot), if_pos (observable_ofTypeText_iff.2 h)]

theorem completion_of_silent (h : src.Silent s.node) (call : String) :
    Suite.completion call (src.method s).returns? = [.code 0 (call ++ ";")] := by
  rw [returns?_of_silent h, Suite.completion]

theorem completion_of_value (hnot : ¬src.Awaited s.node) (h : ¬src.Silent s.node) (call : String) :
    Suite.completion call (src.method s).returns? =
      [.code 0 ("let result = " ++ call ++ ";"), .code 0 Suite.expectation] := by
  obtain ⟨hpromise, hobservable⟩ := not_or.1 hnot
  rw [returns?_of_not_silent h, Suite.completion, if_neg (mt promise_ofTypeText_iff.1 hpromise),
    if_neg (mt observable_ofTypeText_iff.1 hobservable)]

end Source

/-- The declaration of a method decides how its test is written, wherever the test stands.  A result
whose type mentions a promise, or else an observable, is awaited with a handler in an `async` block.
Any other result is bound and expected to be defined, and where there is none, only the call is
made; the block then simulates time, and moves it on at the end, exactly if the text of the method
mentions something asynchronous. -/
theorem completion_follows_declaration (src : Source) (s : Site) (suite : Suite)
    (earlier later : List Method) (heading : String) :
    let m := src.method s
    let all : Suite := { suite with tests := earlier ++ m :: later }
    let call := all.call m
    ∃ front back opening completion ending closing,
      (all.renderTitled heading).toList = all.header ++ Line.text (front ++
        all.placed (Suite.testBlock m all.isGrouped opening (completion ++ ending) closing) ++
        back) ∧
      (src.ResultMentions s.node "promise" →
        opening = "async(() => \x7b" ∧
        completion = [.code 0 call, .code 0 ".then(result => \x7b",
          .code 1 "expect(result).toBeDefined();", .code 0 "\x7d);"] ∧
        ending = [] ∧ closing = "\x7d));") ∧
      (¬src.ResultMentions s.node "promise" → src.ResultMentions s.node "observable" →
        opening = "async(() => \x7b" ∧
        completion = [.code 0 call, .code 0 ".subscribe(result => \x7b",
          .code 1 "expect(result).toBeDefined();", .code 0 "\x7d);"] ∧
        ending = [] ∧ closing = "\x7d));") ∧
      (¬src.ResultMentions s.node "promise" → ¬src.ResultMentions s.node "observable" →
        (src.Silent s.node → completion = [.code 0 (call ++ ";")]) ∧
        (¬src.Silent s.node → completion = [.code 0 ("let result = " ++ call ++ ";"),
          .code 0 "expect(result).toBeDefined();"]) ∧
        (src.Waits s.node →
          opening = "fakeAsync(() => \x7b" ∧ ending = [.code 0 "tick();"] ∧
          closing = "\x7d));") ∧
        (¬src.Waits s.node → opening = "() => \x7b" ∧ ending = [] ∧ closing = "\x7d);")) := by
  intro m all call
  obtain ⟨front, back, hbody⟩ := Suite.exists_body_eq (s := all) rfl heading
  refine ⟨front, back, (TestStyle.ofMethod m).opening, Suite.completion call m.returns?,
    if TestStyle.ofMethod m = .fakeAsync then [.code 0 "tick();"] else [],
    (TestStyle.ofMethod m).closing, ?_, ?_, ?_, ?_⟩
  · rw [Suite.renderTitled, String.toList_ofList, hbody, Suite.testLines_eq_testBlock]
  · intro h
    rw [Source.style_of_awaited (.inl h), Source.completion_of_promise h]
    exact ⟨rfl, rfl, rfl, rfl⟩
  · intro hnot h
    rw [Source.style_of_awaited (.inr h), Source.completion_of_observable hnot h]
    exact ⟨rfl, rfl, rfl, rfl⟩
  · intro hpromise hobservable
    have hnot : ¬src.Awaited s.node := not_or.2 ⟨hpromise, hobservable⟩
    refine ⟨fun h => Source.completion_of_silent h call,
      fun h => Source.completion_of_value hnot h call, fun h => ?_, fun h => ?_⟩
    · rw [Source.style_of_waits hnot h]
      exact ⟨rfl, rfl, rfl⟩
    · rw [Source.style_of_not_waits hnot h]
      exact ⟨rfl, rfl, rfl⟩

/-- A function without anything asynchronous, but with `then` in its name. -/
def sampleAuthenticate : Source :=
  let text := "function authenticate() \x7b return 1; \x7d"
  ⟨text, Plain.parser .typeScript text⟩

/-- No type and no call has to be mentioned for time to be moved on: part of a name is enough. -/
theorem sampleAuthenticate_moves_time_on :
    (sampleAuthenticate.declarations DeclarationKind.inFile sampleAuthenticate.top).map
        (fun s => (sampleAuthenticate.textOf s.node, sampleAuthenticate.declaredResult s.node)) =
      [(sampleAuthenticate.text, "")] ∧
    (∀ word ∈ ["Observable", ".subscribe(", "Promise"],
      ¬word.toList <:+: sampleAuthenticate.text.toList) ∧
    Suite.body ⟨none, none, none, sampleAuthenticate.methods false⟩ "" =
      [.code 0 "it('authenticate', fakeAsync(() => \x7b", .code 1 "let result = authenticate();",
        .code 1 "expect(result).toBeDefined();", .code 1 "tick();", .code 0 "\x7d));"] := by
  refine ⟨?_, ?_, ?_⟩ <;> decide +kernel

end SpecScaffold
