import SpecScaffold.Generation
import SpecScaffold.Proofs.Code.Completion

/-!
# The class that tests are about

All tests of a file are written for one class, the first that has a name.  Its instance is declared,
and every method of the file is called on it, or on the class itself.  The instance is made by the
first constructor of the file that stands in a class with a name, which need not be the same class.

    calls_go_to_first_class : what a method of a file is called on, and when that is its own class
    setup_makes_class_of_first_constructor : which class is declared, which is made, and when they
      are one
-/

namespace SpecScaffold

/-! ## Searching classes and constructors -/

namespace Source

/-- The name of the class around a site, if there is a class and it has a name. -/
def enclosingClass? (src : Source) (s : Site) : Option String :=
  (src.nearest? [.classDecl] s).bind fun cls => src.nameOf? cls.node

/-- The first class of a file that has a name, and the classes after it. -/
structure FirstClass (src : Source) (first : Site) (later : List Site) (name : String) : Prop where
  split : ∃ earlier, src.declarations [.classDecl] src.top = earlier ++ first :: later ∧
    ∀ e ∈ earlier, src.nameOf? e.node = none
  name : src.nameOf? first.node = some name

/-- The first constructor of a file that stands in a class with a name. -/
structure FirstConstructor (src : Source) (site cls : Site) (c : Constructor) : Prop where
  split : ∃ earlier later, src.declarations [.constructor] src.top = earlier ++ site :: later ∧
    ∀ e ∈ earlier, src.enclosingClass? e = none
  nearest : src.nearest? [.classDecl] site = some cls
  name : src.nameOf? cls.node = some c.name
  params : c.params = src.parameters site.node

variable {src : Source}

theorem exists_firstClass {name : String} (h : src.className? = some name) :
    ∃ first later, src.FirstClass first later name := by
  obtain ⟨earlier, first, later, hsplit, hname, hnone⟩ := List.findSome?_eq_some_iff.1 h
  exact ⟨first, later, ⟨earlier, hsplit, hnone⟩, hname⟩

theorem constructorAt?_eq (s : Site) :
    src.constructorAt? s =
      (src.enclosingClass? s).map fun name => ⟨name, src.parameters s.node⟩ := by
  rw [constructorAt?, enclosingClass?]
  cases src.nearest? [.classDecl] s with
  | none => rfl
  | some cls =>
    show (src.nameOf? cls.node).bind _ = (src.nameOf? cls.node).map _
    cases src.nameOf? cls.node <;> rfl

theorem exists_firstConstructor {c : Constructor} (h : src.constructor? = some c) :
    ∃ site cls, src.FirstConstructor site cls c := by
  obtain ⟨earlier, site, later, hsplit, hat, hnone⟩ := List.findSome?_eq_some_iff.1 h
  rw [constructorAt?_eq] at hat
  obtain ⟨name, hname, rfl⟩ := Option.map_eq_some_iff.1 hat
  obtain ⟨cls, hnearest, hcls⟩ := Option.bind_eq_some_iff.1 hname
  refine ⟨site, cls, ⟨earlier, later, hsplit, fun e he => ?_⟩, hnearest, hcls, rfl⟩
  have hat := hnone e he
  rw [constructorAt?_eq] at hat
  exact Option.map_eq_none_iff.1 hat

/-- The class around a site of a file is a class of the file. -/
theorem mem_classes_of_nearest? (hsrc : src.IsFile) {kinds : List DeclarationKind} {s cls : Site}
    (hs : s ∈ src.declarations kinds src.top) (h : src.nearest? [.classDecl] s = some cls) :
    cls ∈ src.declarations [.classDecl] src.top :=
  mem_declarations_of_nearest? hsrc (List.mem_filter.1 hs).1 h

/-- Where no class has a name, nothing stands in a class with a name. -/
theorem enclosingClass?_eq_none (hsrc : src.IsFile) {kinds : List DeclarationKind} {s : Site}
    (hs : s ∈ src.declarations kinds src.top) (h : src.className? = none) :
    src.enclosingClass? s = none := by
  rw [enclosingClass?]
  cases hnearest : src.nearest? [.classDecl] s with
  | none => rfl
  | some cls =>
    have hcls := mem_classes_of_nearest? hsrc hs hnearest
    exact List.findSome?_eq_none_iff.1 h cls hcls

theorem constructor?_eq_none (hsrc : src.IsFile) (h : src.className? = none) :
    src.constructor? = none := by
  apply List.findSome?_eq_none_iff.2
  intro s hs
  rw [constructorAt?_eq, enclosingClass?_eq_none hsrc hs h]
  rfl

/-- A file with a constructor in a class with a name has a class with a name. -/
theorem className?_of_constructor? (hsrc : src.IsFile) {c : Constructor}
    (h : src.constructor? = some c) : ∃ name, src.className? = some name := by
  rw [← Option.ne_none_iff_exists']
  intro hnone
  rw [constructor?_eq_none hsrc hnone] at h
  cases h

theorem FirstConstructor.mem {site cls : Site} {c : Constructor}
    (h : src.FirstConstructor site cls c) : site ∈ src.declarations [.constructor] src.top := by
  obtain ⟨earlier, later, hsplit, -⟩ := h.split
  rw [hsplit]
  exact List.mem_append_right _ List.mem_cons_self

/-- A class that has a name does not stand before the first one that has. -/
theorem FirstClass.mem_of_name {first : Site} {later : List Site} {name other : String}
    (h : src.FirstClass first later name) {cls : Site}
    (hcls : cls ∈ src.declarations [.classDecl] src.top)
    (hname : src.nameOf? cls.node = some other) : cls ∈ first :: later := by
  obtain ⟨earlier, hsplit, hnone⟩ := h.split
  rw [hsplit] at hcls
  rcases List.mem_append.1 hcls with hearlier | hlater
  · rw [hnone cls hearlier] at hname
    cases hname
  · exact hlater

end Source

/-! ## Calls -/

namespace Method

/-- What a method is called on in the tests of a class: the instance, or the class if the method is
static and not private. -/
def receiver (m : Method) (cls : String) : String :=
  if !m.isPrivate && m.isStatic then cls else variableName cls

/-- A method of a receiver; a private one is reached by its name as a text. -/
def access (m : Method) (receiver : String) : String :=
  if m.isPrivate then receiver ++ "['" ++ m.name ++ "']" else receiver ++ "." ++ m.name

/-- How a method is called in the tests of a class; without a class, by its bare name. -/
def calledOn (m : Method) (cls? : Option String) : String :=
  (cls?.map fun cls => m.access (m.receiver cls)).getD m.name

theorem access_inj (m : Method) {r r' : String} : m.access r = m.access r' ↔ r = r' := by
  unfold access
  split <;> simp [String.append_assoc]

theorem access_ne_name (m : Method) (r : String) : m.access r ≠ m.name := by
  intro h
  have hlength := congrArg (fun text => text.toList.length) h
  unfold access at hlength
  split at hlength
  · simp at hlength
    omega
  · simp at hlength
    omega

/-- Two classes call a method alike exactly if it has the same receiver in both. -/
theorem calledOn_eq_calledOn_iff (m : Method) (cls? other? : Option String) :
    m.calledOn cls? = m.calledOn other? ↔ cls?.map m.receiver = other?.map m.receiver := by
  cases cls? with
  | none =>
    cases other? with
    | none => simp
    | some other => simpa [calledOn] using (m.access_ne_name _).symm
  | some cls =>
    cases other? with
    | none => simpa [calledOn] using m.access_ne_name _
    | some other => simp [calledOn, access_inj]

end Method

namespace Suite

/-- Where a constructor comes with a class, methods are called on that class. -/
theorem callee_eq_calledOn {s : Suite} (h : s.className? = none → s.constructor? = none)
    (m : Method) : s.callee m = m.calledOn s.className? := by
  cases hclass : s.className? with
  | none => simp [callee, Method.calledOn, instance?, receiverClass?, hclass, h hclass]
  | some cls =>
    cases hprivate : m.isPrivate <;> cases hstatic : m.isStatic <;>
      simp [callee, Method.calledOn, Method.access, Method.receiver, instance?, receiverClass?,
        hclass, hprivate, hstatic]

/-- What can stand before and after the call in a test. -/
def callForms : List (String × String) :=
  [("", ""), ("", ";"), ("let result = ", ";")]

/-- The lines that can follow the call in a test. -/
def afterCall : List String :=
  [".then(result => \x7b", ".subscribe(result => \x7b", "expect(result).toBeDefined();", "\x7d);",
    "tick();", "fail('not implemented');", "\x7d));"]

/-- The lines before the call in the test of a method. -/
def beforeCall (m : Method) : List Line :=
  .code 0 ("it('" ++ title m.name ++ "', " ++ (TestStyle.ofMethod m).opening) ::
    m.params.map fun p => (declaration p).nest

/-- A line that can follow the call. -/
def FollowsCall (l : Line) : Prop :=
  ∃ depth, ∃ text ∈ afterCall, l = .code depth text

/-- Lines that start with a call, in one of its forms, and make no other. -/
def MakesCall (call : String) (depth : Nat) (lines : List Line) : Prop :=
  ∃ lead tail rest, (lead, tail) ∈ callForms ∧
    lines = .code depth (lead ++ call ++ tail) :: rest ∧ ∀ l ∈ rest, FollowsCall l

theorem followsCall_code {depth : Nat} {text : String} (h : text ∈ afterCall) :
    FollowsCall (.code depth text) :=
  ⟨depth, text, h, rfl⟩

theorem FollowsCall.nest {l : Line} (h : FollowsCall l) : FollowsCall l.nest := by
  obtain ⟨depth, text, htext, rfl⟩ := h
  exact followsCall_code htext

theorem MakesCall.nest {call : String} {depth : Nat} {lines : List Line}
    (h : MakesCall call depth lines) : MakesCall call (depth + 1) (lines.map Line.nest) := by
  obtain ⟨lead, tail, rest, hform, rfl, hrest⟩ := h
  refine ⟨lead, tail, rest.map Line.nest, hform, rfl, ?_⟩
  intro l hl
  obtain ⟨inner, hinner, rfl⟩ := List.mem_map.1 hl
  exact (hrest inner hinner).nest

theorem MakesCall.append {call : String} {depth : Nat} {lines more : List Line}
    (h : MakesCall call depth lines) (hmore : ∀ l ∈ more, FollowsCall l) :
    MakesCall call depth (lines ++ more) := by
  obtain ⟨lead, tail, rest, hform, rfl, hrest⟩ := h
  refine ⟨lead, tail, rest ++ more, hform, rfl, ?_⟩
  intro l hl
  rcases List.mem_append.1 hl with hl | hl
  · exact hrest l hl
  · exact hmore l hl

theorem makesCall_awaited {method : String} (h : method ++ "(result => \x7b" ∈ afterCall)
    (call : String) : MakesCall call 0 (awaited call method) := by
  refine ⟨"", "", _, by decide, by rw [awaited, String.empty_append, String.append_empty], ?_⟩
  simp only [List.forall_mem_cons]
  exact ⟨followsCall_code h, followsCall_code (by decide), followsCall_code (by decide), by simp⟩

theorem makesCall_completion (call : String) (shape? : Option ResultShape) :
    MakesCall call 0 (completion call shape?) := by
  cases shape? with
  | none => exact ⟨"", ";", [], by decide, by rw [completion, String.empty_append], by simp⟩
  | some r =>
    rw [completion]
    split
    · exact makesCall_awaited (by decide) call
    · split
      · exact makesCall_awaited (by decide) call
      · refine ⟨"let result = ", ";", [.code 0 expectation], by decide, rfl, ?_⟩
        intro l hl
        obtain rfl := List.mem_singleton.1 hl
        exact followsCall_code (by decide)

/-- The test of a method makes one call, after the declarations. -/
theorem exists_testLines_eq (s : Suite) (m : Method) (failing : Bool) :
    ∃ lines, s.testLines m failing = beforeCall m ++ lines ∧ MakesCall (s.call m) 1 lines := by
  let ticks : List Line := if TestStyle.ofMethod m = .fakeAsync then [.code 0 "tick();"] else []
  let fails : List Line := if failing then [.code 0 "fail('not implemented');"] else []
  have hticks : ∀ l ∈ ticks, FollowsCall l := by
    intro l hl
    obtain ⟨-, rfl⟩ : _ ∧ l = .code 0 "tick();" := by simpa [ticks] using hl
    exact followsCall_code (by decide)
  have hfails : ∀ l ∈ fails, FollowsCall l := by
    intro l hl
    obtain ⟨-, rfl⟩ : _ ∧ l = .code 0 "fail('not implemented');" := by simpa [fails] using hl
    exact followsCall_code (by decide)
  have hclosing : ∀ l ∈ [Line.code 0 (TestStyle.ofMethod m).closing], FollowsCall l := by
    intro l hl
    obtain rfl := List.mem_singleton.1 hl
    cases TestStyle.ofMethod m <;> exact followsCall_code (by decide)
  refine ⟨(completion (s.call m) m.returns? ++ ticks ++ fails).map Line.nest ++
    [.code 0 (TestStyle.ofMethod m).closing], ?_, ?_⟩
  · rw [testLines_eq_testBlock, testBlock, beforeCall]
    simp [ticks, fails, Function.comp_def]
  · exact (((makesCall_completion _ _).append hticks).append hfails).nest.append hclosing

/-- Every test of a suite stands in its text with its call. -/
theorem exists_renderTitled_eq {s : Suite} {earlier later : List Method} {m : Method}
    (h : s.tests = earlier ++ m :: later) (heading : String) :
    ∃ front lines back,
      (s.renderTitled heading).toList =
        s.header ++ Line.text (front ++ s.placed (beforeCall m ++ lines) ++ back) ∧
      MakesCall (s.call m) 1 lines := by
  obtain ⟨front, back, hbody⟩ := exists_body_eq h heading
  obtain ⟨lines, hlines, hcall⟩ := s.exists_testLines_eq m s.isGrouped
  refine ⟨front, lines, back, ?_, hcall⟩
  rw [renderTitled, String.toList_ofList, hbody, hlines]

/-! ## Setup -/

/-- The setup of a group makes the instance of the class that the constructor belongs to. -/
theorem exists_groupSetup_eq {s : Suite} {name : String} {c : Constructor}
    (hname : s.className? = some name) (hc : s.constructor? = some c) (hparams : c.params ≠ []) :
    ∃ front back, s.groupSetup = front ++
      .code 1 (variableName name ++ " = new " ++ c.name ++ "(" ++
        commaList (c.params.map (·.name)) ++ ");") :: back := by
  have hstubs : s.stubs = c.params.map (·.name) := by
    rw [stubs, hc]
    rfl
  cases hlist : c.params.map (·.name) with
  | nil => exact absurd (List.map_eq_nil_iff.1 hlist) hparams
  | cons stub more =>
    rw [groupSetup, hc, hstubs, hlist, instance?, hname]
    exact ⟨_, [.code 0 "\x7d);", .blank], rfl⟩

/-- The class of a suite is declared in its group, and the same variable then holds an instance of
the class that the constructor belongs to. -/
theorem exists_group_eq {s : Suite} {name : String} {c : Constructor}
    (hname : s.className? = some name) (hc : s.constructor? = some c) (heading : String) :
    ∃ front back,
      s.group heading =
        front ++ .code 1 ("let " ++ variableName name ++ ": " ++ name ++ ";") :: back ∧
      (c.params ≠ [] → ∃ between rest, back = between ++
        .code 2 (variableName name ++ " = new " ++ c.name ++ "(" ++
          commaList (c.params.map (·.name)) ++ ");") :: rest) := by
  let stubLines : List Line := s.stubs.map fun stub => .code 0 ("let " ++ stub ++ ";")
  refine ⟨[.code 0 ("describe('" ++ title heading ++ "', () => \x7b")],
    (stubLines ++ [Line.blank] ++ s.groupSetup ++ s.allTests true).map Line.nest ++
      [.code 0 "\x7d);"], ?_, ?_⟩
  · rw [group, groupVariables, hname]
    rfl
  · intro hparams
    obtain ⟨front, back, hsetup⟩ := exists_groupSetup_eq hname hc hparams
    refine ⟨(stubLines ++ [Line.blank] ++ front).map Line.nest,
      (back ++ s.allTests true).map Line.nest ++ [.code 0 "\x7d);"], ?_⟩
    rw [hsetup]
    simp [Line.nest]

end Suite

/-! ## The tests of a file -/

/-- What tests of a file are generated for, in source order. -/
def Source.tested (src : Source) (exportedOnly : Bool) : List Site :=
  if exportedOnly then src.visibleDeclarations DeclarationKind.inFile src.top
  else src.declarations DeclarationKind.inFile src.top

theorem Source.mem_declarations_of_tested {src : Source} {exportedOnly : Bool} {s : Site}
    (h : s ∈ src.tested exportedOnly) : s ∈ src.declarations DeclarationKind.inFile src.top := by
  unfold tested at h
  split at h
  · exact (List.mem_filter.1 h).1
  · exact h

/-- A file with something to test, or with a constructor, has a spec. -/
theorem Command.exists_fileSpec {src : Source} {exportedOnly : Bool} (source target : Path)
    (h : src.constructor? ≠ none ∨ src.methods exportedOnly ≠ []) :
    ∃ spec, fileSpec src source target exportedOnly = .ok spec ∧
      spec.className? = src.className? ∧ spec.constructor? = src.constructor? ∧
      spec.tests = src.methods exportedOnly := by
  refine ⟨_, if_neg ?_, rfl, rfl, rfl⟩
  rw [Bool.and_eq_true, Option.isNone_iff_eq_none, List.isEmpty_iff, not_and_or]
  exact h

/-- Every method of a file is called on its first class that has a name: on the instance, or on the
class if the method is static and not private; bare names are called in a file without such a class,
and only there.  This is how the class around the method would have it called exactly if both give
the method the same receiver. -/
theorem calls_go_to_first_class (src : Source) (hsrc : src.IsFile) (source target : Path)
    (exportedOnly : Bool) (earlier later : List Site) (s : Site)
    (hs : src.tested exportedOnly = earlier ++ s :: later) :
    let m := src.method s
    let call := m.calledOn src.className? ++ "(" ++
      commaList (m.params.map fun p => (Binding.ofParameter p).argument) ++ ")"
    (∃ spec front lines back,
      Command.fileSpec src source target exportedOnly = .ok spec ∧
      spec.render.toList = spec.header ++
        Line.text (front ++ spec.placed (Suite.beforeCall m ++ lines) ++ back) ∧
      Suite.MakesCall call 1 lines) ∧
    (∀ name, src.className? = some name → ∃ first later, src.FirstClass first later name) ∧
    (src.className? = none → src.enclosingClass? s = none) ∧
    (m.calledOn src.className? = m.calledOn (src.enclosingClass? s) ↔
      src.className?.map m.receiver = (src.enclosingClass? s).map m.receiver) ∧
    (m.calledOn src.className? = m.name ↔ src.className? = none) := by
  intro m call
  have hmem : s ∈ src.declarations DeclarationKind.inFile src.top := by
    apply Source.mem_declarations_of_tested
    rw [hs]
    exact List.mem_append_right _ List.mem_cons_self
  have hmethods : src.methods exportedOnly =
      earlier.map src.method ++ m :: later.map src.method := by
    show (src.tested exportedOnly).map src.method = _
    rw [hs, List.map_append, List.map_cons]
  refine ⟨?_, fun name => Source.exists_firstClass, ?_, m.calledOn_eq_calledOn_iff _ _, ?_⟩
  · obtain ⟨spec, hspec, hclass, hconstructor, htests⟩ :=
      Command.exists_fileSpec source target (.inr (by rw [hmethods]; simp))
    -- static methods would also be called on the class of a constructor without a first class, but
    -- a file has none
    have hcallee : spec.callee m = m.calledOn src.className? := by
      rw [← hclass]
      apply Suite.callee_eq_calledOn
      rw [hclass, hconstructor]
      exact Source.constructor?_eq_none hsrc
    rw [hmethods] at htests
    obtain ⟨front, lines, back, hrender, hcall⟩ :=
      Suite.exists_renderTitled_eq htests (spec.className?.getD (Spec.baseTitle spec.fileName))
    rw [Suite.call, hcallee] at hcall
    exact ⟨spec, front, lines, back, hspec, hrender, hcall⟩
  · exact Source.enclosingClass?_eq_none hsrc hmem
  · have hbare := m.calledOn_eq_calledOn_iff src.className? none
    rw [Option.map_none, Option.map_eq_none_iff] at hbare
    exact hbare

/-- Two classes, of which only the second has a constructor, and a function outside them. -/
def sampleBooks : Source :=
  let text := "class Account \x7b close() \x7b \x7d \x7d " ++
    "class Ledger \x7b constructor(log) \x7b \x7d post() \x7b \x7d \x7d " ++
    "function audit() \x7b \x7d"
  ⟨text, Plain.parser .typeScript text⟩

/-- What is found in the sample. -/
theorem sampleBooks_facts :
    sampleBooks.IsFile ∧ sampleBooks.className? = some "Account" ∧
      sampleBooks.constructor? = some ⟨"Ledger", [⟨"log", none, []⟩]⟩ ∧
      sampleBooks.methods false = [⟨"close", [], none, false, false, false⟩,
        ⟨"post", [], none, false, false, false⟩, ⟨"audit", [], none, false, false, false⟩] := by
  decide +kernel

/-- A method of the second class, and a function, are called on the instance of the first class. -/
theorem sampleBooks_calls_account :
    (sampleBooks.tested false).map (fun s => ((sampleBooks.method s).name,
        (sampleBooks.nearest? [.classDecl] s).map fun cls => sampleBooks.nameOf? cls.node)) =
      [("close", some (some "Account")), ("post", some (some "Ledger")), ("audit", none)] ∧
    (Command.fileSpec sampleBooks ⟨"a.ts"⟩ ⟨"a.spec.ts"⟩ false).toOption.map
        (fun spec => spec.body "Account") =
      some [.code 0 "describe('account', () => \x7b", .code 1 "let account: Account;",
        .code 1 "let log;", .blank, .code 1 "beforeEach(() => \x7b",
        .code 2 "log = jasmine.createSpyObj('log', ['']);", .code 2 "account = new Ledger(log);",
        .code 1 "\x7d);", .blank,
        .code 1 "it('close', () => \x7b", .code 2 "account.close();",
        .code 2 "fail('not implemented');", .code 1 "\x7d);", .blank,
        .code 1 "it('post', () => \x7b", .code 2 "account.post();",
        .code 2 "fail('not implemented');", .code 1 "\x7d);", .blank,
        .code 1 "it('audit', () => \x7b", .code 2 "account.audit();",
        .code 2 "fail('not implemented');", .code 1 "\x7d);", .code 0 "\x7d);"] := by
  decide +kernel

theorem sampleBooks_posts_to_account :
    sampleBooks.IsFile ∧ ∃ earlier s later, sampleBooks.tested false = earlier ++ s :: later ∧
      sampleBooks.method s = ⟨"post", [], none, false, false, false⟩ ∧
      ∃ spec front lines back,
        Command.fileSpec sampleBooks ⟨"a.ts"⟩ ⟨"a.spec.ts"⟩ false = .ok spec ∧
        spec.render.toList = spec.header ++ Line.text (front ++
          spec.placed (Suite.beforeCall (sampleBooks.method s) ++ lines) ++ back) ∧
        Suite.MakesCall "account.post()" 1 lines := by
  obtain ⟨hfile, hclass, -, hmethods⟩ := sampleBooks_facts
  have hpost : (⟨"post", [], none, false, false, false⟩ : Method) ∈
      (sampleBooks.tested false).map sampleBooks.method := by
    show _ ∈ sampleBooks.methods false
    rw [hmethods]
    decide
  obtain ⟨s, hs, hmethod⟩ := List.mem_map.1 hpost
  obtain ⟨earlier, later, hsplit⟩ := List.append_of_mem hs
  obtain ⟨⟨spec, front, lines, back, hspec, hrender, hmakes⟩, -⟩ :=
    calls_go_to_first_class sampleBooks hfile ⟨"a.ts"⟩ ⟨"a.spec.ts"⟩ false earlier later s hsplit
  have hcall : (sampleBooks.method s).calledOn sampleBooks.className? ++ "(" ++
      commaList ((sampleBooks.method s).params.map fun p => (Binding.ofParameter p).argument) ++
      ")" = "account.post()" := by
    rw [hmethod, hclass]
    decide +kernel
  rw [hcall] at hmakes
  exact ⟨hfile, earlier, s, later, hsplit, hmethod, spec, front, lines, back, hspec, hrender,
    hmakes⟩

/-- The setup of a group declares the first class of the file that has a name, and makes an instance
of the class around the first constructor that stands in a class with a name.  That class is the
first one or a later one, so the two have one name if no later class has another. -/
theorem setup_makes_class_of_first_constructor (src : Source) (hsrc : src.IsFile)
    (c : Constructor) (hc : src.constructor? = some c) :
    ∃ name first later site cls,
      src.className? = some name ∧ src.FirstClass first later name ∧
      src.FirstConstructor site cls c ∧ cls ∈ first :: later ∧
      ((∀ d ∈ later, ∀ other, src.nameOf? d.node = some other → other = name) → c.name = name) ∧
      ∀ source target exportedOnly, ∃ spec,
        Command.fileSpec src source target exportedOnly = .ok spec ∧
        (spec.isGrouped = true → ∃ front back,
          spec.render.toList = spec.header ++ Line.text (front ++
            .code 1 ("let " ++ variableName name ++ ": " ++ name ++ ";") :: back) ∧
          (c.params ≠ [] → ∃ between rest, back = between ++
            .code 2 (variableName name ++ " = new " ++ c.name ++ "(" ++
              commaList (c.params.map (·.name)) ++ ");") :: rest)) := by
  obtain ⟨name, hname⟩ := Source.className?_of_constructor? hsrc hc
  obtain ⟨first, later, hfirst⟩ := Source.exists_firstClass hname
  obtain ⟨site, cls, hsite⟩ := Source.exists_firstConstructor hc
  have hcls : cls ∈ first :: later :=
    hfirst.mem_of_name (Source.mem_classes_of_nearest? hsrc hsite.mem hsite.nearest) hsite.name
  refine ⟨name, first, later, site, cls, hname, hfirst, hsite, hcls, ?_, ?_⟩
  · intro hlater
    rcases List.mem_cons.1 hcls with rfl | hin
    · exact Option.some.inj (hsite.name.symm.trans hfirst.name)
    · exact hlater cls hin c.name hsite.name
  · intro source target exportedOnly
    obtain ⟨spec, hspec, hclass, hconstructor, -⟩ :=
      Command.exists_fileSpec source target (.inl (by rw [hc]; simp))
    refine ⟨spec, hspec, fun hgrouped => ?_⟩
    obtain ⟨front, back, hgroup, hmade⟩ := Suite.exists_group_eq (hclass.trans hname)
      (hconstructor.trans hc) (spec.className?.getD (Spec.baseTitle spec.fileName))
    refine ⟨front, back, ?_, hmade⟩
    rw [Spec.render, Suite.renderTitled, String.toList_ofList, Suite.body, if_pos hgrouped, hgroup]

/-- The instance of the first class is made by the constructor of the second. -/
theorem sampleBooks_makes_ledger :
    sampleBooks.IsFile ∧ sampleBooks.className? = some "Account" ∧
      sampleBooks.constructor?.map (·.name) = some "Ledger" ∧
      (Command.fileSpec sampleBooks ⟨"a.ts"⟩ ⟨"a.spec.ts"⟩ false).toOption.map (fun spec =>
          (spec.body "Account").filter fun l =>
            l ∈ [.code 1 "let account: Account;", .code 2 "account = new Ledger(log);"]) =
        some [.code 1 "let account: Account;", .code 2 "account = new Ledger(log);"] := by
  decide +kernel

theorem sampleBooks_setup :
    sampleBooks.IsFile ∧
      sampleBooks.constructor? = some ⟨"Ledger", [⟨"log", none, []⟩]⟩ ∧
      ∃ spec front between rest,
        Command.fileSpec sampleBooks ⟨"a.ts"⟩ ⟨"a.spec.ts"⟩ false = .ok spec ∧
        spec.render.toList = spec.header ++ Line.text (front ++ .code 1 "let account: Account;" ::
          (between ++ .code 2 "account = new Ledger(log);" :: rest)) := by
  obtain ⟨hfile, hclass, hconstructor, hmethods⟩ := sampleBooks_facts
  obtain ⟨name, first, later, site, cls, hname, -, -, -, -, hspecs⟩ :=
    setup_makes_class_of_first_constructor sampleBooks hfile _ hconstructor
  obtain rfl : name = "Account" := Option.some.inj (hname.symm.trans hclass)
  obtain ⟨spec, hspec, hgroup⟩ := hspecs ⟨"a.ts"⟩ ⟨"a.spec.ts"⟩ false
  have hgrouped : spec.isGrouped = true := by
    obtain ⟨other, hother, -, -, htests⟩ := Command.exists_fileSpec ⟨"a.ts"⟩ ⟨"a.spec.ts"⟩
      (.inr (by rw [hmethods]; simp))
    obtain rfl := Except.ok.inj (hspec.symm.trans hother)
    rw [Suite.isGrouped, htests, hmethods]
    rfl
  have hdeclared : "let " ++ variableName "Account" ++ ": " ++ "Account" ++ ";" =
      "let account: Account;" := by decide +kernel
  have hmadeLine : variableName "Account" ++ " = new " ++ "Ledger" ++ "(" ++
      commaList ["log"] ++ ");" = "account = new Ledger(log);" := by decide +kernel
  obtain ⟨front, back, hrender, hmade⟩ := hgroup hgrouped
  obtain ⟨between, rest, rfl⟩ := hmade (by simp)
  rw [hdeclared] at hrender
  simp only [List.map_cons, List.map_nil, hmadeLine] at hrender
  exact ⟨hfile, hconstructor, spec, front, between, rest, hspec, hrender⟩

end SpecScaffold
