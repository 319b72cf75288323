import SpecScaffold.Code.Binding
import SpecScaffold.Code.Line
import SpecScaffold.Text.Lines

/-!
# Test suites

Every method becomes one `it` block.  A single test stands alone; several are put into a `describe`
group that declares the instance and stubs for the constructor's parameters, and every test of a
group fails until it is written.

    it('add item', () => {                 describe('cart', () => {
      let item; // Item                      let cart: Cart;
      let result = cart.addItem(item);
      expect(result).toBeDefined();          it('add item', () => { … });
    });                                    });

How a test completes follows the result: a promise is awaited with `then`, an observable with
`subscribe`, any other value is bound and expected to be defined, and without a value only the call
is made.
-/

namespace SpecScaffold

/-- What tests are rendered from. -/
structure Suite where
  importLine? : Option String
  className? : Option String
  constructor? : Option Constructor
  tests : List Method
deriving DecidableEq, Repr

/-! ## One test -/

/-- How the body of a test is wrapped. -/
inductive TestStyle where
  | sync
  | async
  /-- Time is simulated, and moved on at the end of the test. -/
  | fakeAsync
deriving DecidableEq, Repr

namespace TestStyle

def ofMethod (m : Method) : TestStyle :=
  if m.returns?.any fun r => r.promise || r.observable then .async
  else if m.isAsync then .fakeAsync
  else .sync

def opening : TestStyle → String
  | .sync => "() => \x7b"
  | .async => "async(() => \x7b"
  | .fakeAsync => "fakeAsync(() => \x7b"

def closing : TestStyle → String
  | .sync => "\x7d);"
  | .async => "\x7d));"
  | .fakeAsync => "\x7d));"

end TestStyle

namespace Suite

/-- The variable that holds the instance under test. -/
def instance? (s : Suite) : Option String :=
  s.className?.map variableName

/-- The class that static methods are called on. -/
def receiverClass? (s : Suite) : Option String :=
  s.className?.or (s.constructor?.map (·.name))

/-- What is called in the test of a method: the method of the instance, of the class if it is
static, or the bare name where there is none. -/
def callee (s : Suite) (m : Method) : String :=
  if m.isPrivate then (s.instance?.map fun i => i ++ "['" ++ m.name ++ "']").getD m.name
  else if m.isStatic then (s.receiverClass?.map fun c => c ++ "." ++ m.name).getD m.name
  else (s.instance?.map fun i => i ++ "." ++ m.name).getD m.name

/-- The call of a method with its arguments. -/
def call (s : Suite) (m : Method) : String :=
  s.callee m ++ "(" ++ commaList (m.params.map fun p => (Binding.ofParameter p).argument) ++ ")"

/-- The declaration of a parameter, with its type as a comment. -/
def declaration (p : Parameter) : Line :=
  let bare := "let " ++ (Binding.ofParameter p).declared ++ ";"
  .code 0 (match p.type? with
    | some type => bare ++ " // " ++ type
    | none => bare)

def expectation : String := "expect(result).toBeDefined();"

/-- A call whose result arrives later. -/
def awaited (call method : String) : List Line :=
  [.code 0 call, .code 0 (method ++ "(result => \x7b"), .code 1 expectation, .code 0 "\x7d);"]

/-- The call and what is expected of its result. -/
def completion (call : String) : Option ResultShape → List Line
  | none => [.code 0 (call ++ ";")]
  | some r =>
    if r.promise then awaited call ".then"
    else if r.observable then awaited call ".subscribe"
    else [.code 0 ("let result = " ++ call ++ ";"), .code 0 expectation]

/-- The lines inside a test. -/
def testBody (s : Suite) (m : Method) (failing : Bool) : List Line :=
  m.params.map declaration ++ completion (s.call m) m.returns? ++
    (if TestStyle.ofMethod m = .fakeAsync then [.code 0 "tick();"] else []) ++
    (if failing then [.code 0 "fail('not implemented');"] else [])

/-- The test of a method. -/
def testLines (s : Suite) (m : Method) (failing : Bool) : List Line :=
  let style := TestStyle.ofMethod m
  .code 0 ("it('" ++ title m.name ++ "', " ++ style.opening) ::
    (s.testBody m failing).map Line.nest ++ [.code 0 style.closing]

/-! ## Several tests -/

/-- The tests with a blank line between them. -/
def allTests (s : Suite) (failing : Bool) : List Line :=
  [Line.blank].intercalate (s.tests.map fun m => s.testLines m failing)

/-- The parameters that the setup of a group has to stub. -/
def stubs (s : Suite) : List String :=
  (s.constructor?.map fun c => c.params.map (·.name)).getD []

/-- The variables of a group. -/
def groupVariables (s : Suite) : List Line :=
  (s.className?.map fun c => Line.code 0 ("let " ++ variableName c ++ ": " ++ c ++ ";")).toList ++
    s.stubs.map fun name => .code 0 ("let " ++ name ++ ";")

/-- The setup of a group: stubs for the constructor's parameters, and the instance made of them. -/
def groupSetup (s : Suite) : List Line :=
  match s.constructor?, s.stubs with
  | some c, name :: names =>
    let stubs := name :: names
    [.code 0 "beforeEach(() => \x7b"] ++
      (stubs.map fun n => .code 1 (n ++ " = jasmine.createSpyObj('" ++ n ++ "', ['']);")) ++
      [.code 1 (s.instance?.getD "instance" ++ " = new " ++ c.name ++ "(" ++ commaList stubs ++
          ");"),
        .code 0 "\x7d);", .blank]
  | _, _ => []

/-- The group of all tests. -/
def group (s : Suite) (heading : String) : List Line :=
  .code 0 ("describe('" ++ title heading ++ "', () => \x7b") ::
    (s.groupVariables ++ [Line.blank] ++ s.groupSetup ++ s.allTests true).map Line.nest ++
    [.code 0 "\x7d);"]

/-- Several tests are put into a group. -/
def isGrouped (s : Suite) : Bool :=
  1 < s.tests.length

/-- The lines after the imports. -/
def body (s : Suite) (heading : String) : List Line :=
  if s.isGrouped then s.group heading else s.allTests false

/-! ## The whole text -/

/-- Import of the helpers for asynchronous tests. -/
def helpersImport : String :=
  "import \x7b async, fakeAsync, tick \x7d from '@angular/core/testing';"

/-- The import of the suite, unless it is blank. -/
def importText? (s : Suite) : Option (List Char) :=
  (s.importLine?.map fun i => Text.trimEnd i.toList).filter fun cs => !cs.isEmpty

/-- The imports and the blank line after them. -/
def header (s : Suite) : List Char :=
  helpersImport.toList ++ ['\n'] ++ (s.importText?.map fun cs => cs ++ ['\n']).getD [] ++ ['\n']

/-- The suite as code, a group under the given title. -/
def renderTitled (s : Suite) (heading : String) : String :=
  String.ofList (s.header ++ Line.text (s.body heading))

/-- The suite as code, a group under the name of the class. -/
def render (s : Suite) : String :=
  s.renderTitled (s.className?.getD "")

end Suite

/-- A suite on its way to a file. -/
structure Spec extends Suite where
  fileName : String
  /-- The test is to join a group that the file has already. -/
  joinsGroup : Bool
deriving DecidableEq

namespace Spec

/-- The name of a file up to its first dot. -/
def baseTitle (fileName : String) : String :=
  let name := (fileName.toList.reverse.takeWhile fun c => c != '/' && c != '\\').reverse
  String.ofList (name.takeWhile (· != '.'))

/-- The suite as code, a group under the name of the class or of the file. -/
def render (s : Spec) : String :=
  s.renderTitled (s.className?.getD (baseTitle s.fileName))

end Spec

end SpecScaffold
