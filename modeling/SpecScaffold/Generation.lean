import SpecScaffold.Code.Insertion
import SpecScaffold.Code.Suite
import SpecScaffold.Command
import SpecScaffold.Companion
import SpecScaffold.Facts.Methods
import SpecScaffold.Path.Uri
import SpecScaffold.Source.Position
import SpecScaffold.TreeCache

/-!
# Generating tests

The two commands that write: one test for the method at a caret, and tests for a whole file.  Both
load the source, turn its facts into a spec, and deliver that to the companion test file.  The state
they work on is a cache of trees and a workspace; every function returns the state it leaves, also
when it fails.
-/

namespace SpecScaffold

/-- What does not change while commands are run. -/
structure Setting where
  config : Config
  host : Host
  parser : Parser

/-- What commands change: the trees they have parsed, and files. -/
structure State where
  cache : TreeCache := {}
  files : Workspace

/-- What a command has written. -/
structure Outcome where
  source : Path
  target : Path
  uri? : Option String
  /-- The line of the insertion, from zero. -/
  line : Nat
  inserted : String
  wantsFormatting : Bool
  className? : Option String
  tests : List Method

/-- An outcome as JSON; what there is not is left out. -/
def Outcome.toJson (o : Outcome) : Json :=
  .obj ([("source_file", .str o.source.text), ("target_file", .str o.target.text)] ++
    (o.uri?.map fun uri => ("target_uri", Json.str uri)).toList ++
    [("line", .ofNat o.line), ("inserted", .str o.inserted),
      ("format_requested", .bool o.wantsFormatting)] ++
    (o.className?.map fun name => ("class_name", Json.str name)).toList ++
    [("tests", .arr (o.tests.map (·.toJson)))])

namespace Command

def mockThisTitle : String := "Mock This"

def mockEverythingTitle : String := "Mock Everything"

/-! ## Loading the source -/

/-- The language of a source file; files of other kinds and test files are refused. -/
def accept (command : String) (config : Config) (p : Path) : Except Error Language :=
  match Language.detect p with
  | .error _ => .error (.unsupportedFileKind command p.text)
  | .ok language =>
    if Companion.isTestFile config p then .error (.specFileRefused p.text) else .ok language

/-- The source in a file, parsed. -/
def load (parser : Parser) (command : String) (config : Config) (p : Path) (st : State) :
    Except Error Source × State :=
  match accept command config p with
  | .error e => (.error e, st)
  | .ok language =>
    match st.files.read p with
    | .error e => (.error (.read p.text e), st)
    | .ok text =>
      let (entry, cache) := st.cache.parse parser p text language
      (.ok entry.source, { st with cache })

/-! ## From facts to a spec -/

/-- The spec of one test, for the method at a position. -/
def caretSpec (src : Source) (target : Path) (line column : Nat) : Except Error Spec :=
  match src.atCaret (Text.offsetAt src.text.toList line column) with
  | .noDeclaration => .error (.noAnalyzableNode mockThisTitle)
  | .noMethod => .error .noMethodsFound
  | .method m => .ok
    { importLine? := none
      className? := src.className?
      constructor? := src.constructor?
      tests := [m]
      fileName := target.text
      joinsGroup := true }

/-- The import of names from a source file, if there are any. -/
def importOf? (source : Path) (names : List String) : Option String :=
  if names.isEmpty then none
  else source.stem?.map fun stem =>
    "import \x7b " ++ commaList names ++ " \x7d from './" ++ stem ++ "';"

/-- The names that tests of a file import: the class, or the exported functions. -/
def importedNames (src : Source) : List String :=
  match src.className? with
  | some name => [name]
  | none => src.exportedFunctions

/-- The spec of all tests of a file. -/
def fileSpec (src : Source) (source target : Path) (exportedOnly : Bool) : Except Error Spec :=
  let tests := src.methods exportedOnly
  if src.constructor?.isNone && tests.isEmpty then .error (.emptyExtraction source.text)
  else .ok
    { importLine? := importOf? source (importedNames src)
      className? := src.className?
      constructor? := src.constructor?
      tests := tests
      fileName := target.text
      joinsGroup := false }

/-! ## Writing -/

/-- The failure to write a test file. -/
def writeFailure (host : Host) (command : String) (target : Path) (e : FileError) : Error :=
  .targetWriteFailure command target.text e (Report.render ⟨host, command, e.message⟩)

/-- Where a spec goes in a document. -/
def planFor (spec : Spec) (document : String) : Insertion :=
  Insertion.plan document spec.render spec.importLine?.isSome spec.joinsGroup

/-- What is reported after a spec has been inserted. -/
def outcomeOf (w : Workspace) (source target : Path) (spec : Spec) (i : Insertion) : Outcome :=
  { source := source
    target := target
    uri? := (w.place? target).map Path.fileUri
    line := i.line
    inserted := i.text
    wantsFormatting := i.wantsFormatting
    className? := spec.className?
    tests := spec.tests }

/-- Inserts a spec into its test file, which is made if it is missing. -/
def deliver (host : Host) (command : String) (source target : Path) (spec : Spec) (w : Workspace) :
    Attempt Outcome × Workspace :=
  match w.touch target with
  | .error e => (.failed (writeFailure host command target e), w)
  | .ok w =>
    match w.read target with
    | .error e => (.failed (writeFailure host command target e), w)
    | .ok document =>
      let i := planFor spec document
      match i.applyTo? document with
      | none => (.fault none, w)
      | some text =>
        match w.write target text with
        | .error e => (.failed (writeFailure host command target e), w)
        | .ok w => (.done (outcomeOf w source target spec i), w)

/-! ## The commands -/

/-- Loads a source file, makes a spec of it and delivers that. -/
def generate (setting : Setting) (command : String) (config : Config) (source : Path)
    (specOf : Source → Path → Except Error Spec) (st : State) : Attempt Outcome × State :=
  match load setting.parser command config source st with
  | (.error e, st) => (.failed e, st)
  | (.ok src, st) =>
    let target := Companion.target st.files config source
    match specOf src target with
    | .error e => (.failed e, st)
    | .ok spec =>
      let (attempt, files) := deliver setting.host command source target spec st.files
      (attempt, { st with files })

/-- Generates a test for the method at a position. -/
def mockThis (setting : Setting) (config : Config) (source : Path) (line column : Nat)
    (st : State) : Attempt Outcome × State :=
  generate setting mockThisTitle config source
    (fun src target => caretSpec src target line column) st

/-- Generates tests for a whole file. -/
def mockEverything (setting : Setting) (config : Config) (source : Path) (exportedOnly : Bool)
    (st : State) : Attempt Outcome × State :=
  generate setting mockEverythingTitle config source
    (fun src target => fileSpec src source target exportedOnly) st

end Command

end SpecScaffold
