import SpecScaffold.Family
import SpecScaffold.Generation
import SpecScaffold.Tool.Basic

/-!
# Running a tool on JSON arguments

Arguments are read leniently: what is not of the expected type counts as absent, except for the ones
that a tool cannot do without, and for a column that is given but is not a number.
-/

namespace SpecScaffold.Tool

/-! ## Reading arguments -/

/-- The required path. -/
def filePath (arguments : Json) : Except Error Path :=
  match (arguments.field "file_path").str? with
  | some path => if path.isEmpty then .error (.invalidArgument "file_path") else .ok ⟨path⟩
  | none => .error (.invalidArgument "file_path")

/-- The required line. -/
def line (arguments : Json) : Except Error Nat :=
  match (arguments.field "line").word? with
  | some n => .ok n
  | none => .error (.invalidArgument "line")

/-- The column, the first one if none is given. -/
def column (arguments : Json) : Except Error Nat :=
  match (arguments.field "column").nullable? Json.word? with
  | some n? => .ok (n?.getD 1)
  | none => .error (.invalidArgument "column")

/-- The configuration with the overrides of a request. -/
def effectiveConfig (config : Config) (arguments : Json) : Config :=
  config.overriddenBy (arguments.field "spec_suffix").someStrings?
    (arguments.field "default_extension").str?

/-! ## The tools -/

/-- The result of a command as JSON. -/
def report (host : Host) (command : String) (result : Attempt Outcome × State) :
    Except Error Json × State :=
  ((Command.run host command result.1).map Outcome.toJson, result.2)

def runMockThis (setting : Setting) (arguments : Json) (st : State) :
    Except Error Json × State :=
  match filePath arguments, line arguments, column arguments with
  | .error e, _, _ => (.error e, st)
  | .ok _, .error e, _ => (.error e, st)
  | .ok _, .ok _, .error e => (.error e, st)
  | .ok path, .ok line, .ok column =>
    report setting.host Command.mockThisTitle
      (Command.mockThis setting (effectiveConfig setting.config arguments) path line column st)

def runMockEverything (setting : Setting) (arguments : Json) (st : State) :
    Except Error Json × State :=
  match filePath arguments with
  | .error e => (.error e, st)
  | .ok path =>
    report setting.host Command.mockEverythingTitle
      (Command.mockEverything setting (effectiveConfig setting.config arguments) path
        ((arguments.field "exported_only").bool?.getD false) st)

/-- What is left out when a family is listed, unless the request says otherwise. -/
def skippedByDefault : List String := ["**/node_modules"]

/-- The directory of a file. -/
def directoryOf (p : Path) : Path :=
  match p.parent? with
  | some parent => if parent.text.isEmpty then ⟨"."⟩ else parent
  | none => ⟨"."⟩

/-- The result of a switch between the files of a family. -/
def toggleResult (current : Path) (next? : Option Path) (family : List Path) : Json :=
  .obj ([("current", .str current.text), ("next", .ofOption (fun p => .str p.text) next?),
      ("family", .ofStrings (family.map (·.text)))] ++
    if next?.isNone then [("message", .str "Spec or source file not found")] else [])

def toggle (config : Config) (arguments : Json) (w : Workspace) : Except Error Json :=
  match filePath arguments with
  | .error e => .error e
  | .ok path =>
    let top := ((arguments.field "root").str?.map Path.mk).getD (directoryOf path)
    let exclude := (arguments.field "exclude").someStrings?.getD skippedByDefault
    match Family.members w (effectiveConfig config arguments) top path exclude with
    | .error _ => .error (.invalidArgument "exclude")
    | .ok family => .ok (toggleResult path (Family.next? w family path) family)

def resolve (config : Config) (arguments : Json) (w : Workspace) : Except Error Json :=
  match filePath arguments with
  | .error e => .error e
  | .ok path =>
    let config := effectiveConfig config arguments
    if Companion.isTestFile config path then .error (.specFileRefused path.text)
    else
      let target := Companion.target w config path
      .ok (.obj [("source_file", .str path.text), ("target_file", .str target.text),
        ("exists", .bool (w.exists? target))])

/-- Runs a tool. -/
def run (setting : Setting) (tool : Tool) (arguments : Json) (st : State) :
    Except Error Json × State :=
  match tool with
  | .mockThis => runMockThis setting arguments st
  | .mockEverything => runMockEverything setting arguments st
  | .toggleSpec => (toggle setting.config arguments st.files, st)
  | .resolveSpecFile => (resolve setting.config arguments st.files, st)

end SpecScaffold.Tool
