import SpecScaffold.Tool.Run

/-!
# Calling a tool from a client

A client names a tool and passes an object of arguments.  These are decoded strictly into a call, so
that a wrong type anywhere is refused before the tool runs, and the call is run on arguments written
from it.
-/

namespace SpecScaffold

/-- A tool with its arguments. -/
inductive ToolCall where
  | mockThis (filePath : String) (line : Nat) (column? : Option Nat)
      (suffixes? : Option (List String)) (extension? : Option String)
  | mockEverything (filePath : String) (exportedOnly : Bool)
      (suffixes? : Option (List String)) (extension? : Option String)
  | toggleSpec (filePath : String) (root? : Option String) (exclude? : Option (List String))
      (suffixes? : Option (List String))
  | resolveSpecFile (filePath : String) (suffixes? : Option (List String))
      (extension? : Option String)
deriving DecidableEq, Repr

namespace ToolCall

/-! ## Decoding -/

/-- A field that has to be there. -/
def required? {α : Type} (read : Json → Option α) (key : String) (arguments : Json) : Option α :=
  (arguments.field? key).bind read

/-- A field that may be absent or `null`. -/
def optional? {α : Type} (read : Json → Option α) (key : String) (arguments : Json) :
    Option (Option α) :=
  match arguments.field? key with
  | none => some none
  | some value => value.nullable? read

/-- A flag that may be absent, but not `null`. -/
def flag? (key : String) (arguments : Json) : Option Bool :=
  match arguments.field? key with
  | none => some false
  | some value => value.bool?

/-- Decodes the arguments of a tool; unknown fields are ignored. -/
def decode? (tool : Tool) (arguments : Json) : Option ToolCall := do
  let filePath ← required? Json.str? "file_path" arguments
  let suffixes? ← optional? Json.strings? "spec_suffix" arguments
  match tool with
  | .mockThis =>
    let line ← required? Json.word? "line" arguments
    let column? ← optional? Json.word? "column" arguments
    let extension? ← optional? Json.str? "default_extension" arguments
    return .mockThis filePath line column? suffixes? extension?
  | .mockEverything =>
    let exportedOnly ← flag? "exported_only" arguments
    let extension? ← optional? Json.str? "default_extension" arguments
    return .mockEverything filePath exportedOnly suffixes? extension?
  | .toggleSpec =>
    let root? ← optional? Json.str? "root" arguments
    let exclude? ← optional? Json.strings? "exclude" arguments
    return .toggleSpec filePath root? exclude? suffixes?
  | .resolveSpecFile =>
    let extension? ← optional? Json.str? "default_extension" arguments
    return .resolveSpecFile filePath suffixes? extension?

/-! ## Running -/

def tool : ToolCall → Tool
  | .mockThis .. => .mockThis
  | .mockEverything .. => .mockEverything
  | .toggleSpec .. => .toggleSpec
  | .resolveSpecFile .. => .resolveSpecFile

/-- The arguments of a call, with `null` for what is absent. -/
def arguments : ToolCall → Json
  | .mockThis filePath line column? suffixes? extension? =>
    .obj [("file_path", .str filePath), ("line", .ofNat line), ("column", .ofOption .ofNat column?),
      ("spec_suffix", .ofOption .ofStrings suffixes?),
      ("default_extension", .ofOption .str extension?)]
  | .mockEverything filePath exportedOnly suffixes? extension? =>
    .obj [("file_path", .str filePath), ("exported_only", .bool exportedOnly),
      ("spec_suffix", .ofOption .ofStrings suffixes?),
      ("default_extension", .ofOption .str extension?)]
  | .toggleSpec filePath root? exclude? suffixes? =>
    .obj [("file_path", .str filePath), ("root", .ofOption .str root?),
      ("exclude", .ofOption .ofStrings exclude?), ("spec_suffix", .ofOption .ofStrings suffixes?)]
  | .resolveSpecFile filePath suffixes? extension? =>
    .obj [("file_path", .str filePath), ("spec_suffix", .ofOption .ofStrings suffixes?),
      ("default_extension", .ofOption .str extension?)]

/-- Runs a call. -/
def run (setting : Setting) (call : ToolCall) (st : State) : Except Error Json × State :=
  call.tool.run setting call.arguments st

end ToolCall

/-! ## Requests -/

/-- Why a request fails. -/
inductive RequestError where
  /-- The arguments are neither an object nor absent. -/
  | paramsRejected
  | missingArguments (tool : String)
  | unknownTool (tool : String)
  /-- The arguments do not decode into a call of the tool. -/
  | argumentsRejected
  | failed (error : Error)
deriving DecidableEq, Repr

/-- The wording of a failure, where it has one. -/
def RequestError.message? : RequestError → Option String
  | .paramsRejected => none
  | .missingArguments tool =>
    some ("Invalid arguments for tool '" ++ tool ++
      "': Missing 'arguments' field in the request")
  | .unknownTool tool => some ("Unknown tool: " ++ tool)
  | .argumentsRejected => none
  | .failed error => some error.message

/-- The call that a request is for. -/
def ToolCall.ofRequest (name : String) : Json → Except RequestError ToolCall
  | .null => .error (.missingArguments name)
  | .obj fields =>
    match Tool.ofName? name with
    | none => .error (.unknownTool name)
    | some tool =>
      match decode? tool (.obj fields) with
      | none => .error .argumentsRejected
      | some call => .ok call
  | _ => .error .paramsRejected

/-- Answers a request. -/
def ToolCall.handle (setting : Setting) (name : String) (arguments : Json) (st : State) :
    Except RequestError Json × State :=
  match ToolCall.ofRequest name arguments with
  | .error e => (.error e, st)
  | .ok call =>
    match call.run setting st with
    | (.error e, st) => (.error (.failed e), st)
    | (.ok result, st) => (.ok result, st)

end SpecScaffold
