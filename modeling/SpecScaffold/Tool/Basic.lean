import SpecScaffold.Json

/-!
# Tools

The four tools that are offered to a client, with the arguments each one takes and how they are
described to it.
-/

namespace SpecScaffold

inductive Tool where
  | mockThis
  | mockEverything
  | toggleSpec
  | resolveSpecFile
deriving DecidableEq, Repr

/-- The type of an argument. -/
inductive ArgumentType where
  | string
  | integer
  | boolean
  | strings
deriving DecidableEq, Repr

/-- An argument of a tool as described to a client. -/
structure Argument where
  name : String
  type : ArgumentType
  description : String
  /-- The argument may be absent or `null`. -/
  isOptional : Bool := true

namespace ArgumentType

/-- The entries of a schema that give the type. -/
def schema : ArgumentType → List (String × Json)
  | .string => [("type", .str "string")]
  | .integer => [("type", .str "integer")]
  | .boolean => [("type", .str "boolean")]
  | .strings => [("type", .str "array"), ("items", .obj [("type", .str "string")])]

end ArgumentType

/-- The schema of an argument. -/
def Argument.schema (a : Argument) : Json :=
  .obj (a.type.schema ++ [("description", .str a.description)] ++
    if a.isOptional then [("nullable", .bool true)] else [])

namespace Tool

/-- The tools in the order in which they are listed. -/
def all : List Tool :=
  [.mockThis, .mockEverything, .toggleSpec, .resolveSpecFile]

def name : Tool → String
  | .mockThis => "mock_this"
  | .mockEverything => "mock_everything"
  | .toggleSpec => "toggle_spec"
  | .resolveSpecFile => "resolve_spec_file"

/-- The tool of a name. -/
def ofName? (name : String) : Option Tool :=
  all.find? fun tool => tool.name == name

def description : Tool → String
  | .mockThis =>
    "Generate a Jasmine/Angular test scaffold for the method or function at a caret position in " ++
    "a JavaScript or TypeScript file. Builds an `it` block that instantiates the class with " ++
    "spy-object stubs for its constructor dependencies, declares typed placeholders for the " ++
    "method's parameters, calls the method and expects a defined result (or subscribes/awaits it " ++
    "for observables and promises). The block is inserted into the last describe group of the " ++
    "companion spec file, which is created when missing. Returns the target file, insertion line " ++
    "and inserted text."
  | .mockEverything =>
    "Generate a complete Jasmine/Angular spec for a JavaScript or TypeScript file: an `it` block " ++
    "for every method or function, wrapped in a describe group named after the class (with " ++
    "constructor stubs in beforeEach) when there is more than one. Appends the group to the " ++
    "companion spec file (created when missing) together with the import of the class under " ++
    "test. Returns the target file, insertion line and inserted text."
  | .toggleSpec =>
    "Find the source file and spec files that share a base name with the given file (e.g. " ++
    "foo.ts, foo.spec.ts, foo.test.ts) and return the next one in sorted order, wrapping " ++
    "around. Use this to jump between an implementation and its tests."
  | .resolveSpecFile =>
    "Report which companion spec file the mock_this and mock_everything tools would write to " ++
    "for a source file, and whether it already exists. Nothing is generated or created."

/-! ## Arguments -/

def sourcePath : Argument :=
  ⟨"file_path", .string, "Path to the source file", false⟩

def suffixes : Argument :=
  { name := "spec_suffix"
    type := .strings
    description := "Spec file suffixes, e.g. [\".spec\", \".test\"] (default: [\".spec\"])" }

def newExtension : Argument :=
  { name := "default_extension"
    type := .string
    description := "Suffix used when creating a new spec file (default: \".spec\")" }

def arguments : Tool → List Argument
  | .mockThis =>
    [sourcePath,
      ⟨"line", .integer, "Caret line number (1-indexed)", false⟩,
      ⟨"column", .integer, "Caret column number (1-indexed, default: 1)", true⟩,
      suffixes, newExtension]
  | .mockEverything =>
    [sourcePath,
      ⟨"exported_only", .boolean, "Only generate tests for exported functions (default: false)",
        false⟩,
      suffixes, newExtension]
  | .toggleSpec =>
    [⟨"file_path", .string, "Path to the file currently open", false⟩,
      ⟨"root", .string, "Directory to search (default: the file's directory)", true⟩,
      ⟨"exclude", .strings, "Glob patterns to skip (default: [\"**/node_modules\"])", true⟩,
      suffixes]
  | .resolveSpecFile => [sourcePath, suffixes, newExtension]

/-- The schema of the arguments of a tool. -/
def inputSchema (t : Tool) : Json :=
  .obj [("type", .str "object"),
    ("properties", .obj (t.arguments.map fun a => (a.name, a.schema))),
    ("required", .ofStrings ((t.arguments.filter fun a => !a.isOptional).map (·.name)))]

/-- A tool as listed to a client. -/
def toJson (t : Tool) : Json :=
  .obj [("name", .str t.name), ("description", .str t.description), ("inputSchema", t.inputSchema)]

end Tool

end SpecScaffold
