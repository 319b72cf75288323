import SpecScaffold.Source.Lexeme
import SpecScaffold.TreeCache

/-!
# Plain code

A parser for callers that have no other: it reads functions and classes with methods, nested at
will, whose parameters are names, whose types are single words and whose bodies return names or
numbers.  `read?` gives the whole tree of such a text, every mark and keyword included, and nothing
for any other text; `parser` then takes the text for one without declarations.
-/

namespace SpecScaffold.Plain

/-- A step that takes lexemes from the front, or fails. -/
abbrev Reading := StateT (List Lexeme) Option

/-! ## Nodes -/

/-- A node around the nodes that it consists of. -/
def node (kind : String) (children : List Node) : Node :=
  { kind, children, named := true, field? := none
    start := (children.head?.map (·.start)).getD 0
    stop := (children.getLast?.map (·.stop)).getD 0 }

/-- A node of one lexeme. -/
def leaf (kind : String) (named : Bool) (l : Lexeme) : Node :=
  { kind, named, start := l.start, stop := l.stop, field? := none, children := [] }

/-- A keyword or a mark. -/
def fixed (l : Lexeme) : Node :=
  leaf (String.ofList l.text) false l

def inField (f : Field) (n : Node) : Node :=
  { n with field? := some f }

/-! ## Words -/

/-- The types that have a keyword of their own. -/
def typeKeywords : List String :=
  ["any", "boolean", "never", "number", "object", "string", "symbol", "unknown", "void"]

/-- Words with a meaning of their own in some place, which are not read as names. -/
def keywords : List String :=
  ["abstract", "accessor", "as", "asserts", "async", "await", "break", "case", "catch", "class",
    "const", "continue", "debugger", "declare", "default", "delete", "do", "else", "enum", "export",
    "extends", "false", "finally", "for", "from", "function", "get", "global", "if", "implements",
    "import", "in", "infer", "instanceof", "interface", "is", "keyof", "let", "meta", "module",
    "namespace", "new", "null", "of", "override", "package", "private", "protected", "public",
    "readonly", "require", "return", "satisfies", "set", "static", "super", "switch", "target",
    "this", "throw", "true", "try", "type", "typeof", "undefined", "unique", "using", "var", "void",
    "while", "with", "yield"] ++ typeKeywords

def isKeyword (l : Lexeme) (words : List String) : Bool :=
  words.contains (String.ofList l.text)

/-- Whether a lexeme can only be a name. -/
def isName (l : Lexeme) : Bool :=
  l.isWord && !(l.text.head?.any Char.isDigit) && !isKeyword l keywords

/-- Whether a lexeme is a whole number without leading zeros. -/
def isNumber (l : Lexeme) : Bool :=
  l.text.all Char.isDigit && (l.text.length == 1 || l.text.head? != some '0')

/-! ## Small parts -/

/-- The next lexeme, if it passes the test. -/
def takeIf (test : Lexeme → Bool) : Reading Lexeme
  | l :: ls => if test l then some (l, ls) else none
  | [] => none

/-- Whether the next lexeme passes the test. -/
def nextIs (test : Lexeme → Bool) : Reading Bool
  | ls => some (ls.head?.any test, ls)

def mark (c : Char) : Reading Node := do
  return fixed (← takeIf (·.isMark c))

def keyword (word : String) : Reading Node := do
  return fixed (← takeIf (isKeyword · [word]))

def name (kind : String) : Reading Node := do
  return leaf kind true (← takeIf isName)

/-- A mark that need not be there. -/
def markIf (c : Char) : Reading (List Node) := do
  if ← nextIs (·.isMark c) then return [← mark c] else return []

/-- A type of one word. -/
def typeWord : Reading Node := do
  if ← nextIs (isKeyword · typeKeywords) then
    return node "predefined_type" [fixed (← takeIf Lexeme.isWord)]
  else name "type_identifier"

/-- The type after a colon, which need not be there. -/
def annotation (language : Language) (f : Field) : Reading (List Node) := do
  if language != .javaScript && (← nextIs (·.isMark ':')) then
    return [inField f (node "type_annotation" [← mark ':', ← typeWord])]
  else return []

/-- What `item` reads, again and again up to the mark `c`. -/
def upTo (c : Char) (item : Reading (List Node)) : Nat → Reading (List Node)
  | 0 => failure
  | fuel + 1 => do
    if ← nextIs (·.isMark c) then return []
    else return (← item) ++ (← upTo c item fuel)

/-! ## Parameters -/

/-- A parameter, and the comma after it unless it is the last one. -/
def parameter (language : Language) : Reading (List Node) := do
  let pattern ← name "identifier"
  let type ← annotation language .type
  let parameter := if language == .javaScript then pattern
    else node "required_parameter" (inField .pattern pattern :: type)
  if ← nextIs (·.isMark ')') then return [parameter]
  else return [parameter, ← mark ',']

def parameters (language : Language) (fuel : Nat) : Reading Node := do
  return inField .parameters (node "formal_parameters"
    ([← mark '('] ++ (← upTo ')' (parameter language) fuel) ++ [← mark ')']))

/-! ## Statements -/

/-- What stands between `return` and the end of its statement. -/
def returned : Reading (List Node) := do
  if ← nextIs fun l => l.isMark ';' || l.isMark '}' then return []
  else
    let l ← takeIf fun l => !l.afterBreak && (isName l || isNumber l)
    return [leaf (if isNumber l then "number" else "identifier") true l]

/-- A return statement, which ends in a semicolon or before a closing brace. -/
def returnStatement : Reading Node := do
  let start ← keyword "return"
  let value ← returned
  let semicolon ← markIf ';'
  if semicolon.isEmpty && !(← nextIs (·.isMark '}')) then failure
  else return node "return_statement" (start :: value ++ semicolon)

mutual

def block (language : Language) : Nat → Reading Node
  | 0 => failure
  | fuel + 1 => do
    return node "statement_block" ([← mark '{'] ++
      (← upTo '}' (do return [← statement language fuel]) fuel) ++ [← mark '}'])

/-- What functions and methods have after their names. -/
def callable (language : Language) : Nat → Reading (List Node)
  | 0 => failure
  | fuel + 1 => do
    let params ← parameters language fuel
    let type ← annotation language .returnType
    return params :: type ++ [← block language fuel]

def method (language : Language) : Nat → Reading (List Node)
  | 0 => failure
  | fuel + 1 => do
    let name := inField .name (leaf "property_identifier" true (← takeIf isName))
    return [node "method_definition" (name :: (← callable language fuel))]

/-- A block, a return, a function, a class, or one of these two with `export` before it. -/
def statement (language : Language) : Nat → Reading Node
  | 0 => failure
  | fuel + 1 => do
    if ← nextIs (·.isMark '{') then block language fuel
    else if ← nextIs (isKeyword · ["return"]) then returnStatement
    else if ← nextIs (isKeyword · ["export"]) then
      return node "export_statement" [← keyword "export", ← declaration language fuel]
    else declaration language fuel

def declaration (language : Language) : Nat → Reading Node
  | 0 => failure
  | fuel + 1 => do
    if ← nextIs (isKeyword · ["function"]) then
      let start ← keyword "function"
      let title := inField .name (← name "identifier")
      return node "function_declaration" (start :: title :: (← callable language fuel))
    else
      let start ← keyword "class"
      let title := inField .name
        (← name (if language == .javaScript then "identifier" else "type_identifier"))
      let body := node "class_body" ([← mark '{'] ++ (← upTo '}' (method language fuel) fuel) ++
        [← mark '}'])
      return node "class_declaration" [start, title, body]

end

/-! ## Texts -/

/-- The statements of a text, up to its end.  A lexeme is never passed by more than eight rules that
take none before it, which bounds the fuel of a statement. -/
def statements (language : Language) : Nat → List Lexeme → Option (List Node)
  | _, [] => some []
  | 0, _ => none
  | fuel + 1, ls => do
    let (first, rest) ← statement language (8 * ls.length) ls
    return first :: (← statements language fuel rest)

/-- A tree that holds these statements; it starts where they do and ends with the text. -/
def program (cs : List Char) (children : List Node) : Node :=
  let stop := Text.byteLength cs
  { kind := "program", named := true, field? := none, children, stop
    start := (children.head?.map (·.start)).getD stop }

/-- The tree of a text, if the text is plain code. -/
def read? (language : Language) (text : String) : Option Node :=
  let cs := text.toList
  let lexemes := Lexeme.ofText cs
  (statements language lexemes.length lexemes).map (program cs)

/-- The parser for plain code, which finds no declarations in any other text. -/
def parser : Parser := fun language text =>
  (read? language text).getD (program text.toList [])

end SpecScaffold.Plain
