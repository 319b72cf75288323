import SpecScaffold.Text.Blank
import SpecScaffold.Text.Bytes
import SpecScaffold.Text.Lines

/-!
# Inserting into a document

Where generated code goes in a test file.  In a blank document it goes to the start.  Otherwise the
imports that are not wanted are dropped, and the rest is put either before the last line that is
`});`, one level deeper than that line, or at the end after a blank line.

A document is only ever added to: `Insertion.applyTo?` puts the text between what stands before and
after the offset.
-/

namespace SpecScaffold

open Text

/-- A text to insert, the byte offset to insert it at, and the line of that offset, from zero. -/
structure Insertion where
  offset : Nat
  line : Nat
  text : String
  /-- The document should be formatted again afterwards. -/
  wantsFormatting : Bool
deriving DecidableEq, Repr

namespace Insertion

/-- The document with the text inserted; `none` when the offset is inside a character. -/
def applyTo? (i : Insertion) (document : String) : Option String :=
  (splitAtByte? i.offset document.toList).map fun (before, after) =>
    String.ofList (before ++ i.text.toList ++ after)

/-- The new document is the old one with the text somewhere in it. -/
theorem eq_append_of_applyTo? {i : Insertion} {document result : String}
    (h : i.applyTo? document = some result) :
    ∃ before after, before ++ after = document.toList ∧
      result = String.ofList (before ++ i.text.toList ++ after) := by
  obtain ⟨⟨before, after⟩, hs, rfl⟩ := Option.map_eq_some_iff.1 h
  exact ⟨before, after, append_of_splitAtByte? hs, rfl⟩

/-! ## Imports -/

def isImport (line : List Char) : Bool :=
  "import".toList.isPrefixOf line

/-- The text without the lines that start with `import`. -/
def withoutImports (cs : List Char) : List Char :=
  joined ['\n'] ((pieces '\n' cs).filter fun line => !isImport line)

/-- Whether a document has a line, up to white space around it. -/
def hasLine (document line : List Char) : Bool :=
  (lines document).any fun l => trim l == trim line

/-- The text without the imports that the document has already. -/
def withoutKnownImports (document cs : List Char) : List Char :=
  joined ['\n'] ((pieces '\n' cs).filter fun line => !(isImport line && hasLine document line))

/-! ## The end of the last group -/

/-- The line that closes a group. -/
def closingMark : List Char := "\x7d);".toList

def closesGroup (line : List Char) : Bool :=
  trim line == closingMark

/-- The lines before the last one that closes a group, nearest first, and that line. -/
def lastClosing? (document : List Char) : Option (List (List Char) × List Char) :=
  match (fullLines document).reverse.dropWhile fun line => !closesGroup line with
  | [] => none
  | line :: before => some (before, line)

/-- A line one level deeper than `margin`; a blank line loses its blanks and tabs. -/
def deepenLine (margin line : List Char) : List Char :=
  if (trim line).isEmpty then line.dropWhile fun c => c == ' ' || c == '\t' else margin ++ line

/-- The text with every line indented. -/
def deepen (margin cs : List Char) : List Char :=
  (fullLines cs).flatMap (deepenLine margin)

/-! ## The plan -/

/-- What is inserted into a document that is not blank: without the imports that the document has,
or without any, and without empty lines at its start. -/
def insertedBody (document generated : List Char) (hasImport : Bool) : List Char :=
  (if hasImport then withoutKnownImports document generated else withoutImports generated).dropWhile
    fun c => c == '\n' || c == '\r'

/-- Before the line that closes the last group, after the lines `before`. -/
def inGroup (before : List (List Char)) (closing body : List Char) : Insertion :=
  { offset := byteLength before.reverse.flatten
    line := before.length
    text := String.ofList ('\n' :: deepen (leadingBlank closing ++ [' ', ' ']) body)
    wantsFormatting := true }

/-- At the end of a document, after a blank line. -/
def atEnd (document body : List Char) : Insertion :=
  { offset := byteLength document
    line := (fullLines document).length
    text := String.ofList
      ((if document.getLast? == some '\n' then ['\n'] else ['\n', '\n']) ++ body)
    wantsFormatting := true }

/-- Where and what to insert.  `hasImport` says that the code brings an import of its own,
`joinsGroup` that it is to join the last group. -/
def plan (document generated : String) (hasImport joinsGroup : Bool) : Insertion :=
  let cs := document.toList
  if (trim cs).isEmpty then ⟨0, 0, generated, true⟩
  else
    let body := insertedBody cs generated.toList hasImport
    match joinsGroup, lastClosing? cs with
    | true, some (before, closing) => inGroup before closing body
    | _, _ => atEnd cs body

end Insertion

end SpecScaffold
