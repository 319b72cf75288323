import SpecScaffold.Text.Alphanumeric
import SpecScaffold.Text.Blank

/-!
# Lexemes of plain code

Plain code is made of words and of marks of one character, with blanks between them.  Strings and
comments are not lexemes: their quotes and slashes come out as marks, which no rule of plain code
takes.
-/

namespace SpecScaffold

/-- A word or a mark, with its place in the text in bytes. -/
structure Lexeme where
  text : List Char
  start : Nat
  stop : Nat
  /-- Whether a line ends between the lexeme before and this one. -/
  afterBreak : Bool

namespace Lexeme

/-- A character that separates lexemes; a byte order mark is one. -/
def isGap (c : Char) : Bool :=
  Text.isBlank c || c == '\ufeff'

/-- A character of words. -/
def isWordChar (c : Char) : Bool :=
  Text.isAlphanumeric c || c == '_' || c == '$'

def isWord (l : Lexeme) : Bool :=
  l.text.any isWordChar

def isMark (l : Lexeme) (c : Char) : Bool :=
  l.text == [c]

/-- Puts a character before lexemes of which the first may be the rest of its word. -/
def extend (c : Char) (start stop : Nat) (afterBreak : Bool) : List Lexeme → List Lexeme
  | [] => [⟨[c], start, stop, afterBreak⟩]
  | l :: ls =>
    if isWordChar c && l.isWord && l.start == stop then
      ⟨c :: l.text, start, l.stop, afterBreak⟩ :: ls
    else ⟨[c], start, stop, afterBreak⟩ :: l :: ls

/-- The lexemes of a text that begins at an offset. -/
def scan (offset : Nat) (afterBreak : Bool) : List Char → List Lexeme
  | [] => []
  | c :: cs =>
    let next := offset + c.utf8Size
    if isGap c then scan next (afterBreak || c == '\n') cs
    else extend c offset next afterBreak (scan next false cs)

/-- The lexemes of a text. -/
def ofText (cs : List Char) : List Lexeme :=
  scan 0 false cs

end Lexeme

end SpecScaffold
