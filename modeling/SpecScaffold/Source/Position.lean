import SpecScaffold.Text.Blank
import SpecScaffold.Text.Bytes
import SpecScaffold.Text.Lines

/-!
# Positions

A position is a line and a column, both counted from one; zero is taken for one.  A column past the
end of its line is the end of that line, before its terminator; a line past the end is the end of
the text.
-/

namespace SpecScaffold.Text

/-- Whether a character belongs to the end of a line. -/
def isLineEnd (c : Char) : Bool :=
  c == '\n' || c == '\r'

/-- Number of bytes of a full line before its end. -/
def contentLength (line : List Char) : Nat :=
  byteLength (dropEndWhile isLineEnd line)

/-- The byte offset of a line and column. -/
def offsetAt (cs : List Char) (line column : Nat) : Nat :=
  match (fullLines cs)[line - 1]? with
  | some text =>
    byteLength ((fullLines cs).take (line - 1)).flatten + min (column - 1) (contentLength text)
  | none => byteLength cs

end SpecScaffold.Text
