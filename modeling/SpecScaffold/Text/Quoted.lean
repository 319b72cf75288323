import SpecScaffold.Text.Hex

/-!
# Quoted strings

A string of a JSON document: a quote, a backslash and the control characters below U+0020 are
escaped, by a letter where there is one and by `\u00xx` otherwise; everything else stands as it is.
-/

namespace SpecScaffold.Text

/-- One character inside quotes. -/
def quoteChar (c : Char) : List Char :=
  match c with
  | '"' => ['\\', '"']
  | '\\' => ['\\', '\\']
  | '\x08' => ['\\', 'b']
  | '\x0c' => ['\\', 'f']
  | '\n' => ['\\', 'n']
  | '\r' => ['\\', 'r']
  | '\t' => ['\\', 't']
  | c =>
    if c.toNat < 0x20 then ['\\', 'u', '0', '0'] ++ hexPair c.toNat else [c]

/-- A text between quotes. -/
def quoted (cs : List Char) : List Char :=
  '"' :: cs.flatMap quoteChar ++ ['"']

end SpecScaffold.Text
