/-!
# Lines of code

Generated code is a list of lines, each with its depth; depth becomes two blanks per level only when
the lines are written out.
-/

namespace SpecScaffold

inductive Line where
  | blank
  | code (depth : Nat) (text : String)
deriving DecidableEq, Repr

namespace Line

/-- One level of indentation. -/
def indent : List Char := [' ', ' ']

/-- The line one level deeper; a blank line has no depth. -/
def nest : Line → Line
  | .blank => .blank
  | .code depth text => .code (depth + 1) text

/-- A line as it is written. -/
def chars : Line → List Char
  | .blank => ['\n']
  | .code depth text => (List.replicate depth indent).flatten ++ text.toList ++ ['\n']

/-- Lines as they are written. -/
def text (lines : List Line) : List Char :=
  lines.flatMap chars

@[simp]
theorem text_append (ls ms : List Line) : text (ls ++ ms) = text ls ++ text ms := by
  simp [text]

/-- A line of code one level deeper starts with one indentation more. -/
theorem chars_nest_code (depth : Nat) (s : String) :
    (nest (.code depth s)).chars = indent ++ chars (.code depth s) := by
  simp [nest, chars, List.replicate_succ]

end Line

end SpecScaffold
