/-!
# Lines

A text is cut in two ways: `pieces` between separators, so that there is one more piece than there
are separators, and `fullLines` just after each line feed, so that the concatenation gives the text
back and no full line is empty.
-/

namespace SpecScaffold.Text

/-- What stands between the separators `sep`. -/
def pieces (sep : Char) : List Char → List (List Char)
  | [] => [[]]
  | c :: cs => if c = sep then [] :: pieces sep cs else (pieces sep cs).modifyHead (c :: ·)

/-- The pieces put together again with `sep` between them. -/
def joined (sep : List Char) (ps : List (List Char)) : List Char :=
  sep.intercalate ps

/-- The lines of a text, each with its line feed; the last one may have none. -/
def fullLines : List Char → List (List Char)
  | [] => []
  | c :: cs =>
    if c = '\n' then [c] :: fullLines cs
    else match fullLines cs with
      | [] => [[c]]
      | l :: ls => (c :: l) :: ls

/-- A full line without its line feed and without one carriage return before that. -/
def lineContent (line : List Char) : List Char :=
  match line.reverse with
  | '\n' :: '\r' :: rest => rest.reverse
  | '\n' :: rest => rest.reverse
  | _ => line

/-- The lines of a text without their ends. -/
def lines (cs : List Char) : List (List Char) :=
  (fullLines cs).map lineContent

/-! ## Nothing is lost -/

theorem pieces_ne_nil (sep : Char) (cs : List Char) : pieces sep cs ≠ [] := by
  induction cs with
  | nil => simp [pieces]
  | cons c cs ih =>
    rw [pieces]
    split
    · simp
    · cases h : pieces sep cs with
      | nil => exact absurd h ih
      | cons p ps => simp

/-- The pieces of a text with the separators between them are the text. -/
theorem joined_pieces (sep : Char) (cs : List Char) : joined [sep] (pieces sep cs) = cs := by
  induction cs with
  | nil => simp [pieces, joined, List.intercalate]
  | cons c cs ih =>
    rw [pieces]
    cases h : pieces sep cs with
    | nil => exact absurd h (pieces_ne_nil sep cs)
    | cons p ps =>
      rw [h] at ih
      by_cases hc : c = sep
      · rw [if_pos hc, hc, ← ih]
        simp [joined, List.intercalate]
      · rw [if_neg hc, ← ih]
        cases ps <;> simp [joined, List.intercalate]

/-- The full lines of a text, one after the other, are the text. -/
theorem flatten_fullLines (cs : List Char) : (fullLines cs).flatten = cs := by
  induction cs with
  | nil => simp [fullLines]
  | cons c cs ih =>
    rw [fullLines]
    split
    · simp [ih]
    · cases h : fullLines cs with
      | nil => rw [h] at ih; simp [← ih]
      | cons l ls => rw [h] at ih; simp [← ih]

end SpecScaffold.Text
