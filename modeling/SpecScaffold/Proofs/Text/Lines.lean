import Mathlib.Data.List.TakeWhile
import SpecScaffold.Text.Blank
import SpecScaffold.Text.Lines

/-!
# Lines of a text put together from parts

Cutting a text into lines or pieces commutes with putting it together, where the first part is
whole lines (`fullLines_append`) or the cut falls on a separator (`pieces_append_cons`).  A text is
blank exactly when nothing is left of it after trimming (`trim_eq_nil_iff`).
-/

namespace SpecScaffold.Text

/-! ## Full lines -/

/-- A text of whole lines: it is empty or ends in a line feed. -/
def IsWholeLines (cs : List Char) : Prop :=
  ∀ c, cs.getLast? = some c → c = '\n'

theorem isWholeLines_nil : IsWholeLines [] := by
  intro c h
  cases h

theorem isWholeLines_concat (cs : List Char) : IsWholeLines (cs ++ ['\n']) := by
  intro c h
  simpa using h.symm

theorem IsWholeLines.append {as bs : List Char} (ha : IsWholeLines as) (hb : IsWholeLines bs) :
    IsWholeLines (as ++ bs) := by
  intro c h
  rw [List.getLast?_append, Option.or_eq_some_iff] at h
  rcases h with h | ⟨-, h⟩
  · exact hb c h
  · exact ha c h

theorem fullLines_eq_nil_iff {cs : List Char} : fullLines cs = [] ↔ cs = [] := by
  constructor
  · intro h
    rw [← flatten_fullLines cs, h, List.flatten_nil]
  · rintro rfl
    rfl

/-- After whole lines the lines of the rest follow. -/
theorem fullLines_append {as : List Char} (h : IsWholeLines as) (bs : List Char) :
    fullLines (as ++ bs) = fullLines as ++ fullLines bs := by
  induction as with
  | nil => rfl
  | cons a as ih =>
    cases as with
    | nil =>
      obtain rfl : a = '\n' := h a rfl
      rfl
    | cons a' as =>
      have hrest := ih fun c hc => h c (by rwa [List.getLast?_cons_cons])
      cases hf : fullLines (a' :: as) with
      | nil => exact absurd (fullLines_eq_nil_iff.1 hf) (by simp)
      | cons l ls =>
        rw [hf] at hrest
        rw [List.cons_append, fullLines, hrest, fullLines, hf]
        split <;> rfl

/-- A text up to its first line feed is its first line. -/
theorem fullLines_line {cs : List Char} (h : '\n' ∉ cs) :
    fullLines (cs ++ ['\n']) = [cs ++ ['\n']] := by
  induction cs with
  | nil => rfl
  | cons c cs ih =>
    simp only [List.mem_cons, not_or] at h
    rw [List.cons_append, fullLines, if_neg (Ne.symm h.1), ih h.2]

/-! ## Pieces -/

/-- A separator ends a piece. -/
theorem pieces_append_cons {sep : Char} {cs : List Char} (h : sep ∉ cs) (rest : List Char) :
    pieces sep (cs ++ sep :: rest) = cs :: pieces sep rest := by
  induction cs with
  | nil => simp [pieces]
  | cons c cs ih =>
    simp only [List.mem_cons, not_or] at h
    rw [List.cons_append, pieces, if_neg (Ne.symm h.1), ih h.2, List.modifyHead_cons]

/-- Lines that are each ended by a separator, before the rest of a text. -/
theorem pieces_flatMap_append {sep : Char} {ls : List (List Char)} (h : ∀ l ∈ ls, sep ∉ l)
    (rest : List Char) :
    pieces sep (ls.flatMap (· ++ [sep]) ++ rest) = ls ++ pieces sep rest := by
  induction ls with
  | nil => rfl
  | cons l ls ih =>
    have hl := h l List.mem_cons_self
    have hls := ih fun l' hl' => h l' (List.mem_cons_of_mem _ hl')
    rw [List.flatMap_cons, List.append_assoc, List.append_assoc, List.singleton_append,
      pieces_append_cons hl, hls]
    rfl

theorem joined_cons (sep p : List Char) {ps : List (List Char)} (h : ps ≠ []) :
    joined sep (p :: ps) = p ++ sep ++ joined sep ps :=
  List.intercalate_cons_of_ne_nil h

/-! ## Blank texts -/

theorem trim_eq_nil_iff {cs : List Char} : trim cs = [] ↔ ∀ c ∈ cs, isBlank c = true := by
  unfold trim trimEnd dropEndWhile trimStart
  rw [List.reverse_eq_nil_iff, List.dropWhile_eq_nil_iff]
  simp only [List.mem_reverse]
  constructor
  · intro h
    rw [← List.dropWhile_eq_nil_iff]
    cases hd : cs.dropWhile isBlank with
    | nil => rfl
    | cons c rest =>
      -- what is left starts with a character that is not blank
      have hc : isBlank c = false := by
        have hhead := List.head?_dropWhile_not isBlank cs
        rw [hd] at hhead
        exact hhead
      rw [hd] at h
      rw [h c List.mem_cons_self] at hc
      cases hc
  · intro h c hc
    exact h c ((List.dropWhile_sublist isBlank).subset hc)

end SpecScaffold.Text
