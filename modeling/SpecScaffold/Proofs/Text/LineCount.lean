import Mathlib.Data.List.DropRight
import SpecScaffold.Proofs.Text.Lines

/-!
# How often a text has a line

Lines are told apart up to white space around them, and `lineCount` says how many lines of a text
are a given one.  The count of a line that is not blank is the same over the pieces between the line
feeds, so that it adds up wherever a text is put together at a line feed:

    lineCount line (as ++ '\n' :: bs) = lineCount line as + lineCount line bs

Blanks around a line, and empty lines, do not count.
-/

namespace SpecScaffold.Text

/-! ## Trimming -/

theorem dropEndWhile_eq_rdropWhile (p : Char → Bool) (cs : List Char) :
    dropEndWhile p cs = cs.rdropWhile p := rfl

theorem trim_append_blank {as bs : List Char} (h : ∀ c ∈ bs, isBlank c = true) :
    trim (as ++ bs) = trim as := by
  have hend : bs.dropWhile isBlank = [] := List.dropWhile_eq_nil_iff.2 h
  unfold trim trimStart
  rw [List.dropWhile_append]
  split
  · next hempty => rw [hend, List.isEmpty_iff.1 hempty]
  · rw [trimEnd, dropEndWhile, List.reverse_append,
      List.dropWhile_append_of_pos fun c hc => h c (List.mem_reverse.1 hc)]
    rfl

theorem trim_blank_append {as : List Char} (h : ∀ c ∈ as, isBlank c = true) (bs : List Char) :
    trim (as ++ bs) = trim bs := by
  unfold trim trimStart
  rw [List.dropWhile_append_of_pos h]

theorem trim_concat_lineFeed (cs : List Char) : trim (cs ++ ['\n']) = trim cs :=
  trim_append_blank (List.all_eq_true.1 (by decide))

/-- The end of a line is white space. -/
theorem trim_lineContent (line : List Char) : trim (lineContent line) = trim line := by
  unfold lineContent
  split
  · next rest hline =>
    have heq : line = rest.reverse ++ ['\r', '\n'] := by
      rw [← List.reverse_reverse line, hline]
      simp
    rw [heq, trim_append_blank (List.all_eq_true.1 (by decide))]
  · next rest _ hline =>
    have heq : line = rest.reverse ++ ['\n'] := by
      rw [← List.reverse_reverse line, hline]
      simp
    rw [heq, trim_concat_lineFeed]
  · rfl

/-- A text without white space around it. -/
structure IsTrimmed (e : List Char) : Prop where
  start : trimStart e = e
  stop : trimEnd e = e
  ne_nil : e ≠ []

namespace IsTrimmed

variable {e : List Char} (he : IsTrimmed e)

include he

theorem dropWhile_reverse : e.reverse.dropWhile isBlank = e.reverse := by
  rw [← List.reverse_reverse (e.reverse.dropWhile isBlank)]
  exact congrArg List.reverse he.stop

theorem trimStart_append (rest : List Char) : trimStart (e ++ rest) = e ++ rest := by
  have hstart : e.dropWhile isBlank = e := he.start
  have hempty : e.isEmpty = false := by simpa using he.ne_nil
  rw [trimStart, List.dropWhile_append, hstart, if_neg (by simp [hempty])]

theorem trimEnd_append (front : List Char) : trimEnd (front ++ e) = front ++ e := by
  have hempty : e.reverse.isEmpty = false := by simpa using he.ne_nil
  rw [trimEnd, dropEndWhile, List.reverse_append, List.dropWhile_append, he.dropWhile_reverse,
    if_neg (by simp [hempty]), List.reverse_append, List.reverse_reverse, List.reverse_reverse]

/-- At the end of a text it stays at the end. -/
theorem suffix_trim {cs : List Char} (h : e <:+ cs) : e <:+ trim cs := by
  obtain ⟨front, rfl⟩ := h
  have hkeep : trimStart (front ++ e) = trimStart front ++ e := by
    have hstart : e.dropWhile isBlank = e := he.start
    rw [trimStart, List.dropWhile_append, hstart]
    split
    · next hempty => rw [trimStart, List.isEmpty_iff.1 hempty, List.nil_append]
    · rfl
  rw [trim, hkeep, he.trimEnd_append]
  exact List.suffix_append _ _

/-- At the start of a text it stays at the start. -/
theorem prefix_trim {cs : List Char} (h : e <+: cs) : e <+: trim cs := by
  obtain ⟨rest, rfl⟩ := h
  rw [trim, he.trimStart_append, trimEnd, dropEndWhile, List.reverse_append, List.dropWhile_append,
    he.dropWhile_reverse]
  split
  · simp
  · rw [List.reverse_append, List.reverse_reverse]
    exact List.prefix_append _ _

/-- A text that starts and ends in such texts has no white space around it either. -/
theorem trim_eq_self {cs e' : List Char} (he' : IsTrimmed e') (hstart : e <+: cs)
    (hstop : e' <:+ cs) : trim cs = cs := by
  obtain ⟨rest, hrest⟩ := hstart
  obtain ⟨front, hfront⟩ := hstop
  rw [trim, ← hrest, he.trimStart_append, hrest, ← hfront, he'.trimEnd_append]

end IsTrimmed

/-- What trimming leaves, if it leaves anything, cannot be trimmed any more. -/
theorem isTrimmed_trim {cs : List Char} (h : trim cs ≠ []) : IsTrimmed (trim cs) := by
  rw [trim, trimEnd, dropEndWhile_eq_rdropWhile] at h ⊢
  refine ⟨?_, List.rdropWhile_idempotent _ _, h⟩
  -- trimming the end leaves the character in front
  have hfront := List.rdropWhile_prefix isBlank (trimStart cs)
  refine List.dropWhile_eq_self_iff.2 fun hpos => ?_
  rw [hfront.getElem hpos]
  exact List.dropWhile_eq_self_iff.1 (List.dropWhile_idempotent isBlank cs) _

/-! ## Cutting at line feeds -/

/-- Every text is lines with a line feed each, and a rest without one. -/
theorem exists_lines (cs : List Char) :
    ∃ (ls : List (List Char)) (tail : List Char), (∀ l ∈ ls, '\n' ∉ l) ∧ '\n' ∉ tail ∧
      cs = ls.flatMap (· ++ ['\n']) ++ tail := by
  induction cs with
  | nil => exact ⟨[], [], by simp, by simp, rfl⟩
  | cons c cs ih =>
    obtain ⟨ls, tail, hls, htail, rfl⟩ := ih
    by_cases hc : c = '\n'
    · refine ⟨[] :: ls, tail, ?_, htail, by simp [hc]⟩
      simpa using hls
    · cases ls with
      | nil => exact ⟨[], c :: tail, by simp, by simp [Ne.symm hc, htail], rfl⟩
      | cons l ls =>
        refine ⟨(c :: l) :: ls, tail, ?_, htail, by simp⟩
        rw [List.forall_mem_cons] at hls ⊢
        exact ⟨by simp [Ne.symm hc, hls.1], hls.2⟩

theorem fullLines_flatMap_append {ls : List (List Char)} (h : ∀ l ∈ ls, '\n' ∉ l)
    (rest : List Char) :
    fullLines (ls.flatMap (· ++ ['\n']) ++ rest) = ls.map (· ++ ['\n']) ++ fullLines rest := by
  induction ls with
  | nil => rfl
  | cons l ls ih =>
    have hl := h l List.mem_cons_self
    have hls := ih fun l' hl' => h l' (List.mem_cons_of_mem _ hl')
    rw [List.flatMap_cons, List.append_assoc, fullLines_append (isWholeLines_concat l),
      fullLines_line hl, hls]
    rfl

theorem fullLines_of_notMem {cs : List Char} (h : '\n' ∉ cs) (hne : cs ≠ []) :
    fullLines cs = [cs] := by
  induction cs with
  | nil => exact absurd rfl hne
  | cons c cs ih =>
    simp only [List.mem_cons, not_or] at h
    rw [fullLines, if_neg (Ne.symm h.1)]
    cases cs with
    | nil => rfl
    | cons c' cs => rw [ih h.2 (by simp)]

theorem pieces_of_notMem {sep : Char} {cs : List Char} (h : sep ∉ cs) : pieces sep cs = [cs] := by
  induction cs with
  | nil => rfl
  | cons c cs ih =>
    simp only [List.mem_cons, not_or] at h
    rw [pieces, if_neg (Ne.symm h.1), ih h.2, List.modifyHead_cons]

/-- Pieces without separators can be put together and told apart again. -/
theorem pieces_joined {sep : Char} {ps : List (List Char)} (hne : ps ≠ [])
    (h : ∀ p ∈ ps, sep ∉ p) : pieces sep (joined [sep] ps) = ps := by
  induction ps with
  | nil => exact absurd rfl hne
  | cons p ps ih =>
    have hp := h p List.mem_cons_self
    cases ps with
    | nil => simpa [joined] using pieces_of_notMem hp
    | cons q ps =>
      have hps := ih (by simp) fun r hr => h r (List.mem_cons_of_mem _ hr)
      rw [joined_cons _ _ (by simp), List.append_assoc, List.singleton_append,
        pieces_append_cons hp, hps]

theorem notMem_of_mem_pieces {sep : Char} {cs p : List Char} (h : p ∈ pieces sep cs) :
    sep ∉ p := by
  induction cs generalizing p with
  | nil =>
    obtain rfl := List.mem_singleton.1 h
    exact List.not_mem_nil
  | cons c cs ih =>
    rw [pieces] at h
    split at h
    · rcases List.mem_cons.1 h with rfl | h
      · exact List.not_mem_nil
      · exact ih h
    · next hc =>
      cases hps : pieces sep cs with
      | nil => exact absurd hps (pieces_ne_nil sep cs)
      | cons q ps =>
        rw [hps, List.modifyHead_cons] at h
        rcases List.mem_cons.1 h with rfl | h
        · have hq := ih (p := q) (by simp [hps])
          simp [Ne.symm hc, hq]
        · exact ih (by simp [hps, h])

/-! ## Counting -/

/-- How many lines of a text are a given one, up to white space around them. -/
def lineCount (line cs : List Char) : Nat :=
  ((lines cs).map trim).count line

theorem lineCount_eq_fullLines (line cs : List Char) :
    lineCount line cs = ((fullLines cs).map trim).count line := by
  rw [lineCount, lines, List.map_map, Function.comp_def]
  simp only [trim_lineContent]

/-- After whole lines the count goes on. -/
theorem lineCount_append {as : List Char} (h : IsWholeLines as) (line bs : List Char) :
    lineCount line (as ++ bs) = lineCount line as + lineCount line bs := by
  simp only [lineCount_eq_fullLines, fullLines_append h, List.map_append, List.count_append]

section

variable {line : List Char} (hline : line ≠ [])

include hline

/-- A line that is not blank can be counted over the pieces. -/
theorem lineCount_eq_pieces (cs : List Char) :
    lineCount line cs = ((pieces '\n' cs).map trim).count line := by
  obtain ⟨ls, tail, hls, htail, rfl⟩ := exists_lines cs
  have hlines : (ls.map (· ++ ['\n'])).map trim = ls.map trim := by
    rw [List.map_map, Function.comp_def]
    simp only [trim_concat_lineFeed]
  have hrest : ((fullLines tail).map trim).count line = ([tail].map trim).count line := by
    by_cases hempty : tail = []
    · rw [hempty]
      exact (List.count_eq_zero.2 fun hmem => hline (List.mem_singleton.1 hmem)).symm
    · rw [fullLines_of_notMem htail hempty]
  rw [lineCount_eq_fullLines, fullLines_flatMap_append hls, pieces_flatMap_append hls,
    pieces_of_notMem htail, List.map_append, List.map_append, List.count_append,
    List.count_append, hlines, hrest]

theorem lineCount_cons_lineFeed (cs : List Char) :
    lineCount line ('\n' :: cs) = lineCount line cs := by
  rw [lineCount_eq_pieces hline, lineCount_eq_pieces hline, pieces, if_pos rfl, List.map_cons,
    List.count_cons_of_ne]
  exact fun h => hline h.symm

/-- A line feed between two texts ends a line. -/
theorem lineCount_append_cons (as bs : List Char) :
    lineCount line (as ++ '\n' :: bs) = lineCount line as + lineCount line bs := by
  have hend : lineCount line (as ++ ['\n']) = lineCount line as := by
    obtain ⟨ls, tail, hls, htail, rfl⟩ := exists_lines as
    have hempty : ((tail :: pieces '\n' []).map trim).count line =
        ([tail].map trim).count line := by
      show List.count line ([trim tail] ++ [[]]) = List.count line [trim tail]
      rw [List.count_append, List.count_cons_of_ne (Ne.symm hline), List.count_nil, Nat.add_zero]
    rw [List.append_assoc, lineCount_eq_pieces hline, lineCount_eq_pieces hline,
      pieces_flatMap_append hls, pieces_flatMap_append hls, pieces_append_cons htail,
      pieces_of_notMem htail, List.map_append, List.map_append, List.count_append,
      List.count_append, hempty]
  rw [List.append_cons, lineCount_append (isWholeLines_concat as), hend]

theorem lineCount_of_blank {cs : List Char} (h : ∀ c ∈ cs, isBlank c = true) :
    lineCount line cs = 0 := by
  rw [lineCount_eq_fullLines, List.count_eq_zero]
  intro hmem
  obtain ⟨l, hl, rfl⟩ := List.mem_map.1 hmem
  refine hline (trim_eq_nil_iff.2 fun c hc => h c ?_)
  rw [← flatten_fullLines cs]
  exact List.mem_flatten.2 ⟨l, hl, hc⟩

/-- White space at the start of a text does not count. -/
theorem lineCount_cons_blank {c : Char} (hc : isBlank c = true) (cs : List Char) :
    lineCount line (c :: cs) = lineCount line cs := by
  by_cases hfeed : c = '\n'
  · rw [hfeed, lineCount_cons_lineFeed hline]
  · rw [lineCount_eq_pieces hline, lineCount_eq_pieces hline, pieces, if_neg hfeed]
    cases hps : pieces '\n' cs with
    | nil => rfl
    | cons p ps =>
      have htrim : trim ([c] ++ p) = trim p := trim_blank_append (by simpa using hc) p
      rw [List.modifyHead_cons, List.map_cons, List.map_cons, ← htrim, List.singleton_append]

theorem lineCount_dropWhile {p : Char → Bool} (hp : ∀ c, p c = true → isBlank c = true)
    (cs : List Char) : lineCount line (cs.dropWhile p) = lineCount line cs := by
  induction cs with
  | nil => rfl
  | cons c cs ih =>
    cases hc : p c with
    | true => rw [List.dropWhile_cons_of_pos hc, ih, lineCount_cons_blank hline (hp c hc)]
    | false => rw [List.dropWhile_cons_of_neg (by simp [hc])]

theorem lineCount_joined {ps : List (List Char)} (h : ∀ p ∈ ps, '\n' ∉ p) :
    lineCount line (joined ['\n'] ps) = (ps.map trim).count line := by
  by_cases hne : ps = []
  · rw [hne]
    rfl
  · rw [lineCount_eq_pieces hline, pieces_joined hne h]

end

/-! ## Whole lines -/

theorem IsWholeLines.of_suffix {as bs : List Char} (h : as <:+ bs) (hb : IsWholeLines bs) :
    IsWholeLines as := by
  obtain ⟨front, rfl⟩ := h
  intro c hc
  refine hb c ?_
  rw [List.getLast?_append, hc, Option.some_or]

/-- A text of whole lines is lines with a line feed each. -/
theorem IsWholeLines.exists_lines {cs : List Char} (h : IsWholeLines cs) :
    ∃ ls : List (List Char), (∀ l ∈ ls, '\n' ∉ l) ∧ cs = ls.flatMap (· ++ ['\n']) := by
  obtain ⟨ls, tail, hls, htail, rfl⟩ := Text.exists_lines cs
  obtain rfl : tail = [] := by
    by_contra hne
    have hlast := h (tail.getLast hne) (by
      rw [List.getLast?_append, List.getLast?_eq_some_getLast hne, Option.some_or])
    exact htail (hlast ▸ List.getLast_mem hne)
  exact ⟨ls, hls, List.append_nil _⟩

theorem fullLines_flatMap {ls : List (List Char)} (h : ∀ l ∈ ls, '\n' ∉ l) :
    fullLines (ls.flatMap (· ++ ['\n'])) = ls.map (· ++ ['\n']) := by
  rw [← List.append_nil (ls.flatMap _), fullLines_flatMap_append h]
  exact List.append_nil _

/-- Pieces of which the last is empty make whole lines. -/
theorem isWholeLines_joined (ps : List (List Char)) :
    IsWholeLines (joined ['\n'] (ps ++ [[]])) := by
  induction ps with
  | nil => exact isWholeLines_nil
  | cons p ps ih =>
    rw [List.cons_append, joined_cons _ _ (by simp)]
    exact (isWholeLines_concat p).append ih

theorem isWholeLines_flatMap {α : Type} {f : α → List Char} {xs : List α}
    (h : ∀ x ∈ xs, IsWholeLines (f x)) : IsWholeLines (xs.flatMap f) := by
  induction xs with
  | nil => exact isWholeLines_nil
  | cons x xs ih =>
    rw [List.flatMap_cons]
    exact (h x List.mem_cons_self).append (ih fun y hy => h y (List.mem_cons_of_mem _ hy))

/-- A line has no line feed but at its end. -/
theorem exists_of_mem_fullLines {cs line : List Char} (h : line ∈ fullLines cs) :
    ∃ p, '\n' ∉ p ∧ (line = p ++ ['\n'] ∨ line = p) := by
  obtain ⟨ls, tail, hls, htail, rfl⟩ := exists_lines cs
  rw [fullLines_flatMap_append hls, List.mem_append] at h
  rcases h with h | h
  · obtain ⟨p, hp, rfl⟩ := List.mem_map.1 h
    exact ⟨p, hls p hp, .inl rfl⟩
  · have hne : tail ≠ [] := by
      rintro rfl
      cases h
    rw [fullLines_of_notMem htail hne] at h
    obtain rfl := List.mem_singleton.1 h
    exact ⟨line, htail, .inr rfl⟩

/-- All lines but the last one have a line feed, and in whole lines the last one has it too. -/
theorem isWholeLines_of_fullLines {cs : List Char} {before after : List (List Char)}
    (h : fullLines cs = before ++ after) (hafter : after ≠ []) : IsWholeLines before.flatten := by
  obtain ⟨ls, tail, hls, htail, rfl⟩ := exists_lines cs
  rw [fullLines_flatMap_append hls] at h
  have hbefore : ∀ l ∈ before, l ∈ ls.map (· ++ ['\n']) := by
    intro l hl
    have hinit : l ∈ (ls.map (· ++ ['\n']) ++ fullLines tail).dropLast := by
      rw [h, List.dropLast_append_of_ne_nil hafter]
      exact List.mem_append_left _ hl
    by_cases hempty : tail = []
    · rw [hempty] at hinit
      exact (List.dropLast_sublist _).subset (by simpa [fullLines] using hinit)
    · rwa [fullLines_of_notMem htail hempty, List.dropLast_concat] at hinit
  rw [← List.flatMap_id]
  refine isWholeLines_flatMap fun l hl => ?_
  obtain ⟨p, -, rfl⟩ := List.mem_map.1 (hbefore l hl)
  exact isWholeLines_concat p

theorem ne_nil_of_mem_fullLines {cs line : List Char} (h : line ∈ fullLines cs) : line ≠ [] := by
  induction cs generalizing line with
  | nil => cases h
  | cons c cs ih =>
    rw [fullLines] at h
    split at h
    · rcases List.mem_cons.1 h with rfl | h
      · simp
      · exact ih h
    · cases hrest : fullLines cs with
      | nil =>
        rw [hrest] at h
        obtain rfl := List.mem_singleton.1 h
        simp
      | cons l ls =>
        rw [hrest] at h
        rcases List.mem_cons.1 h with rfl | h
        · simp
        · exact ih (by rw [hrest]; exact List.mem_cons_of_mem _ h)

/-- A list of lists that are not empty is cut where its concatenation is cut. -/
theorem append_inj_of_flatten_eq {α : Type} {xs ys as bs : List (List α)} (h : xs ++ ys = as ++ bs)
    (hflat : xs.flatten = as.flatten) (hne : ∀ l ∈ as ++ bs, l ≠ []) : xs = as ∧ ys = bs := by
  have hnil : ∀ {zs : List (List α)}, (∀ l ∈ zs, l ∈ as ++ bs) → zs.flatten = [] → zs = [] := by
    intro zs hzs hempty
    refine List.eq_nil_iff_forall_not_mem.2 fun l hl => ?_
    exact hne l (hzs l hl) (List.flatten_eq_nil_iff.1 hempty l hl)
  rcases List.append_eq_append_iff.1 h with ⟨zs, rfl, rfl⟩ | ⟨zs, rfl, rfl⟩
  · rw [List.flatten_append] at hflat
    obtain rfl := hnil (fun l hl => by simp [hl]) (List.append_right_eq_self.1 hflat.symm)
    simp
  · rw [List.flatten_append] at hflat
    obtain rfl := hnil (fun l hl => by simp [hl]) (List.append_right_eq_self.1 hflat)
    simp

/-- Part of the lines of a text are the lines of that part of the text. -/
theorem fullLines_flatten {cs : List Char} {before after : List (List Char)}
    (h : fullLines cs = before ++ after) (hafter : after ≠ []) :
    fullLines before.flatten = before ∧ fullLines after.flatten = after := by
  have hcs : cs = before.flatten ++ after.flatten := by
    rw [← flatten_fullLines cs, h, List.flatten_append]
  have hlines : fullLines before.flatten ++ fullLines after.flatten = before ++ after := by
    rw [← fullLines_append (isWholeLines_of_fullLines h hafter), ← hcs, h]
  refine append_inj_of_flatten_eq hlines (flatten_fullLines _) fun l hl => ?_
  rw [← h] at hl
  exact ne_nil_of_mem_fullLines hl

/-! ## Lines and line feeds -/

theorem count_flatMap_concat {ls : List (List Char)} (h : ∀ l ∈ ls, '\n' ∉ l) :
    (ls.flatMap (· ++ ['\n'])).count '\n' = ls.length := by
  induction ls with
  | nil => rfl
  | cons l ls ih =>
    have hl : l.count '\n' = 0 := List.count_eq_zero.2 (h l List.mem_cons_self)
    have hls := ih fun l' hl' => h l' (List.mem_cons_of_mem _ hl')
    rw [List.flatMap_cons, List.count_append, List.count_append, hl, hls, List.length_cons,
      List.count_singleton_self]
    omega

/-- Each of the whole lines has its line feed. -/
theorem IsWholeLines.length_fullLines {cs : List Char} (h : IsWholeLines cs) :
    (fullLines cs).length = cs.count '\n' := by
  obtain ⟨ls, hls, rfl⟩ := h.exists_lines
  rw [fullLines_flatMap hls, List.length_map, count_flatMap_concat hls]

/-- An open line is one line more than there are line feeds. -/
theorem length_fullLines_of_open {cs : List Char} (h : ¬IsWholeLines cs) :
    (fullLines cs).length = cs.count '\n' + 1 := by
  obtain ⟨ls, tail, hls, htail, rfl⟩ := exists_lines cs
  have hne : tail ≠ [] := by
    rintro rfl
    rw [List.append_nil] at h
    exact h (isWholeLines_flatMap fun l _ => isWholeLines_concat l)
  rw [fullLines_flatMap_append hls, fullLines_of_notMem htail hne, List.length_append,
    List.length_map, List.count_append, count_flatMap_concat hls, List.count_eq_zero.2 htail]
  rfl

theorem isWholeLines_iff {cs : List Char} (hne : cs ≠ []) :
    IsWholeLines cs ↔ cs.getLast? = some '\n' := by
  rw [IsWholeLines, List.getLast?_eq_some_getLast hne]
  simp

end SpecScaffold.Text
