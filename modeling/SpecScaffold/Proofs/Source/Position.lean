import Mathlib.Data.Prod.Lex
import SpecScaffold.Proofs.Text.Utf8

/-!
# Positions and byte offsets

An offset has a position: its line is the number of line feeds before it, its column the number of
bytes since the last of these.  This is said of the bytes of a text alone.  `offsetAt` goes the
other way, over the lines of the text, and the two are compared line by line: with the pieces
between the line feeds, of which there is always one, the offset of a position is
(`offsetAt_of_pieces`)

    offsetAt cs (l + 1) (c + 1) = the bytes before piece l + min c (its content)

so that an offset inside the content of its line is the offset of its position, the offset of any
position is one inside the content of a line, and offsets grow with positions:

    positions_correspond_to_offsets
-/

namespace SpecScaffold.Text

/-! ## The position of a byte -/

/-- The number of the line, from zero, that byte `o` stands in. -/
def lineOf (bs : List UInt8) (o : Nat) : Nat :=
  (bs.take o).count 0x0A

/-- The bytes between the last line feed before byte `o` and that byte. -/
def lineFront (bs : List UInt8) (o : Nat) : List UInt8 :=
  (bs.take o).rtakeWhile fun b => b != 0x0A

/-- The bytes from byte `o` up to the next line feed. -/
def lineBack (bs : List UInt8) (o : Nat) : List UInt8 :=
  (bs.drop o).takeWhile fun b => b != 0x0A

/-- The number of bytes between the start of its line and byte `o`. -/
def columnOf (bs : List UInt8) (o : Nat) : Nat :=
  (lineFront bs o).length

/-- The line of byte `o` without the line end at its end. -/
def contentOf (bs : List UInt8) (o : Nat) : List UInt8 :=
  (lineFront bs o ++ lineBack bs o).rdropWhile isLineEndByte

/-- The offset does not lie beyond the content of its line. -/
def InContent (bs : List UInt8) (o : Nat) : Prop :=
  o ≤ bs.length ∧ columnOf bs o ≤ (contentOf bs o).length

instance (bs : List UInt8) (o : Nat) : Decidable (InContent bs o) :=
  inferInstanceAs (Decidable (_ ∧ _))

/-- Some byte stands in line `l`, which is counted from zero. -/
def HasLine (bs : List UInt8) (l : Nat) : Prop :=
  ∃ o < bs.length, lineOf bs o = l

/-! ## The pieces of a text -/

theorem joined_cons_eq_flatMap (p : List Char) (later : List (List Char)) :
    joined ['\n'] (p :: later) = p ++ later.flatMap ('\n' :: ·) := by
  induction later generalizing p with
  | nil => simp [joined]
  | cons q later ih => rw [joined_cons _ _ (by simp), ih, List.flatMap_cons]; simp

theorem joined_append_cons (earlier : List (List Char)) (p : List Char)
    (later : List (List Char)) :
    joined ['\n'] (earlier ++ p :: later) =
      earlier.flatMap (· ++ ['\n']) ++ (p ++ later.flatMap ('\n' :: ·)) := by
  induction earlier with
  | nil => exact joined_cons_eq_flatMap p later
  | cons l earlier ih =>
    rw [List.cons_append, joined_cons _ _ (by simp), ih, List.flatMap_cons, ← List.append_assoc]

/-- The number of bytes of the lines `earlier`, with their line feeds. -/
def startAfter (earlier : List (List Char)) : Nat :=
  byteLength (earlier.flatMap (· ++ ['\n']))

theorem startAfter_append (as bs : List (List Char)) :
    startAfter (as ++ bs) = startAfter as + startAfter bs := by
  rw [startAfter, List.flatMap_append, byteLength_append, startAfter, startAfter]

theorem startAfter_cons (l : List Char) (ls : List (List Char)) :
    startAfter (l :: ls) = byteLength l + 1 + startAfter ls := by
  have hfeed : byteLength ['\n'] = 1 := by decide
  rw [startAfter, List.flatMap_cons, byteLength_append, byteLength_append, hfeed, startAfter]

theorem exists_piece_of_le_joined {ps : List (List Char)} (hne : ps ≠ []) {o : Nat}
    (h : o ≤ byteLength (joined ['\n'] ps)) :
    ∃ earlier p later c, ps = earlier ++ p :: later ∧ c ≤ byteLength p ∧
      o = startAfter earlier + c := by
  induction ps generalizing o with
  | nil => exact absurd rfl hne
  | cons p ps ih =>
    by_cases hfirst : o ≤ byteLength p
    · exact ⟨[], p, ps, o, rfl, hfirst, by simp [startAfter]⟩
    · have hrest : ps ≠ [] := by
        rintro rfl
        exact hfirst (by simpa [joined] using h)
      have hfeed : byteLength ['\n'] = 1 := by decide
      rw [joined_cons _ _ hrest, byteLength_append, byteLength_append, hfeed] at h
      obtain ⟨earlier, q, later, c, rfl, hc, ho⟩ :=
        ih hrest (o := o - (byteLength p + 1)) (by omega)
      refine ⟨p :: earlier, q, later, c, rfl, hc, ?_⟩
      rw [startAfter_cons]
      omega

/-- Every offset lies in one of the pieces, or at its end. -/
theorem exists_piece_of_le {cs : List Char} {o : Nat} (h : o ≤ byteLength cs) :
    ∃ earlier p later c, pieces '\n' cs = earlier ++ p :: later ∧ c ≤ byteLength p ∧
      o = startAfter earlier + c := by
  refine exists_piece_of_le_joined (pieces_ne_nil '\n' cs) ?_
  rwa [joined_pieces]

theorem exists_append_cons_of_lt {α : Type} {xs : List α} {i : Nat} (h : i < xs.length) :
    ∃ as x bs, xs = as ++ x :: bs ∧ as.length = i := by
  refine ⟨xs.take i, xs[i], xs.drop (i + 1), ?_, ?_⟩
  · rw [← List.drop_eq_getElem_cons, List.take_append_drop]
  · rw [List.length_take]
    omega

section

variable {cs p : List Char} {earlier later : List (List Char)}
  (h : pieces '\n' cs = earlier ++ p :: later)

include h

theorem eq_of_pieces :
    cs = earlier.flatMap (· ++ ['\n']) ++ (p ++ later.flatMap ('\n' :: ·)) := by
  rw [← joined_append_cons, ← h, joined_pieces]

theorem lineFeed_notMem_earlier : ∀ l ∈ earlier, '\n' ∉ l := by
  intro l hl
  have hmem : l ∈ pieces '\n' cs := by
    rw [h]
    exact List.mem_append_left _ hl
  exact notMem_of_mem_pieces hmem

theorem lineFeed_notMem_piece : '\n' ∉ p := by
  have hmem : p ∈ pieces '\n' cs := by
    rw [h]
    exact List.mem_append_right _ List.mem_cons_self
  exact notMem_of_mem_pieces hmem

theorem byteLength_eq_of_pieces :
    byteLength cs = startAfter earlier + byteLength p + byteLength (later.flatMap ('\n' :: ·)) := by
  rw [eq_of_pieces h, byteLength_append, byteLength_append, ← Nat.add_assoc, startAfter]

/-! ## The offset of a position -/

omit h in
theorem contentLength_le (line : List Char) : contentLength line ≤ byteLength line := by
  obtain ⟨rest, hrest⟩ := List.rdropWhile_prefix isLineEnd (l := line)
  have hlength := congrArg byteLength hrest
  rw [byteLength_append] at hlength
  rw [contentLength, dropEndWhile_eq_rdropWhile]
  omega

omit h in
theorem contentLength_concat_lineFeed (line : List Char) :
    contentLength (line ++ ['\n']) = contentLength line := by
  rw [contentLength, dropEndWhile_eq_rdropWhile, List.rdropWhile_concat_pos _ _ _ rfl,
    contentLength, dropEndWhile_eq_rdropWhile]

theorem fullLines_of_pieces :
    fullLines cs = earlier.map (· ++ ['\n']) ++ fullLines (p ++ later.flatMap ('\n' :: ·)) := by
  conv_lhs => rw [eq_of_pieces h, fullLines_flatMap_append (lineFeed_notMem_earlier h)]

/-- The line of a piece: with its line feed, without one, or, for an empty piece at the end, no line
at all. -/
theorem getElem?_fullLines_of_pieces :
    (fullLines cs)[earlier.length]? = some (p ++ ['\n']) ∨
      (fullLines cs)[earlier.length]? = some p ∨
      (fullLines cs)[earlier.length]? = none ∧ p = [] ∧ later = [] := by
  have hp := lineFeed_notMem_piece h
  rw [fullLines_of_pieces h, List.getElem?_append_right (by simp), List.length_map, Nat.sub_self]
  cases later with
  | cons q later =>
    have hsplit : p ++ (q :: later).flatMap ('\n' :: ·) =
        (p ++ ['\n']) ++ (q ++ later.flatMap ('\n' :: ·)) := by simp
    rw [hsplit, fullLines_append (isWholeLines_concat p), fullLines_line hp]
    exact .inl rfl
  | nil =>
    rw [List.flatMap_nil, List.append_nil]
    by_cases hempty : p = []
    · rw [hempty]
      exact .inr (.inr ⟨rfl, rfl, rfl⟩)
    · rw [fullLines_of_notMem hp hempty]
      exact .inr (.inl rfl)

theorem offsetAt_of_pieces {line : Nat} (hline : line - 1 = earlier.length) (column : Nat) :
    offsetAt cs line column = startAfter earlier + min (column - 1) (contentLength p) := by
  have htake : ((fullLines cs).take earlier.length).flatten =
      earlier.flatMap (· ++ ['\n']) := by
    rw [fullLines_of_pieces h, List.take_left' (List.length_map _), List.flatMap_def]
  unfold offsetAt
  rw [hline, htake]
  rcases getElem?_fullLines_of_pieces h with hline | hline | ⟨hline, rfl, rfl⟩
  · rw [hline]
    simp only [contentLength_concat_lineFeed, startAfter]
  · rw [hline]
    rfl
  · rw [hline]
    simp [byteLength_eq_of_pieces h, contentLength, dropEndWhile]

end

/-- A text has no more lines than pieces. -/
theorem length_fullLines_le (cs : List Char) :
    (fullLines cs).length ≤ (pieces '\n' cs).length := by
  obtain ⟨ls, tail, hls, htail, rfl⟩ := exists_lines cs
  rw [fullLines_flatMap_append hls, pieces_flatMap_append hls, pieces_of_notMem htail,
    List.length_append, List.length_append, List.length_map]
  by_cases hempty : tail = []
  · simp [hempty, fullLines]
  · rw [fullLines_of_notMem htail hempty]

theorem offsetAt_of_length_le {cs : List Char} {line : Nat}
    (h : (pieces '\n' cs).length ≤ line - 1) (column : Nat) :
    offsetAt cs line column = byteLength cs := by
  unfold offsetAt
  rw [List.getElem?_eq_none (Nat.le_trans (length_fullLines_le cs) h)]

/-! ## The position of an offset -/

theorem bne_lineFeed_of_mem_utf8 {cs : List Char} (h : '\n' ∉ cs) :
    ∀ b ∈ utf8 cs, (b != 0x0A) = true := by
  intro b hb
  rw [bne_iff_ne]
  rintro rfl
  have hcount : (utf8 cs).count 0x0A = 0 :=
    (count_utf8 (a := '\n') (by decide) cs).trans (List.count_eq_zero.2 h)
  exact List.count_eq_zero.1 hcount hb

/-- After whole lines a line starts. -/
theorem rtakeWhile_utf8_of_isWholeLines {cs : List Char} (h : IsWholeLines cs) :
    (utf8 cs).rtakeWhile (fun b => b != 0x0A) = [] := by
  rcases List.eq_nil_or_concat' cs with rfl | ⟨init, c, rfl⟩
  · rfl
  · obtain rfl := h c (by simp)
    rw [utf8_append]
    exact List.rtakeWhile_concat_neg _ _ _ (by decide)

section

variable {cs p : List Char} {earlier later : List (List Char)}
  (h : pieces '\n' cs = earlier ++ p :: later) {c : Nat} (hc : c ≤ byteLength p)

include h hc

theorem take_utf8_of_pieces :
    (utf8 cs).take (startAfter earlier + c) =
      utf8 (earlier.flatMap (· ++ ['\n'])) ++ (utf8 p).take c := by
  rw [eq_of_pieces h, utf8_append, utf8_append, startAfter, ← length_utf8,
    List.take_length_add_append, List.take_append_of_le_length (by rwa [length_utf8])]

theorem drop_utf8_of_pieces :
    (utf8 cs).drop (startAfter earlier + c) =
      (utf8 p).drop c ++ utf8 (later.flatMap ('\n' :: ·)) := by
  rw [eq_of_pieces h, utf8_append, utf8_append, startAfter, ← length_utf8,
    List.drop_length_add_append, List.drop_append_of_le_length (by rwa [length_utf8])]

theorem lineOf_of_pieces : lineOf (utf8 cs) (startAfter earlier + c) = earlier.length := by
  have hearlier : (utf8 (earlier.flatMap (· ++ ['\n']))).count 0x0A = earlier.length :=
    (count_utf8 (a := '\n') (by decide) _).trans
      (count_flatMap_concat (lineFeed_notMem_earlier h))
  have hpiece : ((utf8 p).take c).count 0x0A = 0 := by
    refine List.count_eq_zero.2 fun hmem => ?_
    have hbyte := bne_lineFeed_of_mem_utf8 (lineFeed_notMem_piece h) _ (List.mem_of_mem_take hmem)
    exact absurd hbyte (by decide)
  rw [lineOf, take_utf8_of_pieces h hc, List.count_append, hearlier, hpiece, Nat.add_zero]

theorem lineFront_of_pieces :
    lineFront (utf8 cs) (startAfter earlier + c) = (utf8 p).take c := by
  have hbytes : ∀ b ∈ ((utf8 p).take c).reverse, (b != 0x0A) = true := by
    intro b hb
    exact bne_lineFeed_of_mem_utf8 (lineFeed_notMem_piece h) b
      (List.mem_of_mem_take (List.mem_reverse.1 hb))
  have hwhole : (utf8 (earlier.flatMap (· ++ ['\n']))).rtakeWhile (fun b => b != 0x0A) = [] :=
    rtakeWhile_utf8_of_isWholeLines (isWholeLines_flatMap fun l _ => isWholeLines_concat l)
  rw [List.rtakeWhile, List.reverse_eq_nil_iff] at hwhole
  rw [lineFront, take_utf8_of_pieces h hc, List.rtakeWhile, List.reverse_append,
    List.takeWhile_append_of_pos hbytes, hwhole, List.append_nil, List.reverse_reverse]

theorem lineBack_of_pieces :
    lineBack (utf8 cs) (startAfter earlier + c) = (utf8 p).drop c := by
  have hbytes : ∀ b ∈ (utf8 p).drop c, (b != 0x0A) = true := fun b hb =>
    bne_lineFeed_of_mem_utf8 (lineFeed_notMem_piece h) b (List.mem_of_mem_drop hb)
  have hrest : (utf8 (later.flatMap ('\n' :: ·))).takeWhile (fun b => b != 0x0A) = [] := by
    cases later with
    | nil => rfl
    | cons q later => rfl
  rw [lineBack, drop_utf8_of_pieces h hc, List.takeWhile_append_of_pos hbytes, hrest,
    List.append_nil]

theorem columnOf_of_pieces : columnOf (utf8 cs) (startAfter earlier + c) = c := by
  rw [columnOf, lineFront_of_pieces h hc, List.length_take, length_utf8]
  omega

theorem inContent_of_pieces_iff :
    InContent (utf8 cs) (startAfter earlier + c) ↔ c ≤ contentLength p := by
  have hcontent : (contentOf (utf8 cs) (startAfter earlier + c)).length = contentLength p := by
    rw [contentOf, lineFront_of_pieces h hc, lineBack_of_pieces h hc, List.take_append_drop,
      rdropWhile_utf8, length_utf8, contentLength]
  have hlength : startAfter earlier + c ≤ (utf8 cs).length := by
    rw [length_utf8, byteLength_eq_of_pieces h]
    omega
  rw [InContent, columnOf_of_pieces h hc, hcontent]
  exact and_iff_right hlength

end

/-! ## Positions and offsets -/

theorem lineOf_le (bs : List UInt8) (o : Nat) : lineOf bs o ≤ o :=
  Nat.le_trans List.count_le_length (List.length_take_le o bs)

theorem columnOf_le (bs : List UInt8) (o : Nat) : columnOf bs o ≤ o :=
  Nat.le_trans (List.rtakeWhile_suffix _ _).length_le (List.length_take_le o bs)

/-- An offset inside the content of its line is the offset of its position. -/
theorem offsetAt_of_inContent {cs : List Char} {o : Nat} (h : InContent (utf8 cs) o) :
    offsetAt cs (lineOf (utf8 cs) o + 1) (columnOf (utf8 cs) o + 1) = o := by
  have hle : o ≤ byteLength cs := by
    rw [← length_utf8]
    exact h.1
  obtain ⟨earlier, p, later, c, hpieces, hc, rfl⟩ := exists_piece_of_le hle
  rw [lineOf_of_pieces hpieces hc, columnOf_of_pieces hpieces hc, offsetAt_of_pieces hpieces rfl]
  rw [inContent_of_pieces_iff hpieces hc] at h
  omega

theorem length_of_hasLine {cs : List Char} {l : Nat} (h : HasLine (utf8 cs) l) :
    l < (pieces '\n' cs).length := by
  obtain ⟨o, ho, rfl⟩ := h
  rw [length_utf8] at ho
  obtain ⟨earlier, p, later, c, hpieces, hc, rfl⟩ := exists_piece_of_le (Nat.le_of_lt ho)
  rw [lineOf_of_pieces hpieces hc, hpieces, List.length_append, List.length_cons]
  omega

theorem offsetAt_le (cs : List Char) (line column : Nat) :
    offsetAt cs line column ≤ byteLength cs := by
  rcases Nat.lt_or_ge (line - 1) (pieces '\n' cs).length with hline | hline
  · obtain ⟨earlier, p, later, hpieces, hlength⟩ := exists_append_cons_of_lt hline
    have hcontent := contentLength_le p
    rw [offsetAt_of_pieces hpieces hlength.symm, byteLength_eq_of_pieces hpieces]
    omega
  · exact Nat.le_of_eq (offsetAt_of_length_le hline column)

/-- A position in a line that is there has an offset inside the content of this line. -/
theorem inContent_offsetAt {cs : List Char} {line : Nat} (h : HasLine (utf8 cs) (line - 1))
    (column : Nat) : InContent (utf8 cs) (offsetAt cs line column) ∧
      lineOf (utf8 cs) (offsetAt cs line column) = line - 1 := by
  obtain ⟨earlier, p, later, hpieces, hlength⟩ := exists_append_cons_of_lt (length_of_hasLine h)
  have hcontent := contentLength_le p
  have hc : min (column - 1) (contentLength p) ≤ byteLength p := by omega
  rw [offsetAt_of_pieces hpieces hlength.symm]
  refine ⟨(inContent_of_pieces_iff hpieces hc).2 (by omega), ?_⟩
  rw [lineOf_of_pieces hpieces hc, hlength]

/-- A position past the last line has the end of the text for its offset. -/
theorem offsetAt_of_not_hasLine {cs : List Char} {line : Nat}
    (h : ¬HasLine (utf8 cs) (line - 1)) (column : Nat) :
    offsetAt cs line column = byteLength cs := by
  rcases Nat.lt_or_ge (line - 1) (pieces '\n' cs).length with hline | hline
  · obtain ⟨earlier, p, later, hpieces, hlength⟩ := exists_append_cons_of_lt hline
    -- a byte of the line would stand at its start, so there is nothing from there on
    have hstart : byteLength cs ≤ startAfter earlier := by
      by_contra hless
      refine h ⟨startAfter earlier + 0, by rw [length_utf8]; omega, ?_⟩
      rw [lineOf_of_pieces hpieces (Nat.zero_le _), hlength]
    have hcontent := contentLength_le p
    have htotal := byteLength_eq_of_pieces hpieces
    rw [offsetAt_of_pieces hpieces hlength.symm]
    omega
  · exact offsetAt_of_length_le hline column

theorem offsetAt_le_of_line_lt (cs : List Char) {line line' : Nat} (h : line - 1 < line' - 1)
    (column column' : Nat) : offsetAt cs line column ≤ offsetAt cs line' column' := by
  rcases Nat.lt_or_ge (line' - 1) (pieces '\n' cs).length with hline | hline
  · obtain ⟨before, q, later, hpieces', hlength'⟩ := exists_append_cons_of_lt hline
    have hlt : line - 1 < before.length := by omega
    obtain ⟨earlier, p, between, rfl, hlength⟩ := exists_append_cons_of_lt hlt
    have hpieces : pieces '\n' cs = earlier ++ p :: (between ++ q :: later) := by
      rw [hpieces', List.append_assoc, List.cons_append]
    have hcontent := contentLength_le p
    rw [offsetAt_of_pieces hpieces hlength.symm, offsetAt_of_pieces hpieces' hlength'.symm,
      startAfter_append, startAfter_cons]
    omega
  · rw [offsetAt_of_length_le hline column']
    exact offsetAt_le cs line column

theorem offsetAt_le_of_column_le (cs : List Char) {line line' column column' : Nat}
    (hline : line - 1 = line' - 1) (hcolumn : column - 1 ≤ column' - 1) :
    offsetAt cs line column ≤ offsetAt cs line' column' := by
  rcases Nat.lt_or_ge (line' - 1) (pieces '\n' cs).length with hlt | hge
  · obtain ⟨earlier, p, later, hpieces, hlength⟩ := exists_append_cons_of_lt hlt
    rw [offsetAt_of_pieces hpieces hlength.symm,
      offsetAt_of_pieces hpieces (hline.trans hlength.symm)]
    omega
  · rw [offsetAt_of_length_le hge column']
    exact offsetAt_le cs line column

/-- Positions and byte offsets correspond.  In a text whose offsets have positions of 32 bits, an
offset that is not beyond the content of its line is the offset of its position.  The offset of any
position is never past the end of the text; in a line that is there it is not beyond the content of
this line, and past the last line it is the end of the text.  A later position has no smaller
offset, where a line or column that is zero is taken for one. -/
theorem positions_correspond_to_offsets (cs : List Char)
    (hsmall : byteLength cs < UInt32.size - 1) :
    (∀ o, InContent (utf8 cs) o →
      lineOf (utf8 cs) o + 1 < UInt32.size ∧ columnOf (utf8 cs) o + 1 < UInt32.size ∧
        offsetAt cs (lineOf (utf8 cs) o + 1) (columnOf (utf8 cs) o + 1) = o) ∧
      (∀ line column, offsetAt cs line column ≤ byteLength cs ∧
        (HasLine (utf8 cs) (line - 1) → InContent (utf8 cs) (offsetAt cs line column) ∧
          lineOf (utf8 cs) (offsetAt cs line column) = line - 1) ∧
        (¬HasLine (utf8 cs) (line - 1) → offsetAt cs line column = byteLength cs)) ∧
      ∀ line column line' column',
        toLex (max line 1, max column 1) ≤ toLex (max line' 1, max column' 1) →
          offsetAt cs line column ≤ offsetAt cs line' column' := by
  refine ⟨fun o ho => ?_, fun line column => ?_, fun line column line' column' hle => ?_⟩
  · have hbound : o ≤ byteLength cs := by
      rw [← length_utf8]
      exact ho.1
    have hline := lineOf_le (utf8 cs) o
    have hcolumn := columnOf_le (utf8 cs) o
    exact ⟨by omega, by omega, offsetAt_of_inContent ho⟩
  · exact ⟨offsetAt_le cs line column, fun hline => inContent_offsetAt hline column,
      fun hnone => offsetAt_of_not_hasLine hnone column⟩
  · rw [Prod.Lex.toLex_le_toLex] at hle
    rcases hle with hlater | ⟨hsame, hright⟩
    · have hline : max line 1 < max line' 1 := hlater
      exact offsetAt_le_of_line_lt cs (by omega) column column'
    · have hline : max line 1 = max line' 1 := hsame
      have hcolumn : max column 1 ≤ max column' 1 := hright
      exact offsetAt_le_of_column_le cs (by omega) (by omega)

/-- A line that ends in two bytes, an empty line, and one without an end.  The fourth character is
two bytes long. -/
def sampleCaret : List Char :=
  "caf\u00e9\r\n\n  b".toList

/-- The offset inside the character has a position; that between the two bytes of a line end has
none. -/
theorem sampleCaret_positions :
    byteLength sampleCaret < UInt32.size - 1 ∧ InContent (utf8 sampleCaret) 4 ∧
      offsetAt sampleCaret 1 5 = 4 ∧ ¬InContent (utf8 sampleCaret) 6 ∧
      (∀ column, lineOf (utf8 sampleCaret) (offsetAt sampleCaret 1 column) = 0) ∧
      ∀ column, offsetAt sampleCaret 1 column ≤ offsetAt sampleCaret 2 0 := by
  have hsmall : byteLength sampleCaret < UInt32.size - 1 := by decide +kernel
  have hcontent : InContent (utf8 sampleCaret) 4 := by decide +kernel
  have hline : HasLine (utf8 sampleCaret) (1 - 1) := ⟨0, by decide +kernel, by decide +kernel⟩
  obtain ⟨hround, hoffset, hmono⟩ := positions_correspond_to_offsets sampleCaret hsmall
  refine ⟨hsmall, hcontent, (hround 4 hcontent).2.2, by decide +kernel, fun column => ?_,
    fun column => ?_⟩
  · exact ((hoffset 1 column).2.1 hline).2
  · have hlater : max 1 1 < max 2 1 := by decide
    exact hmono 1 column 2 0 (Prod.Lex.toLex_le_toLex.2 (.inl hlater))

end SpecScaffold.Text
