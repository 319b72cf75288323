/-!
# Byte offsets

Offsets into a text count the bytes of its UTF-8 form.  `splitAtByte?` is the only way to cut at an
offset: it fails inside a character and takes an offset past the end for the end.
-/

namespace SpecScaffold.Text

/-- Number of bytes of the UTF-8 form. -/
def byteLength : List Char → Nat
  | [] => 0
  | c :: cs => c.utf8Size + byteLength cs

/-- The bytes of the UTF-8 form. -/
def utf8 (cs : List Char) : List UInt8 :=
  cs.flatMap String.utf8EncodeChar

/-- The text before and after byte `n`; `none` when that byte is inside a character. -/
def splitAtByte? : Nat → List Char → Option (List Char × List Char)
  | 0, cs => some ([], cs)
  | _ + 1, [] => some ([], [])
  | n + 1, c :: cs =>
    if c.utf8Size ≤ n + 1 then
      (splitAtByte? (n + 1 - c.utf8Size) cs).map fun (before, after) => (c :: before, after)
    else none

@[simp]
theorem byteLength_nil : byteLength [] = 0 := rfl

@[simp]
theorem byteLength_cons (c : Char) (cs : List Char) :
    byteLength (c :: cs) = c.utf8Size + byteLength cs := rfl

@[simp]
theorem byteLength_append (as bs : List Char) :
    byteLength (as ++ bs) = byteLength as + byteLength bs := by
  induction as with
  | nil => simp
  | cons a as ih => simp [ih, Nat.add_assoc]

/-- Cutting loses nothing. -/
theorem append_of_splitAtByte? {n : Nat} {cs before after : List Char}
    (h : splitAtByte? n cs = some (before, after)) : before ++ after = cs := by
  induction cs generalizing n before with
  | nil => cases n <;> simp_all [splitAtByte?]
  | cons c cs ih =>
    cases n with
    | zero => simp_all [splitAtByte?]
    | succ n =>
      rw [splitAtByte?] at h
      split at h
      · obtain ⟨⟨b, a⟩, hs, he⟩ := Option.map_eq_some_iff.1 h
        obtain ⟨rfl, rfl⟩ := Prod.mk.inj he
        simp [ih hs]
      · simp at h

/-- The end of a start of the text is a place to cut at. -/
theorem splitAtByte?_byteLength (as bs : List Char) :
    splitAtByte? (byteLength as) (as ++ bs) = some (as, bs) := by
  induction as with
  | nil => cases bs <;> rfl
  | cons a as ih =>
    have hpos := a.utf8Size_pos
    obtain ⟨n, hn⟩ : ∃ n, byteLength (a :: as) = n + 1 :=
      ⟨byteLength (a :: as) - 1, by simp; omega⟩
    have hle : a.utf8Size ≤ n + 1 := by rw [← hn]; simp
    have hsub : n + 1 - a.utf8Size = byteLength as := by rw [← hn]; simp
    rw [hn, List.cons_append, splitAtByte?, if_pos hle, hsub, ih]
    rfl

/-- The text from byte `start` up to byte `stop`; `none` when an end is inside a character. -/
def slice? (start stop : Nat) (cs : List Char) : Option (List Char) := do
  let (_, rest) ← splitAtByte? start cs
  let (text, _) ← splitAtByte? (stop - start) rest
  return text

end SpecScaffold.Text
