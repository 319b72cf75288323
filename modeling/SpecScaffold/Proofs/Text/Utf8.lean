import SpecScaffold.Proofs.Text.LineCount
import SpecScaffold.Source.Position
import SpecScaffold.Text.Bytes

/-!
# The bytes of a text

A character below 128 is one byte, its own number, and all bytes of any other character are 128 or
more.  So the line feeds and carriage returns of a text are the bytes of these numbers, and cutting
at them is the same on characters and on bytes:

    count_utf8 : an ASCII character stands in a text as often as its byte in the bytes
    rdropWhile_utf8 : the bytes of a text without the line end at its end are its bytes without
      the bytes of a line end at their end
-/

namespace SpecScaffold.Text

/-! ## Characters -/

/-- A character is one byte, or all its bytes are outside ASCII. -/
theorem utf8EncodeChar_cases (c : Char) :
    (c.toNat < 128 ∧ String.utf8EncodeChar c = [UInt8.ofNat c.toNat]) ∨
      (128 ≤ c.toNat ∧ ∀ b ∈ String.utf8EncodeChar c, 128 ≤ b.toNat) := by
  have hval : c.val.toNat = c.toNat := rfl
  unfold String.utf8EncodeChar
  simp only [hval]
  split
  · next hone => exact .inl ⟨by omega, rfl⟩
  · refine .inr ⟨by omega, ?_⟩
    split
    · simp
      omega
    · split
      · simp
        omega
      · simp
        omega

/-- The byte of an ASCII character is a byte of this character only. -/
theorem eq_iff_of_mem_utf8EncodeChar {a c : Char} {b : UInt8} (ha : a.toNat < 128)
    (hb : b ∈ String.utf8EncodeChar c) : b = UInt8.ofNat a.toNat ↔ c = a := by
  have hbyte : (UInt8.ofNat a.toNat).toNat = a.toNat := by
    rw [UInt8.toNat_ofNat']
    omega
  rcases utf8EncodeChar_cases c with ⟨hc, hone⟩ | ⟨hc, hmany⟩
  · rw [hone, List.mem_singleton] at hb
    have hown : b.toNat = c.toNat := by
      rw [hb, UInt8.toNat_ofNat']
      omega
    rw [← UInt8.toNat_inj, hbyte, hown, Char.toNat_inj]
  · have hlarge := hmany b hb
    constructor
    · rintro rfl
      omega
    · rintro rfl
      omega

/-! ## Texts -/

@[simp]
theorem utf8_nil : utf8 [] = [] := rfl

@[simp]
theorem utf8_append (as bs : List Char) : utf8 (as ++ bs) = utf8 as ++ utf8 bs :=
  List.flatMap_append

theorem utf8_cons (c : Char) (cs : List Char) :
    utf8 (c :: cs) = String.utf8EncodeChar c ++ utf8 cs :=
  List.flatMap_cons

theorem length_utf8 (cs : List Char) : (utf8 cs).length = byteLength cs := by
  induction cs with
  | nil => rfl
  | cons c cs ih =>
    rw [utf8_cons, List.length_append, String.length_utf8EncodeChar, byteLength_cons, ih]

theorem count_utf8 {a : Char} (ha : a.toNat < 128) (cs : List Char) :
    (utf8 cs).count (UInt8.ofNat a.toNat) = cs.count a := by
  induction cs with
  | nil => rfl
  | cons c cs ih =>
    rw [utf8_cons, List.count_append, ih, List.count_cons]
    by_cases hc : c = a
    · rcases utf8EncodeChar_cases c with ⟨-, hone⟩ | ⟨hlarge, -⟩
      · rw [hone, hc, List.count_singleton_self, if_pos (beq_self_eq_true a), Nat.add_comm]
      · rw [hc] at hlarge
        omega
    · have hnone : (String.utf8EncodeChar c).count (UInt8.ofNat a.toNat) = 0 :=
        List.count_eq_zero.2 fun hmem => hc ((eq_iff_of_mem_utf8EncodeChar ha hmem).1 rfl)
      rw [hnone, if_neg (by simpa using hc), Nat.zero_add, Nat.add_zero]

/-! ## The end of a line -/

/-- Whether a byte belongs to the end of a line. -/
def isLineEndByte (b : UInt8) : Bool :=
  b == 0x0A || b == 0x0D

theorem isLineEndByte_of_mem {c : Char} {b : UInt8} (hb : b ∈ String.utf8EncodeChar c) :
    isLineEndByte b = isLineEnd c := by
  have hfeed : b = 0x0A ↔ c = '\n' := eq_iff_of_mem_utf8EncodeChar (a := '\n') (by decide) hb
  have hreturn : b = 0x0D ↔ c = '\r' := eq_iff_of_mem_utf8EncodeChar (a := '\r') (by decide) hb
  rw [isLineEndByte, isLineEnd, Bool.eq_iff_iff]
  simp [hfeed, hreturn]

theorem rdropWhile_utf8 (cs : List Char) :
    (utf8 cs).rdropWhile isLineEndByte = utf8 (dropEndWhile isLineEnd cs) := by
  rw [dropEndWhile_eq_rdropWhile]
  induction cs using List.reverseRecOn with
  | nil => rfl
  | append_singleton cs c ih =>
    have hbytes : utf8 (cs ++ [c]) = utf8 cs ++ String.utf8EncodeChar c := by
      rw [utf8_append, utf8_cons, utf8_nil, List.append_nil]
    cases hc : isLineEnd c with
    | true =>
      have hall : ∀ b ∈ (String.utf8EncodeChar c).reverse, isLineEndByte b = true := by
        intro b hb
        rw [isLineEndByte_of_mem (List.mem_reverse.1 hb), hc]
      rw [List.rdropWhile_concat_pos _ _ _ hc, ← ih, hbytes, List.rdropWhile, List.reverse_append,
        List.dropWhile_append_of_pos hall, List.rdropWhile]
    | false =>
      obtain ⟨init, b, hlast⟩ :=
        (List.eq_nil_or_concat' (String.utf8EncodeChar c)).resolve_left String.utf8EncodeChar_ne_nil
      have hb : isLineEndByte b = false := by
        rw [isLineEndByte_of_mem (c := c) (by rw [hlast]; simp), hc]
      rw [List.rdropWhile_concat_neg _ _ _ (by simp [hc]), hbytes, hlast, ← List.append_assoc,
        List.rdropWhile_concat_neg _ _ _ (by simp [hb])]

end SpecScaffold.Text
