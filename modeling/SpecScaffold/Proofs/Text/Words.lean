import SpecScaffold.Text.Words

/-!
# What lower-casing can bring into a text

Lower-casing shifts code points, but of the ASCII characters only the small letters are reached: any
other one that is in the result was in the text (`mem_of_mem_lowerChar`).  So turning an identifier
into words or into a variable brings in no line feed, no quote and no bracket.
-/

namespace SpecScaffold.Text

/-- A code point is kept, or shifted along the run it lies on. -/
theorem shiftIn_cases (runs : List (Nat × Nat × Nat × Int)) (n : Nat) :
    shiftIn runs n = n ∨
      ∃ run ∈ runs, run.1 ≤ n ∧ n ≤ run.2.1 ∧ shiftIn runs n = ((n : Int) + run.2.2.2).toNat := by
  induction runs with
  | nil => exact .inl rfl
  | cons run runs ih =>
    obtain ⟨first, last, step, shift⟩ := run
    rw [shiftIn]
    split
    · exact .inl rfl
    · next hfirst =>
      split
      · next hlast =>
        split
        · exact .inr ⟨_, List.mem_cons_self, by omega, hlast, rfl⟩
        · exact .inl rfl
      · rcases ih with hsame | ⟨run, hmem, hle, hge, heq⟩
        · exact .inl hsame
        · exact .inr ⟨run, List.mem_cons_of_mem _ hmem, hle, hge, heq⟩

/-- A run leads to the small Latin letters or beyond the ASCII characters. -/
theorem shift_of_mem_lowercaseRuns :
    ∀ run ∈ lowercaseRuns, (97 : Int) ≤ run.1 + run.2.2.2 ∧
      ((run.2.1 : Int) + run.2.2.2 ≤ 122 ∨ (128 : Int) ≤ run.1 + run.2.2.2) := by
  decide +kernel

theorem toNat_ofNat_eq_or (n : Nat) : (Char.ofNat n).toNat = n ∨ (Char.ofNat n).toNat = 0 := by
  by_cases h : n.isValidChar
  · left
    rw [Char.ofNat, dif_pos h]
    rfl
  · right
    rw [Char.ofNat, dif_neg h]
    rfl

/-- The ASCII characters that are no small letters. -/
def isOtherAscii (c : Char) : Bool :=
  c.toNat < 97 || (122 < c.toNat && c.toNat < 128)

theorem mem_of_mem_lowerChar {c d : Char} (h : d ∈ lowerChar c) (hd : isOtherAscii d = true)
    (h0 : d.toNat ≠ 0) : d = c := by
  unfold lowerChar at h
  split at h
  · rcases List.mem_cons.1 h with rfl | h
    · exact absurd hd (by decide)
    · obtain rfl := List.mem_singleton.1 h
      exact absurd hd (by decide)
  · obtain rfl := List.mem_singleton.1 h
    rcases shiftIn_cases lowercaseRuns c.toNat with hsame | ⟨run, hmem, hle, hge, heq⟩
    · rw [hsame, Char.ofNat_toNat]
    · obtain ⟨hlow, hhigh⟩ := shift_of_mem_lowercaseRuns run hmem
      rcases toNat_ofNat_eq_or (shiftIn lowercaseRuns c.toNat) with hn | hn
      · rw [isOtherAscii, hn, heq] at hd
        simp only [Bool.or_eq_true, Bool.and_eq_true, decide_eq_true_eq] at hd
        omega
      · exact absurd hn h0

theorem mem_of_mem_wordsOf {d : Char} {cs : List Char} (h : d ∈ wordsOf cs)
    (hd : isOtherAscii d = true) (h0 : d.toNat ≠ 0) (hblank : d ≠ ' ') : d ∈ cs := by
  cases cs with
  | nil => cases h
  | cons c cs =>
    rcases List.mem_append.1 h with h | h
    · rw [mem_of_mem_lowerChar h hd h0]
      exact List.mem_cons_self
    · obtain ⟨e, he, hde⟩ := List.mem_flatMap.1 h
      have hlower : d ∈ lowerChar e := by
        unfold splitChar at hde
        split at hde
        · exact (List.mem_cons.1 hde).resolve_left hblank
        · exact hde
      rw [mem_of_mem_lowerChar hlower hd h0]
      exact List.mem_cons_of_mem c he

theorem mem_of_mem_decapitalize {d : Char} {cs : List Char} (h : d ∈ decapitalize cs)
    (hd : isOtherAscii d = true) (h0 : d.toNat ≠ 0) : d ∈ cs := by
  cases cs with
  | nil => cases h
  | cons c cs =>
    rcases List.mem_append.1 h with h | h
    · rw [mem_of_mem_lowerChar h hd h0]
      exact List.mem_cons_self
    · exact List.mem_cons_of_mem c h

end SpecScaffold.Text
