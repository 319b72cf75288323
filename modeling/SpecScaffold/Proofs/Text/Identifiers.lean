import SpecScaffold.Code.Binding
import SpecScaffold.Proofs.Text.LineCount
import SpecScaffold.Proofs.Text.Words

/-!
# Identifiers in a text

An identifier is a run of characters other than separators that does not start with a digit.
`identifiersIn` reads the identifiers of an expression, `letNames` the names between the commas of a
`let`; of identifiers in a row both give back the row:

    identifiersIn_commaList : the identifiers in `a, b, c` are `a`, `b` and `c`
    letNames_commaList      : so are the names that `let a, b, c` declares

A variable that is named after a type is an identifier (`isIdentifier_of_typeVariable?`).
-/

namespace SpecScaffold

namespace Text

/-! ## Separators -/

/-- Characters that no identifier has: white space, and the ASCII characters that are no letters, no
digits and neither of `_` and `$`. -/
def isSeparator (c : Char) : Bool :=
  isBlank c || (c.toNat < 128 && !(c.isAlphanum || c == '_' || c == '$'))

/-- Whether a text has no separators. -/
def isWord (cs : List Char) : Bool :=
  cs.all fun c => !isSeparator c

theorem not_isSeparator_of_mem {cs : List Char} (h : isWord cs = true) {c : Char} (hc : c ∈ cs) :
    isSeparator c = false := by
  simpa using List.all_eq_true.1 h c hc

/-- The code points of white space. -/
def blankCodes : List Nat :=
  [0x9, 0xA, 0xB, 0xC, 0xD, 0x20, 0x85, 0xA0, 0x1680, 0x2000, 0x2001, 0x2002, 0x2003, 0x2004,
    0x2005, 0x2006, 0x2007, 0x2008, 0x2009, 0x200A, 0x2028, 0x2029, 0x202F, 0x205F, 0x3000]

theorem mem_blankCodes {c : Char} (h : isBlank c = true) : c.toNat ∈ blankCodes := by
  simp only [isBlank, Bool.or_eq_true, Bool.and_eq_true, decide_eq_true_eq, beq_iff_eq] at h
  simp only [blankCodes, List.mem_cons, List.not_mem_nil, or_false]
  omega

/-- A character of the name that a type starts with is no separator. -/
theorem not_isSeparator_of_isNameChar {c : Char} (h : Binding.isNameChar c = true) :
    isSeparator c = false := by
  have hblank : isBlank c = false := by
    cases hb : isBlank c with
    | false => rfl
    | true =>
      have hcodes : ∀ n ∈ blankCodes,
          (inRuns alphanumericRuns n || n == 95 || n == 36) = false := by
        decide +kernel
      have hcode := hcodes c.toNat (mem_blankCodes hb)
      simp only [Bool.or_eq_false_iff, beq_eq_false_iff_ne] at hcode
      simp only [Binding.isNameChar, isAlphanumeric, Bool.or_eq_true, beq_iff_eq] at h
      rcases h with (hrun | rfl) | rfl
      · exact absurd hrun (by simp [hcode.1.1])
      · exact absurd rfl hcode.1.2
      · exact absurd rfl hcode.2
  have hascii : ∀ n < 128, Binding.isNameChar (Char.ofNat n) = true →
      isSeparator (Char.ofNat n) = false := by
    decide +kernel
  by_cases hlow : c.toNat < 128
  · have hc := hascii c.toNat hlow
    rw [Char.ofNat_toNat] at hc
    exact hc h
  · simp [isSeparator, hblank, hlow]

/-- Where a run of lower-casing leads there is no white space, and there are characters. -/
theorem target_of_mem_lowercaseRuns :
    ∀ run ∈ lowercaseRuns, ((run.2.1 : Int) + run.2.2.2 < 0xD800) ∨
      ((0xE000 : Int) ≤ run.1 + run.2.2.2 ∧ (run.2.1 : Int) + run.2.2.2 < 0x110000) := by
  decide +kernel

theorem blank_outside_of_mem_lowercaseRuns :
    ∀ run ∈ lowercaseRuns, ∀ n ∈ blankCodes,
      (n : Int) < run.1 + run.2.2.2 ∨ (run.2.1 : Int) + run.2.2.2 < n := by
  decide +kernel

/-- Lower-casing brings in no separator. -/
theorem isSeparator_of_mem_lowerChar {c d : Char} (h : d ∈ lowerChar c)
    (hd : isSeparator d = true) : isSeparator c = true := by
  unfold lowerChar at h
  split at h
  · have hword : isWord ['i', '\u0307'] = true := by decide
    rw [not_isSeparator_of_mem hword h] at hd
    cases hd
  · obtain rfl := List.mem_singleton.1 h
    rcases shiftIn_cases lowercaseRuns c.toNat with hsame | ⟨run, hmem, hle, hge, heq⟩
    · rwa [hsame, Char.ofNat_toNat] at hd
    · obtain ⟨hlow, hletter⟩ := shift_of_mem_lowercaseRuns run hmem
      have hvalid := target_of_mem_lowercaseRuns run hmem
      have hcode : (Char.ofNat (shiftIn lowercaseRuns c.toNat)).toNat =
          ((c.toNat : Int) + run.2.2.2).toNat := by
        have hchar : ((c.toNat : Int) + run.2.2.2).toNat.isValidChar := by
          unfold Nat.isValidChar
          omega
        rw [heq, Char.ofNat, dif_pos hchar]
        rfl
      exfalso
      simp only [isSeparator, Bool.or_eq_true, Bool.and_eq_true, decide_eq_true_eq,
        Bool.not_eq_true', Bool.or_eq_false_iff] at hd
      rcases hd with hblank | ⟨hascii, ⟨halnum, -⟩, -⟩
      · have hnot := blank_outside_of_mem_lowercaseRuns run hmem _ (mem_blankCodes hblank)
        rw [hcode] at hnot
        omega
      · rw [hcode] at hascii
        have hbounds : 97 ≤ (Char.ofNat (shiftIn lowercaseRuns c.toNat)).toNat ∧
            (Char.ofNat (shiftIn lowercaseRuns c.toNat)).toNat ≤ 122 := by
          rw [hcode]
          omega
        have hlower : (Char.ofNat (shiftIn lowercaseRuns c.toNat)).isLower = true :=
          Bool.and_eq_true_iff.2 ⟨decide_eq_true hbounds.1, decide_eq_true hbounds.2⟩
        have halpha : (Char.ofNat (shiftIn lowercaseRuns c.toNat)).isAlpha = false :=
          (Bool.or_eq_false_iff.1 halnum).1
        rw [(Bool.or_eq_false_iff.1 halpha).2] at hlower
        cases hlower

/-! ## Identifiers -/

/-- Whether a text is one identifier. -/
def isIdentifier (cs : List Char) : Bool :=
  (cs.head?.any fun c => !c.isDigit) && isWord cs

/-- The identifiers that a text mentions. -/
def identifiersIn (cs : List Char) : List (List Char) :=
  (cs.splitOnP isSeparator).filter isIdentifier

/-- The names that the text after a `let` declares. -/
def letNames (cs : List Char) : List (List Char) :=
  (pieces ',' cs).map trim

theorem isWord_of_isIdentifier {cs : List Char} (h : isIdentifier cs = true) :
    isWord cs = true := by
  rw [isIdentifier, Bool.and_eq_true] at h
  exact h.2

theorem ne_nil_of_isIdentifier {cs : List Char} (h : isIdentifier cs = true) : cs ≠ [] := by
  rintro rfl
  cases h

theorem notMem_of_isIdentifier {cs : List Char} (h : isIdentifier cs = true) {c : Char}
    (hc : isSeparator c = true) : c ∉ cs := by
  intro hmem
  rw [not_isSeparator_of_mem (isWord_of_isIdentifier h) hmem] at hc
  cases hc

theorem isIdentifier_eq_false_of_mem {cs : List Char} {c : Char} (h : c ∈ cs)
    (hc : isSeparator c = true) : isIdentifier cs = false := by
  cases hcs : isIdentifier cs with
  | false => rfl
  | true => exact absurd h (notMem_of_isIdentifier hcs hc)

theorem identifiersIn_of_isIdentifier {cs : List Char} (h : isIdentifier cs = true) :
    identifiersIn cs = [cs] := by
  have hword : ∀ c ∈ cs, isSeparator c = false := fun c =>
    not_isSeparator_of_mem (isWord_of_isIdentifier h)
  rw [identifiersIn, List.splitOnP_eq_singleton hword]
  simp [h]

/-- A separator comes between identifiers. -/
theorem identifiersIn_append_cons {c : Char} (hc : isSeparator c = true) (as bs : List Char) :
    identifiersIn (as ++ c :: bs) = identifiersIn as ++ identifiersIn bs := by
  rw [identifiersIn, List.splitOnP_append_cons as bs hc, List.filter_append, identifiersIn,
    identifiersIn]

theorem identifiersIn_cons {c : Char} (hc : isSeparator c = true) (cs : List Char) :
    identifiersIn (c :: cs) = identifiersIn cs :=
  identifiersIn_append_cons hc [] cs

theorem identifiersIn_concat {c : Char} (hc : isSeparator c = true) (cs : List Char) :
    identifiersIn (cs ++ [c]) = identifiersIn cs := by
  rw [identifiersIn_append_cons hc]
  exact List.append_nil _

theorem trim_of_isIdentifier {cs : List Char} (h : isIdentifier cs = true) : trim cs = cs := by
  have hblank : ∀ c ∈ cs, isBlank c = false := by
    intro c hc
    have hseparator := not_isSeparator_of_mem (isWord_of_isIdentifier h) hc
    rw [isSeparator, Bool.or_eq_false_iff] at hseparator
    exact hseparator.1
  have hkeep : ∀ ds : List Char, (∀ c ∈ ds, isBlank c = false) → ds.dropWhile isBlank = ds := by
    intro ds hds
    cases ds with
    | nil => rfl
    | cons d ds => rw [List.dropWhile_cons_of_neg (by simp [hds d List.mem_cons_self])]
  rw [trim, trimStart, hkeep cs hblank, trimEnd, dropEndWhile,
    hkeep cs.reverse fun c hc => hblank c (List.mem_reverse.1 hc), List.reverse_reverse]

theorem letNames_of_isIdentifier {cs : List Char} (h : isIdentifier cs = true) :
    letNames cs = [cs] := by
  rw [letNames, pieces_of_notMem (notMem_of_isIdentifier h (by decide)), List.map_singleton,
    trim_of_isIdentifier h]

end Text

open Text

/-! ## Names in a row -/

theorem Text.letNames_cons_blank {c : Char} (hc : isBlank c = true) (hcomma : c ≠ ',')
    (cs : List Char) : letNames (c :: cs) = letNames cs := by
  rw [letNames, pieces, if_neg hcomma, letNames]
  cases pieces ',' cs with
  | nil => rfl
  | cons p ps =>
    have htrim : trim ([c] ++ p) = trim p := trim_blank_append (by simpa using hc) p
    rw [List.singleton_append] at htrim
    rw [List.modifyHead_cons, List.map_cons, htrim, List.map_cons]

theorem toList_commaList_cons (name : String) {names : List String} (h : names ≠ []) :
    (commaList (name :: names)).toList = name.toList ++ ',' :: ' ' :: (commaList names).toList := by
  rw [commaList, String.toList_intercalate, List.map_cons,
    List.intercalate_cons_of_ne_nil (by simpa using h), commaList, String.toList_intercalate,
    List.append_assoc]
  rfl

section CommaList

variable {names : List String} (h : ∀ name ∈ names, isIdentifier name.toList = true)

include h

theorem identifiersIn_commaList :
    identifiersIn (commaList names).toList = names.map String.toList := by
  induction names with
  | nil => rfl
  | cons name names ih =>
    have hname := h name List.mem_cons_self
    have hrest := ih fun n hn => h n (List.mem_cons_of_mem _ hn)
    cases names with
    | nil => simpa [commaList] using identifiersIn_of_isIdentifier hname
    | cons next names =>
      rw [toList_commaList_cons name (by simp), identifiersIn_append_cons (by decide),
        identifiersIn_cons (by decide), hrest, identifiersIn_of_isIdentifier hname]
      rfl

theorem letNames_commaList (hne : names ≠ []) :
    letNames (commaList names).toList = names.map String.toList := by
  induction names with
  | nil => exact absurd rfl hne
  | cons name names ih =>
    have hname := h name List.mem_cons_self
    cases names with
    | nil => simpa [commaList] using letNames_of_isIdentifier hname
    | cons next names =>
      have hcomma : ',' ∉ name.toList := notMem_of_isIdentifier hname (by decide)
      have hrest := ih (fun n hn => h n (List.mem_cons_of_mem _ hn)) (by simp)
      rw [toList_commaList_cons name (by simp), letNames, pieces_append_cons hcomma, List.map_cons,
        trim_of_isIdentifier hname, ← letNames, letNames_cons_blank (by decide) (by decide), hrest]
      rfl

end CommaList

/-! ## Variables named after types -/

theorem isIdentifier_decapitalize {cs : List Char} (h : isIdentifier cs = true) :
    isIdentifier (decapitalize cs) = true := by
  cases cs with
  | nil => cases h
  | cons c cs =>
    have hword := isWord_of_isIdentifier h
    have hdigit : c.isDigit = false := by
      rw [isIdentifier, Bool.and_eq_true] at h
      simpa using h.1
    rw [decapitalize, isIdentifier, Bool.and_eq_true, isWord, List.all_eq_true]
    constructor
    · -- a digit would be one before it is lower-cased
      cases hlower : lowerChar c with
      | nil =>
        unfold lowerChar at hlower
        split at hlower <;> cases hlower
      | cons d ds =>
        show (!d.isDigit) = true
        cases hd : d.isDigit with
        | false => rfl
        | true =>
          simp only [Char.isDigit, Bool.and_eq_true, decide_eq_true_eq, ge_iff_le,
            UInt32.le_iff_toNat_le] at hd
          have hcode : 48 ≤ d.toNat ∧ d.toNat ≤ 57 := hd
          have hsame : d = c := by
            refine mem_of_mem_lowerChar (by rw [hlower]; exact List.mem_cons_self) ?_ (by omega)
            simp only [isOtherAscii, Bool.or_eq_true, decide_eq_true_eq]
            omega
          rw [hsame] at hd
          simp only [Char.isDigit, Bool.and_eq_false_iff, decide_eq_false_iff_not, ge_iff_le,
            UInt32.le_iff_toNat_le] at hdigit
          omega
    · intro d hd
      rw [Bool.not_eq_true']
      rcases List.mem_append.1 hd with hfirst | hrest
      · cases hseparator : isSeparator d with
        | false => rfl
        | true =>
          have hc := isSeparator_of_mem_lowerChar hfirst hseparator
          rw [not_isSeparator_of_mem hword List.mem_cons_self] at hc
          cases hc
      · exact not_isSeparator_of_mem hword (List.mem_cons_of_mem c hrest)

theorem isIdentifier_of_typeVariable? {type name : String}
    (h : Binding.typeVariable? type = some name) : isIdentifier name.toList = true := by
  unfold Binding.typeVariable? at h
  split at h
  · cases h
  · next c cs hhead =>
    split at h
    · cases h
    · next hdigit =>
      obtain rfl := Option.some.inj h
      rw [String.toList_ofList]
      refine isIdentifier_decapitalize ?_
      rw [isIdentifier, Bool.and_eq_true, isWord, List.all_eq_true]
      refine ⟨by simpa using hdigit, fun d hd => ?_⟩
      rw [← hhead] at hd
      simpa using not_isSeparator_of_isNameChar (List.mem_takeWhile_imp hd)

end SpecScaffold
