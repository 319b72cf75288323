import SpecScaffold.Proofs.Text.Lines
import SpecScaffold.Proofs.Text.Words

/-!
# Nested brackets

A text is nested when its round, square and curly brackets pair up and no pair crosses another.
`Nested` says so as a grammar; `pending` reads a text from left to right and keeps the brackets that
are still to be closed, nearest first.

    Nested cs ↔ pending [] cs = some []                                     (nested_iff)
    Nested (as ++ bs) → Nested cs → Nested (as ++ cs ++ bs)                  (Nested.insert)

Only the brackets of a text count (`pending_congr`), so case, indentation and white space do not.
-/

namespace SpecScaffold.Text

/-- The bracket that closes an opening one. -/
def closer? (c : Char) : Option Char :=
  if c = '(' then some ')'
  else if c = '[' then some ']'
  else if c = '\x7b' then some '\x7d'
  else none

def isCloser (c : Char) : Bool :=
  c == ')' || c == ']' || c == '\x7d'

def brackets : List Char :=
  ['(', ')', '[', ']', '\x7b', '\x7d']

def isBracket (c : Char) : Bool :=
  brackets.contains c

/-- A text whose brackets are properly nested. -/
inductive Nested : List Char → Prop where
  | nil : Nested []
  | plain {c : Char} {cs : List Char} (hc : isBracket c = false) (h : Nested cs) : Nested (c :: cs)
  | pair {opening closing : Char} {inner rest : List Char} (hc : closer? opening = some closing)
      (hinner : Nested inner) (hrest : Nested rest) :
      Nested (opening :: (inner ++ closing :: rest))

/-! ## Reading with a stack -/

/-- The brackets to be closed after one more character; `none` if it closes a bracket that is not
the nearest one. -/
def pendingAfter (expected : List Char) (c : Char) : Option (List Char) :=
  match closer? c with
  | some closing => some (closing :: expected)
  | none =>
    if isCloser c then
      match expected with
      | [] => none
      | nearest :: others => if c = nearest then some others else none
    else some expected

/-- The brackets to be closed after a text, where `expected` are to be closed before it. -/
def pending (expected cs : List Char) : Option (List Char) :=
  cs.foldlM pendingAfter expected

@[simp]
theorem pending_nil (expected : List Char) : pending expected [] = some expected := rfl

theorem pending_cons (expected : List Char) (c : Char) (cs : List Char) :
    pending expected (c :: cs) = (pendingAfter expected c).bind fun after => pending after cs := rfl

theorem pending_append (expected as bs : List Char) :
    pending expected (as ++ bs) = (pending expected as).bind fun after => pending after bs :=
  List.foldlM_append

/-- A bracket opens or closes. -/
theorem isBracket_eq (c : Char) : isBracket c = ((closer? c).isSome || isCloser c) := by
  by_cases hc : c ∈ brackets
  · simp only [brackets, List.mem_cons, List.not_mem_nil, or_false] at hc
    rcases hc with rfl | rfl | rfl | rfl | rfl | rfl <;> rfl
  · have hnone : isBracket c = false := by simpa [isBracket] using hc
    simp only [brackets, List.mem_cons, List.not_mem_nil, or_false, not_or] at hc
    obtain ⟨h₁, h₂, h₃, h₄, h₅, h₆⟩ := hc
    simp [hnone, closer?, isCloser, h₁, h₂, h₃, h₄, h₅, h₆]

theorem pendingAfter_of_not_isBracket {c : Char} (hc : isBracket c = false)
    (expected : List Char) : pendingAfter expected c = some expected := by
  rw [isBracket_eq, Bool.or_eq_false_iff] at hc
  have hopen : closer? c = none := by simpa using hc.1
  unfold pendingAfter
  simp [hopen, hc.2]

theorem pendingAfter_of_closer? {c closing : Char} (hc : closer? c = some closing)
    (expected : List Char) : pendingAfter expected c = some (closing :: expected) := by
  unfold pendingAfter
  rw [hc]

theorem closer?_eq_none_of_isCloser {c : Char} (hc : isCloser c = true) : closer? c = none := by
  simp only [isCloser, Bool.or_eq_true, beq_iff_eq] at hc
  rcases hc with (rfl | rfl) | rfl <;> rfl

theorem isCloser_of_closer? {c closing : Char} (hc : closer? c = some closing) :
    isCloser closing = true := by
  unfold closer? at hc
  split at hc
  · exact Option.some.inj hc ▸ rfl
  · split at hc
    · exact Option.some.inj hc ▸ rfl
    · split at hc
      · exact Option.some.inj hc ▸ rfl
      · cases hc

theorem pendingAfter_self {c : Char} (hc : isCloser c = true) (expected : List Char) :
    pendingAfter (c :: expected) c = some expected := by
  rw [pendingAfter, closer?_eq_none_of_isCloser hc]
  simp [hc]

/-- A nested text leaves what is to be closed as it was. -/
theorem Nested.pending_eq {cs : List Char} (h : Nested cs) (expected : List Char) :
    pending expected cs = some expected := by
  induction h generalizing expected with
  | nil => rfl
  | plain hc _ ih => rw [pending_cons, pendingAfter_of_not_isBracket hc, Option.bind_some, ih]
  | pair hc _ _ ihInner ihRest =>
    rw [pending_cons, pendingAfter_of_closer? hc, Option.bind_some, pending_append, ihInner,
      Option.bind_some, pending_cons, pendingAfter_self (isCloser_of_closer? hc), Option.bind_some,
      ihRest]

/-- What a character does to the brackets that are to be closed. -/
theorem pendingAfter_cases {expected after : List Char} {c : Char}
    (h : pendingAfter expected c = some after) :
    (∃ closing, closer? c = some closing ∧ after = closing :: expected) ∨
      expected = c :: after ∨ isBracket c = false ∧ after = expected := by
  unfold pendingAfter at h
  split at h
  · next closing hc => exact .inl ⟨closing, hc, (Option.some.inj h).symm⟩
  · next hc =>
    split at h
    · split at h
      · cases h
      · next nearest others =>
        split at h
        · next heq =>
          rw [heq, Option.some.inj h]
          exact .inr (.inl rfl)
        · cases h
    · next hclose =>
      refine .inr (.inr ⟨?_, (Option.some.inj h).symm⟩)
      rw [isBracket_eq, hc, Bool.eq_false_iff.2 hclose]
      rfl

/-- Where a bracket is to be closed and everything is closed in the end, the text up to the place
where that bracket is closed is nested. -/
theorem exists_split_of_pending {closing : Char} {expected cs : List Char}
    (h : pending (closing :: expected) cs = some []) :
    ∃ inner rest, cs = inner ++ closing :: rest ∧ Nested inner ∧
      pending expected rest = some [] := by
  -- on the length: after an inner pair the induction goes on with what follows that pair
  induction hn : cs.length using Nat.strong_induction_on generalizing closing expected cs with
  | _ n ih =>
    cases cs with
    | nil => cases h
    | cons c cs =>
      subst hn
      obtain ⟨after, hafter, hcs⟩ := Option.bind_eq_some_iff.1 h
      rcases pendingAfter_cases hafter with ⟨d, hd, rfl⟩ | heq | ⟨hplain, rfl⟩
      · obtain ⟨inner, rest, rfl, hinner, hrest⟩ := ih cs.length (by simp) hcs rfl
        obtain ⟨inner', rest', rfl, hinner', hrest'⟩ :=
          ih rest.length (by simp; omega) hrest rfl
        exact ⟨c :: (inner ++ d :: inner'), rest', by simp, .pair hd hinner hinner', hrest'⟩
      · obtain ⟨rfl, rfl⟩ := List.cons.inj heq
        exact ⟨[], cs, rfl, .nil, hcs⟩
      · obtain ⟨inner, rest, rfl, hinner, hrest⟩ := ih cs.length (by simp) hcs rfl
        exact ⟨c :: inner, rest, rfl, .plain hplain hinner, hrest⟩

theorem nested_of_pending {cs : List Char} (h : pending [] cs = some []) : Nested cs := by
  induction hn : cs.length using Nat.strong_induction_on generalizing cs with
  | _ n ih =>
    cases cs with
    | nil => exact .nil
    | cons c cs =>
      subst hn
      obtain ⟨after, hafter, hcs⟩ := Option.bind_eq_some_iff.1 h
      rcases pendingAfter_cases hafter with ⟨d, hd, rfl⟩ | heq | ⟨hplain, rfl⟩
      · obtain ⟨inner, rest, rfl, hinner, hrest⟩ := exists_split_of_pending hcs
        exact .pair hd hinner (ih rest.length (by simp; omega) hrest rfl)
      · cases heq
      · exact .plain hplain (ih cs.length (by simp) hcs rfl)

/-- Reading with a stack decides the grammar. -/
theorem nested_iff {cs : List Char} : Nested cs ↔ pending [] cs = some [] :=
  ⟨fun h => h.pending_eq [], nested_of_pending⟩

instance (cs : List Char) : Decidable (Nested cs) :=
  decidable_of_iff (pending [] cs = some []) nested_iff.symm

/-! ## Putting texts together -/

theorem Nested.append {as bs : List Char} (ha : Nested as) (hb : Nested bs) :
    Nested (as ++ bs) := by
  rw [nested_iff, pending_append, ha.pending_eq, Option.bind_some, hb.pending_eq]

/-- A nested text can be put anywhere into a nested text. -/
theorem Nested.insert {as bs cs : List Char} (h : Nested (as ++ bs)) (hc : Nested cs) :
    Nested (as ++ cs ++ bs) := by
  rw [nested_iff, pending_append] at h
  rw [nested_iff, List.append_assoc, pending_append]
  obtain ⟨after, hafter, hbs⟩ := Option.bind_eq_some_iff.1 h
  rw [hafter, Option.bind_some, pending_append, hc.pending_eq, Option.bind_some, hbs]

theorem nested_flatMap {α : Type} {f : α → List Char} {xs : List α} (h : ∀ x ∈ xs, Nested (f x)) :
    Nested (xs.flatMap f) := by
  induction xs with
  | nil => exact .nil
  | cons x xs ih =>
    rw [List.flatMap_cons]
    exact (h x List.mem_cons_self).append (ih fun y hy => h y (List.mem_cons_of_mem _ hy))

/-! ## Only brackets count -/

theorem pending_filter (expected cs : List Char) :
    pending expected (cs.filter isBracket) = pending expected cs := by
  induction cs generalizing expected with
  | nil => rfl
  | cons c cs ih =>
    cases hc : isBracket c with
    | true =>
      rw [List.filter_cons_of_pos hc, pending_cons, pending_cons]
      exact congrArg _ (funext fun after => ih after)
    | false =>
      rw [List.filter_cons_of_neg (by simp [hc]), pending_cons, pendingAfter_of_not_isBracket hc,
        Option.bind_some, ih]

/-- Texts with the same brackets do the same to what is to be closed. -/
theorem pending_congr {as bs : List Char} (h : as.filter isBracket = bs.filter isBracket)
    (expected : List Char) : pending expected as = pending expected bs := by
  rw [← pending_filter, h, pending_filter]

theorem nested_congr {as bs : List Char} (h : as.filter isBracket = bs.filter isBracket) :
    Nested as ↔ Nested bs := by
  rw [nested_iff, nested_iff, pending_congr h]

theorem nested_of_no_bracket {cs : List Char} (h : ∀ c ∈ cs, isBracket c = false) : Nested cs := by
  have hnone : cs.filter isBracket = ([] : List Char).filter isBracket := by
    rw [List.filter_nil, List.filter_eq_nil_iff]
    intro c hc
    simp [h c hc]
  exact (nested_congr hnone).2 .nil

theorem not_isBracket {c : Char} {p : Char → Bool} (h : p c = true)
    (hp : brackets.any p = false) : isBracket c = false := by
  cases hb : isBracket c with
  | false => rfl
  | true =>
    have hmem : c ∈ brackets := by simpa [isBracket] using hb
    exact absurd h (List.any_eq_false.1 hp c hmem)

theorem not_isBracket_of_isBlank {c : Char} (h : isBlank c = true) : isBracket c = false :=
  not_isBracket h (by decide)

/-- Lower-casing a character keeps its bracket, if it is one, and brings in none. -/
theorem filter_lowerChar (c : Char) :
    (lowerChar c).filter isBracket = [c].filter isBracket := by
  by_cases hc : c ∈ brackets
  · simp only [brackets, List.mem_cons, List.not_mem_nil, or_false] at hc
    rcases hc with rfl | rfl | rfl | rfl | rfl | rfl <;> rfl
  · have hnone : isBracket c = false := by simpa [isBracket] using hc
    rw [List.filter_cons_of_neg (by simp [hnone]), List.filter_nil, List.filter_eq_nil_iff]
    intro d hd hbracket
    have hmem : d ∈ brackets := by simpa [isBracket] using hbracket
    have hascii : brackets.all (fun e => isOtherAscii e && decide (e.toNat ≠ 0)) = true := by decide
    obtain ⟨hother, hzero⟩ := Bool.and_eq_true_iff.1 (List.all_eq_true.1 hascii d hmem)
    have hzero := of_decide_eq_true hzero
    rw [mem_of_mem_lowerChar hd hother hzero] at hmem
    exact hc hmem

theorem filter_splitChar (c : Char) :
    (splitChar c).filter isBracket = [c].filter isBracket := by
  unfold splitChar
  split
  · rw [List.filter_cons_of_neg (by decide), filter_lowerChar]
  · exact filter_lowerChar c

theorem filter_flatMap_splitChar (cs : List Char) :
    (cs.flatMap splitChar).filter isBracket = cs.filter isBracket := by
  induction cs with
  | nil => rfl
  | cons c cs ih =>
    rw [List.flatMap_cons, List.filter_append, filter_splitChar, ih, ← List.filter_append]
    rfl

/-- A title has the brackets of the name. -/
theorem filter_wordsOf (cs : List Char) : (wordsOf cs).filter isBracket = cs.filter isBracket := by
  cases cs with
  | nil => rfl
  | cons c cs =>
    rw [wordsOf, List.filter_append, filter_lowerChar, filter_flatMap_splitChar,
      ← List.filter_append]
    rfl

theorem filter_decapitalize (cs : List Char) :
    (decapitalize cs).filter isBracket = cs.filter isBracket := by
  cases cs with
  | nil => rfl
  | cons c cs =>
    rw [decapitalize, List.filter_append, filter_lowerChar, ← List.filter_append]
    rfl

theorem filter_dropWhile {p : Char → Bool} (hp : brackets.any p = false) (cs : List Char) :
    (cs.dropWhile p).filter isBracket = cs.filter isBracket := by
  induction cs with
  | nil => rfl
  | cons c cs ih =>
    cases hc : p c with
    | true =>
      rw [List.dropWhile_cons_of_pos hc, ih,
        List.filter_cons_of_neg (by simp [not_isBracket hc hp])]
    | false => rw [List.dropWhile_cons_of_neg (by simp [hc])]

theorem filter_trimEnd (cs : List Char) : (trimEnd cs).filter isBracket = cs.filter isBracket := by
  rw [trimEnd, dropEndWhile, List.filter_reverse, filter_dropWhile (by decide),
    List.filter_reverse, List.reverse_reverse]

end SpecScaffold.Text
