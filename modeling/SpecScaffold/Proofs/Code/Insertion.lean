import SpecScaffold.Code.Insertion
import SpecScaffold.Proofs.Text.Lines

/-!
# Where a plan inserts

The offset of a plan is the end of a start of the document, so it is never inside a character and
the insertion always has a result:

    ∃ before after, document.toList = before ++ after ∧
      (plan document generated hasImport joinsGroup).applyTo? document =
        some (String.ofList (before ++ text ++ after))                    (exists_applyTo?_plan)

`lastClosing?_eq_some_iff` says which line a plan joins a group at.
-/

namespace SpecScaffold.Insertion

open Text

/-- The last line that closes a group: no line after it does. -/
theorem lastClosing?_eq_some_iff {document closing : List Char} {before : List (List Char)} :
    lastClosing? document = some (before, closing) ↔
      ∃ after, fullLines document = before.reverse ++ closing :: after ∧
        closesGroup closing = true ∧ ∀ line ∈ after, closesGroup line = false := by
  unfold lastClosing?
  constructor
  · intro h
    split at h
    · cases h
    · next line rest hd =>
      obtain ⟨rfl, rfl⟩ := Prod.mk.inj (Option.some.inj h)
      refine ⟨((fullLines document).reverse.takeWhile fun line => !closesGroup line).reverse,
        ?_, ?_, ?_⟩
      · have hsplit := List.takeWhile_append_dropWhile
          (p := fun line => !closesGroup line) (l := (fullLines document).reverse)
        rw [hd] at hsplit
        have hreversed := congrArg List.reverse hsplit
        simpa using hreversed.symm
      · have hhead := List.head?_dropWhile_not (fun line => !closesGroup line)
          (fullLines document).reverse
        rw [hd] at hhead
        simpa using hhead
      · intro line hline
        simpa using List.mem_takeWhile_imp (List.mem_reverse.1 hline)
  · rintro ⟨after, hlines, hclosing, hafter⟩
    have hskip : ∀ line ∈ after.reverse, (!closesGroup line) = true := by
      intro line hline
      rw [hafter line (List.mem_reverse.1 hline)]
      rfl
    rw [hlines, List.reverse_append, List.reverse_cons, List.append_assoc,
      List.dropWhile_append_of_pos hskip, List.reverse_reverse, List.singleton_append,
      List.dropWhile_cons_of_neg (by simp [hclosing])]

theorem lastClosing?_eq_none_iff {document : List Char} :
    lastClosing? document = none ↔ ∀ line ∈ fullLines document, closesGroup line = false := by
  unfold lastClosing?
  constructor
  · intro h
    split at h
    · next hd =>
      intro line hline
      simpa using List.dropWhile_eq_nil_iff.1 hd line (List.mem_reverse.2 hline)
    · cases h
  · intro h
    have hd : (fullLines document).reverse.dropWhile (fun line => !closesGroup line) = [] := by
      refine List.dropWhile_eq_nil_iff.2 fun line hline => ?_
      rw [h line (List.mem_reverse.1 hline)]
      rfl
    rw [hd]

/-- The indentation of what joins a group. -/
theorem isBlank_of_mem_margin {closing : List Char} :
    ∀ c ∈ leadingBlank closing ++ [' ', ' '], isBlank c = true := by
  intro c hc
  rcases List.mem_append.1 hc with hc | hc
  · exact List.mem_takeWhile_imp hc
  · exact List.all_eq_true.1 (by decide) c hc

/-- Applying an insertion whose offset is the end of a start of the document. -/
theorem applyTo?_eq_some {i : Insertion} {document : String} {before after : List Char}
    (hdoc : document.toList = before ++ after) (hoffset : i.offset = byteLength before) :
    i.applyTo? document = some (String.ofList (before ++ i.text.toList ++ after)) := by
  unfold applyTo?
  rw [hdoc, hoffset, splitAtByte?_byteLength]
  rfl

/-! ## The three places of an insertion -/

section

variable {document : String}

theorem plan_of_blank (h : trim document.toList = []) (generated : String)
    (hasImport joinsGroup : Bool) :
    plan document generated hasImport joinsGroup = ⟨0, 0, generated, true⟩ := by
  simp only [plan, h, List.isEmpty_nil, if_true]

variable (hblank : trim document.toList ≠ [])

include hblank

theorem plan_of_lastClosing? {before : List (List Char)} {closing : List Char}
    (h : lastClosing? document.toList = some (before, closing)) (generated : String)
    (hasImport : Bool) :
    plan document generated hasImport true =
      inGroup before closing (insertedBody document.toList generated.toList hasImport) := by
  have hempty : (trim document.toList).isEmpty = false := by simpa using hblank
  simp only [plan, hempty, Bool.false_eq_true, if_false, h]

theorem plan_of_no_group {joinsGroup : Bool}
    (h : joinsGroup = true → lastClosing? document.toList = none) (generated : String)
    (hasImport : Bool) :
    plan document generated hasImport joinsGroup =
      atEnd document.toList (insertedBody document.toList generated.toList hasImport) := by
  have hempty : (trim document.toList).isEmpty = false := by simpa using hblank
  simp only [plan, hempty, Bool.false_eq_true, if_false]
  cases joinsGroup with
  | false => rfl
  | true => rw [h rfl]

end

/-- A plan is for the start of a blank document, for the last group, before the line that closes it,
or for the end of the document. -/
theorem plan_cases (document generated : String) (hasImport joinsGroup : Bool) :
    trim document.toList = [] ∧
        plan document generated hasImport joinsGroup = ⟨0, 0, generated, true⟩ ∨
      (joinsGroup = true ∧ ∃ before closing after,
        lastClosing? document.toList = some (before, closing) ∧
        document.toList = before.reverse.flatten ++ (closing :: after).flatten ∧
        plan document generated hasImport joinsGroup =
          inGroup before closing (insertedBody document.toList generated.toList hasImport)) ∨
      trim document.toList ≠ [] ∧ (joinsGroup = true → lastClosing? document.toList = none) ∧
        plan document generated hasImport joinsGroup =
          atEnd document.toList (insertedBody document.toList generated.toList hasImport) := by
  by_cases hblank : trim document.toList = []
  · exact .inl ⟨hblank, plan_of_blank hblank _ _ _⟩
  by_cases hgroup : joinsGroup = true → lastClosing? document.toList = none
  · exact .inr (.inr ⟨hblank, hgroup, plan_of_no_group hblank hgroup _ _⟩)
  · obtain ⟨rfl, hsome⟩ := Classical.not_imp.1 hgroup
    obtain ⟨⟨before, closing⟩, hclosing⟩ := Option.ne_none_iff_exists'.1 hsome
    obtain ⟨after, hlines, -, -⟩ := lastClosing?_eq_some_iff.1 hclosing
    refine .inr (.inl ⟨rfl, before, closing, after, hclosing, ?_,
      plan_of_lastClosing? hblank hclosing _ _⟩)
    rw [← flatten_fullLines document.toList, hlines, List.flatten_append]

/-- The offset of a plan is the end of a start of the document. -/
theorem exists_offset_plan (document generated : String) (hasImport joinsGroup : Bool) :
    ∃ before after, document.toList = before ++ after ∧
      (plan document generated hasImport joinsGroup).offset = byteLength before := by
  rcases plan_cases document generated hasImport joinsGroup with
    ⟨-, hplan⟩ | ⟨-, before, closing, after, -, hdoc, hplan⟩ | ⟨-, -, hplan⟩
  · exact ⟨[], document.toList, rfl, by rw [hplan]; rfl⟩
  · exact ⟨before.reverse.flatten, _, hdoc, by rw [hplan]; rfl⟩
  · exact ⟨document.toList, [], (List.append_nil _).symm, by rw [hplan]; rfl⟩

/-- A plan can always be carried out, and only adds its text. -/
theorem exists_applyTo?_plan (document generated : String) (hasImport joinsGroup : Bool) :
    ∃ before after, document.toList = before ++ after ∧
      (plan document generated hasImport joinsGroup).applyTo? document =
        some (String.ofList
          (before ++ (plan document generated hasImport joinsGroup).text.toList ++ after)) := by
  obtain ⟨before, after, hdoc, hoffset⟩ :=
    exists_offset_plan document generated hasImport joinsGroup
  exact ⟨before, after, hdoc, applyTo?_eq_some hdoc hoffset⟩

end SpecScaffold.Insertion
