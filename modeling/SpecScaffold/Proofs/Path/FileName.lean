import SpecScaffold.Proofs.Path.Companion

/-!
# File names

A file name is cut into a stem and an extension, and a path ends in its file name.  Both can be
undone:

    splitName_concat : a stem and an extension put together with a dot are cut there again
    fileName?_join   : a name joined to a directory is the file name of the result
-/

namespace SpecScaffold

open Text

/-! ## The last separator -/

theorem Text.splitLast?_append {sep : Char} {after : List Char} (h : sep ∉ after)
    (before : List Char) : splitLast? sep (before ++ sep :: after) = some (before, after) := by
  have hafter : ∀ c ∈ after.reverse, (c != sep) = true := by
    intro c hc
    rw [bne_iff_ne]
    rintro rfl
    exact h (List.mem_reverse.1 hc)
  have hreverse : (before ++ sep :: after).reverse = after.reverse ++ sep :: before.reverse := by
    simp
  unfold splitLast?
  rw [hreverse, List.span_eq_takeWhile_dropWhile, List.takeWhile_append_of_pos hafter,
    List.dropWhile_append_of_pos hafter]
  simp

theorem Text.splitLast?_eq_none {sep : Char} {cs : List Char} (h : sep ∉ cs) :
    splitLast? sep cs = none := by
  cases hsplit : splitLast? sep cs with
  | none => rfl
  | some cut =>
    exfalso
    apply h
    rw [splitLast?_eq_some hsplit]
    simp

/-- A text has a last separator, or none. -/
theorem Text.exists_last (sep : Char) (cs : List Char) :
    sep ∉ cs ∨ ∃ before after, cs = before ++ sep :: after ∧ sep ∉ after := by
  by_cases h : sep ∈ cs
  · right
    obtain ⟨after, before, hsplit, hafter⟩ := List.eq_append_cons_of_mem (List.mem_reverse.2 h)
    refine ⟨before.reverse, after.reverse, ?_, fun hmem => hafter (List.mem_reverse.1 hmem)⟩
    rw [← List.reverse_reverse cs, hsplit]
    simp
  · exact .inl h

namespace Path

/-! ## Stem and extension -/

theorem splitName_concat {stem extension : String} (hstem : stem ≠ "")
    (hextension : '.' ∉ extension.toList) :
    splitName (stem ++ "." ++ extension) = (stem, some extension) := by
  have hname : (stem ++ "." ++ extension).toList = stem.toList ++ '.' :: extension.toList := by
    simp
  have hne : ¬stem.toList.isEmpty = true := by
    simpa using hstem
  unfold splitName
  rw [hname, splitLast?_append hextension]
  simp only [if_neg hne, String.ofList_toList]

/-- Without a dot after its first character, a name has no extension. -/
theorem splitName_of_notMem {name : String} (h : '.' ∉ name.toList.tail) :
    splitName name = (name, none) := by
  unfold splitName
  rcases exists_last '.' name.toList with hnone | ⟨before, after, hname, hafter⟩
  · rw [splitLast?_eq_none hnone]
  · have hbefore : before = [] := by
      cases before with
      | nil => rfl
      | cons c before =>
        rw [hname] at h
        simp at h
    rw [hname, splitLast?_append hafter, hbefore]
    rfl

/-- What a name is cut into: the whole of it, or what stands before and after its last dot. -/
theorem splitName_cases (name : String) :
    (splitName name = (name, none) ∧ '.' ∉ name.toList.tail) ∨
      ∃ stem extension, splitName name = (stem, some extension) ∧ stem ≠ "" ∧
        '.' ∉ extension.toList ∧ name = stem ++ "." ++ extension := by
  rcases exists_last '.' name.toList with hnone | ⟨before, after, hname, hafter⟩
  · have htail : '.' ∉ name.toList.tail := fun hmem => hnone (List.mem_of_mem_tail hmem)
    exact .inl ⟨splitName_of_notMem htail, htail⟩
  · cases before with
    | nil =>
      have htail : '.' ∉ name.toList.tail := by
        rw [hname]
        exact hafter
      exact .inl ⟨splitName_of_notMem htail, htail⟩
    | cons c before =>
      have hparts : name = String.ofList (c :: before) ++ "." ++ String.ofList after := by
        rw [← String.toList_inj]
        simp [hname]
      have hstem : String.ofList (c :: before) ≠ "" := by
        rw [← String.toList_inj.ne]
        simp
      have hextension : '.' ∉ (String.ofList after).toList := by
        rwa [String.toList_ofList]
      refine .inr ⟨String.ofList (c :: before), String.ofList after, ?_, hstem, hextension, hparts⟩
      rw [hparts]
      exact splitName_concat hstem hextension

/-! ## The end of a path -/

/-- A name that an entry of a directory can have. -/
structure IsEntryName (name : String) : Prop where
  ne_empty : name ≠ ""
  ne_current : name ≠ "."
  ne_parent : name ≠ ".."
  slash : '/' ∉ name.toList

theorem IsEntryName.head_eq {name : String} (h : IsEntryName name) : head name.toList = [] := by
  unfold head
  split
  · next rest hcs => exact absurd (by rw [hcs]; simp) h.slash
  · next hcs => exact absurd (String.toList_inj.1 (by rw [hcs]; rfl)) h.ne_current
  · next rest hcs => exact absurd (by rw [hcs]; simp) h.slash
  · rfl

theorem IsEntryName.pieceComponent_eq {name : String} (h : IsEntryName name) :
    pieceComponent name.toList = some (.normal name) := by
  have hidle : ¬idle name.toList = true := by
    unfold idle
    rw [Bool.or_eq_true, beq_iff_eq, beq_iff_eq, not_or]
    refine ⟨fun hnil => h.ne_empty (String.toList_inj.1 hnil), fun hdot => ?_⟩
    exact h.ne_current (String.toList_inj.1 hdot)
  have hparent : ¬(name.toList == ['.', '.']) = true := by
    rw [beq_iff_eq]
    exact fun hdots => h.ne_parent (String.toList_inj.1 hdots)
  unfold pieceComponent
  rw [if_neg hidle, if_neg hparent, String.ofList_toList]

/-- A text that ends in a name after a slash, or is that name. -/
def EndsInName (cs name : List Char) : Prop :=
  cs = name ∨ ∃ front, cs = front ++ '/' :: name

theorem endsInName_join {name : String} (hslash : '/' ∉ name.toList) (dir : Path) :
    EndsInName (dir.join ⟨name⟩).text.toList name.toList := by
  rcases toList_join hslash dir with ⟨hjoin, -⟩ | ⟨front, hjoin, -⟩
  · exact .inl hjoin
  · exact .inr ⟨front, hjoin⟩

theorem length_head_le (cs : List Char) : (head cs).length ≤ 1 := by
  unfold head
  split <;> simp

/-- The last piece of the body of a path is the name that the path ends in. -/
theorem exists_body_eq {cs : List Char} {name : String} (hname : IsEntryName name)
    (h : EndsInName cs name.toList) : ∃ front, body cs = front ++ [name.toList] := by
  have hlast : ∀ front, pieces '/' (front ++ '/' :: name.toList) =
      pieces '/' front ++ [name.toList] := by
    intro front
    rw [pieces_append_sep, pieces_of_notMem hname.slash]
  rcases h with rfl | ⟨front, rfl⟩
  · refine ⟨[], ?_⟩
    rw [body, hname.head_eq]
    exact pieces_of_notMem hname.slash
  · cases front with
    | nil =>
      refine ⟨[], ?_⟩
      show pieces '/' name.toList = _
      exact pieces_of_notMem hname.slash
    | cons c front =>
      rw [body]
      have hlength := length_head_le (c :: front ++ '/' :: name.toList)
      generalize (head (c :: front ++ '/' :: name.toList)).length = length at hlength
      match length, hlength with
      | 0, _ => exact ⟨_, hlast (c :: front)⟩
      | 1, _ => exact ⟨_, hlast front⟩

theorem fileName?_of_endsInName {p : Path} {name : String} (hname : IsEntryName name)
    (h : EndsInName p.text.toList name.toList) : p.fileName? = some name := by
  obtain ⟨front, hbody⟩ := exists_body_eq hname h
  have hlast : p.components.getLast? = some (.normal name) := by
    have hend : [name.toList].filterMap pieceComponent = [.normal name] := by
      simp [hname.pieceComponent_eq]
    unfold components
    rw [hbody, List.filterMap_append, hend, ← List.append_assoc, List.getLast?_append]
    rfl
  unfold fileName?
  rw [hlast]

theorem fileName?_join {name : String} (hname : IsEntryName name) (dir : Path) :
    (dir.join ⟨name⟩).fileName? = some name :=
  fileName?_of_endsInName hname (endsInName_join hname.slash dir)

end Path

end SpecScaffold
