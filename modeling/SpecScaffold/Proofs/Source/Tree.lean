import SpecScaffold.Facts.Methods

/-!
# Above and below

Two facts about where a search gets to.  The pre-order walk of a tree passes everything that is
above what it passes, so the nearest declaration around a node of a file is itself a declaration of
that file; and the search for a `return` finds one exactly if the scope has one.

    mem_declarations_of_nearest? : what is nearest around a node of a file is listed for the file
    ownReturn?_isSome_iff        : a return is found exactly if the scope of the node owns one
-/

namespace SpecScaffold

/-! ## Ancestors -/

namespace Site

theorem ancestors_of_mem_children {s c : Site} (h : c ∈ s.children) :
    c.ancestors = s :: s.ancestors := by
  obtain ⟨n, -, rfl⟩ := List.mem_map.1 h
  rfl

/-- What is above a site of a walk is on the walk too, or above the worklist. -/
theorem mem_walk_of_mem_ancestors {sites : List Site} {t a : Site} (ht : t ∈ walk sites)
    (ha : a ∈ t.ancestors) : a ∈ walk sites ∨ ∃ s ∈ sites, a ∈ s.ancestors := by
  fun_induction walk sites with
  | case1 => cases ht
  | case2 s rest ih =>
    rcases List.mem_cons.1 ht with rfl | hlater
    · exact .inr ⟨t, List.mem_cons_self, ha⟩
    rcases ih hlater with hin | ⟨u, hu, hau⟩
    · exact .inl (List.mem_cons_of_mem _ hin)
    rcases List.mem_append.1 hu with hchild | hrest
    · -- the worklist has grown by children of `s`, which is on the walk itself
      rw [ancestors_of_mem_children hchild] at hau
      rcases List.mem_cons.1 hau with rfl | has
      · exact .inl List.mem_cons_self
      · exact .inr ⟨s, List.mem_cons_self, has⟩
    · exact .inr ⟨u, List.mem_cons_of_mem _ hrest, hau⟩

/-- What is above a site of a tree is the top, or below it. -/
theorem eq_or_mem_descendants_of_mem_ancestors {root : Node} {t a : Site}
    (ht : t ∈ (ofRoot root).descendants) (ha : a ∈ t.ancestors) :
    a = ofRoot root ∨ a ∈ (ofRoot root).descendants := by
  rcases mem_walk_of_mem_ancestors ht ha with hin | ⟨s, hs, has⟩
  · exact .inr hin
  · rw [ancestors_of_mem_children hs] at has
    exact .inl (List.mem_singleton.1 has)

end Site

namespace Source

/-- The tree of a whole text: its top is a program, or an error where the text is none. -/
def IsFile (src : Source) : Prop :=
  src.root.kind = "program" ∨ src.root.kind = "ERROR"

instance (src : Source) : Decidable src.IsFile :=
  inferInstanceAs (Decidable (_ ∨ _))

/-- The top of a file is not a declaration. -/
theorem IsFile.isOf_top {src : Source} (h : src.IsFile) (kinds : List DeclarationKind) :
    src.isOf kinds src.top = false := by
  have hkind : src.kindOf? src.top = none := by
    rcases h with h | h <;> simp [kindOf?, top, Site.ofRoot, h]
  rw [isOf, hkind]
  rfl

theorem mem_declarations_of_nearest? {src : Source} (h : src.IsFile)
    {kinds : List DeclarationKind} {s a : Site} (hs : s ∈ src.top.descendants)
    (ha : src.nearest? kinds s = some a) : a ∈ src.declarations kinds src.top := by
  have hkind : src.isOf kinds a = true := List.find?_some ha
  rcases Site.eq_or_mem_descendants_of_mem_ancestors hs (List.mem_of_find?_eq_some ha) with
    htop | hbelow
  · have hnot := h.isOf_top kinds
    rw [top, ← htop, hkind] at hnot
    cases hnot
  · exact List.mem_filter.2 ⟨hbelow, hkind⟩

end Source

/-! ## Returns -/

namespace Node

/-- A `return` with a value at or below a node, with no function and no other `return` between. -/
inductive Returns : Node → Node → Prop
  | self {n : Node} : n.kind = "return_statement" → n.hasValue = true → Returns n n
  | inside {n c r : Node} : n.kind ≠ "return_statement" → n.kind ∉ scopeKinds → c ∈ n.children →
      Returns c r → Returns n r

/-- A `return` with a value that belongs to the scope of a node. -/
def OwnsReturn (n r : Node) : Prop :=
  ∃ c ∈ n.children, Returns c r

theorem Returns.of_return {n r : Node} (h : Returns n r) (hkind : n.kind = "return_statement") :
    n.hasValue = true := by
  cases h with
  | self _ hvalue => exact hvalue
  | inside hnot => exact absurd hkind hnot

theorem firstReturn?_isSome_iff (nodes : List Node) :
    (firstReturn? nodes).isSome = true ↔ ∃ n ∈ nodes, ∃ r, Returns n r := by
  fun_induction firstReturn? nodes with
  | case1 => simp
  | case2 n rest hkind hvalue =>
    exact ⟨fun _ => ⟨n, List.mem_cons_self, n, .self (beq_iff_eq.1 hkind) hvalue⟩, fun _ => rfl⟩
  | case3 n rest hkind hvalue ih =>
    have hnone : ¬∃ r, Returns n r := by
      rintro ⟨r, hr⟩
      exact hvalue (hr.of_return (beq_iff_eq.1 hkind))
    simp only [ih, List.mem_cons, exists_eq_or_imp, or_iff_right hnone]
  | case4 n rest hkind hscope ih =>
    have hnone : ¬∃ r, Returns n r := by
      rintro ⟨r, hr⟩
      cases hr with
      | self hreturn => exact hkind (beq_iff_eq.2 hreturn)
      | inside _ hnot => exact hnot (List.contains_iff_mem.1 hscope)
    simp only [ih, List.mem_cons, exists_eq_or_imp, or_iff_right hnone]
  | case5 n rest hkind hscope ih =>
    have hbelow : (∃ r, Returns n r) ↔ ∃ c ∈ n.children, ∃ r, Returns c r := by
      constructor
      · rintro ⟨r, hr⟩
        cases hr with
        | self hreturn => exact absurd (beq_iff_eq.2 hreturn) hkind
        | inside _ _ hc hr => exact ⟨_, hc, r, hr⟩
      · rintro ⟨c, hc, r, hr⟩
        exact ⟨r, .inside (fun h => hkind (beq_iff_eq.2 h))
          (fun h => hscope (List.contains_iff_mem.2 h)) hc hr⟩
    simp only [ih, List.mem_cons, exists_eq_or_imp, hbelow]
    simp only [List.mem_append, or_and_right, exists_or]

theorem ownReturn?_isSome_iff (n : Node) :
    n.ownReturn?.isSome = true ↔ ∃ r, n.OwnsReturn r := by
  rw [ownReturn?, firstReturn?_isSome_iff]
  constructor
  · rintro ⟨c, hc, r, hr⟩
    exact ⟨r, c, hc, hr⟩
  · rintro ⟨r, c, hc, hr⟩
    exact ⟨c, hc, r, hr⟩

end Node

end SpecScaffold
