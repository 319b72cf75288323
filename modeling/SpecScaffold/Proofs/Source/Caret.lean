import SpecScaffold.Proofs.Source.Innermost

/-!
# The method at a caret

What stands at a caret is looked for in two stages: the nearest declaration at or around the
innermost node, and from there the nearest method.  The first stage does not lose a method, since a
method is a declaration (`atCaret_eq_find?`).  In a tree whose siblings do not overlap, a caret
inside a method is answered by that method, or by one inside it:

    m ∈ src.sites → src.isOf DeclarationKind.atCaret m →
      m.node.start ≤ offset → offset < m.node.stop →
      ∃ inner, src.atCaret offset = .method (src.method inner) ∧ (inner = m ∨ inner ∈ m.descendants)
-/

namespace SpecScaffold

/-- The children are in order and do not overlap; they may touch. -/
def Node.SeparatesChildren (n : Node) : Prop :=
  n.children.Pairwise fun a b => a.start ≤ b.start ∧ a.stop ≤ b.start

instance (n : Node) : Decidable n.SeparatesChildren :=
  inferInstanceAs (Decidable (n.children.Pairwise fun a b => a.start ≤ b.start ∧ a.stop ≤ b.start))

theorem Node.SeparatesChildren.sortsChildren {n : Node} (h : n.SeparatesChildren) :
    n.SortsChildren :=
  h.imp fun hab => hab.1

/-- A node does not end before it starts, holds its children, and keeps them apart. -/
def Node.OrdersSpans (n : Node) : Prop :=
  n.start ≤ n.stop ∧ n.HoldsChildren ∧ n.SeparatesChildren

instance (n : Node) : Decidable n.OrdersSpans :=
  inferInstanceAs (Decidable (_ ∧ _))

/-! ## After a subtree -/

namespace Site

theorem subtrees_append (above : List Node) (ns ms : List Node) :
    subtrees above (ns ++ ms) = subtrees above ns ++ subtrees above ms := by
  rw [subtrees_eq_flatMap, subtrees_eq_flatMap, subtrees_eq_flatMap, List.flatMap_append]

/-- In pre-order what is at and below a node is in one piece, and what comes after it starts where
the node ends, or later. -/
theorem exists_subtree_split {above : List Node} {n : Node} {m : Site}
    (h : ∀ t ∈ subtree above n, t.node.HoldsChildren ∧ t.node.SeparatesChildren)
    (hm : m ∈ subtree above n) :
    ∃ earlier later, subtree above n = earlier ++ subtree m.above m.node ++ later ∧
      ∀ t ∈ later, m.node.stop ≤ t.node.start := by
  induction n using Node.induction_on_children generalizing above with
  | node n ih =>
    rcases mem_subtree_iff.1 hm with rfl | ⟨c, hc, hmc⟩
    · exact ⟨[], [], by simp, by simp⟩
    · obtain ⟨earlier, later, hsplit, hlater⟩ := ih c hc (forall_mem_subtree_child h hc) hmc
      obtain ⟨before, after, hchildren⟩ := List.append_of_mem hc
      refine ⟨⟨n, above⟩ :: subtrees (n :: above) before ++ earlier,
        later ++ subtrees (n :: above) after, ?_, fun t ht => ?_⟩
      · rw [subtree_eq, hchildren, subtrees_append, subtrees, hsplit]
        simp
      · rcases List.mem_append.1 ht with ht | ht
        · exact hlater t ht
        · obtain ⟨d, hd, htd⟩ := mem_subtrees.1 ht
          have hmem : d ∈ n.children := by
            rw [hchildren]
            exact List.mem_append_right _ (List.mem_cons_of_mem _ hd)
          have hapart : n.SeparatesChildren := (h _ (mem_subtree_self above n)).2
          rw [Node.SeparatesChildren, hchildren, List.pairwise_append, List.pairwise_cons] at hapart
          have hcd := hapart.2.1.1 d hd
          have hholds : ∀ t ∈ subtree above n, t.node.HoldsChildren := fun t ht => (h t ht).1
          have hmWithin := within_of_mem_subtree (forall_mem_subtree_child hholds hc) hmc
          have htWithin := within_of_mem_subtree (forall_mem_subtree_child hholds hmem) htd
          omega

/-- Where spans are in order, pre-order is the order of the starts. -/
theorem pairwise_start_subtree {above : List Node} {n : Node}
    (h : ∀ s ∈ subtree above n, s.node.OrdersSpans) :
    (subtree above n).Pairwise fun s t => s.node.start ≤ t.node.start := by
  induction n using Node.induction_on_children generalizing above with
  | node n ih =>
    have hholds : ∀ s ∈ subtree above n, s.node.HoldsChildren := fun s hs => (h s hs).2.1
    rw [subtree_eq, List.pairwise_cons, subtrees_eq_flatMap, List.pairwise_flatMap]
    refine ⟨fun s hs => ?_, fun c hc => ih c hc (forall_mem_subtree_child h hc), ?_⟩
    · rw [← subtrees_eq_flatMap] at hs
      have hbelow : s ∈ subtree above n := by
        rw [subtree_eq]
        exact List.mem_cons_of_mem _ hs
      exact (within_of_mem_subtree hholds hbelow).1
    · have hapart : n.SeparatesChildren := (h _ (mem_subtree_self above n)).2.2
      refine hapart.imp_of_mem fun {a b} ha hb hab s hs t ht => ?_
      have hsWithin := within_of_mem_subtree (forall_mem_subtree_child hholds ha) hs
      have htWithin := within_of_mem_subtree (forall_mem_subtree_child hholds hb) ht
      have hspan : s.node.start ≤ s.node.stop := (forall_mem_subtree_child h ha s hs).1
      omega

/-- The nearest site of a path that passes a test, where the path leads through a node that does: it
is at or below that node, and the path starts at or below it. -/
theorem exists_find?_path {p : Site → Bool} {m s : Site} (hs : s ∈ subtree m.above m.node)
    (hm : p m = true) :
    ∃ a, s.path.find? p = some a ∧ p a = true ∧ a ∈ subtree m.above m.node ∧
      s ∈ subtree a.above a.node := by
  obtain ⟨inner, hpath, hinner⟩ := exists_path_eq hs
  have hfind : s.path.find? p = (inner.find? p).or (some m) := by
    rw [hpath, List.find?_append, path, List.find?_cons_of_pos hm]
  cases hin : inner.find? p with
  | none =>
    rw [hin] at hfind
    exact ⟨m, hfind, hm, mem_subtree_self _ _, hs⟩
  | some a =>
    rw [hin] at hfind
    obtain ⟨hbelow, hsite⟩ :=
      hinner a (List.mem_append_left _ (List.mem_of_find?_eq_some hin))
    exact ⟨a, hfind, List.find?_some hin, hbelow, hsite⟩

end Site

namespace Source

/-! ## Two stages -/

theorem selfOrNearest?_eq_find? (src : Source) (kinds : List DeclarationKind) (s : Site) :
    src.selfOrNearest? kinds s = s.path.find? (src.isOf kinds) := by
  rw [selfOrNearest?, nearest?, Site.path, List.find?_cons]
  cases src.isOf kinds s <;> rfl

theorem isOf_iff {src : Source} {kinds : List DeclarationKind} {s : Site} :
    src.isOf kinds s = true ↔ ∃ k ∈ kinds, src.kindOf? s = some k := by
  unfold isOf
  cases src.kindOf? s with
  | none => simp
  | some k => simp

theorem isOf_mono {src : Source} {kinds more : List DeclarationKind} (h : kinds ⊆ more) {s : Site}
    (hs : src.isOf kinds s = true) : src.isOf more s = true := by
  obtain ⟨k, hk, hkind⟩ := isOf_iff.1 hs
  exact isOf_iff.2 ⟨k, h hk, hkind⟩

/-- What is nearest of fewer kinds can be looked for from what is nearest of more kinds. -/
theorem find?_path_of_nearest {src : Source} {kinds more : List DeclarationKind}
    (h : kinds ⊆ more) {s d : Site} (hd : s.path.find? (src.isOf more) = some d) :
    s.path.find? (src.isOf kinds) = d.path.find? (src.isOf kinds) := by
  obtain ⟨-, before, after, hpath, hbefore⟩ := List.find?_eq_some_iff_append.1 hd
  have hnone : before.find? (src.isOf kinds) = none := by
    refine List.find?_eq_none.2 fun t ht hkind => ?_
    have hnot := hbefore t ht
    rw [isOf_mono h hkind] at hnot
    cases hnot
  rw [hpath, List.find?_append, hnone, Option.none_or, Site.eq_path_of_path_eq hpath]

/-- The innermost node at an offset and those above it, nearest first. -/
def pathAt (src : Source) (offset : Nat) : List Site :=
  (src.innermost? offset).elim [] Site.path

/-- The two stages together: the nearest method at or around the innermost node; without one it
makes a difference whether there is any declaration. -/
theorem atCaret_eq_find? (src : Source) (offset : Nat) :
    src.atCaret offset =
      match (src.pathAt offset).find? (src.isOf DeclarationKind.atCaret) with
      | some m => .method (src.method m)
      | none =>
        if (src.pathAt offset).any (src.isOf DeclarationKind.all) then .noMethod
        else .noDeclaration := by
  have hkinds : DeclarationKind.atCaret ⊆ DeclarationKind.all := by decide
  unfold atCaret pathAt
  cases src.innermost? offset with
  | none => rfl
  | some s =>
    rw [Option.bind_some, selfOrNearest?_eq_find?, Option.elim_some]
    cases hd : s.path.find? (src.isOf DeclarationKind.all) with
    | none =>
      have hall := List.find?_eq_none.1 hd
      have hany : s.path.any (src.isOf DeclarationKind.all) = false := by
        simpa using hall
      have hnone : s.path.find? (src.isOf DeclarationKind.atCaret) = none :=
        List.find?_eq_none.2 fun t ht hkind => hall t ht (isOf_mono hkinds hkind)
      rw [hnone, hany]
      rfl
    | some d =>
      have hany : s.path.any (src.isOf DeclarationKind.all) = true :=
        List.any_eq_true.2 ⟨d, List.mem_of_find?_eq_some hd, List.find?_some hd⟩
      rw [find?_path_of_nearest hkinds hd, hany, ← selfOrNearest?_eq_find?]
      dsimp only
      cases src.selfOrNearest? DeclarationKind.atCaret d <;> rfl

/-! ## Inside a method -/

/-- In a tree whose siblings do not overlap, the innermost node at an offset inside a node, its end
left out, is at or below that node. -/
theorem exists_innermost?_of_mem_sites {src : Source} {offset : Nat} {m : Site}
    (h : ∀ s ∈ src.sites, s.node.HoldsChildren ∧ s.node.SeparatesChildren)
    (hm : m ∈ src.sites) (hstart : m.node.start ≤ offset) (hstop : offset < m.node.stop) :
    ∃ s ∈ Site.subtree m.above m.node, src.innermost? offset = some s ∧ s.node.Spans offset := by
  have hlast : src.innermost? offset = (Site.spanning offset src.sites).getLast? :=
    Site.lastAt_eq_getLast? fun s hs => ⟨(h s hs).1, (h s hs).2.sortsChildren⟩
  obtain ⟨earlier, later, hsplit, hlater⟩ := Site.exists_subtree_split h hm
  have hnil : Site.spanning offset later = [] := Site.spanning_eq_nil fun t ht => by
    have hafter := hlater t ht
    omega
  have hself : m ∈ Site.spanning offset (Site.subtree m.above m.node) :=
    Site.mem_spanning.2 ⟨Site.mem_subtree_self _ _, hstart, Nat.le_of_lt hstop⟩
  have hne := List.ne_nil_of_mem hself
  obtain ⟨hbelow, hspans⟩ := Site.mem_spanning.1 (List.getLast_mem hne)
  refine ⟨_, hbelow, ?_, hspans⟩
  rw [hlast, sites, hsplit, Site.spanning_append, hnil, List.append_nil, Site.spanning_append,
    List.getLast?_append, List.getLast?_eq_some_getLast hne, Option.some_or]

/-- What stands at a caret is the nearest method among the innermost node there and those above it;
without a method it depends on whether one of them is a declaration.  A caret inside a method, its
end left out, is answered by that method or one inside it, whose bytes contain the caret. -/
theorem atCaret_finds_enclosing_method (src : Source) (offset : Nat)
    (h : ∀ s ∈ src.sites, s.node.HoldsChildren ∧ s.node.SeparatesChildren) :
    (src.atCaret offset =
      match (src.pathAt offset).find? (src.isOf DeclarationKind.atCaret) with
      | some m => .method (src.method m)
      | none =>
        if (src.pathAt offset).any (src.isOf DeclarationKind.all) then .noMethod
        else .noDeclaration) ∧
    ∀ m ∈ src.sites, src.isOf DeclarationKind.atCaret m = true →
      m.node.start ≤ offset → offset < m.node.stop →
      ∃ inner, src.atCaret offset = .method (src.method inner) ∧
        (inner = m ∨ inner ∈ m.descendants) ∧
        src.isOf DeclarationKind.atCaret inner = true ∧ inner.node.Spans offset := by
  refine ⟨src.atCaret_eq_find? offset, fun m hm hkind hstart hstop => ?_⟩
  obtain ⟨s, hs, hinnermost, hspans⟩ := exists_innermost?_of_mem_sites h hm hstart hstop
  obtain ⟨inner, hfind, hinner, hbelow, hsite⟩ := Site.exists_find?_path hs hkind
  refine ⟨inner, ?_, Site.mem_subtree_iff_descendants.1 hbelow, hinner, ?_⟩
  · rw [atCaret_eq_find?, pathAt, hinnermost, Option.elim_some, hfind]
  · have hsite' := Site.mem_subtree_trans hm hbelow
    exact Site.spans_of_mem_subtree
      (fun t ht => (h t (Site.mem_subtree_trans hsite' ht)).1) hsite hspans

/-- Just after the function inside the first method of the sample. -/
theorem sampleBasket_atCaret_inside_add :
    (∀ s ∈ sampleBasket.sites, s.node.HoldsChildren ∧ s.node.SeparatesChildren) ∧
      ∃ m ∈ sampleBasket.sites,
        sampleBasket.isOf DeclarationKind.atCaret m = true ∧ m.node.start ≤ 45 ∧
          45 < m.node.stop ∧
          ∃ inner, sampleBasket.atCaret 45 = .method (sampleBasket.method inner) ∧
            (inner = m ∨ inner ∈ m.descendants) ∧
            sampleBasket.isOf DeclarationKind.atCaret inner = true ∧ inner.node.Spans 45 := by
  have h : ∀ s ∈ sampleBasket.sites, s.node.HoldsChildren ∧ s.node.SeparatesChildren := by
    decide +kernel
  obtain ⟨m, hm, hkind, hstart, hstop⟩ : ∃ m ∈ sampleBasket.sites,
      sampleBasket.isOf DeclarationKind.atCaret m = true ∧ m.node.start ≤ 45 ∧
        45 < m.node.stop := by
    decide +kernel
  exact ⟨h, m, hm, hkind, hstart, hstop,
    (atCaret_finds_enclosing_method sampleBasket 45 h).2 m hm hkind hstart hstop⟩

end Source

end SpecScaffold
