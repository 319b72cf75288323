import SpecScaffold.Proofs.Source.Preorder

/-!
# The return of a scope

The search for a `return` with a value works through a list of nodes: it passes by a function, and
by a `return` without a value, and puts the children of any other node in front of the list.  On the
tree this is a search in pre-order, for a `return` with nothing between it and the start that closes
the way:

    s.node.ownReturn? = (s.descendants.find? s.ownsReturn).map (·.node)      (ownReturn?_eq_find?)

`firstReturnWithin` is the same search with a limit on its turns.  It is over within one turn for
each node below the start.
-/

namespace SpecScaffold

namespace Node

/-- Whether the search for a `return` goes on below a node. -/
def isOpen (n : Node) : Bool :=
  n.kind != "return_statement" && !scopeKinds.contains n.kind

theorem isOpen_iff {n : Node} :
    n.isOpen = true ↔ n.kind ≠ "return_statement" ∧ n.kind ∉ scopeKinds := by
  simp [isOpen]

/-! ## The worklist -/

/-- The first part of a worklist is searched before the rest. -/
theorem firstReturn?_append (ns ms : List Node) :
    firstReturn? (ns ++ ms) = (firstReturn? ns).or (firstReturn? ms) := by
  fun_induction firstReturn? ns with
  | case1 => rfl
  | case2 n rest hkind hvalue =>
    rw [List.cons_append, firstReturn?, if_pos hkind, if_pos hvalue, Option.some_or]
  | case3 n rest hkind hvalue ih =>
    rw [List.cons_append, firstReturn?, if_pos hkind, if_neg hvalue, ih]
  | case4 n rest hkind hscope ih =>
    rw [List.cons_append, firstReturn?, if_neg hkind, if_pos hscope, ih]
  | case5 n rest hkind hscope ih =>
    rw [List.cons_append, firstReturn?, if_neg hkind, if_neg hscope, ← List.append_assoc, ih]

theorem firstReturn?_of_isOpen {n : Node} (h : n.isOpen = true) :
    firstReturn? [n] = firstReturn? n.children := by
  simp only [isOpen, Bool.and_eq_true, bne_iff_ne, ne_eq, Bool.not_eq_true'] at h
  obtain ⟨hkind, hscope⟩ := h
  rw [firstReturn?, if_neg (by simpa using hkind), if_neg (by rw [hscope]; decide),
    List.append_nil]

theorem firstReturn?_of_not_isOpen {n : Node} (h : n.isOpen = false) :
    firstReturn? [n] = if n.kind == "return_statement" && n.hasValue then some n else none := by
  rw [firstReturn?]
  by_cases hkind : (n.kind == "return_statement") = true
  · rw [if_pos hkind, hkind, Bool.true_and, firstReturn?]
  · have hscope : scopeKinds.contains n.kind = true := by
      simpa [isOpen, bne, hkind] using h
    rw [if_neg hkind, if_pos hscope, firstReturn?, Bool.eq_false_iff.2 hkind]
    rfl

/-- The search with a limit on its turns, each of which takes one node off the worklist; nothing if
the worklist is not done with by then. -/
def firstReturnWithin : Nat → List Node → Option (Option Node)
  | _, [] => some none
  | 0, _ :: _ => none
  | turns + 1, n :: rest =>
    if n.kind == "return_statement" then
      if n.hasValue then some (some n) else firstReturnWithin turns rest
    else if scopeKinds.contains n.kind then firstReturnWithin turns rest
    else firstReturnWithin turns (n.children ++ rest)

/-- As many turns as there are nodes are enough. -/
theorem firstReturnWithin_eq {turns : Nat} {nodes : List Node} (h : sizes nodes ≤ turns) :
    firstReturnWithin turns nodes = some (firstReturn? nodes) := by
  induction turns generalizing nodes with
  | zero =>
    cases nodes with
    | nil => rw [firstReturnWithin, firstReturn?]
    | cons n rest =>
      have hpos := n.size_pos
      rw [sizes] at h
      omega
  | succ turns ih =>
    cases nodes with
    | nil => rw [firstReturnWithin, firstReturn?]
    | cons n rest =>
      have hsize := n.size_eq
      rw [sizes] at h
      have hrest : sizes rest ≤ turns := by omega
      have hbelow : sizes (n.children ++ rest) ≤ turns := by
        rw [sizes_append]
        omega
      rw [firstReturnWithin, firstReturn?, ih hrest, ih hbelow]
      split
      · split <;> rfl
      · split <;> rfl

end Node

namespace Site

/-! ## What stands between -/

/-- The nodes strictly between a site and one below it, from the lower one upwards. -/
def between (s r : Site) : List Node :=
  r.above.take (r.above.length - (s.above.length + 1))

theorem exists_above_eq {above : List Node} {n : Node} {r : Site} (h : r ∈ subtree above n) :
    ∃ inner, r.above = inner ++ above := by
  induction n using Node.induction_on_children generalizing above with
  | node n ih =>
    rcases mem_subtree_iff.1 h with rfl | ⟨c, hc, hr⟩
    · exact ⟨[], rfl⟩
    · obtain ⟨inner, hinner⟩ := ih c hc hr
      exact ⟨inner ++ [n], by rw [hinner, List.append_assoc]; rfl⟩

theorem between_eq {s r : Site} {inner : List Node} (h : r.above = inner ++ s.node :: s.above) :
    s.between r = inner := by
  have hlength : r.above.length - (s.above.length + 1) = inner.length := by
    rw [h, List.length_append, List.length_cons]
    omega
  rw [between, hlength, h, List.take_left]

/-- Above a site are the nodes up to the one it is below, that one, and those above it. -/
theorem above_eq_between {s r : Site} (h : r ∈ s.descendants) :
    r.above = s.between r ++ s.node :: s.above := by
  rw [descendants_eq_subtrees] at h
  obtain ⟨c, -, hr⟩ := mem_subtrees.1 h
  obtain ⟨inner, hinner⟩ := exists_above_eq hr
  rw [between_eq hinner, hinner]

theorem map_node_children (s : Site) : s.children.map (·.node) = s.node.children := by
  simp [children, Function.comp_def]

theorem length_walk (sites : List Site) : (walk sites).length = work sites := by
  fun_induction walk sites with
  | case1 => rfl
  | case2 s rest ih =>
    have hsize := s.node.size_eq
    rw [List.length_cons, ih, work, work, List.map_append, map_node_children, Node.sizes_append,
      List.map_cons, Node.sizes]
    omega

/-- There is one site below for each node below. -/
theorem length_descendants (s : Site) : s.descendants.length = Node.sizes s.node.children := by
  rw [descendants, length_walk, work, map_node_children]

/-! ## The search on the tree -/

/-- Whether a site below `s` is a `return` with a value, with neither a function nor another
`return` between. -/
def ownsReturn (s r : Site) : Bool :=
  r.node.kind == "return_statement" && r.node.hasValue && (s.between r).all Node.isOpen

theorem ownsReturn_iff {s r : Site} :
    s.ownsReturn r = true ↔ r.node.kind = "return_statement" ∧
      (∃ c ∈ r.node.children, c.named = true ∧ c.kind ≠ "comment") ∧
      ∀ n ∈ s.between r, n.kind ≠ "return_statement" ∧ n.kind ∉ Node.scopeKinds := by
  rw [ownsReturn, Bool.and_eq_true, Bool.and_eq_true, beq_iff_eq, Node.hasValue_iff, and_assoc,
    List.all_eq_true]
  simp only [Node.isOpen_iff]

/-- Below a node that closes the way there is no `return` that counts. -/
theorem ownsReturn_of_not_isOpen {s r : Site} {n : Node} {passed : List Node}
    (hn : n.isOpen = false) (hr : r ∈ subtrees (n :: (passed ++ s.node :: s.above)) n.children) :
    s.ownsReturn r = false := by
  obtain ⟨c, -, hr⟩ := mem_subtrees.1 hr
  obtain ⟨inner, hinner⟩ := exists_above_eq hr
  have hbetween : s.between r = inner ++ n :: passed :=
    between_eq (by rw [hinner, List.append_assoc]; rfl)
  rw [ownsReturn, hbetween, List.all_append, List.all_cons, hn]
  simp

/-- A worklist of siblings is searched one after the other. -/
theorem firstReturn?_eq_find?_of_forall {above : List Node} {ns : List Node} {p : Site → Bool}
    (h : ∀ n ∈ ns, Node.firstReturn? [n] = ((subtree above n).find? p).map (·.node)) :
    Node.firstReturn? ns = ((subtrees above ns).find? p).map (·.node) := by
  induction ns with
  | nil => rw [Node.firstReturn?, subtrees, List.find?_nil, Option.map_none]
  | cons n ns ih =>
    have hrest := ih fun m hm => h m (List.mem_cons_of_mem _ hm)
    have hsplit : n :: ns = [n] ++ ns := rfl
    rw [subtrees, List.find?_append, Option.map_or, ← h n List.mem_cons_self, ← hrest, hsplit,
      Node.firstReturn?_append]

/-- One node of the worklist, where the way down to it is open: the search finds the first `return`
that counts at or below it. -/
theorem firstReturn?_eq_find? {s : Site} {n : Node} {passed : List Node}
    (hpassed : passed.all Node.isOpen = true) :
    Node.firstReturn? [n] =
      ((subtree (passed ++ s.node :: s.above) n).find? s.ownsReturn).map (·.node) := by
  induction n using Node.induction_on_children generalizing passed with
  | node n ih =>
    have hself : s.ownsReturn ⟨n, passed ++ s.node :: s.above⟩ =
        (n.kind == "return_statement" && n.hasValue) := by
      rw [ownsReturn, between_eq rfl, hpassed, Bool.and_true]
    rw [subtree_eq, List.find?_cons, hself]
    cases hn : n.isOpen with
    | false =>
      have hbelow : (subtrees (n :: (passed ++ s.node :: s.above)) n.children).find? s.ownsReturn =
          none :=
        List.find?_eq_none.2 fun r hr => by simp [ownsReturn_of_not_isOpen hn hr]
      rw [Node.firstReturn?_of_not_isOpen hn, hbelow]
      cases n.kind == "return_statement" && n.hasValue <;> rfl
    | true =>
      have hkind : (n.kind == "return_statement") = false := by
        simp only [Node.isOpen, Bool.and_eq_true, bne, Bool.not_eq_true'] at hn
        exact hn.1
      have hopen : (n :: passed).all Node.isOpen = true := by
        rw [List.all_cons, hn, hpassed]
        rfl
      rw [Node.firstReturn?_of_isOpen hn, hkind, Bool.false_and]
      exact firstReturn?_eq_find?_of_forall fun c hc => ih c hc hopen

/-- The search for the `return` of a scope finds the first in pre-order, among the sites below, that
is a `return` with a value, some named child that is not a comment, and has neither a function nor
another `return` between; it finds none exactly if there is none; and it is over within one turn for
each site below.  What stands between is what is above the site, up to the one that the search
started from. -/
theorem ownReturn?_eq_find? (s : Site) :
    s.node.ownReturn? = (s.descendants.find? s.ownsReturn).map (·.node) ∧
      (∀ r, s.ownsReturn r = true ↔ r.node.kind = "return_statement" ∧
        (∃ c ∈ r.node.children, c.named = true ∧ c.kind ≠ "comment") ∧
        ∀ n ∈ s.between r, n.kind ≠ "return_statement" ∧ n.kind ∉ Node.scopeKinds) ∧
      (s.node.ownReturn? = none ↔ ∀ r ∈ s.descendants, ¬s.ownsReturn r = true) ∧
      (∀ r ∈ s.descendants, r.above = s.between r ++ s.node :: s.above) ∧
      ∀ more, Node.firstReturnWithin (s.descendants.length + more) s.node.children =
        some s.node.ownReturn? := by
  have hfind : s.node.ownReturn? = (s.descendants.find? s.ownsReturn).map (·.node) := by
    rw [Node.ownReturn?, descendants_eq_subtrees]
    exact firstReturn?_eq_find?_of_forall fun c _ => firstReturn?_eq_find? List.all_nil
  refine ⟨hfind, fun r => ownsReturn_iff, ?_, fun r hr => above_eq_between hr, fun more => ?_⟩
  · rw [hfind, Option.map_eq_none_iff, List.find?_eq_none]
  · rw [length_descendants]
    exact Node.firstReturnWithin_eq (Nat.le_add_right _ more)

end Site

/-- The function `sum` in
`function sum() { function log() { return 1; } return /* nothing */; return total; }`. -/
def sampleSum : Node :=
  ⟨"function_declaration", 0, 83, true, none,
    [⟨"function", 0, 8, false, none, []⟩, ⟨"identifier", 9, 12, true, some .name, []⟩,
      ⟨"formal_parameters", 12, 14, true, some .parameters,
        [⟨"(", 12, 13, false, none, []⟩, ⟨")", 13, 14, false, none, []⟩]⟩,
      ⟨"statement_block", 15, 83, true, none,
        [⟨"\x7b", 15, 16, false, none, []⟩,
          ⟨"function_declaration", 17, 45, true, none,
            [⟨"function", 17, 25, false, none, []⟩, ⟨"identifier", 26, 29, true, some .name, []⟩,
              ⟨"formal_parameters", 29, 31, true, some .parameters,
                [⟨"(", 29, 30, false, none, []⟩, ⟨")", 30, 31, false, none, []⟩]⟩,
              ⟨"statement_block", 32, 45, true, none,
                [⟨"\x7b", 32, 33, false, none, []⟩,
                  ⟨"return_statement", 34, 43, true, none,
                    [⟨"return", 34, 40, false, none, []⟩, ⟨"number", 41, 42, true, none, []⟩,
                      ⟨";", 42, 43, false, none, []⟩]⟩,
                  ⟨"\x7d", 44, 45, false, none, []⟩]⟩]⟩,
          ⟨"return_statement", 46, 67, true, none,
            [⟨"return", 46, 52, false, none, []⟩, ⟨"comment", 53, 66, true, none, []⟩,
              ⟨";", 66, 67, false, none, []⟩]⟩,
          ⟨"return_statement", 68, 81, true, none,
            [⟨"return", 68, 74, false, none, []⟩, ⟨"identifier", 75, 80, true, none, []⟩,
              ⟨";", 80, 81, false, none, []⟩]⟩,
          ⟨"\x7d", 82, 83, false, none, []⟩]⟩]⟩

/-- The `return` of the inner function and the one with nothing but a comment are passed by. -/
theorem sampleSum_ownReturn? :
    sampleSum.ownReturn?.map (·.start) = some 68 ∧
      ((Site.ofRoot sampleSum).descendants.filter (·.node.kind == "return_statement")).map
          (fun r => (r.node.start, (Site.ofRoot sampleSum).ownsReturn r)) =
        [(34, false), (46, false), (68, true)] := by
  have hfind := (Site.ofRoot sampleSum).ownReturn?_eq_find?.1
  refine ⟨?_, by decide +kernel⟩
  rw [Site.ofRoot] at hfind
  rw [hfind]
  decide +kernel

end SpecScaffold
