import Mathlib.Data.List.Sort
import SpecScaffold.Proofs.Source.Caret
import SpecScaffold.Proofs.Source.Returns

/-!
# The declarations below a node

A site below another one is told by its address, the positions of the children on the way down to
it.  Pre-order is the lexicographic order of addresses, in which a node comes before what is below
it.  So a list of sites holds those of a kind that are below `s`, each once and in pre-order, if
their addresses increase and are all the addresses of such sites (`Site.Lists`), and there is one
such list only:

    s.Lists (fun t => ∃ k ∈ kinds, src.kindOf? t = some k) found ↔
      found = src.declarations kinds s                                    (declarations_preorder)

A `Sweep` finds it with a stack, from which it takes one site at a time.  What can be seen from
outside is listed in the same way, with the property `IsShown` added.
-/

namespace SpecScaffold

/-! ## Addresses -/

namespace Site

/-- The site at an address below a site. -/
def at? : Site → List Nat → Option Site
  | s, [] => some s
  | s, i :: address => s.children[i]?.bind fun c => c.at? address

theorem at?_cons (s : Site) (i : Nat) (address : List Nat) :
    s.at? (i :: address) =
      s.node.children[i]?.bind fun c => at? ⟨c, s.node :: s.above⟩ address := by
  rw [at?, children, List.getElem?_map, Option.bind_map]
  rfl

theorem at?_append (s : Site) (address more : List Nat) :
    s.at? (address ++ more) = (s.at? address).bind fun t => t.at? more := by
  induction address generalizing s with
  | nil => rfl
  | cons i address ih =>
    rw [List.cons_append, at?, at?]
    cases s.children[i]? with
    | none => rfl
    | some c => exact ih c

/-- The parent of a site stands one step before the end of its address. -/
theorem exists_parent_of_at? {s t : Site} {address : List Nat} {i : Nat}
    (h : s.at? (address ++ [i]) = some t) :
    ∃ p, s.at? address = some p ∧ p.node.children[i]? = some t.node ∧
      t.parent? = some p.node := by
  rw [at?_append] at h
  obtain ⟨p, hp, hchild⟩ := Option.bind_eq_some_iff.1 h
  rw [at?_cons] at hchild
  obtain ⟨c, hc, ht⟩ := Option.bind_eq_some_iff.1 hchild
  obtain rfl := Option.some.inj ht
  exact ⟨p, hp, hc, rfl⟩

end Site

namespace Node

mutual

/-- The addresses of the nodes at and below a node, in pre-order. -/
def addresses : Node → List (List Nat)
  | ⟨_, _, _, _, _, children⟩ => [] :: addressesFrom 0 children

/-- The addresses at and below siblings, the first of which is at a position. -/
def addressesFrom (position : Nat) : List Node → List (List Nat)
  | [] => []
  | n :: ns => n.addresses.map (position :: ·) ++ addressesFrom (position + 1) ns

end

/-- The addresses of the nodes below a node. -/
def addressesBelow (n : Node) : List (List Nat) :=
  addressesFrom 0 n.children

theorem addresses_eq (n : Node) : n.addresses = [] :: n.addressesBelow := by
  cases n
  rfl

theorem addressesFrom_eq_flatMap (position : Nat) (ns : List Node) :
    addressesFrom position ns =
      (ns.zipIdx position).flatMap fun c => c.1.addresses.map (c.2 :: ·) := by
  induction ns generalizing position with
  | nil => rfl
  | cons n ns ih => rw [addressesFrom, ih, List.zipIdx_cons, List.flatMap_cons]

theorem addressesBelow_eq_flatMap (n : Node) :
    n.addressesBelow = n.children.zipIdx.flatMap fun c => c.1.addresses.map (c.2 :: ·) :=
  addressesFrom_eq_flatMap 0 n.children

theorem cons_mem_addresses_iff {n : Node} {i : Nat} {address : List Nat} :
    i :: address ∈ n.addresses ↔ ∃ c, n.children[i]? = some c ∧ address ∈ c.addresses := by
  rw [addresses_eq, addressesBelow_eq_flatMap]
  constructor
  · intro h
    rcases List.mem_cons.1 h with hnil | hbelow
    · cases hnil
    · obtain ⟨⟨c, j⟩, hc, hmem⟩ := List.mem_flatMap.1 hbelow
      obtain ⟨rest, hrest, heq⟩ := List.mem_map.1 hmem
      obtain ⟨rfl, rfl⟩ := List.cons.inj heq
      exact ⟨c, List.mk_mem_zipIdx_iff_getElem?.1 hc, hrest⟩
  · rintro ⟨c, hc, hmem⟩
    refine List.mem_cons_of_mem _ (List.mem_flatMap.2 ⟨(c, i), ?_, List.mem_map_of_mem hmem⟩)
    exact List.mk_mem_zipIdx_iff_getElem?.2 hc

/-- The addresses of a tree are those at which there is something. -/
theorem mem_addresses_iff {above : List Node} {n : Node} {address : List Nat} :
    address ∈ n.addresses ↔ ∃ t, Site.at? ⟨n, above⟩ address = some t := by
  induction address generalizing n above with
  | nil =>
    rw [addresses_eq]
    exact ⟨fun _ => ⟨_, rfl⟩, fun _ => List.mem_cons_self⟩
  | cons i address ih =>
    rw [cons_mem_addresses_iff, Site.at?_cons]
    simp only [Option.bind_eq_some_iff]
    constructor
    · rintro ⟨c, hc, hmem⟩
      obtain ⟨t, ht⟩ := ih.1 hmem
      exact ⟨t, c, hc, ht⟩
    · rintro ⟨t, c, hc, ht⟩
      exact ⟨c, hc, ih.2 ⟨t, ht⟩⟩

/-- Pre-order is the order of the addresses. -/
theorem pairwise_addresses (n : Node) : n.addresses.Pairwise (· < ·) := by
  induction n using induction_on_children with
  | node n ih =>
    rw [addresses_eq, addressesBelow_eq_flatMap, List.pairwise_cons, List.pairwise_flatMap]
    refine ⟨fun address h => ?_, fun c hc => ?_, ?_⟩
    · obtain ⟨c, -, hmem⟩ := List.mem_flatMap.1 h
      obtain ⟨rest, -, rfl⟩ := List.mem_map.1 hmem
      exact List.nil_lt_cons c.2 rest
    · have hchild := ih c.1 (List.fst_mem_of_mem_zipIdx hc)
      exact List.pairwise_map.2 (hchild.imp fun h => List.cons_lt_cons_iff.2 (.inr ⟨rfl, h⟩))
    · -- what is below different children is told apart by the first position
      have hpositions : n.children.zipIdx.Pairwise fun c d => c.2 < d.2 := by
        rw [← List.pairwise_map (f := Prod.snd) (R := (· < ·)), List.zipIdx_map_snd]
        exact List.pairwise_lt_range'
      refine hpositions.imp fun {c d} hlt a ha b hb => ?_
      obtain ⟨rest, -, rfl⟩ := List.mem_map.1 ha
      obtain ⟨more, -, rfl⟩ := List.mem_map.1 hb
      exact List.cons_lt_cons_iff.2 (.inl hlt)

theorem mem_addressesBelow_iff (n : Node) (above : List Node) {address : List Nat} :
    address ∈ n.addressesBelow ↔
      address ≠ [] ∧ ∃ t, Site.at? ⟨n, above⟩ address = some t := by
  have hsorted := n.pairwise_addresses
  rw [addresses_eq, List.pairwise_cons] at hsorted
  rw [← mem_addresses_iff, addresses_eq, List.mem_cons]
  constructor
  · intro h
    refine ⟨fun hnil => ?_, .inr h⟩
    exact List.lt_irrefl _ (hnil ▸ hsorted.1 address h)
  · rintro ⟨hne, h⟩
    exact h.resolve_left hne

end Node

namespace Site

/-- The addresses of a tree lead to its sites, in the same order. -/
theorem map_at?_addresses (above : List Node) (n : Node) :
    n.addresses.map (at? ⟨n, above⟩) = (subtree above n).map some := by
  induction n using Node.induction_on_children generalizing above with
  | node n ih =>
    have hchild : ∀ c ∈ n.children.zipIdx,
        (c.1.addresses.map (c.2 :: ·)).map (at? ⟨n, above⟩) =
          (subtree (n :: above) c.1).map some := by
      intro c hc
      have hget : n.children[c.2]? = some c.1 := List.mem_zipIdx_iff_getElem?.1 hc
      rw [← ih c.1 (List.fst_mem_of_mem_zipIdx hc), List.map_map]
      refine List.map_congr_left fun address _ => ?_
      rw [Function.comp_apply, at?_cons, hget, Option.bind_some]
    have hfst : subtrees (n :: above) n.children =
        n.children.zipIdx.flatMap fun c => subtree (n :: above) c.1 := by
      rw [subtrees_eq_flatMap, ← List.flatMap_map Prod.fst, List.zipIdx_map_fst]
    rw [Node.addresses_eq, Node.addressesBelow_eq_flatMap, subtree_eq, hfst, List.map_cons,
      List.map_cons, List.map_flatMap, List.map_flatMap, List.flatMap_congr hchild]
    rfl

theorem map_at?_addressesBelow (s : Site) :
    s.node.addressesBelow.map s.at? = s.descendants.map some := by
  have h := map_at?_addresses s.above s.node
  rw [Node.addresses_eq, subtree_eq, ← descendants_eq_subtrees] at h
  exact (List.cons.inj h).2

/-! ## Listings -/

/-- Whether a list holds the sites below `s` that have a property, each once and in pre-order: the
addresses at which they stand increase, and are those of all such sites. -/
def Lists (s : Site) (P : Site → Prop) (found : List Site) : Prop :=
  ∃ addresses : List (List Nat), addresses.Pairwise (· < ·) ∧
    (∀ address, address ∈ addresses ↔ address ≠ [] ∧ ∃ t, s.at? address = some t ∧ P t) ∧
    addresses.map s.at? = found.map some

theorem Lists.unique {s : Site} {P : Site → Prop} {found more : List Site}
    (h : s.Lists P found) (h' : s.Lists P more) : found = more := by
  obtain ⟨addresses, hsorted, hmem, hmap⟩ := h
  obtain ⟨addresses', hsorted', hmem', hmap'⟩ := h'
  obtain rfl : addresses = addresses' :=
    hsorted.eq_of_mem_iff hsorted' fun address => (hmem address).trans (hmem' address).symm
  exact (List.map_inj_right fun _ _ => Option.some.inj).1 (hmap.symm.trans hmap')

theorem lists_filter_descendants (s : Site) {p : Site → Bool} {P : Site → Prop}
    (hp : ∀ t, p t = true ↔ P t) : s.Lists P (s.descendants.filter p) := by
  refine ⟨s.node.addressesBelow.filter fun address => (s.at? address).any p, ?_,
    fun address => ?_, ?_⟩
  · have hsorted := s.node.pairwise_addresses
    rw [Node.addresses_eq, List.pairwise_cons] at hsorted
    exact hsorted.2.filter _
  · rw [List.mem_filter, s.node.mem_addressesBelow_iff s.above, Option.any_eq_true]
    constructor
    · rintro ⟨⟨hne, -⟩, t, ht, hpt⟩
      exact ⟨hne, t, ht, (hp t).1 hpt⟩
    · rintro ⟨hne, t, ht, hPt⟩
      exact ⟨⟨hne, t, ht⟩, t, ht, (hp t).2 hPt⟩
  · calc (s.node.addressesBelow.filter fun address => (s.at? address).any p).map s.at?
      _ = (s.node.addressesBelow.map s.at?).filter (·.any p) := by
        rw [List.filter_map]
        rfl
      _ = (s.descendants.map some).filter (·.any p) := by rw [map_at?_addressesBelow]
      _ = (s.descendants.filter p).map some := List.filter_map

/-- What is listed is what passes a test for the property. -/
theorem lists_iff_eq_filter (s : Site) {p : Site → Bool} {P : Site → Prop}
    (hp : ∀ t, p t = true ↔ P t) (found : List Site) :
    s.Lists P found ↔ found = s.descendants.filter p := by
  constructor
  · intro h
    exact h.unique (s.lists_filter_descendants hp)
  · rintro rfl
    exact s.lists_filter_descendants hp

/-- Where spans are in order, so are the starts of what is below a site. -/
theorem pairwise_start_descendants {s : Site}
    (h : ∀ t ∈ subtree s.above s.node, t.node.OrdersSpans) :
    s.descendants.Pairwise fun t u => t.node.start ≤ u.node.start := by
  have hstarts := pairwise_start_subtree h
  rw [subtree_eq, ← descendants_eq_subtrees, List.pairwise_cons] at hstarts
  exact hstarts.2

end Site

/-! ## The stack -/

/-- A search on a stack: what is found so far, and the sites yet to be visited, the next one
last. -/
structure Sweep where
  found : List Site
  stack : List Site

namespace Sweep

/-- A search that has yet to visit the children of a site, the first one first. -/
def below (s : Site) : Sweep :=
  ⟨[], s.children.reverse⟩

/-- One turn: the next site is taken from the stack and kept if it passes the test, and its children
go on the stack, the last one first.  There is none with an empty stack. -/
def turn? (test : Site → Bool) (w : Sweep) : Option Sweep :=
  w.stack.getLast?.map fun s =>
    { found := if test s then w.found ++ [s] else w.found
      stack := w.stack.dropLast ++ s.children.reverse }

/-- The search after a number of turns, if it does not end before. -/
def after? (test : Site → Bool) : Nat → Sweep → Option Sweep
  | 0, w => some w
  | turns + 1, w => (w.turn? test).bind (after? test turns)

variable {test : Site → Bool}

/-- The sites of a worklist are on the stack in reverse, and a turn puts the children of the first
in its place. -/
theorem turn?_reverse (found : List Site) (s : Site) (rest : List Site) :
    turn? test ⟨found, (s :: rest).reverse⟩ =
      some ⟨found ++ [s].filter test, (s.children ++ rest).reverse⟩ := by
  rw [turn?, List.reverse_cons, List.getLast?_concat, List.dropLast_concat, Option.map_some,
    List.reverse_append, List.filter_cons]
  cases test s <;> simp

/-- The search ends after one turn for each site of the walk over its worklist. -/
theorem after?_length_walk (found sites : List Site) :
    after? test (Site.walk sites).length ⟨found, sites.reverse⟩ =
      some ⟨found ++ (Site.walk sites).filter test, []⟩ := by
  -- the stack is the worklist of the walk, in reverse, before every turn
  fun_induction Site.walk sites generalizing found with
  | case1 => simp [after?]
  | case2 s rest ih =>
    have hsplit : s :: Site.walk (s.children ++ rest) = [s] ++ Site.walk (s.children ++ rest) := rfl
    rw [List.length_cons, after?, turn?_reverse, Option.bind_some, ih, hsplit, List.filter_append,
      List.append_assoc]

end Sweep

/-! ## What can be seen from outside -/

theorem Site.isExported_iff {s : Site} :
    s.isExported = true ↔ ∃ p, s.parent? = some p ∧ p.kind = "export_statement" := by
  simp [isExported, Option.any_eq_true]

namespace Source

/-- A node with the modifier `private`, as a token of its own or as its accessibility. -/
def IsPrivate (src : Source) (n : Node) : Prop :=
  ∃ c ∈ n.children, c.kind = "private" ∨
    c.kind = "accessibility_modifier" ∧ src.textOf c = "private"

/-- A site without the modifier `private`; a class, an interface or a function is the child of an
export statement. -/
def IsShown (src : Source) (s : Site) : Prop :=
  ¬src.IsPrivate s.node ∧
    ∀ k ∈ [DeclarationKind.classDecl, .interface, .function], src.kindOf? s = some k →
      ∃ p, s.parent? = some p ∧ p.kind = "export_statement"

theorem hasKeyword_private_iff {src : Source} {n : Node} :
    src.hasKeyword n "private" = true ↔ src.IsPrivate n := by
  simp [hasKeyword, IsPrivate]

theorem isVisible_iff_isShown {src : Source} {s : Site} :
    src.isVisible s = true ↔ src.IsShown s := by
  rw [isVisible, Bool.and_eq_true, Bool.not_eq_true', ← Bool.not_eq_true, hasKeyword_private_iff,
    IsShown, ← Site.isExported_iff]
  refine and_congr_right fun _ => ?_
  cases src.kindOf? s with
  | none => simp
  | some k => cases k <;> simp

/-! ## Declarations -/

/-- The declarations of some kinds below a site.  The search for them with a stack ends after one
turn for each node below.  What it finds are the sites of these kinds in the recursive pre-order;
this is the only list that holds all of them, each once and in the order of their addresses.  Where
spans are in order, so are the starts.  Those that can be seen from outside are, in the same order,
the ones that are not private and, if they are classes, interfaces or functions, have an export
statement as their parent.  The parent of a site stands one step before the end of its address. -/
theorem declarations_preorder (src : Source) (kinds : List DeclarationKind) (s : Site) :
    Sweep.after? (src.isOf kinds) (Node.sizes s.node.children) (.below s) =
        some ⟨src.declarations kinds s, []⟩ ∧
      src.declarations kinds s =
        (Site.subtrees (s.node :: s.above) s.node.children).filter (src.isOf kinds) ∧
      (∀ found, s.Lists (fun t => ∃ k ∈ kinds, src.kindOf? t = some k) found ↔
        found = src.declarations kinds s) ∧
      ((∀ t ∈ Site.subtree s.above s.node, t.node.OrdersSpans) →
        (src.declarations kinds s).Pairwise fun t u => t.node.start ≤ u.node.start) ∧
      (src.visibleDeclarations kinds s).Sublist (src.declarations kinds s) ∧
      (∀ found, s.Lists (fun t => (∃ k ∈ kinds, src.kindOf? t = some k) ∧ src.IsShown t) found ↔
        found = src.visibleDeclarations kinds s) ∧
      ∀ address i t, s.at? (address ++ [i]) = some t →
        ∃ p, s.at? address = some p ∧ p.node.children[i]? = some t.node ∧
          t.parent? = some p.node := by
  refine ⟨?_, ?_, fun found => ?_, fun hordered => ?_, List.filter_sublist, fun found => ?_,
    fun address i t h => Site.exists_parent_of_at? h⟩
  · rw [← s.length_descendants]
    exact Sweep.after?_length_walk [] s.children
  · rw [declarations, Site.descendants_eq_subtrees]
  · exact s.lists_iff_eq_filter (fun t => isOf_iff) found
  · exact (Site.pairwise_start_descendants hordered).sublist List.filter_sublist
  · rw [visibleDeclarations, declarations, List.filter_filter]
    refine s.lists_iff_eq_filter (fun t => ?_) found
    rw [Bool.and_eq_true, isVisible_iff_isShown, isOf_iff, and_comm]

end Source

/-- An exported class with a function inside its method, and a function that is not exported. -/
def sampleTill : Source :=
  let text := "export class Till \x7b add() \x7b function log() \x7b \x7d \x7d \x7d " ++
    "function hide() \x7b \x7d"
  ⟨text, Plain.parser .typeScript text⟩

/-- The inner function comes between the method and the other function; both are not seen. -/
theorem sampleTill_declarations :
    (∀ t ∈ Site.subtree sampleTill.top.above sampleTill.top.node, t.node.OrdersSpans) ∧
      (sampleTill.declarations [.classDecl, .function, .method] sampleTill.top).map
          (fun t => sampleTill.nameOf? t.node) =
        [some "Till", some "add", some "log", some "hide"] ∧
      (sampleTill.declarations [.classDecl, .function, .method] sampleTill.top).Pairwise
        (fun t u => t.node.start ≤ u.node.start) ∧
      (sampleTill.visibleDeclarations [.classDecl, .function, .method] sampleTill.top).map
          (fun t => sampleTill.nameOf? t.node) =
        [some "Till", some "add"] := by
  have hordered : ∀ t ∈ Site.subtree sampleTill.top.above sampleTill.top.node,
      t.node.OrdersSpans := by
    decide +kernel
  obtain ⟨-, hpreorder, -, hstarts, -⟩ :=
    sampleTill.declarations_preorder [.classDecl, .function, .method] sampleTill.top
  refine ⟨hordered, ?_, hstarts hordered, ?_⟩
  · rw [hpreorder]
    decide +kernel
  · rw [Source.visibleDeclarations, hpreorder]
    decide +kernel

end SpecScaffold
