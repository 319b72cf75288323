import SpecScaffold.Proofs.Source.Tree

/-!
# Pre-order

`subtree` lists the sites at and below a node by recursion over the tree: the node, then what is at
and below its children, one child after the other.  A walk over a worklist gives the same list
(`walk_eq_flatMap_subtree`), and what stands between a node and a site below it is the start of the
site's path to the top:

    s ∈ subtree above n → ∃ inner, s.path = inner ++ Site.path ⟨n, above⟩      (exists_path_eq)
-/

namespace SpecScaffold

/-- Induction over a tree: a node after all of its children. -/
@[elab_as_elim]
theorem Node.induction_on_children {motive : Node → Prop} (n : Node)
    (node : ∀ n, (∀ c ∈ n.children, motive c) → motive n) : motive n :=
  node n fun c _ => c.induction_on_children node
termination_by n.size
decreasing_by exact size_lt_of_mem (by assumption)

namespace Site

mutual

/-- The sites at and below a node, in pre-order. -/
def subtree (above : List Node) : Node → List Site
  | ⟨kind, start, stop, named, field?, children⟩ =>
    let n : Node := ⟨kind, start, stop, named, field?, children⟩
    ⟨n, above⟩ :: subtrees (n :: above) children

/-- The sites at and below the nodes of a list. -/
def subtrees (above : List Node) : List Node → List Site
  | [] => []
  | n :: ns => subtree above n ++ subtrees above ns

end

theorem subtree_eq (above : List Node) (n : Node) :
    subtree above n = ⟨n, above⟩ :: subtrees (n :: above) n.children := by
  cases n
  rfl

theorem subtrees_eq_flatMap (above : List Node) (ns : List Node) :
    subtrees above ns = ns.flatMap (subtree above) := by
  induction ns with
  | nil => rfl
  | cons n ns ih => rw [subtrees, ih, List.flatMap_cons]

theorem mem_subtrees {above : List Node} {ns : List Node} {s : Site} :
    s ∈ subtrees above ns ↔ ∃ n ∈ ns, s ∈ subtree above n := by
  rw [subtrees_eq_flatMap, List.mem_flatMap]

theorem mem_subtree_self (above : List Node) (n : Node) : ⟨n, above⟩ ∈ subtree above n := by
  rw [subtree_eq]
  exact List.mem_cons_self

theorem mem_subtree_of_mem_child {above : List Node} {n c : Node} {s : Site}
    (hc : c ∈ n.children) (hs : s ∈ subtree (n :: above) c) : s ∈ subtree above n := by
  rw [subtree_eq]
  exact List.mem_cons_of_mem _ (mem_subtrees.2 ⟨c, hc, hs⟩)

theorem mem_subtree_iff {above : List Node} {n : Node} {s : Site} :
    s ∈ subtree above n ↔ s = ⟨n, above⟩ ∨ ∃ c ∈ n.children, s ∈ subtree (n :: above) c := by
  rw [subtree_eq, List.mem_cons, mem_subtrees]

theorem mem_subtree_trans {above : List Node} {n : Node} {m s : Site} (hm : m ∈ subtree above n)
    (hs : s ∈ subtree m.above m.node) : s ∈ subtree above n := by
  induction n using Node.induction_on_children generalizing above with
  | node n ih =>
    rcases mem_subtree_iff.1 hm with rfl | ⟨c, hc, hmc⟩
    · exact hs
    · exact mem_subtree_of_mem_child hc (ih c hc hmc)

/-- A walk goes through what is at and below the sites of its worklist, one after the other. -/
theorem walk_eq_flatMap_subtree (sites : List Site) :
    walk sites = sites.flatMap fun s => subtree s.above s.node := by
  fun_induction walk sites with
  | case1 => rfl
  | case2 s rest ih =>
    have hchildren : (s.children.flatMap fun c => subtree c.above c.node) =
        subtrees (s.node :: s.above) s.node.children := by
      rw [children, List.flatMap_map, subtrees_eq_flatMap]
    rw [ih, List.flatMap_append, List.flatMap_cons, subtree_eq, hchildren]
    rfl

theorem descendants_eq_subtrees (s : Site) :
    s.descendants = subtrees (s.node :: s.above) s.node.children := by
  rw [descendants, walk_eq_flatMap_subtree, children, List.flatMap_map, subtrees_eq_flatMap]

theorem mem_subtree_iff_descendants {s t : Site} :
    t ∈ subtree s.above s.node ↔ t = s ∨ t ∈ s.descendants := by
  rw [subtree_eq, List.mem_cons, descendants_eq_subtrees]

/-! ## Paths -/

/-- A site and the sites above it, nearest first. -/
def path (s : Site) : List Site :=
  s :: s.ancestors

/-- Behind a site of a chain are the sites above it. -/
theorem eq_path_of_chain_eq {nodes : List Node} {before after : List Site} {s : Site}
    (h : chain nodes = before ++ s :: after) : s :: after = s.path := by
  induction nodes generalizing before with
  | nil => simp [chain] at h
  | cons n nodes ih =>
    cases before with
    | nil =>
      obtain ⟨rfl, rfl⟩ := List.cons.inj h
      rfl
    | cons b before => exact ih (List.cons.inj h).2

theorem eq_path_of_path_eq {s t : Site} {before after : List Site}
    (h : s.path = before ++ t :: after) : t :: after = t.path := by
  have hchain : chain (s.node :: s.above) = before ++ t :: after := h
  exact eq_path_of_chain_eq hchain

/-- The path of a site below a node leads through the node; what it passes on the way is at or below
the node, and has the site at or below it. -/
theorem exists_path_eq {above : List Node} {n : Node} {s : Site} (h : s ∈ subtree above n) :
    ∃ inner, s.path = inner ++ path ⟨n, above⟩ ∧
      ∀ a ∈ inner ++ [⟨n, above⟩], a ∈ subtree above n ∧ s ∈ subtree a.above a.node := by
  induction n using Node.induction_on_children generalizing above with
  | node n ih =>
    rcases mem_subtree_iff.1 h with rfl | ⟨c, hc, hs⟩
    · refine ⟨[], rfl, fun a ha => ?_⟩
      obtain rfl := List.mem_singleton.1 ha
      exact ⟨h, h⟩
    · obtain ⟨inner, hpath, hinner⟩ := ih c hc hs
      refine ⟨inner ++ [⟨c, n :: above⟩], ?_, fun a ha => ?_⟩
      · rw [hpath, List.append_assoc]
        rfl
      · rcases List.mem_append.1 ha with ha | ha
        · obtain ⟨hbelow, hsite⟩ := hinner a ha
          exact ⟨mem_subtree_of_mem_child hc hbelow, hsite⟩
        · obtain rfl := List.mem_singleton.1 ha
          exact ⟨mem_subtree_self above n, h⟩

end Site

/-- All sites of a source, in pre-order. -/
def Source.sites (src : Source) : List Site :=
  Site.subtree [] src.root

end SpecScaffold
