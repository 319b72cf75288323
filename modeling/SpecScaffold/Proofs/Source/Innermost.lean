import SpecScaffold.Proofs.Source.Preorder
import SpecScaffold.Source.Plain

/-!
# The innermost node at an offset

The search for the node at an offset leaves out every node that starts after the offset, with all
that is below it, and stops at the first such sibling.  In a tree whose nodes hold their children,
and whose siblings are sorted by where they start, nothing gets lost that way:

    src.innermost? offset = (spanning offset src.sites).getLast?        (innermost?_eq_getLast?)

so that the node found is the last one in pre-order whose bytes contain the offset.
-/

namespace SpecScaffold

/-! ## Spans -/

namespace Node

/-- The bytes of a node contain an offset, their end included. -/
def Spans (n : Node) (offset : Nat) : Prop :=
  n.start ≤ offset ∧ offset ≤ n.stop

instance (n : Node) (offset : Nat) : Decidable (n.Spans offset) :=
  inferInstanceAs (Decidable (_ ∧ _))

/-- The children lie inside the bytes of the node. -/
def HoldsChildren (n : Node) : Prop :=
  ∀ c ∈ n.children, n.start ≤ c.start ∧ c.stop ≤ n.stop

instance (n : Node) : Decidable n.HoldsChildren :=
  inferInstanceAs (Decidable (∀ c ∈ n.children, n.start ≤ c.start ∧ c.stop ≤ n.stop))

/-- The children are ordered by where they start. -/
def SortsChildren (n : Node) : Prop :=
  n.children.Pairwise fun a b => a.start ≤ b.start

instance (n : Node) : Decidable n.SortsChildren :=
  inferInstanceAs (Decidable (n.children.Pairwise fun a b => a.start ≤ b.start))

end Node

namespace Site

/-- The sites of a list whose bytes contain an offset. -/
def spanning (offset : Nat) (sites : List Site) : List Site :=
  sites.filter fun s => s.node.Spans offset

theorem mem_spanning {offset : Nat} {sites : List Site} {s : Site} :
    s ∈ spanning offset sites ↔ s ∈ sites ∧ s.node.Spans offset := by
  simp [spanning]

theorem spanning_append (offset : Nat) (sites more : List Site) :
    spanning offset (sites ++ more) = spanning offset sites ++ spanning offset more :=
  List.filter_append ..

/-- What starts after an offset does not contain it. -/
theorem spanning_eq_nil {offset : Nat} {sites : List Site}
    (h : ∀ s ∈ sites, offset < s.node.start) : spanning offset sites = [] := by
  refine List.filter_eq_nil_iff.2 fun s hs hspans => ?_
  have hstart : s.node.start ≤ offset := (of_decide_eq_true hspans).1
  have hlt := h s hs
  omega

/-- What holds at and below a node holds at and below its children. -/
theorem forall_mem_subtree_child {P : Site → Prop} {above : List Node} {n c : Node}
    (h : ∀ s ∈ subtree above n, P s) (hc : c ∈ n.children) :
    ∀ s ∈ subtree (n :: above) c, P s :=
  fun s hs => h s (mem_subtree_of_mem_child hc hs)

/-- What is below a node lies inside its bytes. -/
theorem within_of_mem_subtree {above : List Node} {n : Node} {s : Site}
    (h : ∀ t ∈ subtree above n, t.node.HoldsChildren) (hs : s ∈ subtree above n) :
    n.start ≤ s.node.start ∧ s.node.stop ≤ n.stop := by
  induction n using Node.induction_on_children generalizing above with
  | node n ih =>
    rcases mem_subtree_iff.1 hs with rfl | ⟨c, hc, hsc⟩
    · exact ⟨Nat.le_refl _, Nat.le_refl _⟩
    · have hholds : n.HoldsChildren := h _ (mem_subtree_self above n)
      have hchild := hholds c hc
      have hbelow := ih c hc (forall_mem_subtree_child h hc) hsc
      omega

theorem spans_of_mem_subtree {above : List Node} {n : Node} {s : Site} {offset : Nat}
    (h : ∀ t ∈ subtree above n, t.node.HoldsChildren) (hs : s ∈ subtree above n)
    (hspans : s.node.Spans offset) : n.Spans offset := by
  have hwithin := within_of_mem_subtree h hs
  unfold Node.Spans at hspans ⊢
  omega

/-! ## The pruned search -/

section

variable {offset : Nat} {above : List Node}

theorem lastAt_eq (offset : Nat) (above : List Node) (n : Node) :
    lastAt offset above n =
      if offset < n.start then none
      else (lastAmong offset (n :: above) n.children).or
        (if offset ≤ n.stop then some ⟨n, above⟩ else none) := by
  cases n
  rfl

/-- Among sorted siblings the search finds the last one that contains the offset, if it does so at
and below each of them. -/
theorem lastAmong_eq_getLast? {ns : List Node} (hsorted : ns.Pairwise fun a b => a.start ≤ b.start)
    (hstart : ∀ n ∈ ns, ∀ s ∈ subtree above n, n.start ≤ s.node.start)
    (hlast : ∀ n ∈ ns, lastAt offset above n = (spanning offset (subtree above n)).getLast?) :
    lastAmong offset above ns = (spanning offset (subtrees above ns)).getLast? := by
  induction ns with
  | nil => rfl
  | cons n ns ih =>
    rw [List.pairwise_cons] at hsorted
    rw [lastAmong]
    split
    · next hlt =>
      -- the siblings after `n` start after the offset as well
      have hnil : spanning offset (subtrees above (n :: ns)) = [] := by
        refine spanning_eq_nil fun s hs => ?_
        obtain ⟨m, hm, hsm⟩ := mem_subtrees.1 hs
        have hms := hstart m hm s hsm
        rcases List.mem_cons.1 hm with rfl | hm
        · omega
        · have hnm := hsorted.1 m hm
          omega
      rw [hnil]
      rfl
    · have hrest := ih hsorted.2 (fun m hm => hstart m (List.mem_cons_of_mem _ hm))
        fun m hm => hlast m (List.mem_cons_of_mem _ hm)
      rw [hrest, hlast n List.mem_cons_self, subtrees, spanning_append, List.getLast?_append]

theorem lastAmong_children_eq_getLast? {n : Node}
    (h : ∀ s ∈ subtree above n, s.node.HoldsChildren ∧ s.node.SortsChildren)
    (hlast : ∀ c ∈ n.children, lastAt offset (n :: above) c =
      (spanning offset (subtree (n :: above) c)).getLast?) :
    lastAmong offset (n :: above) n.children =
      (spanning offset (subtrees (n :: above) n.children)).getLast? := by
  have hsorted : n.SortsChildren := (h _ (mem_subtree_self above n)).2
  refine lastAmong_eq_getLast? hsorted (fun c hc s hs => ?_) hlast
  have hholds := forall_mem_subtree_child (fun t ht => (h t ht).1) hc
  exact (within_of_mem_subtree hholds hs).1

/-- The pruned search at and below a node finds what the search through all sites finds. -/
theorem lastAt_eq_getLast? {n : Node}
    (h : ∀ s ∈ subtree above n, s.node.HoldsChildren ∧ s.node.SortsChildren) :
    lastAt offset above n = (spanning offset (subtree above n)).getLast? := by
  induction n using Node.induction_on_children generalizing above with
  | node n ih =>
    have hchildren := lastAmong_children_eq_getLast? h fun c hc =>
      ih c hc (forall_mem_subtree_child h hc)
    rw [lastAt_eq]
    split
    · next hlt =>
      have hnil : spanning offset (subtree above n) = [] := by
        refine spanning_eq_nil fun s hs => ?_
        have hwithin := within_of_mem_subtree (fun t ht => (h t ht).1) hs
        omega
      rw [hnil]
      rfl
    · next hge =>
      have hself : (spanning offset [⟨n, above⟩]).getLast? =
          if offset ≤ n.stop then some ⟨n, above⟩ else none := by
        have hspans : n.Spans offset ↔ offset ≤ n.stop :=
          and_iff_right (Nat.le_of_not_lt hge)
        by_cases hstop : offset ≤ n.stop
        · simp [spanning, hspans, hstop]
        · simp [spanning, hspans, hstop]
      have hsplit : subtree above n = [⟨n, above⟩] ++ subtrees (n :: above) n.children :=
        subtree_eq above n
      rw [hchildren, hsplit, spanning_append, List.getLast?_append, hself]

theorem exists_lastAt_of_lastAmong {ns : List Node} {s : Site}
    (h : lastAmong offset above ns = some s) : ∃ n ∈ ns, lastAt offset above n = some s := by
  induction ns with
  | nil => cases h
  | cons n ns ih =>
    rw [lastAmong] at h
    split at h
    · cases h
    · rcases Option.or_eq_some_iff.1 h with hrest | ⟨-, hfirst⟩
      · obtain ⟨m, hm, hlast⟩ := ih hrest
        exact ⟨m, List.mem_cons_of_mem _ hm, hlast⟩
      · exact ⟨n, List.mem_cons_self, hfirst⟩

/-- No child of what is found contains the offset, or it would have been found itself. -/
theorem not_spans_child_of_lastAt {n : Node} {s : Site}
    (h : ∀ t ∈ subtree above n, t.node.HoldsChildren ∧ t.node.SortsChildren)
    (hlast : lastAt offset above n = some s) : ∀ c ∈ s.node.children, ¬c.Spans offset := by
  induction n using Node.induction_on_children generalizing above with
  | node n ih =>
    have hchildren : lastAmong offset (n :: above) n.children =
        (spanning offset (subtrees (n :: above) n.children)).getLast? :=
      lastAmong_children_eq_getLast? h fun c hc =>
        lastAt_eq_getLast? (forall_mem_subtree_child h hc)
    rw [lastAt_eq] at hlast
    split at hlast
    · cases hlast
    rcases Option.or_eq_some_iff.1 hlast with hinner | ⟨hnone, hself⟩
    · obtain ⟨c, hc, hlastc⟩ := exists_lastAt_of_lastAmong hinner
      exact ih c hc (forall_mem_subtree_child h hc) hlastc
    · split at hself
      · obtain rfl := Option.some.inj hself
        intro c hc hspans
        have hmem : ⟨c, n :: above⟩ ∈ spanning offset (subtrees (n :: above) n.children) :=
          mem_spanning.2 ⟨mem_subtrees.2 ⟨c, hc, mem_subtree_self (n :: above) c⟩, hspans⟩
        rw [hchildren, List.getLast?_eq_none_iff] at hnone
        rw [hnone] at hmem
        cases hmem
      · cases hself

end

end Site

namespace Source

/-- The search for the innermost node at an offset, against the search through the whole tree: it
finds the last node in pre-order whose bytes contain the offset; it finds one exactly if the bytes
of the top do; and no child of what it finds does. -/
theorem innermost?_eq_getLast? (src : Source) (offset : Nat)
    (h : ∀ s ∈ src.sites, s.node.HoldsChildren ∧ s.node.SortsChildren) :
    src.innermost? offset = (Site.spanning offset src.sites).getLast? ∧
      (src.innermost? offset = none ↔ ¬src.root.Spans offset) ∧
      ∀ s, src.innermost? offset = some s → ∀ c ∈ s.node.children, ¬c.Spans offset := by
  have hlast : src.innermost? offset = (Site.spanning offset src.sites).getLast? :=
    Site.lastAt_eq_getLast? h
  refine ⟨hlast, ?_, fun s hs => Site.not_spans_child_of_lastAt h hs⟩
  rw [hlast, List.getLast?_eq_none_iff]
  constructor
  · intro hnil hroot
    have hmem : src.top ∈ Site.spanning offset src.sites :=
      Site.mem_spanning.2 ⟨Site.mem_subtree_self [] src.root, hroot⟩
    rw [hnil] at hmem
    cases hmem
  · intro hroot
    refine List.filter_eq_nil_iff.2 fun s hs hspans => hroot ?_
    exact Site.spans_of_mem_subtree (fun t ht => (h t ht).1) hs (of_decide_eq_true hspans)

end Source

/-- A class with two methods that touch, and a function inside the first one. -/
def sampleBasket : Source :=
  let text := "class Basket \x7b add(item) \x7b function log() \x7b \x7d return item; \x7d" ++
    "clear() \x7b \x7d \x7d"
  ⟨text, Plain.parser .typeScript text⟩

/-- Between the two methods the search finds the name of the second one. -/
theorem sampleBasket_innermost? :
    (∀ s ∈ sampleBasket.sites, s.node.HoldsChildren ∧ s.node.SortsChildren) ∧
      (sampleBasket.innermost? 60).map (fun s => (s.node.kind, sampleBasket.textOf s.node)) =
        some ("property_identifier", "clear") ∧
      sampleBasket.innermost? 74 = none := by
  have h : ∀ s ∈ sampleBasket.sites, s.node.HoldsChildren ∧ s.node.SortsChildren := by
    decide +kernel
  refine ⟨h, ?_, ?_⟩
  · rw [(sampleBasket.innermost?_eq_getLast? 60 h).1]
    decide +kernel
  · exact (sampleBasket.innermost?_eq_getLast? 74 h).2.1.2 (by decide +kernel)

end SpecScaffold
