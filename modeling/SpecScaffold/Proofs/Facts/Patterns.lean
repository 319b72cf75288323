import Mathlib.Data.List.Basic
import SpecScaffold.Facts.Parameters
import SpecScaffold.Proofs.Code.Arguments
import SpecScaffold.Proofs.Source.Caret

/-!
# The names in a pattern

Which names a pattern binds can be said by the way down to them.  A `Trail` is a node of a tree with
the nodes on the way to it, each with the position of the child that the way goes on to;
`Node.trails` lists those of a tree in pre-order.  A name is bound if every step of its trail is a
binding step, and some node on the way is an object or array pattern; the last such pattern tells
how it is bound:

    src.boundIdentifiers none n = n.trails.filterMap src.identifierAt?   (boundIdentifiers_eq_trails)
-/

namespace SpecScaffold

/-! ## Trails -/

/-- A node and the way down to it: the nodes that the way leads through, the nearest first, each
with the position of the child that it goes on to. -/
structure Trail where
  node : Node
  steps : List (Node × Nat)

namespace Trail

mutual

/-- The trails to the nodes at and below a node, in pre-order. -/
def toNodes (steps : List (Node × Nat)) : Node → List Trail
  | ⟨kind, start, stop, named, field?, children⟩ =>
    let n : Node := ⟨kind, start, stop, named, field?, children⟩
    ⟨n, steps⟩ :: toChildren n steps 0 children

/-- The trails to the nodes at and below the children of a node, from a position on. -/
def toChildren (parent : Node) (steps : List (Node × Nat)) (position : Nat) :
    List Node → List Trail
  | [] => []
  | c :: cs =>
    toNodes ((parent, position) :: steps) c ++ toChildren parent steps (position + 1) cs

end

theorem toNodes_eq (steps : List (Node × Nat)) (n : Node) :
    toNodes steps n = ⟨n, steps⟩ :: toChildren n steps 0 n.children := by
  cases n
  rfl

theorem toChildren_eq_flatMap (parent : Node) (steps : List (Node × Nat)) (position : Nat)
    (ns : List Node) :
    toChildren parent steps position ns =
      (ns.zipIdx position).flatMap fun c => toNodes ((parent, c.2) :: steps) c.1 := by
  induction ns generalizing position with
  | nil => rfl
  | cons n ns ih => rw [toChildren, ih, List.zipIdx_cons, List.flatMap_cons]

/-- The place of a trail, without positions. -/
def site (t : Trail) : Site :=
  ⟨t.node, t.steps.map (·.1)⟩

/-- The trails of a tree lead to its sites, in the same order. -/
theorem map_site_toNodes (steps : List (Node × Nat)) (n : Node) :
    (toNodes steps n).map site = Site.subtree (steps.map (·.1)) n := by
  induction n using Node.induction_on_children generalizing steps with
  | node n ih =>
    have hchildren : ∀ position, ∀ cs : List Node, (∀ c ∈ cs, c ∈ n.children) →
        (toChildren n steps position cs).map site =
          Site.subtrees (n :: steps.map (·.1)) cs := by
      intro position cs hcs
      induction cs generalizing position with
      | nil => rfl
      | cons c cs ihcs =>
        rw [toChildren, List.map_append, ih c (hcs c List.mem_cons_self),
          ihcs _ fun d hd => hcs d (List.mem_cons_of_mem _ hd), Site.subtrees]
        rfl
    rw [toNodes_eq, List.map_cons, hchildren 0 _ fun c hc => hc, Site.subtree_eq]
    rfl

/-- What is at and below a node is reached through the steps to the node. -/
theorem suffix_of_mem_toNodes {steps : List (Node × Nat)} {n : Node} {t : Trail}
    (h : t ∈ toNodes steps n) : steps <:+ t.steps := by
  induction n using Node.induction_on_children generalizing steps with
  | node n ih =>
    rw [toNodes_eq, toChildren_eq_flatMap] at h
    rcases List.mem_cons.1 h with rfl | hbelow
    · exact List.suffix_refl _
    · obtain ⟨⟨c, position⟩, hc, ht⟩ := List.mem_flatMap.1 hbelow
      have hsuffix := ih c (List.fst_mem_of_mem_zipIdx hc) ht
      exact (List.suffix_cons _ _).trans hsuffix

end Trail

/-- The trails of a tree, in pre-order. -/
def Node.trails (n : Node) : List Trail :=
  Trail.toNodes [] n

/-! ## Binding steps by position -/

namespace Node

/-- Whether a step to the child at a position is a binding step: to a named child of an object or
array pattern, to the value of a pair, to the left of a default, to the first named child of a
rest. -/
def bindsAt (n : Node) (position : Nat) : Bool :=
  match n.kind with
  | "object_pattern" => n.children[position]?.any (·.named)
  | "array_pattern" => n.children[position]?.any (·.named)
  | "pair_pattern" => n.children.findIdx? (·.field? == some .value) == some position
  | "assignment_pattern" => n.children.findIdx? (·.field? == some .left) == some position
  | "object_assignment_pattern" => n.children.findIdx? (·.field? == some .left) == some position
  | "rest_pattern" => n.children.findIdx? (·.named) == some position
  | _ => false

/-- Whether the child at a position is in a default, but not what it is a default for. -/
def isDefaultAt (n : Node) (position : Nat) : Bool :=
  (n.kind == "assignment_pattern" || n.kind == "object_assignment_pattern") &&
    n.children[position]?.any (·.field? != some .left)

/-- Whether the child at a position is in a pair, but not its value. -/
def isKeyAt (n : Node) (position : Nat) : Bool :=
  n.kind == "pair_pattern" && n.children[position]?.any (·.field? != some .value)

end Node

section Positions

variable {α : Type}

theorem filter_eq_map_zipIdx (p : α → Bool) (xs : List α) :
    xs.filter p = (xs.zipIdx.filter fun x => xs[x.2]?.any p).map (·.1) := by
  have htest : ∀ x ∈ xs.zipIdx, xs[x.2]?.any p = (p ∘ Prod.fst) x := by
    intro x hx
    rw [List.mem_zipIdx_iff_getElem?.1 hx, Option.any_some]
    rfl
  rw [List.filter_congr htest, ← List.filter_map, List.zipIdx_map_fst]

/-- The first element that passes a test is the one at the first position where the test holds. -/
theorem toList_find?_eq_map_zipIdx (p : α → Bool) (xs : List α) (first : Nat) :
    (xs.find? p).toList = ((xs.zipIdx first).filter fun x =>
      (xs.findIdx? p).map (· + first) == some x.2).map (·.1) := by
  induction xs generalizing first with
  | nil => rfl
  | cons x xs ih =>
    rw [List.find?_cons, List.findIdx?_cons, List.zipIdx_cons, List.filter_cons]
    cases hx : p x with
    | true =>
      have hlater : ((xs.zipIdx (first + 1)).filter fun y =>
          (some 0).map (· + first) == some y.2) = [] := by
        refine List.filter_eq_nil_iff.2 fun y hy hfirst => ?_
        have hle := List.le_snd_of_mem_zipIdx hy
        have heq : 0 + first = y.2 := Option.some.inj (beq_iff_eq.1 hfirst)
        omega
      simp only [↓reduceIte, hlater]
      simp
    | false =>
      have hmap : ((xs.findIdx? p).map (· + 1)).map (· + first) =
          (xs.findIdx? p).map (· + (first + 1)) := by
        cases xs.findIdx? p with
        | none => rfl
        | some i =>
          simp only [Option.map_some, Option.some.injEq]
          omega
      have hhead : ((xs.findIdx? p).map (· + (first + 1)) == some first) = false := by
        cases xs.findIdx? p with
        | none => rfl
        | some i =>
          simp only [Option.map_some, beq_eq_false_iff_ne, ne_eq, Option.some.injEq]
          omega
      simp only [Bool.false_eq_true, ↓reduceIte, hmap, hhead]
      exact ih (first + 1)

theorem flatMap_filter {β : Type} (p : α → Bool) (f : α → List β) (xs : List α) :
    (xs.filter p).flatMap f = xs.flatMap fun x => if p x then f x else [] := by
  induction xs with
  | nil => rfl
  | cons x xs ih =>
    rw [List.filter_cons, List.flatMap_cons, ← ih]
    cases p x <;> rfl

end Positions

namespace Node

theorem toList_find?_children_eq (n : Node) (p : Node → Bool) :
    (n.children.find? p).toList =
      (n.children.zipIdx.filter fun c => n.children.findIdx? p == some c.2).map (·.1) := by
  simpa using toList_find?_eq_map_zipIdx p n.children 0

/-- The binding steps of a node lead to its children at binding positions. -/
theorem bindingSteps_eq_map_zipIdx (n : Node) :
    n.bindingSteps = (n.children.zipIdx.filter fun c => n.bindsAt c.2).map (·.1) := by
  unfold bindingSteps
  split
  · next hkind =>
    simp only [bindsAt, hkind]
    exact filter_eq_map_zipIdx _ _
  · next hkind =>
    simp only [bindsAt, hkind]
    exact filter_eq_map_zipIdx _ _
  · next hkind =>
    simp only [bindsAt, hkind]
    exact n.toList_find?_children_eq _
  · next hkind =>
    simp only [bindsAt, hkind]
    exact n.toList_find?_children_eq _
  · next hkind =>
    simp only [bindsAt, hkind]
    exact n.toList_find?_children_eq _
  · next hkind =>
    simp only [bindsAt, hkind, namedChildren, List.head?_filter]
    exact n.toList_find?_children_eq _
  · simp [bindsAt]

theorem any_field_of_findIdx? {n : Node} {f : Field} {position : Nat}
    (h : (n.children.findIdx? (·.field? == some f) == some position) = true) :
    n.children[position]?.any (·.field? != some f) = false := by
  obtain ⟨hlt, hfield, -⟩ := List.findIdx?_eq_some_iff_getElem.1 (beq_iff_eq.1 h)
  rw [List.getElem?_eq_getElem hlt, Option.any_some, bne, hfield]
  rfl

/-- A binding step leads neither to a default value nor to the key of a pair. -/
theorem not_isDefaultAt_of_bindsAt {n : Node} {position : Nat} (h : n.bindsAt position = true) :
    n.isDefaultAt position = false ∧ n.isKeyAt position = false := by
  unfold bindsAt at h
  unfold isDefaultAt isKeyAt
  split at h
  · next hkind => simp [hkind]
  · next hkind => simp [hkind]
  · next hkind => simp [hkind, any_field_of_findIdx? h]
  · next hkind => simp [hkind, any_field_of_findIdx? h]
  · next hkind => simp [hkind, any_field_of_findIdx? h]
  · next hkind => simp [hkind]
  · cases h

end Node

/-! ## Bound names -/

namespace Trail

/-- Whether all steps of a trail are binding steps. -/
def isBinding (steps : List (Node × Nat)) : Bool :=
  steps.all fun step => step.1.bindsAt step.2

/-- The last object or array pattern that steps lead through. -/
def pattern? (steps : List (Node × Nat)) : Option Destructuring :=
  steps.findSome? fun step => step.1.destructuring?

/-- How the node of a trail is bound, if it is a name that is reached by binding steps through an
object or array pattern. -/
def binding? (t : Trail) : Option Destructuring :=
  if t.node.bindsName && isBinding t.steps then pattern? t.steps else none

/-- Whether a trail leads into a default value or the key of a pair. -/
def leavesBindings (t : Trail) : Bool :=
  t.steps.any fun step => step.1.isDefaultAt step.2 || step.1.isKeyAt step.2

theorem pattern?_cons (n : Node) (position : Nat) (steps : List (Node × Nat)) :
    pattern? ((n, position) :: steps) = n.destructuring?.or (pattern? steps) := by
  rw [pattern?, List.findSome?_cons]
  cases n.destructuring? <;> rfl

theorem binding?_of_not_isBinding {steps : List (Node × Nat)} {n : Node} {t : Trail}
    (hsteps : isBinding steps = false) (ht : t ∈ toNodes steps n) : t.binding? = none := by
  obtain ⟨inner, hinner⟩ := suffix_of_mem_toNodes ht
  have hall : isBinding t.steps = false := by
    rw [isBinding] at hsteps ⊢
    rw [← hinner, List.all_append, hsteps, Bool.and_false]
  rw [binding?, hall, Bool.and_false]
  rfl

theorem binding?_of_leavesBindings {t : Trail} (h : t.leavesBindings = true) :
    t.binding? = none := by
  obtain ⟨step, hstep, hleaves⟩ := List.any_eq_true.1 h
  have hnot : isBinding t.steps = false := by
    refine List.all_eq_false.2 ⟨step, hstep, fun hbinds => ?_⟩
    obtain ⟨hdefault, hkey⟩ := Node.not_isDefaultAt_of_bindsAt hbinds
    rw [hdefault, hkey] at hleaves
    cases hleaves
  rw [binding?, hnot, Bool.and_false]
  rfl

end Trail

namespace Source

/-- The name at the end of a trail, if it is bound. -/
def identifierAt? (src : Source) (t : Trail) : Option Identifier :=
  t.binding?.map fun kind => src.identifier kind t.node

/-- The names that are bound at and below the end of binding steps. -/
theorem boundIdentifiers_eq_filterMap (src : Source) {steps : List (Node × Nat)}
    (hsteps : Trail.isBinding steps = true) (n : Node) :
    src.boundIdentifiers (Trail.pattern? steps) n =
      (Trail.toNodes steps n).filterMap src.identifierAt? := by
  induction n using Node.induction_on_children generalizing steps with
  | node n ih =>
    have hself : (src.identifierAt? ⟨n, steps⟩).toList =
        if n.bindsName then
          ((Trail.pattern? steps).map fun kind => src.identifier kind n).toList else [] := by
      rw [identifierAt?, Trail.binding?, hsteps, Bool.and_true]
      cases n.bindsName <;> rfl
    have hbelow : ∀ c ∈ n.children.zipIdx,
        (if n.bindsAt c.2 then
          src.boundIdentifiers (n.destructuring?.or (Trail.pattern? steps)) c.1 else []) =
        (Trail.toNodes ((n, c.2) :: steps) c.1).filterMap src.identifierAt? := by
      intro c hc
      cases hbinds : n.bindsAt c.2 with
      | true =>
        have hnext : Trail.isBinding ((n, c.2) :: steps) = true := by
          rw [Trail.isBinding, List.all_cons, hbinds, Bool.true_and]
          exact hsteps
        rw [if_pos rfl, ← Trail.pattern?_cons n c.2]
        exact ih c.1 (List.fst_mem_of_mem_zipIdx hc) hnext
      | false =>
        have hnext : Trail.isBinding ((n, c.2) :: steps) = false := by
          rw [Trail.isBinding, List.all_cons, hbinds, Bool.false_and]
        rw [if_neg (by decide)]
        refine (List.filterMap_eq_nil_iff.2 fun t ht => ?_).symm
        rw [identifierAt?, Trail.binding?_of_not_isBinding hnext ht]
        rfl
    calc src.boundIdentifiers (Trail.pattern? steps) n
      _ = (src.identifierAt? ⟨n, steps⟩).toList ++ n.bindingSteps.flatMap
            (src.boundIdentifiers (n.destructuring?.or (Trail.pattern? steps))) := by
        rw [boundIdentifiers_eq, hself]
      _ = (src.identifierAt? ⟨n, steps⟩).toList ++ n.children.zipIdx.flatMap fun c =>
            (Trail.toNodes ((n, c.2) :: steps) c.1).filterMap src.identifierAt? := by
        rw [Node.bindingSteps_eq_map_zipIdx, List.flatMap_map, flatMap_filter,
          List.flatMap_congr hbelow]
      _ = (Trail.toNodes steps n).filterMap src.identifierAt? := by
        rw [Trail.toNodes_eq, Trail.toChildren_eq_flatMap, List.filterMap_cons,
          List.filterMap_flatMap]
        cases src.identifierAt? ⟨n, steps⟩ <;> rfl

theorem inArray_of_identifierAt? {src : Source} {t : Trail} {i : Identifier}
    (h : src.identifierAt? t = some i) : i.inArray = !i.inObject := by
  obtain ⟨kind, -, rfl⟩ := Option.map_eq_some_iff.1 h
  cases kind <;> rfl

/-- The names that a pattern binds, started with no pattern around: in pre-order, those names that
are reached by binding steps through an object or array pattern, each by the last such pattern on
the way.  Each is either in an array or in an object, and none is in a default value or the key of a
pair.  Where spans are in order, the names are in the order of the text. -/
theorem boundIdentifiers_eq_trails (src : Source) (n : Node) :
    src.boundIdentifiers none n = n.trails.filterMap src.identifierAt? ∧
      n.trails.map Trail.site = Site.subtree [] n ∧
      (∀ i ∈ src.boundIdentifiers none n, i.inArray = !i.inObject) ∧
      (∀ t ∈ n.trails, t.leavesBindings = true → src.identifierAt? t = none) ∧
      ((∀ s ∈ Site.subtree [] n, s.node.OrdersSpans) →
        (n.trails.filter fun t => (src.identifierAt? t).isSome).Pairwise fun t u =>
          t.node.start ≤ u.node.start) := by
  have hbound : src.boundIdentifiers none n = n.trails.filterMap src.identifierAt? :=
    src.boundIdentifiers_eq_filterMap List.all_nil n
  have hsites : n.trails.map Trail.site = Site.subtree [] n := Trail.map_site_toNodes [] n
  refine ⟨hbound, hsites, fun i hi => ?_, fun t _ hleaves => ?_, fun hordered => ?_⟩
  · rw [hbound] at hi
    obtain ⟨t, -, ht⟩ := List.mem_filterMap.1 hi
    exact inArray_of_identifierAt? ht
  · rw [identifierAt?, Trail.binding?_of_leavesBindings hleaves]
    rfl
  · have hstarts := Site.pairwise_start_subtree hordered
    rw [← hsites, List.pairwise_map] at hstarts
    exact hstarts.sublist List.filter_sublist

end Source

section Samples

open Plain

/-- The pattern `{ a = x, key: [b, ...rest] }` of `sampleNested`. -/
def sampleNestedPattern : Node :=
  node "object_pattern"
    [markAt '\x7b' 11,
      node "object_assignment_pattern"
        [inField .left (wordAt "shorthand_property_identifier_pattern" "a" 13), markAt '=' 15,
          wordAt "identifier" "x" 17],
      markAt ',' 18,
      node "pair_pattern"
        [wordAt "property_identifier" "key" 20, markAt ':' 23,
          inField .value (node "array_pattern"
            [markAt '[' 25, wordAt "identifier" "b" 26, markAt ',' 27,
              node "rest_pattern"
                [fixed ⟨"...".toList, 29, 32, false⟩, wordAt "identifier" "rest" 32],
              markAt ']' 36])],
      markAt '\x7d' 38]

/-- A function whose parameter has a default, and an array pattern inside an object pattern. -/
def sampleNested : Source :=
  let text := "function f(\x7b a = x, key: [b, ...rest] \x7d) \x7b \x7d"
  ⟨text, program text.toList
    [node "function_declaration"
      [fixed ⟨"function".toList, 0, 8, false⟩, inField .name (wordAt "identifier" "f" 9),
        inField .parameters (node "formal_parameters"
          [markAt '(' 10, node "required_parameter" [inField .pattern sampleNestedPattern],
            markAt ')' 39]),
        node "statement_block" [markAt '\x7b' 41, markAt '\x7d' 43]]]⟩

end Samples

/-- The default value and the key are left out, and the names in the array are bound by it. -/
theorem sampleNested_names :
    (∀ s ∈ Site.subtree [] sampleNestedPattern, s.node.OrdersSpans) ∧
      sampleNested.boundIdentifiers none sampleNestedPattern =
        [⟨"a", false, true⟩, ⟨"b", true, false⟩, ⟨"rest", true, false⟩] ∧
      (sampleNestedPattern.trails.filter fun t =>
          (sampleNested.identifierAt? t).isSome).Pairwise fun t u =>
        t.node.start ≤ u.node.start := by
  have hordered : ∀ s ∈ Site.subtree [] sampleNestedPattern, s.node.OrdersSpans := by
    decide +kernel
  obtain ⟨hbound, -, -, -, hstarts⟩ :=
    sampleNested.boundIdentifiers_eq_trails sampleNestedPattern
  refine ⟨hordered, ?_, hstarts hordered⟩
  rw [hbound]
  decide +kernel

end SpecScaffold
