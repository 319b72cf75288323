import Mathlib.Data.List.Forall2
import SpecScaffold.Proofs.Facts.Patterns

/-!
# Comments in parameters

A comment may stand between any two parts of a tree, as one more child.  Putting comments below the
parameters of a function keeps their number and their types.  It keeps the names too, unless a
comment comes first in a rest, where it is taken for what the rest collects: then the parameter is
named by the comment, and inside a pattern the names below the rest are no longer bound.

    comments_in_parameters : what each parameter is after comments have been put in, and when the
      names that it binds are the same
-/

namespace SpecScaffold

/-! ## Putting comments into a tree -/

namespace Node

/-- A comment that stands among the parts of a node, and is none of them. -/
def isComment (n : Node) : Bool :=
  n.kind == "comment" && n.named && n.field?.isNone

/-- The comment that comes first in a rest, before what it collects. -/
def leadingComment? (n : Node) : Option Node :=
  if n.kind == "rest_pattern" then n.namedChildren.head?.filter (·.isComment) else none

end Node

/-- Nodes with comments put between them; the nodes themselves are changed by `R`. -/
inductive Interspersed (R : Node → Node → Prop) : List Node → List Node → Prop
  | nil : Interspersed R [] []
  | part {c c' : Node} {cs cs' : List Node} (hc : R c c') (hcs : Interspersed R cs cs') :
      Interspersed R (c :: cs) (c' :: cs')
  | comment {k : Node} {cs cs' : List Node} (hk : k.isComment = true)
      (hcs : Interspersed R cs cs') : Interspersed R cs (k :: cs')

/-- A tree with comments put in anywhere below its top.  The bytes that a node covers may change, but
not the text of a name, nor that of a type, in which no comments are put. -/
inductive Commented (src src' : Source) : Node → Node → Prop
  | intro {n n' : Node} (kind : n'.kind = n.kind) (named : n'.named = n.named)
      (field? : n'.field? = n.field?)
      (text : n.bindsName = true ∨ n.field? = some .type → src'.textOf n' = src.textOf n)
      (children : Interspersed (Commented src src') n.children n'.children) :
      Commented src src' n n'

section

variable {src src' : Source} {n n' : Node}

theorem Commented.kind (h : Commented src src' n n') : n'.kind = n.kind := by
  cases h with
  | intro kind _ _ _ _ => exact kind

theorem Commented.named (h : Commented src src' n n') : n'.named = n.named := by
  cases h with
  | intro _ named _ _ _ => exact named

theorem Commented.field? (h : Commented src src' n n') : n'.field? = n.field? := by
  cases h with
  | intro _ _ field? _ _ => exact field?

theorem Commented.text (h : Commented src src' n n')
    (hn : n.bindsName = true ∨ n.field? = some .type) : src'.textOf n' = src.textOf n := by
  cases h with
  | intro _ _ _ text _ => exact text hn

theorem Commented.children (h : Commented src src' n n') :
    Interspersed (Commented src src') n.children n'.children := by
  cases h with
  | intro _ _ _ _ children => exact children

theorem Commented.isComment (h : Commented src src' n n') : n'.isComment = n.isComment := by
  rw [Node.isComment, h.kind, h.named, h.field?, Node.isComment]

theorem Commented.bindsName (h : Commented src src' n n') : n'.bindsName = n.bindsName := by
  rw [Node.bindsName, h.kind, Node.bindsName]

theorem Commented.destructuring? (h : Commented src src' n n') :
    n'.destructuring? = n.destructuring? := by
  rw [Node.destructuring?, h.kind, Node.destructuring?]

end

namespace Node

mutual

/-- A tree without the comments below its top. -/
def uncommented : Node → Node
  | ⟨kind, start, stop, named, field?, children⟩ =>
    ⟨kind, start, stop, named, field?, uncommentedAll children⟩

/-- The trees of a list without comments, and without the comments among them. -/
def uncommentedAll : List Node → List Node
  | [] => []
  | n :: ns => if n.isComment then uncommentedAll ns else n.uncommented :: uncommentedAll ns

end

theorem uncommented_eq (n : Node) :
    n.uncommented = { n with children := uncommentedAll n.children } := by
  cases n
  rfl

end Node

/-- A tree is what it is without comments, with comments put in. -/
theorem commented_uncommented {src src' : Source} {above : List Node} {n : Node}
    (h : ∀ s ∈ Site.subtree above n, s.node.bindsName = true ∨ s.node.field? = some .type →
      src'.textOf s.node = src.textOf s.node) :
    Commented src src' n.uncommented n := by
  induction n using Node.induction_on_children generalizing above with
  | node n ih =>
    have hchildren : ∀ cs : List Node, (∀ c ∈ cs, c ∈ n.children) →
        Interspersed (Commented src src') (Node.uncommentedAll cs) cs := by
      intro cs hcs
      induction cs with
      | nil => exact .nil
      | cons c cs ihcs =>
        have hrest := ihcs fun d hd => hcs d (List.mem_cons_of_mem _ hd)
        have hc := hcs c List.mem_cons_self
        rw [Node.uncommentedAll]
        split
        · next hk => exact .comment hk hrest
        · exact .part (ih c hc (Site.forall_mem_subtree_child h hc)) hrest
    rw [Node.uncommented_eq]
    exact .intro rfl rfl rfl (h _ (Site.mem_subtree_self above n)) (hchildren _ fun c hc => hc)

/-! ## The parts of a node -/

namespace Interspersed

variable {R : Node → Node → Prop} {cs cs' : List Node}

/-- A test that no comment passes picks the same nodes. -/
theorem forall₂_filter {p : Node → Bool} (h : Interspersed R cs cs')
    (hp : ∀ c c', R c c' → p c' = p c) (hcomment : ∀ k : Node, k.isComment = true → p k = false) :
    List.Forall₂ R (cs.filter p) (cs'.filter p) := by
  induction h with
  | nil => exact .nil
  | part hc _ ih =>
    rw [List.filter_cons, List.filter_cons, hp _ _ hc]
    split
    · exact .cons hc ih
    · exact ih
  | comment hk _ ih =>
    rw [List.filter_cons_of_neg (by simp [hcomment _ hk])]
    exact ih

/-- If no comment comes first among the named nodes, the same node does. -/
theorem rel_head? (h : Interspersed R cs cs') (hnamed : ∀ c c', R c c' → c'.named = c.named)
    (hfirst : (cs'.filter (·.named)).head?.filter (·.isComment) = none) :
    Option.Rel R (cs.filter (·.named)).head? (cs'.filter (·.named)).head? := by
  induction h with
  | nil => exact .none
  | @part c c' cs cs' hc _ ih =>
    by_cases hn : c.named = true
    · rw [List.filter_cons_of_pos hn, List.filter_cons_of_pos ((hnamed c c' hc).trans hn)]
      exact .some hc
    · have hn' : ¬c'.named = true := by rwa [hnamed c c' hc]
      rw [List.filter_cons_of_neg hn'] at hfirst ⊢
      rw [List.filter_cons_of_neg hn]
      exact ih hfirst
  | @comment k cs cs' hk _ _ =>
    -- the comment itself would come first
    have hn : k.named = true := by
      simp only [Node.isComment, Bool.and_eq_true] at hk
      exact hk.1.2
    rw [List.filter_cons_of_pos hn, List.head?_cons, Option.filter_some, if_pos hk] at hfirst
    cases hfirst

end Interspersed

namespace Node

theorem field?_of_child? {n c : Node} {f : Field} (h : n.child? f = some c) :
    c.field? = some f := by
  unfold child? at h
  have hfield := List.find?_some h
  exact beq_iff_eq.1 hfield

/-- The nodes that one binding step leads to, without comments. -/
def parts (n : Node) : List Node :=
  n.bindingSteps.filter fun c => !c.isComment

theorem bindingSteps_of_isComment {n : Node} (h : n.isComment = true) :
    n.bindsName = false ∧ n.bindingSteps = [] := by
  simp only [isComment, Bool.and_eq_true, beq_iff_eq] at h
  obtain ⟨⟨hkind, -⟩, -⟩ := h
  constructor
  · rw [bindsName, hkind]
    rfl
  · rw [bindingSteps, hkind]
    rfl

theorem parts_of_leadingComment? {n k : Node} (h : n.leadingComment? = some k) :
    n.bindsName = false ∧ n.parts = [] := by
  unfold leadingComment? at h
  split at h
  · next hkind =>
    rw [beq_iff_eq] at hkind
    obtain ⟨hfirst, hk⟩ := Option.filter_eq_some_iff.1 h
    constructor
    · rw [bindsName, hkind]
      rfl
    · rw [parts, bindingSteps, hkind]
      simp [hfirst, hk]
  · cases h

end Node

namespace Commented

variable {src src' : Source} {n n' : Node}

theorem rel_child? (h : Commented src src' n n') (f : Field) :
    Option.Rel (Commented src src') (n.child? f) (n'.child? f) := by
  have hfilter : List.Forall₂ (Commented src src')
      (n.children.filter (·.field? == some f)) (n'.children.filter (·.field? == some f)) := by
    refine h.children.forall₂_filter (fun c c' hc => by rw [hc.field?]) fun k hk => ?_
    simp only [Node.isComment, Bool.and_eq_true, Option.isNone_iff_eq_none] at hk
    rw [hk.2]
    rfl
  rw [Node.child?, Node.child?, ← List.head?_filter, ← List.head?_filter]
  generalize n.children.filter (·.field? == some f) = cs at hfilter ⊢
  generalize n'.children.filter (·.field? == some f) = cs' at hfilter ⊢
  cases hfilter with
  | nil => exact .none
  | cons hc _ => exact .some hc

theorem forall₂_toList {o o' : Option Node} (h : Option.Rel (Commented src src') o o') :
    List.Forall₂ (Commented src src') (o.toList.filter fun c => !c.isComment)
      (o'.toList.filter fun c => !c.isComment) := by
  cases h with
  | none => exact .nil
  | some hc =>
    rw [Option.toList_some, Option.toList_some, List.filter_cons, List.filter_cons, hc.isComment]
    split
    · exact .cons hc .nil
    · exact .nil

/-- Unless a comment comes first in a rest, binding steps lead to the same parts. -/
theorem forall₂_parts (h : Commented src src' n n') (hfirst : n'.leadingComment? = none) :
    List.Forall₂ (Commented src src') n.parts n'.parts := by
  have hnamed : List.Forall₂ (Commented src src')
      (n.namedChildren.filter fun c => !c.isComment)
      (n'.namedChildren.filter fun c => !c.isComment) := by
    rw [Node.namedChildren, Node.namedChildren, List.filter_filter, List.filter_filter]
    refine h.children.forall₂_filter (fun c c' hc => ?_) fun k hk => ?_
    · rw [hc.isComment, hc.named]
    · rw [hk]
      rfl
  unfold Node.parts Node.bindingSteps
  rw [h.kind]
  split
  · exact hnamed
  · exact hnamed
  · exact forall₂_toList (h.rel_child? .value)
  · exact forall₂_toList (h.rel_child? .left)
  · exact forall₂_toList (h.rel_child? .left)
  · next hkind =>
    rw [Node.leadingComment?, h.kind, hkind] at hfirst
    exact forall₂_toList (h.children.rel_head? (fun c c' hc => hc.named) hfirst)
  · exact .nil

end Commented

/-! ## The names that are bound -/

namespace Source

/-- Comments bind nothing, so that the names of a pattern are those of its parts. -/
theorem boundIdentifiers_eq_parts (src : Source) (around? : Option Destructuring) (n : Node) :
    src.boundIdentifiers around? n =
      (if n.bindsName then (around?.map fun kind => src.identifier kind n).toList else []) ++
        n.parts.flatMap (src.boundIdentifiers (n.destructuring?.or around?)) := by
  have hsteps : ∀ c ∈ n.bindingSteps,
      src.boundIdentifiers (n.destructuring?.or around?) c =
        if !c.isComment then src.boundIdentifiers (n.destructuring?.or around?) c else [] := by
    intro c _
    cases hc : c.isComment with
    | false => rfl
    | true =>
      obtain ⟨hname, hnone⟩ := Node.bindingSteps_of_isComment hc
      rw [boundIdentifiers_eq, hname, hnone]
      rfl
  rw [boundIdentifiers_eq, Node.parts, flatMap_filter, ← List.flatMap_congr hsteps]

theorem boundIdentifiers_of_leadingComment? (src : Source) (around? : Option Destructuring)
    {n k : Node} (h : n.leadingComment? = some k) : src.boundIdentifiers around? n = [] := by
  obtain ⟨hname, hparts⟩ := Node.parts_of_leadingComment? h
  rw [boundIdentifiers_eq_parts, hname, hparts]
  rfl

/-- With the comments of `n'`, names that `n` binds are lost: a comment comes first in a rest that
binds names, or this is so for a pair of parts that binding steps lead to. -/
inductive HidesNames (src : Source) : Option Destructuring → Node → Node → Prop
  | here {around? : Option Destructuring} {n n' k : Node} (hk : n'.leadingComment? = some k)
      (hnames : src.boundIdentifiers around? n ≠ []) : HidesNames src around? n n'
  | inside {around? : Option Destructuring} {n n' c c' : Node} (hfirst : n'.leadingComment? = none)
      (hparts : (c, c') ∈ n.parts.zip n'.parts)
      (hc : HidesNames src (n.destructuring?.or around?) c c') : HidesNames src around? n n'

theorem hidesNames_iff_of_leadingComment? {src : Source} {around? : Option Destructuring}
    {n n' k : Node} (h : n'.leadingComment? = some k) :
    src.HidesNames around? n n' ↔ src.boundIdentifiers around? n ≠ [] := by
  constructor
  · intro hhides
    cases hhides with
    | here _ hnames => exact hnames
    | inside hfirst =>
      rw [h] at hfirst
      cases hfirst
  · exact fun hnames => .here h hnames

theorem hidesNames_iff_of_no_comment {src : Source} {around? : Option Destructuring}
    {n n' : Node} (h : n'.leadingComment? = none) :
    src.HidesNames around? n n' ↔
      ∃ pair ∈ n.parts.zip n'.parts, src.HidesNames (n.destructuring?.or around?) pair.1 pair.2 := by
  constructor
  · intro hhides
    cases hhides with
    | here hk =>
      rw [h] at hk
      cases hk
    | inside _ hparts hc => exact ⟨_, hparts, hc⟩
  · rintro ⟨⟨c, c'⟩, hparts, hc⟩
    exact .inside h hparts hc

end Source

section Lists

variable {α β γ : Type} {f : α → List γ} {g : β → List γ}

theorem sublist_flatMap {xs : List α} {ys : List β}
    (h : List.Forall₂ (fun x y => (g y).Sublist (f x)) xs ys) :
    (ys.flatMap g).Sublist (xs.flatMap f) := by
  induction h with
  | nil => exact .slnil
  | cons hxy _ ih =>
    rw [List.flatMap_cons, List.flatMap_cons]
    exact hxy.append ih

/-- Where nothing is added, nothing is lost exactly if nothing is lost anywhere. -/
theorem flatMap_eq_iff {xs : List α} {ys : List β}
    (h : List.Forall₂ (fun x y => (g y).Sublist (f x)) xs ys) :
    ys.flatMap g = xs.flatMap f ↔ ∀ pair ∈ xs.zip ys, g pair.2 = f pair.1 := by
  induction h with
  | nil => simp
  | cons hxy hrest ih =>
    rw [List.flatMap_cons, List.flatMap_cons, List.zip_cons_cons, List.forall_mem_cons, ← ih]
    constructor
    · intro heq
      have hlength := congrArg List.length heq
      rw [List.length_append, List.length_append] at hlength
      have hhead := hxy.length_le
      have htail := (sublist_flatMap hrest).length_le
      exact ⟨hxy.eq_of_length (by omega), (sublist_flatMap hrest).eq_of_length (by omega)⟩
    · rintro ⟨hhead, htail⟩
      rw [hhead, htail]

end Lists

namespace Commented

variable {src src' : Source}

/-- Comments add no names to a pattern, and lose none exactly if they hide none. -/
theorem boundIdentifiers {n n' : Node} (h : Commented src src' n n')
    (around? : Option Destructuring) :
    (src'.boundIdentifiers around? n').Sublist (src.boundIdentifiers around? n) ∧
      (src'.boundIdentifiers around? n' = src.boundIdentifiers around? n ↔
        ¬src.HidesNames around? n n') := by
  induction n using Node.induction_on_children generalizing n' around? with
  | node n ih =>
    cases hfirst : n'.leadingComment? with
    | some k =>
      rw [src'.boundIdentifiers_of_leadingComment? around? hfirst,
        Source.hidesNames_iff_of_leadingComment? hfirst, not_not, eq_comm]
      exact ⟨List.nil_sublist _, Iff.rfl⟩
    | none =>
      have hself : (if n'.bindsName then
            (around?.map fun kind => src'.identifier kind n').toList else []) =
          if n.bindsName then (around?.map fun kind => src.identifier kind n).toList else [] := by
        rw [h.bindsName]
        split
        · next hname => simp only [Source.identifier, h.text (.inl hname)]
        · rfl
      have hparts := h.forall₂_parts hfirst
      have hpairs : ∀ pair ∈ n.parts.zip n'.parts,
          (src'.boundIdentifiers (n.destructuring?.or around?) pair.2).Sublist
              (src.boundIdentifiers (n.destructuring?.or around?) pair.1) ∧
            (src'.boundIdentifiers (n.destructuring?.or around?) pair.2 =
                src.boundIdentifiers (n.destructuring?.or around?) pair.1 ↔
              ¬src.HidesNames (n.destructuring?.or around?) pair.1 pair.2) := by
        intro pair hpair
        have hc : pair.1 ∈ n.children :=
          Node.mem_children_of_bindingSteps (List.mem_filter.1 (List.of_mem_zip hpair).1).1
        exact ih pair.1 hc ((List.forall₂_iff_zip.1 hparts).2 hpair) _
      have hsublists : List.Forall₂ (fun c c' =>
          (src'.boundIdentifiers (n.destructuring?.or around?) c').Sublist
            (src.boundIdentifiers (n.destructuring?.or around?) c)) n.parts n'.parts :=
        List.forall₂_iff_zip.2 ⟨hparts.length_eq, fun hpair => (hpairs _ hpair).1⟩
      rw [src'.boundIdentifiers_eq_parts, src.boundIdentifiers_eq_parts, hself, h.destructuring?,
        List.append_cancel_left_eq, flatMap_eq_iff hsublists,
        Source.hidesNames_iff_of_no_comment hfirst]
      refine ⟨(List.Sublist.refl _).append (sublist_flatMap hsublists), ?_⟩
      simp only [not_exists, not_and]
      exact forall₂_congr fun pair hpair => (hpairs pair hpair).2

/-! ## Parameters -/

theorem rel_getD {o o' : Option Node} {n n' : Node} (ho : Option.Rel (Commented src src') o o')
    (h : Commented src src' n n') : Commented src src' (o.getD n) (o'.getD n') := by
  cases ho with
  | none => exact h
  | some hc => exact hc

theorem patternOf {n n' : Node} (h : Commented src src' n n') :
    Commented src src' (Source.patternOf n) (Source.patternOf n') := by
  unfold Source.patternOf
  rw [h.kind]
  split
  · exact rel_getD (h.rel_child? .pattern) h
  · exact rel_getD (h.rel_child? .pattern) h
  · exact rel_getD (h.rel_child? .left) h
  · exact h

theorem map_eq_of_rel {α : Type} {f g : Node → α} {o o' : Option Node}
    (h : Option.Rel (Commented src src') o o')
    (hfg : ∀ c c', o = some c → Commented src src' c c' → g c' = f c) : o'.map g = o.map f := by
  cases h with
  | none => rfl
  | some hc => exact congrArg some (hfg _ _ rfl hc)

theorem typeOf? {n n' : Node} (h : Commented src src' n n') : src'.typeOf? n' = src.typeOf? n := by
  have htype : (n'.child? .type).map src'.typeAfterColon =
      (n.child? .type).map src.typeAfterColon := by
    refine map_eq_of_rel (h.rel_child? .type) fun c c' hc hcc => ?_
    rw [Source.typeAfterColon, hcc.text (.inr (Node.field?_of_child? hc)), Source.typeAfterColon]
  unfold Source.typeOf?
  rw [h.kind]
  split
  · exact htype
  · exact htype
  · rfl

end Commented

namespace Node

/-- An identifier, or a rest that collects one. -/
def isSingleName (n : Node) : Bool :=
  n.kind == "identifier" || (n.kind == "rest_pattern" &&
    (n.namedChildren.find? fun c => !c.isComment).any (·.kind == "identifier"))

/-- The nodes of the parameters of a function. -/
def parameterNodes (f : Node) : List Node :=
  ((f.child? .parameters).map fun list =>
    list.namedChildren.filter (·.kind != "comment")).getD []

/-- What is hidden is hidden by a comment that comes first in a rest on the way. -/
theorem exists_leadingComment?_of_hidesNames {src : Source} {around? : Option Destructuring}
    {n n' : Node} (h : src.HidesNames around? n n') :
    ∃ m, n'.Reaches m ∧ m.leadingComment? ≠ none := by
  induction h with
  | here hk _ => exact ⟨_, .refl, by rw [hk]; simp⟩
  | inside _ hparts _ ih =>
    obtain ⟨m, hreaches, hm⟩ := ih
    exact ⟨m, .head (List.mem_filter.1 (List.of_mem_zip hparts).2).1 hreaches, hm⟩

end Node

theorem Source.parameters_eq_map (src : Source) (f : Node) :
    src.parameters f = f.parameterNodes.map src.parameter := by
  unfold Source.parameters Node.parameterNodes
  cases f.child? .parameters <;> rfl

namespace Commented

variable {src src' : Source}

/-- Comments between parameters are no parameters. -/
theorem forall₂_parameterNodes {f f' : Node}
    (h : Option.Rel (Commented src src') (f.child? .parameters) (f'.child? .parameters)) :
    List.Forall₂ (Commented src src') f.parameterNodes f'.parameterNodes := by
  unfold Node.parameterNodes
  generalize f.child? .parameters = list? at h ⊢
  generalize f'.child? .parameters = list'? at h ⊢
  cases h with
  | none => exact .nil
  | some hlist =>
    rw [Option.map_some, Option.map_some, Option.getD_some, Option.getD_some, Node.namedChildren,
      Node.namedChildren, List.filter_filter, List.filter_filter]
    refine hlist.children.forall₂_filter (fun c c' hc => ?_) fun k hk => ?_
    · rw [hc.kind, hc.named]
    · simp only [Node.isComment, Bool.and_eq_true] at hk
      rw [bne, hk.1.1]
      rfl

theorem filter_isComment_of_rel {o o' : Option Node} (h : Option.Rel (Commented src src') o o')
    (hnone : o'.filter (·.isComment) = none) : o.filter (·.isComment) = none := by
  cases h with
  | none => rfl
  | some hc =>
    rw [Option.filter_some, hc.isComment] at hnone
    rw [Option.filter_some]
    split at hnone
    · cases hnone
    · next hk => rw [if_neg hk]

theorem find?_eq_head? {cs : List Node} (h : cs.head?.filter (·.isComment) = none) :
    (cs.find? fun c => !c.isComment) = cs.head? := by
  cases cs with
  | nil => rfl
  | cons c cs =>
    rw [List.head?_cons, Option.filter_some] at h
    split at h
    · cases h
    · next hc => rw [List.find?_cons_of_pos (by simpa using hc), List.head?_cons]

/-- A parameter of one name keeps it, or is named by the comment that comes first in the rest. -/
theorem patternName {n n' : Node} (h : Commented src src' n n') (hn : n.isSingleName = true) :
    src'.patternName n' = (n'.leadingComment?.map src'.textOf).getD (src.patternName n) := by
  simp only [Node.isSingleName, Bool.or_eq_true, Bool.and_eq_true, beq_iff_eq] at hn
  rcases hn with hkind | ⟨hkind, hidentifier⟩
  · have hname : n.bindsName = true := by
      rw [Node.bindsName, hkind]
      rfl
    simp [Source.patternName, Node.leadingComment?, h.kind, hkind, h.text (.inl hname)]
  · simp only [Source.patternName, Node.leadingComment?, h.kind, hkind, beq_self_eq_true,
      ↓reduceIte]
    cases hfirst : n'.namedChildren.head?.filter (·.isComment) with
    | some k =>
      obtain ⟨hhead, -⟩ := Option.filter_eq_some_iff.1 hfirst
      simp [hhead]
    | none =>
      have hrel : Option.Rel (Commented src src') n.namedChildren.head? n'.namedChildren.head? :=
        h.children.rel_head? (fun c c' hc => hc.named) hfirst
      rw [find?_eq_head? (filter_isComment_of_rel hrel hfirst)] at hidentifier
      obtain ⟨c, hc, hkind⟩ := (Option.any_eq_true _ _).1 hidentifier
      have hname : (n.namedChildren.head?.getD n).bindsName = true := by
        rw [hc, Option.getD_some, Node.bindsName, hkind, Bool.true_or]
      exact (rel_getD hrel h).text (.inl hname)

end Commented

/-- Putting comments below the parameters of a function.  There are as many parameters as before,
each with the type it had, and no names are added to those that it binds; they are the same exactly
if no comment hides one.  A parameter of one name keeps it, unless it is a rest in which a comment
comes first: then it has the text of the comment for its name.  So nothing changes where no comment
comes first in a rest. -/
theorem comments_in_parameters (src src' : Source) (f f' : Node)
    (h : Option.Rel (Commented src src') (f.child? .parameters) (f'.child? .parameters)) :
    (src'.parameters f').length = (src.parameters f).length ∧
      src.parameters f = f.parameterNodes.map src.parameter ∧
      src'.parameters f' = f'.parameterNodes.map src'.parameter ∧
      List.Forall₂ (fun c c' =>
        (src'.parameter c').type? = (src.parameter c).type? ∧
        (src'.parameter c').identifiers.Sublist (src.parameter c).identifiers ∧
        ((src'.parameter c').identifiers = (src.parameter c).identifiers ↔
          ¬src.HidesNames none (Source.patternOf c) (Source.patternOf c')) ∧
        ((Source.patternOf c).isSingleName = true → (src'.parameter c').name =
          ((Source.patternOf c').leadingComment?.map src'.textOf).getD (src.parameter c).name) ∧
        ((∀ m, (Source.patternOf c').Reaches m → m.leadingComment? = none) →
          (src'.parameter c').identifiers = (src.parameter c).identifiers ∧
          ((Source.patternOf c).isSingleName = true →
            (src'.parameter c').name = (src.parameter c).name)))
        f.parameterNodes f'.parameterNodes := by
  have hnodes := Commented.forall₂_parameterNodes h
  refine ⟨?_, src.parameters_eq_map f, src'.parameters_eq_map f', hnodes.imp fun c c' hc => ?_⟩
  · rw [src.parameters_eq_map, src'.parameters_eq_map, List.length_map, List.length_map,
      hnodes.length_eq]
  have hpattern := hc.patternOf
  obtain ⟨hsublist, hsame⟩ := hpattern.boundIdentifiers none
  refine ⟨hc.typeOf?, hsublist, hsame, hpattern.patternName, fun hnone => ⟨hsame.2 ?_, ?_⟩⟩
  · intro hhides
    obtain ⟨m, hreaches, hm⟩ := Node.exists_leadingComment?_of_hidesNames hhides
    exact hm (hnone m hreaches)
  · intro hsingle
    have hname := hpattern.patternName hsingle
    rw [hnone _ .refl] at hname
    exact hname

section Samples

open Plain

/-- The function of `sampleRest`. -/
def sampleRestFunction : Node :=
  node "function_declaration"
    [fixed ⟨"function".toList, 0, 8, false⟩, inField .name (wordAt "identifier" "f" 9),
      inField .parameters (node "formal_parameters"
        [markAt '(' 10,
          node "required_parameter" [inField .pattern (node "array_pattern"
            [markAt '[' 11, wordAt "identifier" "x" 12, markAt ',' 13,
              node "rest_pattern" [fixed ⟨"...".toList, 15, 18, false⟩,
                wordAt "comment" "/* more */" 18, wordAt "identifier" "rest" 29],
              markAt ']' 33])],
          markAt ',' 34,
          node "required_parameter" [inField .pattern (node "rest_pattern"
            [fixed ⟨"...".toList, 36, 39, false⟩, wordAt "comment" "/* all */" 39,
              wordAt "identifier" "args" 49])],
          markAt ')' 53]),
      node "statement_block" [markAt '\x7b' 55, markAt '\x7d' 57]]

/-- A function with a rest inside a pattern, and a rest of its own; a comment comes first in
both. -/
def sampleRest : Source :=
  let text := "function f([x, .../* more */ rest], .../* all */ args) \x7b \x7d"
  ⟨text, program text.toList [sampleRestFunction]⟩

/-- The same with blanks in place of the comments. -/
def sampleRestBlank : Source :=
  let text := "function f([x, ...           rest], ...          args) \x7b \x7d"
  ⟨text, program text.toList [sampleRestFunction.uncommented]⟩

end Samples

theorem commented_sampleRest :
    Option.Rel (Commented sampleRestBlank sampleRest)
      (sampleRestFunction.uncommented.child? .parameters)
      (sampleRestFunction.child? .parameters) := by
  have htexts : ∀ s ∈ Site.subtree [] sampleRestFunction,
      s.node.bindsName = true ∨ s.node.field? = some .type →
        sampleRest.textOf s.node = sampleRestBlank.textOf s.node := by
    decide +kernel
  exact (commented_uncommented htexts).rel_child? .parameters

theorem parameters_sampleRest :
    sampleRestBlank.parameters sampleRestFunction.uncommented =
        [⟨"[x, ...           rest]", none, [⟨"x", true, false⟩, ⟨"rest", true, false⟩]⟩,
          ⟨"args", none, []⟩] ∧
      sampleRest.parameters sampleRestFunction =
        [⟨"[x, .../* more */ rest]", none, [⟨"x", true, false⟩]⟩, ⟨"/* all */", none, []⟩] :=
  ⟨by decide +kernel, by decide +kernel⟩

/-- With the comments one name is no longer bound, and the parameter that is a rest around a name is
named by a comment. -/
theorem sampleRest_comments_change_parameters :
    Option.Rel (Commented sampleRestBlank sampleRest)
        (sampleRestFunction.uncommented.child? .parameters)
        (sampleRestFunction.child? .parameters) ∧
      (sampleRestBlank.parameters sampleRestFunction.uncommented).map (·.identifiers) ≠
        (sampleRest.parameters sampleRestFunction).map (·.identifiers) ∧
      sampleRestFunction.uncommented.parameterNodes.map (fun c =>
          ((Source.patternOf c).isSingleName, (sampleRestBlank.parameter c).name)) =
        [(false, "[x, ...           rest]"), (true, "args")] ∧
      sampleRestFunction.parameterNodes.map (fun c => (sampleRest.parameter c).name) =
        ["[x, .../* more */ rest]", "/* all */"] := by
  refine ⟨commented_sampleRest, ?_, by decide +kernel, by decide +kernel⟩
  rw [parameters_sampleRest.1, parameters_sampleRest.2]
  decide

theorem sampleRest_hides_name :
    Option.Rel (Commented sampleRestBlank sampleRest)
        (sampleRestFunction.uncommented.child? .parameters)
        (sampleRestFunction.child? .parameters) ∧
      ∃ c c' later later', sampleRestFunction.uncommented.parameterNodes = c :: later ∧
        sampleRestFunction.parameterNodes = c' :: later' ∧
        sampleRestBlank.HidesNames none (Source.patternOf c) (Source.patternOf c') := by
  refine ⟨commented_sampleRest, ?_⟩
  obtain ⟨hblank, hcommented⟩ := parameters_sampleRest
  obtain ⟨-, hmap, hmap', hparameters⟩ := comments_in_parameters sampleRestBlank sampleRest
    sampleRestFunction.uncommented sampleRestFunction commented_sampleRest
  rw [hblank] at hmap
  rw [hcommented] at hmap'
  obtain ⟨c, later, hnodes, hc, -⟩ := List.map_eq_cons_iff.1 hmap.symm
  obtain ⟨c', later', hnodes', hc', -⟩ := List.map_eq_cons_iff.1 hmap'.symm
  rw [hnodes, hnodes', List.forall₂_cons] at hparameters
  obtain ⟨⟨-, -, hsame, -⟩, -⟩ := hparameters
  refine ⟨c, c', later, later', hnodes, hnodes', by_contra fun hnot => ?_⟩
  have hidentifiers := hsame.2 hnot
  rw [hc, hc'] at hidentifiers
  exact absurd hidentifiers (by decide)

end SpecScaffold
