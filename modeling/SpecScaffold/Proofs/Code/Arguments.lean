import Mathlib.Logic.Relation
import SpecScaffold.Facts.Parameters
import SpecScaffold.Proofs.Text.Identifiers
import SpecScaffold.Source.Plain

/-!
# What is passed for a parameter

A destructured parameter is declared name by name, each by the pattern it stands in, but passed as a
whole, by the pattern that its first name stands in.  Both sides agree if all patterns are of one
kind, and where they are not:

    closed_ofParameter_iff : all names in the argument are declared, exactly if the first name is in
                             an object pattern, or no other name gives way to a variable
    fits_ofParameter_iff   : the argument has the shape of a pattern of the kind that the first name
                             stands in, and of no other kind
-/

namespace SpecScaffold

open Text

/-! ## Patterns -/

namespace Node

/-- Binding steps lead from a pattern to a part of it. -/
def Reaches : Node → Node → Prop :=
  Relation.ReflTransGen fun n c => c ∈ n.bindingSteps

/-- The first object or array pattern on the binding steps from a node. -/
inductive Outermost : Node → Destructuring → Prop
  | here {n : Node} {kind : Destructuring} (h : n.destructuring? = some kind) : Outermost n kind
  | step {n c : Node} {kind : Destructuring} (h : n.destructuring? = none)
      (hc : c ∈ n.bindingSteps) (hkind : Outermost c kind) : Outermost n kind

/-- Only object and array patterns have several parts. -/
theorem exists_bindingSteps_eq {n : Node} (h : n.destructuring? = none) :
    ∃ child? : Option Node, n.bindingSteps = child?.toList := by
  unfold destructuring? at h
  unfold bindingSteps
  split
  · next hkind =>
    rw [hkind] at h
    cases h
  · next hkind =>
    rw [hkind] at h
    cases h
  · exact ⟨_, rfl⟩
  · exact ⟨_, rfl⟩
  · exact ⟨_, rfl⟩
  · exact ⟨_, rfl⟩
  · exact ⟨none, rfl⟩

theorem Outermost.unique {n : Node} {kind kind' : Destructuring} (h : n.Outermost kind)
    (h' : n.Outermost kind') : kind = kind' := by
  induction h with
  | here hkind =>
    cases h' with
    | here hkind' => exact Option.some.inj (hkind.symm.trans hkind')
    | step hnone _ _ =>
      rw [hkind] at hnone
      cases hnone
  | step hnone hc _ ih =>
    cases h' with
    | here hkind' =>
      rw [hnone] at hkind'
      cases hkind'
    | step _ hc' hkind' =>
      obtain ⟨child?, hsteps⟩ := exists_bindingSteps_eq hnone
      rw [hsteps, Option.mem_toList] at hc hc'
      obtain rfl := Option.some.inj (hc.symm.trans hc')
      exact ih hkind'

end Node

namespace Source

variable {src : Source}

/-- A bound name is tagged with the pattern around, or with one that is reached on the way. -/
theorem exists_kind_of_mem_boundIdentifiers {around? : Option Destructuring} {n : Node}
    {i : Identifier} (h : i ∈ src.boundIdentifiers around? n) :
    ∃ kind leaf, i = src.identifier kind leaf ∧
      (around? = some kind ∨ ∃ m, n.Reaches m ∧ m.destructuring? = some kind) := by
  induction around?, n using boundIdentifiers.induct with
  | case1 around? n ih =>
    rw [boundIdentifiers_eq] at h
    rcases List.mem_append.1 h with hself | hstep
    · split at hself
      · obtain ⟨kind, hkind, rfl⟩ := Option.map_eq_some_iff.1 (Option.mem_toList.1 hself)
        exact ⟨kind, n, rfl, .inl hkind⟩
      · cases hself
    · obtain ⟨c, hc, hi⟩ := List.mem_flatMap.1 hstep
      obtain ⟨kind, leaf, hi, hkind⟩ := ih c hc hi
      refine ⟨kind, leaf, hi, ?_⟩
      rcases hkind with hnearest | ⟨m, hm, hkind⟩
      · rcases Option.or_eq_some_iff.1 hnearest with hhere | ⟨-, haround⟩
        · exact .inr ⟨n, .refl, hhere⟩
        · exact .inl haround
      · exact .inr ⟨m, .head hc hm, hkind⟩

/-- Names are bound in an outermost pattern. -/
theorem exists_outermost {n : Node} (h : src.boundIdentifiers none n ≠ []) :
    ∃ kind, n.Outermost kind := by
  generalize haround : (none : Option Destructuring) = around? at h
  induction around?, n using boundIdentifiers.induct with
  | case1 around? n ih =>
    subst haround
    cases hkind : n.destructuring? with
    | some kind => exact ⟨kind, .here hkind⟩
    | none =>
      rw [boundIdentifiers_eq, hkind] at h
      have hself : (if n.bindsName then
          ((none : Option Destructuring).map fun kind => src.identifier kind n).toList else []) =
            [] := by
        split <;> rfl
      rw [hself, List.nil_append, ne_eq, List.flatMap_eq_nil_iff] at h
      simp only [not_forall] at h
      obtain ⟨c, hc, hnames⟩ := h
      obtain ⟨kind, houter⟩ := ih c hc (by rw [hkind]; rfl) (by rw [hkind]; exact hnames)
      exact ⟨kind, .step hkind hc houter⟩

/-- In a pattern without patterns of another kind, all names are bound in patterns of one kind. -/
theorem inObject_of_uniform {n : Node} {kind : Destructuring}
    (huniform : ∀ m, n.Reaches m → ∀ k, m.destructuring? = some k → k = kind) {i : Identifier}
    (h : i ∈ src.boundIdentifiers none n) : i.inObject = (kind == .object) := by
  obtain ⟨k, leaf, rfl, hnone | ⟨m, hm, hk⟩⟩ := exists_kind_of_mem_boundIdentifiers h
  · cases hnone
  · obtain rfl := huniform m hm k hk
    rfl

end Source

/-! ## Bindings -/

namespace Binding

/-- Every identifier in the argument is declared. -/
def Closed (b : Binding) : Prop :=
  ∀ name ∈ identifiersIn b.argument.toList, name ∈ letNames b.declared.toList

instance (b : Binding) : Decidable b.Closed :=
  inferInstanceAs (Decidable (∀ _ ∈ _, _))

/-- The argument has the shape of a pattern: one variable or an object, or an array. -/
def Fits (b : Binding) : Destructuring → Prop
  | .object => isIdentifier b.argument.toList = true ∨
      ∃ inside, b.argument = "\x7b " ++ inside ++ " \x7d"
  | .array => ∃ inside, b.argument = "[" ++ inside ++ "]"

theorem closed_of_plain {p : Parameter} (hplain : p.identifiers = [])
    (hname : isIdentifier p.name.toList = true ∨ identifiersIn p.name.toList = []) :
    (ofParameter p).Closed := by
  have hbinding : ofParameter p = ⟨p.name, p.name⟩ := by
    rw [ofParameter, hplain]
    rfl
  rw [hbinding, Closed]
  rcases hname with hname | hempty
  · rw [identifiersIn_of_isIdentifier hname, letNames_of_isIdentifier hname]
    exact fun name h => h
  · rw [hempty]
    simp

section Destructured

variable {p : Parameter} {first : Identifier}

/-- The variable that a type gives to the names in object patterns. -/
def typeVariableOf? (p : Parameter) : Option String :=
  p.type?.bind typeVariable?

theorem isIdentifier_of_typeVariableOf? {name : String} (h : typeVariableOf? p = some name) :
    isIdentifier name.toList = true := by
  obtain ⟨type, -, htype⟩ := Option.bind_eq_some_iff.1 h
  exact isIdentifier_of_typeVariable? htype

theorem isIdentifier_declaredName (hnames : ∀ i ∈ p.identifiers, isIdentifier i.name.toList = true)
    {i : Identifier} (hi : i ∈ p.identifiers) :
    isIdentifier (declaredName (typeVariableOf? p) i).toList = true := by
  unfold declaredName
  split
  · next name htype _ => exact isIdentifier_of_typeVariableOf? htype
  · exact hnames i hi

theorem ofParameter_eq (hfirst : p.identifiers.head? = some first) :
    ofParameter p =
      ⟨commaList (p.identifiers.map (declaredName (typeVariableOf? p))).eraseDups,
        argumentOf (typeVariableOf? p) p.identifiers⟩ := by
  have hne : ¬p.identifiers.isEmpty = true := by
    intro hempty
    rw [List.isEmpty_iff.1 hempty] at hfirst
    cases hfirst
  rw [ofParameter, if_neg hne]
  rfl

/-- The names in the `let` of a destructured parameter. -/
theorem mem_letNames_declared (hfirst : p.identifiers.head? = some first)
    (hnames : ∀ i ∈ p.identifiers, isIdentifier i.name.toList = true) {name : String} :
    name.toList ∈ letNames (ofParameter p).declared.toList ↔
      name ∈ p.identifiers.map (declaredName (typeVariableOf? p)) := by
  have hidentifiers : ∀ declared ∈
      (p.identifiers.map (declaredName (typeVariableOf? p))).eraseDups,
        isIdentifier declared.toList = true := by
    intro declared hdeclared
    obtain ⟨i, hi, rfl⟩ := List.mem_map.1 (List.mem_eraseDups.1 hdeclared)
    exact isIdentifier_declaredName hnames hi
  have hne : (p.identifiers.map (declaredName (typeVariableOf? p))).eraseDups ≠ [] := by
    have hmem : declaredName (typeVariableOf? p) first ∈
        (p.identifiers.map (declaredName (typeVariableOf? p))).eraseDups :=
      List.mem_eraseDups.2 (List.mem_map_of_mem (List.mem_of_head? hfirst))
    exact List.ne_nil_of_mem hmem
  rw [ofParameter_eq hfirst, letNames_commaList hidentifiers hne]
  constructor
  · intro hmem
    obtain ⟨declared, hdeclared, hsame⟩ := List.mem_map.1 hmem
    rw [← String.toList_inj.1 hsame]
    exact List.mem_eraseDups.1 hdeclared
  · exact fun hmem => List.mem_map_of_mem (List.mem_eraseDups.2 hmem)

/-- The argument is the variable of the type, an object or an array, as the first name tells. -/
theorem argument_eq (hfirst : p.identifiers.head? = some first) :
    (ofParameter p).argument =
      if first.inObject then
        (typeVariableOf? p).getD ("\x7b " ++ commaList (p.identifiers.map (·.name)) ++ " \x7d")
      else "[" ++ commaList (p.identifiers.map (·.name)) ++ "]" := by
  rw [ofParameter_eq hfirst]
  simp only [argumentOf, hfirst, Option.any_some]

/-- A literal of names mentions the names. -/
theorem identifiersIn_literal (hnames : ∀ i ∈ p.identifiers, isIdentifier i.name.toList = true) :
    identifiersIn ("\x7b " ++ commaList (p.identifiers.map (·.name)) ++ " \x7d").toList =
        p.identifiers.map (·.name.toList) ∧
      identifiersIn ("[" ++ commaList (p.identifiers.map (·.name)) ++ "]").toList =
        p.identifiers.map (·.name.toList) := by
  have hlist : identifiersIn (commaList (p.identifiers.map (·.name))).toList =
      p.identifiers.map (·.name.toList) := by
    rw [identifiersIn_commaList, List.map_map]
    · rfl
    · intro name hname
      obtain ⟨i, hi, rfl⟩ := List.mem_map.1 hname
      exact hnames i hi
  rw [← hlist]
  generalize commaList (p.identifiers.map (·.name)) = names
  have hobject : ("\x7b " ++ names ++ " \x7d").toList =
      '\x7b' :: ' ' :: (names.toList ++ [' '] ++ ['\x7d']) := by
    simp
  have harray : ("[" ++ names ++ "]").toList = '[' :: (names.toList ++ [']']) := by
    simp
  constructor
  · rw [hobject, identifiersIn_cons (by decide), identifiersIn_cons (by decide),
      identifiersIn_concat (by decide), identifiersIn_concat (by decide)]
  · rw [harray, identifiersIn_cons (by decide), identifiersIn_concat (by decide)]

/-- When the argument of a destructured parameter is made of declared names. -/
theorem closed_ofParameter_iff (hfirst : p.identifiers.head? = some first)
    (hnames : ∀ i ∈ p.identifiers, isIdentifier i.name.toList = true) :
    (ofParameter p).Closed ↔ first.inObject = true ∨
      ∀ i ∈ p.identifiers, i.name ∈ p.identifiers.map (declaredName (typeVariableOf? p)) := by
  obtain ⟨hobject, harray⟩ := identifiersIn_literal hnames
  have hall : (∀ name ∈ p.identifiers.map (·.name.toList),
      name ∈ letNames (ofParameter p).declared.toList) ↔
        ∀ i ∈ p.identifiers, i.name ∈ p.identifiers.map (declaredName (typeVariableOf? p)) := by
    rw [List.forall_mem_map]
    exact forall₂_congr fun i _ => mem_letNames_declared hfirst hnames
  unfold Closed
  rw [argument_eq hfirst]
  cases hin : first.inObject with
  | false => simp only [Bool.false_eq_true, ↓reduceIte, false_or, harray, hall]
  | true =>
    simp only [↓reduceIte, true_or, iff_true]
    cases htype : typeVariableOf? p with
    | none =>
      rw [Option.getD_none, hobject, hall, htype]
      intro i hi
      exact List.mem_map.2 ⟨i, hi, rfl⟩
    | some name =>
      rw [Option.getD_some, identifiersIn_of_isIdentifier (isIdentifier_of_typeVariableOf? htype)]
      intro other hother
      obtain rfl := List.mem_singleton.1 hother
      rw [mem_letNames_declared hfirst hnames, htype]
      refine List.mem_map.2 ⟨first, List.mem_of_head? hfirst, ?_⟩
      simp only [declaredName, hin]

/-- Which pattern the argument of a destructured parameter has the shape of. -/
theorem fits_ofParameter_iff (hfirst : p.identifiers.head? = some first)
    (kind : Destructuring) :
    (ofParameter p).Fits kind ↔ (first.inObject = true ↔ kind = .object) := by
  have hargument := argument_eq hfirst
  cases hin : first.inObject with
  | false =>
    rw [hin, if_neg (by decide)] at hargument
    have harray : (ofParameter p).Fits .array := ⟨_, hargument⟩
    have hobject : ¬(ofParameter p).Fits .object := by
      rintro (hidentifier | ⟨inside, hinside⟩)
      · refine notMem_of_isIdentifier hidentifier (c := '[') (by decide) ?_
        simp [hargument]
      · have hhead := congrArg (·.toList.head?) (hinside.symm.trans hargument)
        simp at hhead
    cases kind <;> simp [harray, hobject]
  | true =>
    rw [hin, if_pos rfl] at hargument
    have hobject : (ofParameter p).Fits .object := by
      cases htype : typeVariableOf? p with
      | none => exact .inr ⟨_, by rw [hargument, htype, Option.getD_none]⟩
      | some name =>
        left
        rw [hargument, htype, Option.getD_some]
        exact isIdentifier_of_typeVariableOf? htype
    have harray : ¬(ofParameter p).Fits .array := by
      rintro ⟨inside, hinside⟩
      rcases hobject with hidentifier | ⟨inside', hinside'⟩
      · refine notMem_of_isIdentifier hidentifier (c := '[') (by decide) ?_
        simp [hinside]
      · have hhead := congrArg (·.toList.head?) (hinside.symm.trans hinside')
        simp at hhead
    cases kind <;> simp [harray, hobject]

end Destructured

end Binding

/-! ## Parameters of a source -/

/-- When the argument of a parameter is made of declared names, and has the shape of the parameter.
For a parameter that is one name it is that name; for an empty pattern it mentions no name.  For a
destructured parameter its names are all declared exactly if the first name stands in an object
pattern, or each name is one of the declared variables; its shape is that of the outermost pattern
exactly if the first name stands in a pattern of that kind.  So both hold for a parameter in which
all patterns are of one kind. -/
theorem argument_closed_and_fitting_iff (src : Source) (n : Node) (p : Parameter)
    (hp : src.parameter n = p)
    (hplain : p.identifiers = [] →
      isIdentifier p.name.toList = true ∨ identifiersIn p.name.toList = [])
    (hnames : ∀ i ∈ p.identifiers, isIdentifier i.name.toList = true) :
    (p.identifiers = [] → (Binding.ofParameter p).Closed) ∧
      (∀ first, p.identifiers.head? = some first →
        ((Binding.ofParameter p).Closed ↔ first.inObject = true ∨ ∀ i ∈ p.identifiers,
          i.name ∈ p.identifiers.map
            (Binding.declaredName (p.type?.bind Binding.typeVariable?))) ∧
        ∃ kind, (∀ k, (Source.patternOf n).Outermost k ↔ k = kind) ∧
          ((Binding.ofParameter p).Fits kind ↔ (first.inObject = true ↔ kind = .object))) ∧
      ∀ kind, (∀ m, (Source.patternOf n).Reaches m → ∀ k, m.destructuring? = some k → k = kind) →
        p.identifiers ≠ [] →
          (Binding.ofParameter p).Closed ∧ (Binding.ofParameter p).Fits kind := by
  subst hp
  refine ⟨fun hnone => Binding.closed_of_plain hnone (hplain hnone), ?_, ?_⟩
  · intro first hfirst
    have hne : src.boundIdentifiers none (Source.patternOf n) ≠ [] :=
      List.ne_nil_of_mem (List.mem_of_head? hfirst)
    obtain ⟨kind, houtermost⟩ := Source.exists_outermost hne
    refine ⟨Binding.closed_ofParameter_iff hfirst hnames, kind, fun k => ?_,
      Binding.fits_ofParameter_iff hfirst kind⟩
    exact ⟨fun h => h.unique houtermost, fun h => h ▸ houtermost⟩
  · intro kind huniform hne
    obtain ⟨first, hfirst⟩ : ∃ first, (src.parameter n).identifiers.head? = some first :=
      Option.isSome_iff_exists.1 (by simpa using hne)
    have hkind : ∀ i ∈ (src.parameter n).identifiers, i.inObject = (kind == .object) :=
      fun i hi => Source.inObject_of_uniform huniform hi
    rw [Binding.closed_ofParameter_iff hfirst hnames, Binding.fits_ofParameter_iff hfirst,
      hkind first (List.mem_of_head? hfirst)]
    refine ⟨?_, by simp⟩
    cases kind with
    | object => exact .inl rfl
    | array =>
      -- no name gives way to the variable of the type
      right
      intro i hi
      refine List.mem_map.2 ⟨i, hi, ?_⟩
      unfold Binding.declaredName
      rw [hkind i hi]
      split
      · next heq => cases heq
      · rfl

/-- A mark at an offset. -/
def Plain.markAt (c : Char) (start : Nat) : Node :=
  fixed ⟨[c], start, start + 1, false⟩

/-- A word at an offset, as a node of a kind. -/
def Plain.wordAt (kind word : String) (start : Nat) : Node :=
  leaf kind true ⟨word.toList, start, start + word.length, false⟩

section Samples

open Plain

/-- The parameter `[a, { b }]: Foo` of `sampleMixed`. -/
def sampleMixedArray : Node :=
  node "required_parameter"
    [inField .pattern (node "array_pattern"
      [markAt '[' 11, wordAt "identifier" "a" 12, markAt ',' 13,
        node "object_pattern" [markAt '\x7b' 15,
          wordAt "shorthand_property_identifier_pattern" "b" 17, markAt '\x7d' 19],
        markAt ']' 20]),
    inField .type (node "type_annotation" [markAt ':' 21, wordAt "type_identifier" "Foo" 23])]

/-- The parameter `{ c: [d] }` of `sampleMixed`. -/
def sampleMixedObject : Node :=
  node "required_parameter"
    [inField .pattern (node "object_pattern"
      [markAt '\x7b' 28,
        node "pair_pattern" [wordAt "property_identifier" "c" 30, markAt ':' 31,
          inField .value (node "array_pattern"
            [markAt '[' 33, wordAt "identifier" "d" 34, markAt ']' 35])],
        markAt '\x7d' 37])]

/-- A function with an object pattern in an array pattern, and the other way round. -/
def sampleMixed : Source :=
  let text := "function f([a, \x7b b \x7d]: Foo, \x7b c: [d] \x7d) \x7b \x7d"
  ⟨text, program text.toList
    [node "function_declaration"
      [fixed ⟨"function".toList, 0, 8, false⟩, inField .name (wordAt "identifier" "f" 9),
        inField .parameters (node "formal_parameters"
          [markAt '(' 10, sampleMixedArray, markAt ',' 26, sampleMixedObject, markAt ')' 38]),
        node "statement_block" [markAt '\x7b' 40, markAt '\x7d' 42]]]⟩

end Samples

theorem parameter_sampleMixedArray :
    sampleMixed.parameter sampleMixedArray =
      ⟨"[a, \x7b b \x7d]", some "Foo", [⟨"a", true, false⟩, ⟨"b", false, true⟩]⟩ := by
  decide +kernel

theorem parameter_sampleMixedObject :
    sampleMixed.parameter sampleMixedObject =
      ⟨"\x7b c: [d] \x7d", none, [⟨"d", true, false⟩]⟩ := by
  decide +kernel

/-- A name gives way to a variable in the `let` but not in the call, and an object is passed as an
array. -/
theorem sampleMixed_arguments_drift :
    sampleMixed.root.children.flatMap sampleMixed.parameters =
        [sampleMixed.parameter sampleMixedArray, sampleMixed.parameter sampleMixedObject] ∧
      Binding.ofParameter (sampleMixed.parameter sampleMixedArray) = ⟨"a, foo", "[a, b]"⟩ ∧
      ¬(Binding.ofParameter (sampleMixed.parameter sampleMixedArray)).Closed ∧
      Binding.ofParameter (sampleMixed.parameter sampleMixedObject) = ⟨"d", "[d]"⟩ ∧
      (Source.patternOf sampleMixedObject).Outermost .object ∧
      ¬(Binding.ofParameter (sampleMixed.parameter sampleMixedObject)).Fits .object := by
  have harray : Binding.ofParameter (sampleMixed.parameter sampleMixedArray) =
      ⟨"a, foo", "[a, b]"⟩ := by
    rw [parameter_sampleMixedArray]
    decide +kernel
  have hobject : Binding.ofParameter (sampleMixed.parameter sampleMixedObject) =
      ⟨"d", "[d]"⟩ := by
    rw [parameter_sampleMixedObject]
    decide +kernel
  refine ⟨by decide +kernel, harray, ?_, hobject, .here (by decide), ?_⟩
  · rw [harray]
    decide +kernel
  · rw [hobject]
    rintro (hidentifier | ⟨inside, hinside⟩)
    · exact absurd hidentifier (by decide +kernel)
    · have hhead := congrArg (·.toList.head?) hinside
      simp at hhead

theorem sampleMixed_array_fits_but_is_open :
    (∀ i ∈ [(⟨"a", true, false⟩ : Identifier), ⟨"b", false, true⟩],
        isIdentifier i.name.toList = true) ∧
      ¬(Binding.ofParameter (sampleMixed.parameter sampleMixedArray)).Closed ∧
      (Binding.ofParameter (sampleMixed.parameter sampleMixedArray)).Fits .array := by
  have hnames : ∀ i ∈ [(⟨"a", true, false⟩ : Identifier), ⟨"b", false, true⟩],
      isIdentifier i.name.toList = true := by
    decide +kernel
  obtain ⟨-, hfirst, -⟩ := argument_closed_and_fitting_iff sampleMixed sampleMixedArray _
    parameter_sampleMixedArray (by decide) hnames
  obtain ⟨hclosed, kind, hkind, hfits⟩ := hfirst ⟨"a", true, false⟩ rfl
  obtain rfl : Destructuring.array = kind := (hkind .array).1 (.here (by decide))
  rw [parameter_sampleMixedArray, hclosed, hfits]
  exact ⟨hnames, by decide +kernel, by decide⟩

end SpecScaffold
