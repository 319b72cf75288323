import Mathlib.Data.List.Nodup
import SpecScaffold.Proofs.Code.Arguments
import SpecScaffold.Proofs.Code.Receivers
import SpecScaffold.Proofs.Code.Texts

/-!
# Declarations in generated code

The `let` statements of a suite are read back from its lines, block by block.  What they declare is
told by the parameters that the suite is made of:

    IsNamed.letsAt_testLines : a test declares the variables of its parameters, and `result`
    IsNamed.letsAt_group     : a group declares its instance and the parameters of the constructor

So declarations are well formed exactly where these are identifiers and do not collide.  The
parameters of a constructor are written as they stand, also those that are patterns; those of a
method are, if they bind no name.
-/

namespace SpecScaffold

open Text

/-! ## Reading declarations -/

namespace Text

/-- What ends the names of a `let`: its end, a type or a value. -/
def endsNames (c : Char) : Bool :=
  c == ';' || c == ':' || c == '='

/-- The names that a line declares, if it is a `let`. -/
def letsOf (cs : List Char) : List (List Char) :=
  if "let ".toList.isPrefixOf cs then
    match (cs.drop 4).takeWhile fun c => !endsNames c with
    | [] => []
    | names => letNames names
  else []

theorem isSeparator_of_endsNames {c : Char} (h : endsNames c = true) : isSeparator c = true := by
  simp only [endsNames, Bool.or_eq_true, beq_iff_eq] at h
  rcases h with (rfl | rfl) | rfl <;> decide

/-- The names of a `let` are read up to what ends them. -/
theorem letsOf_append (cs : List Char) :
    letsOf ("let ".toList ++ cs) =
      match cs.takeWhile fun c => !endsNames c with
      | [] => []
      | names => letNames names := by
  have hlet : "let ".toList.isPrefixOf ("let ".toList ++ cs) = true := by
    rw [List.isPrefixOf_iff_prefix]
    exact List.prefix_append _ _
  rw [letsOf, if_pos hlet]
  rfl

theorem letsOf_let {names : List Char} (hne : names ≠ []) (h : names.any endsNames = false)
    {c : Char} (hc : endsNames c = true) (rest : List Char) :
    letsOf ("let ".toList ++ names ++ c :: rest) = letNames names := by
  have htake : (names ++ c :: rest).takeWhile (fun d => !endsNames d) = names := by
    have hall : ∀ d ∈ names, (!endsNames d) = true := by simpa using h
    rw [List.takeWhile_append_of_pos hall, List.takeWhile_cons_of_neg (by simp [hc]),
      List.append_nil]
  rw [List.append_assoc, letsOf_append, htake]
  cases names with
  | nil => exact absurd rfl hne
  | cons d names => rfl

theorem letsOf_let_identifier {name : List Char} (h : isIdentifier name = true) {c : Char}
    (hc : endsNames c = true) (rest : List Char) :
    letsOf ("let ".toList ++ name ++ c :: rest) = [name] := by
  have hends : name.any endsNames = false := by
    rw [List.any_eq_false]
    exact fun d hd hends => notMem_of_isIdentifier h (isSeparator_of_endsNames hends) hd
  rw [letsOf_let (ne_nil_of_isIdentifier h) hends hc, letNames_of_isIdentifier h]

/-- A `let` ends at the first semicolon. -/
theorem letsOf_append_semicolon (cs rest : List Char) :
    letsOf ("let ".toList ++ cs ++ ';' :: rest) = letsOf ("let ".toList ++ cs ++ [';']) := by
  have htake : ∀ tail : List Char, (cs ++ ';' :: tail).takeWhile (fun c => !endsNames c) =
      cs.takeWhile fun c => !endsNames c := by
    intro tail
    have hend : (';' :: tail).takeWhile (fun c => !endsNames c) = [] := rfl
    rw [List.takeWhile_append, hend, List.append_nil]
    split
    · next hlength => exact ((List.takeWhile_prefix _).eq_of_length hlength).symm
    · rfl
  rw [List.append_assoc, letsOf_append, htake, List.append_assoc, letsOf_append, htake]

theorem dropWhile_word_append {word : List Char} (h : isWord word = true) (rest : List Char) :
    (word ++ rest).dropWhile (fun c => !isSeparator c) = rest.dropWhile fun c => !isSeparator c :=
  List.dropWhile_append_of_pos (List.all_eq_true.1 h)

theorem dropWhile_let (rest : List Char) :
    ("let ".toList ++ rest).dropWhile (fun c => !isSeparator c) = ' ' :: rest :=
  rfl

/-- A line that starts with a word and a separator other than a blank declares nothing. -/
theorem letsOf_of_word {word : List Char} (h : isWord word = true) {c : Char}
    (hc : isSeparator c = true) (hblank : c ≠ ' ') (rest : List Char) :
    letsOf (word ++ c :: rest) = [] := by
  rw [letsOf, if_neg]
  intro hprefix
  obtain ⟨more, hmore⟩ := List.isPrefixOf_iff_prefix.1 hprefix
  have hrest := dropWhile_word_append h (c :: rest)
  rw [← hmore, dropWhile_let, List.dropWhile_cons_of_neg (by simp [hc])] at hrest
  exact hblank (List.cons.inj hrest).1.symm

theorem letsOf_of_mark {c : Char} (hc : isSeparator c = true) (hblank : c ≠ ' ')
    (rest : List Char) : letsOf (c :: rest) = [] := by
  have hword : letsOf ([] ++ c :: rest) = [] := letsOf_of_word rfl hc hblank rest
  rwa [List.nil_append] at hword

/-- An assignment declares nothing. -/
theorem letsOf_assignment {word : List Char} (h : isWord word = true) (rest : List Char) :
    letsOf (word ++ " = ".toList ++ rest) = [] := by
  by_cases hprefix : "let ".toList.isPrefixOf (word ++ " = ".toList ++ rest) = true
  · obtain ⟨more, hmore⟩ := List.isPrefixOf_iff_prefix.1 hprefix
    have hrest := dropWhile_word_append h (" = ".toList ++ rest)
    rw [← List.append_assoc, ← hmore, dropWhile_let] at hrest
    obtain rfl : more = '=' :: ' ' :: rest := (List.cons.inj hrest).2
    rw [← hmore]
    rfl
  · rw [letsOf, if_neg hprefix]

/-- A `let` of a text that starts with a bracket declares something that is no identifier. -/
theorem exists_not_isIdentifier {c : Char} (hc : isSeparator c = true) (hblank : isBlank c = false)
    (hends : endsNames c = false) (hcomma : c ≠ ',') (cs : List Char) :
    ∃ name ∈ letsOf ("let ".toList ++ c :: cs), isIdentifier name = false := by
  have hlets : letsOf ("let ".toList ++ c :: cs) =
      letNames (c :: cs.takeWhile fun d => !endsNames d) := by
    rw [letsOf_append, List.takeWhile_cons_of_pos (by simp [hends])]
  have htrimmed : IsTrimmed [c] := by
    refine ⟨?_, ?_, by simp⟩ <;> simp [trimStart, trimEnd, dropEndWhile, hblank]
  rw [hlets, letNames, pieces, if_neg hcomma]
  cases hpieces : pieces ',' (cs.takeWhile fun d => !endsNames d) with
  | nil => exact absurd hpieces (pieces_ne_nil _ _)
  | cons first rest =>
    refine ⟨trim (c :: first), List.mem_cons_self, isIdentifier_eq_false_of_mem ?_ hc⟩
    exact (htrimmed.prefix_trim (List.prefix_append [c] first)).subset List.mem_cons_self

end Text

namespace Line

/-- The names that a line at a depth declares. -/
def letsAt (depth : Nat) : Line → List (List Char)
  | .blank => []
  | .code d text => if d = depth then letsOf text.toList else []

end Line

/-- The names that the lines at a depth declare. -/
def letsAt (depth : Nat) (lines : List Line) : List (List Char) :=
  lines.flatMap (Line.letsAt depth)

theorem letsAt_append (depth : Nat) (ls ms : List Line) :
    letsAt depth (ls ++ ms) = letsAt depth ls ++ letsAt depth ms :=
  List.flatMap_append

theorem letsAt_cons (depth : Nat) (l : Line) (ls : List Line) :
    letsAt depth (l :: ls) = l.letsAt depth ++ letsAt depth ls :=
  List.flatMap_cons

theorem letsAt_map_nest (depth : Nat) (ls : List Line) :
    letsAt (depth + 1) (ls.map Line.nest) = letsAt depth ls := by
  rw [letsAt, List.flatMap_map, letsAt]
  refine List.flatMap_congr fun l _ => ?_
  cases l with
  | blank => rfl
  | code d text => simp [Line.nest, Line.letsAt]

theorem letsAt_zero_map_nest (ls : List Line) : letsAt 0 (ls.map Line.nest) = [] := by
  rw [letsAt, List.flatMap_map, List.flatMap_eq_nil_iff]
  intro l _
  cases l with
  | blank => rfl
  | code d text => simp [Line.nest, Line.letsAt]

theorem letsAt_intercalate (depth : Nat) (parts : List (List Line)) :
    letsAt depth ([Line.blank].intercalate parts) = parts.flatMap (letsAt depth) := by
  induction parts with
  | nil => rfl
  | cons part parts ih =>
    cases parts with
    | nil => simp
    | cons next parts =>
      rw [List.intercalate_cons_of_ne_nil (by simp), letsAt_append, letsAt_append, ih,
        List.flatMap_cons]
      simp [letsAt, Line.letsAt]

/-- Lines that declare nothing at any depth. -/
def Line.DeclaresNothing (l : Line) : Prop :=
  ∀ depth, l.letsAt depth = []

theorem Line.declaresNothing_code {depth : Nat} {text : String} (h : letsOf text.toList = []) :
    (Line.code depth text).DeclaresNothing := by
  intro d
  by_cases hd : depth = d
  · rw [letsAt, if_pos hd, h]
  · rw [letsAt, if_neg hd]

theorem letsAt_eq_nil {depth : Nat} {ls : List Line} (h : ∀ l ∈ ls, l.DeclaresNothing) :
    letsAt depth ls = [] :=
  List.flatMap_eq_nil_iff.2 fun l hl => h l hl depth

/-! ## Variables -/

/-- What a `let` of a text declares. -/
def declaredBy (text : String) : List (List Char) :=
  letsOf ("let " ++ text ++ ";").toList

/-- A text that is an identifier or a pattern. -/
def IsIdentifierOrPattern (text : String) : Prop :=
  isIdentifier text.toList = true ∨ ∃ c cs, text.toList = c :: cs ∧ (c = '\x7b' ∨ c = '[')

section CommaList

variable {names : List String} (h : ∀ name ∈ names, isIdentifier name.toList = true)

include h

theorem any_endsNames_commaList : (commaList names).toList.any endsNames = false := by
  rw [List.any_eq_false]
  intro c hc hends
  rw [commaList, String.toList_intercalate] at hc
  rcases mem_intercalate hc with hsep | ⟨part, hpart, hin⟩
  · have hcomma : ", ".toList.any endsNames = false := by decide
    exact List.any_eq_false.1 hcomma c hsep hends
  · obtain ⟨name, hname, rfl⟩ := List.mem_map.1 hpart
    exact notMem_of_isIdentifier (h name hname) (isSeparator_of_endsNames hends) hin

theorem commaList_ne_nil (hne : names ≠ []) : (commaList names).toList ≠ [] := by
  intro hnil
  have hlets := letNames_commaList h hne
  rw [hnil] at hlets
  have hmem : [] ∈ names.map String.toList := by
    rw [← hlets]
    exact List.mem_singleton.2 rfl
  obtain ⟨name, hname, hempty⟩ := List.mem_map.1 hmem
  exact ne_nil_of_isIdentifier (h name hname) hempty

theorem declaredBy_commaList (hne : names ≠ []) :
    declaredBy (commaList names) = names.map String.toList := by
  rw [declaredBy, String.toList_append, String.toList_append]
  exact (letsOf_let (commaList_ne_nil h hne) (any_endsNames_commaList h) rfl []).trans
    (letNames_commaList h hne)

end CommaList

theorem declaredBy_of_isIdentifier {text : String} (h : isIdentifier text.toList = true) :
    declaredBy text = [text.toList] := by
  rw [declaredBy, String.toList_append, String.toList_append]
  exact letsOf_let_identifier h rfl []

/-- Of identifiers and patterns, only identifiers are declared as identifiers. -/
theorem isIdentifier_declaredBy_iff {text : String} (h : IsIdentifierOrPattern text) :
    (∀ name ∈ declaredBy text, isIdentifier name = true) ↔ isIdentifier text.toList = true := by
  constructor
  · intro hall
    rcases h with hidentifier | ⟨c, cs, hcs, hc⟩
    · exact hidentifier
    · have hbracket : isSeparator c = true ∧ isBlank c = false ∧ endsNames c = false ∧ c ≠ ',' := by
        rcases hc with rfl | rfl <;> decide
      obtain ⟨name, hname, hnot⟩ := exists_not_isIdentifier hbracket.1 hbracket.2.1 hbracket.2.2.1
        hbracket.2.2.2 (cs ++ [';'])
      have hlets : declaredBy text = letsOf ("let ".toList ++ c :: (cs ++ [';'])) := by
        rw [declaredBy, String.toList_append, String.toList_append, hcs, List.append_assoc]
        rfl
      rw [hall name (by rw [hlets]; exact hname)] at hnot
      cases hnot
  · intro hidentifier
    rw [declaredBy_of_isIdentifier hidentifier]
    simpa using hidentifier

namespace Parameter

/-- What the `let` of a parameter declares. -/
def lets (p : Parameter) : List (List Char) :=
  declaredBy (Binding.ofParameter p).declared

/-- The variables of a parameter: its own name, or one for each name that it binds, or the variable
of its type. -/
def declaredNames (p : Parameter) : List String :=
  if p.identifiers.isEmpty then [p.name]
  else (p.identifiers.map (Binding.declaredName (p.type?.bind Binding.typeVariable?))).eraseDups

/-- A parameter that binds identifiers, or is one identifier or an empty pattern. -/
structure IsNamed (p : Parameter) : Prop where
  plain : p.identifiers = [] → IsIdentifierOrPattern p.name
  names : ∀ i ∈ p.identifiers, isIdentifier i.name.toList = true

/-- A parameter is no pattern without names. -/
def BindsNames (p : Parameter) : Prop :=
  p.identifiers = [] → isIdentifier p.name.toList = true

variable {p : Parameter}

theorem declared_eq (p : Parameter) :
    (Binding.ofParameter p).declared = commaList p.declaredNames := by
  unfold Binding.ofParameter declaredNames
  split
  · simp [commaList]
  · rfl

theorem declaredNames_ne_nil (p : Parameter) : p.declaredNames ≠ [] := by
  unfold declaredNames
  split
  · simp
  · next hempty =>
    intro hnil
    have hmap : p.identifiers.map (Binding.declaredName (p.type?.bind Binding.typeVariable?)) =
        [] := by
      rw [List.eq_nil_iff_forall_not_mem]
      intro name hname
      have hmem := List.mem_eraseDups.2 hname
      rw [hnil] at hmem
      cases hmem
    rw [List.map_eq_nil_iff] at hmap
    exact hempty (by rw [hmap]; rfl)

theorem IsNamed.isIdentifier_declaredNames (h : p.IsNamed) (hbinds : p.BindsNames) :
    ∀ name ∈ p.declaredNames, isIdentifier name.toList = true := by
  intro name hname
  unfold declaredNames at hname
  split at hname
  · next hempty =>
    obtain rfl := List.mem_singleton.1 hname
    exact hbinds (List.isEmpty_iff.1 hempty)
  · obtain ⟨i, hi, rfl⟩ := List.mem_map.1 (List.mem_eraseDups.1 hname)
    exact Binding.isIdentifier_declaredName h.names hi

theorem IsNamed.lets_eq (h : p.IsNamed) (hbinds : p.BindsNames) :
    p.lets = p.declaredNames.map String.toList := by
  rw [lets, p.declared_eq]
  exact declaredBy_commaList (h.isIdentifier_declaredNames hbinds) p.declaredNames_ne_nil

theorem IsNamed.isIdentifier_lets_iff (h : p.IsNamed) :
    (∀ name ∈ p.lets, isIdentifier name = true) ↔ p.BindsNames := by
  constructor
  · intro hall hnone
    have hdeclared : (Binding.ofParameter p).declared = p.name := by
      rw [Binding.ofParameter, hnone]
      rfl
    rw [lets, hdeclared] at hall
    exact (isIdentifier_declaredBy_iff (h.plain hnone)).1 hall
  · intro hbinds
    rw [h.lets_eq hbinds, List.forall_mem_map]
    exact h.isIdentifier_declaredNames hbinds

end Parameter

namespace Method

/-- Whether the result of a method is bound to a variable in its test. -/
def bindsResult (m : Method) : Bool :=
  m.returns?.any fun r => !(r.promise || r.observable)

/-- The variables of the test of a method. -/
def declaredNames (m : Method) : List String :=
  m.params.flatMap (·.declaredNames) ++ if m.bindsResult then ["result"] else []

/-- What the `let` statements in the test of a method declare. -/
def lets (m : Method) : List (List Char) :=
  m.params.flatMap (·.lets) ++ if m.bindsResult then ["result".toList] else []

variable {m : Method}

theorem lets_eq (h : ∀ p ∈ m.params, p.IsNamed) (hbinds : ∀ p ∈ m.params, p.BindsNames) :
    m.lets = m.declaredNames.map String.toList := by
  rw [lets, declaredNames, List.map_append, List.map_flatMap,
    List.flatMap_congr fun p hp => (h p hp).lets_eq (hbinds p hp)]
  cases m.bindsResult <;> rfl

theorem isIdentifier_lets_iff (h : ∀ p ∈ m.params, p.IsNamed) :
    (∀ name ∈ m.lets, isIdentifier name = true) ↔ ∀ p ∈ m.params, p.BindsNames := by
  have hresult : ∀ name ∈ (if m.bindsResult then ["result".toList] else []),
      isIdentifier name = true := by
    intro name hname
    split at hname
    · obtain rfl := List.mem_singleton.1 hname
      decide
    · cases hname
  constructor
  · intro hall p hp
    rw [← (h p hp).isIdentifier_lets_iff]
    exact fun name hname => hall name (List.mem_append_left _ (List.mem_flatMap.2 ⟨p, hp, hname⟩))
  · intro hbinds name hname
    rcases List.mem_append.1 hname with hparam | hin
    · obtain ⟨p, hp, hlet⟩ := List.mem_flatMap.1 hparam
      exact (h p hp).isIdentifier_lets_iff.2 (hbinds p hp) name hlet
    · exact hresult name hin

end Method

/-! ## One test -/

namespace Suite

variable {s : Suite} {m : Method}

/-- The names that a suite is made of are names: those of classes are identifiers, no method is
named like a declaration, and parameters are identifiers or patterns. -/
structure IsNamed (s : Suite) : Prop where
  receivers : ∀ name ∈ s.receivers, isIdentifier name.toList = true
  methods : ∀ m ∈ s.tests, ¬"let ".toList <+: m.name.toList
  params : ∀ m ∈ s.tests, ∀ p ∈ m.params, p.IsNamed
  stubs : ∀ stub ∈ s.stubs, IsIdentifierOrPattern stub

theorem letsAt_declaration (p : Parameter) (depth : Nat) :
    (declaration p).letsAt depth = if depth = 0 then p.lets else [] := by
  have hcode : ∃ text rest, declaration p = .code 0 text ∧
      text.toList = "let ".toList ++ (Binding.ofParameter p).declared.toList ++ ';' :: rest := by
    unfold declaration
    cases p.type? with
    | none => exact ⟨_, [], rfl, by simp⟩
    | some type => exact ⟨_, " // ".toList ++ type.toList, rfl, by simp⟩
  obtain ⟨text, rest, hcode, htext⟩ := hcode
  have hlets : letsOf text.toList = p.lets := by
    rw [htext, letsOf_append_semicolon, Parameter.lets, declaredBy, String.toList_append,
      String.toList_append]
    rfl
  rw [hcode, Line.letsAt, hlets]
  simp only [eq_comm]

/-- A call by a bare name declares nothing. -/
theorem letsOf_bareCall {name : List Char} (h : ¬"let ".toList <+: name) (rest : List Char) :
    letsOf (name ++ '(' :: rest) = [] := by
  by_cases hprefix : "let ".toList.isPrefixOf (name ++ '(' :: rest) = true
  · -- the name is shorter than the keyword and its blank, so it is a word
    have hshort : name <+: ['l', 'e', 't'] ++ [' '] := by
      rcases List.prefix_or_prefix_of_prefix (List.isPrefixOf_iff_prefix.1 hprefix)
        (List.prefix_append name _) with hlong | hshort
      · exact absurd hlong h
      · exact hshort
    have hword : name <+: ['l', 'e', 't'] := by
      rcases List.prefix_concat_iff.1 hshort with heq | hword
      · exact absurd (by rw [heq]; exact List.prefix_refl _) h
      · exact hword
    have hletters : isWord ['l', 'e', 't'] = true := by decide
    have hname : isWord name = true := by
      rw [isWord, List.all_eq_true]
      exact fun c hc => List.all_eq_true.1 hletters c (hword.subset hc)
    exact letsOf_of_word hname (by decide) (by decide) rest
  · rw [letsOf, if_neg hprefix]

theorem isIdentifier_variableName {name : String} (h : isIdentifier name.toList = true) :
    isIdentifier (variableName name).toList = true := by
  rw [variableName, String.toList_ofList]
  exact isIdentifier_decapitalize h

theorem IsNamed.isIdentifier_instance (h : s.IsNamed) {name : String}
    (hname : s.instance? = some name) : isIdentifier name.toList = true := by
  obtain ⟨cls, hcls, rfl⟩ := Option.map_eq_some_iff.1 hname
  refine isIdentifier_variableName (h.receivers cls ?_)
  simp [Suite.receivers, hcls]

theorem IsNamed.isIdentifier_receiverClass (h : s.IsNamed) {name : String}
    (hname : s.receiverClass? = some name) : isIdentifier name.toList = true := by
  refine h.receivers name ?_
  rw [Suite.receivers, List.mem_append, Option.mem_toList, Option.mem_toList]
  rcases Option.or_eq_some_iff.1 hname with hclass | ⟨-, hconstructor⟩
  · exact .inl hclass
  · exact .inr hconstructor

/-- What is called is the name of the method, or a part of what an identifier stands for. -/
theorem IsNamed.callee_cases (h : s.IsNamed) (m : Method) :
    s.callee m = m.name ∨ ∃ (word rest : String) (c : Char),
      (s.callee m).toList = word.toList ++ c :: rest.toList ∧
        isIdentifier word.toList = true ∧ (c = '.' ∨ c = '[') := by
  unfold callee
  split
  · cases hinstance : s.instance? with
    | none => exact .inl rfl
    | some name =>
      have hname := h.isIdentifier_instance hinstance
      refine .inr ⟨name, "'" ++ m.name ++ "']", '[', ?_, hname, .inr rfl⟩
      simp
  · split
    · cases hclass : s.receiverClass? with
      | none => exact .inl rfl
      | some name =>
        refine .inr ⟨name, m.name, '.', ?_, h.isIdentifier_receiverClass hclass, .inl rfl⟩
        simp
    · cases hinstance : s.instance? with
      | none => exact .inl rfl
      | some name =>
        refine .inr ⟨name, m.name, '.', ?_, h.isIdentifier_instance hinstance, .inl rfl⟩
        simp

/-- A call declares nothing. -/
theorem IsNamed.letsOf_call (h : s.IsNamed) (hm : m ∈ s.tests) (tail : String) :
    letsOf (s.call m ++ tail).toList = [] := by
  have hcall : (s.call m ++ tail).toList = (s.callee m).toList ++ '(' ::
      ((commaList (m.params.map fun p => (Binding.ofParameter p).argument)).toList ++
        ')' :: tail.toList) := by
    simp [call]
  rw [hcall]
  rcases h.callee_cases m with hbare | ⟨word, rest, c, hcallee, hword, hc⟩
  · rw [hbare]
    exact letsOf_bareCall (h.methods m hm) _
  · rw [hcallee, List.append_assoc, List.cons_append]
    rcases hc with rfl | rfl <;>
      exact letsOf_of_word (isWord_of_isIdentifier hword) (by decide) (by decide) _

theorem declaresNothing_expectation (depth : Nat) : (Line.code depth expectation).DeclaresNothing :=
  Line.declaresNothing_code rfl

theorem IsNamed.letsAt_completion (h : s.IsNamed) (hm : m ∈ s.tests) (depth : Nat) :
    letsAt depth (completion (s.call m) m.returns?) =
      if depth = 0 ∧ m.bindsResult = true then ["result".toList] else [] := by
  have hcall : ∀ tail, (Line.code 0 (s.call m ++ tail)).DeclaresNothing := fun tail =>
    Line.declaresNothing_code (h.letsOf_call hm tail)
  have hbare : (Line.code 0 (s.call m)).DeclaresNothing := by
    have hempty := hcall ""
    rwa [String.append_empty] at hempty
  have hresult : letsOf ("let result = " ++ s.call m ++ ";").toList = ["result".toList] := by
    have htext : ("let result = " ++ s.call m ++ ";").toList =
        "let ".toList ++ "result ".toList ++ '=' :: ' ' :: (s.call m ++ ";").toList := by
      simp
    rw [htext, letsOf_let (by decide) (by decide) rfl]
    decide
  have hawaited : ∀ method : String, letsOf (method ++ "(result => \x7b").toList = [] →
      letsAt depth (awaited (s.call m) method) = [] := by
    intro method hmethod
    refine letsAt_eq_nil fun l hl => ?_
    simp only [awaited, List.mem_cons, List.not_mem_nil, or_false] at hl
    rcases hl with rfl | rfl | rfl | rfl
    · exact hbare
    · exact Line.declaresNothing_code hmethod
    · exact declaresNothing_expectation 1
    · exact Line.declaresNothing_code rfl
  unfold completion Method.bindsResult
  cases m.returns? with
  | none =>
    simp only [Option.any_none, Bool.false_eq_true, and_false, ↓reduceIte]
    exact letsAt_eq_nil (by simpa using hcall ";")
  | some r =>
    cases hpromise : r.promise with
    | true => simpa [hpromise] using hawaited ".then" rfl
    | false =>
      cases hobservable : r.observable with
      | true => simpa [hpromise, hobservable] using hawaited ".subscribe" rfl
      | false =>
        simp only [Bool.false_eq_true, ↓reduceIte, Option.any_some, hpromise, hobservable,
          Bool.or_self, Bool.not_false, and_true]
        have hexpectation : letsAt depth [.code 0 expectation] = [] :=
          letsAt_eq_nil (by simpa using declaresNothing_expectation 0)
        rw [letsAt_cons, hexpectation, List.append_nil, Line.letsAt, hresult]
        simp only [eq_comm]

theorem IsNamed.letsAt_testBody (h : s.IsNamed) (hm : m ∈ s.tests) (failing : Bool)
    (depth : Nat) :
    letsAt depth (s.testBody m failing) =
      if depth = 0 then m.lets else [] := by
  have hparams : letsAt depth (m.params.map declaration) =
      if depth = 0 then m.params.flatMap (·.lets) else [] := by
    rw [letsAt, List.flatMap_map, List.flatMap_congr fun p _ => letsAt_declaration p depth]
    split <;> simp
  have hticks : letsAt depth (if TestStyle.ofMethod m = .fakeAsync then [.code 0 "tick();"]
      else []) = [] := by
    split
    · exact letsAt_eq_nil (by simpa using Line.declaresNothing_code rfl)
    · rfl
  have hfails : letsAt depth (if failing then [.code 0 "fail('not implemented');"] else []) =
      [] := by
    split
    · exact letsAt_eq_nil (by simpa using Line.declaresNothing_code rfl)
    · rfl
  rw [testBody, letsAt_append, letsAt_append, letsAt_append, hticks, hfails, hparams,
    h.letsAt_completion hm, List.append_nil, List.append_nil, Method.lets]
  by_cases hdepth : depth = 0
  · cases m.bindsResult <;> simp [hdepth]
  · simp [hdepth]

/-- The line that opens a block declares nothing. -/
theorem declaresNothing_opening {text word : String} {rest : List Char}
    (htext : text.toList = word.toList ++ '(' :: rest)
    (hword : isWord word.toList = true) : (Line.code 0 text).DeclaresNothing := by
  apply Line.declaresNothing_code
  rw [htext]
  exact letsOf_of_word hword (by decide) (by decide) rest

/-- The block of a test declares the variables of its parameters, and its result. -/
theorem IsNamed.letsAt_testLines (h : s.IsNamed) (hm : m ∈ s.tests) (failing : Bool)
    (depth : Nat) :
    letsAt depth (s.testLines m failing) =
      if depth = 1 then m.lets else [] := by
  have hopening : (Line.code 0 ("it('" ++ title m.name ++ "', " ++
      (TestStyle.ofMethod m).opening)).DeclaresNothing := by
    have htext : ("it('" ++ title m.name ++ "', " ++ (TestStyle.ofMethod m).opening).toList =
        "it".toList ++ '(' ::
          ("'" ++ title m.name ++ "', " ++ (TestStyle.ofMethod m).opening).toList := by
      simp
    exact declaresNothing_opening htext (by decide)
  have hclosing : letsAt depth [Line.code 0 (TestStyle.ofMethod m).closing] = [] := by
    refine letsAt_eq_nil ?_
    cases TestStyle.ofMethod m <;> simpa using Line.declaresNothing_code rfl
  rw [testLines, List.cons_append, letsAt_cons, letsAt_append, hopening depth, hclosing]
  cases depth with
  | zero => simp [letsAt_zero_map_nest]
  | succ d =>
    rw [letsAt_map_nest, h.letsAt_testBody hm]
    simp

/-! ## Several tests -/

theorem IsNamed.letsAt_allTests (h : s.IsNamed) (failing : Bool) (depth : Nat) :
    letsAt depth (s.allTests failing) =
      if depth = 1 then s.tests.flatMap (·.lets) else [] := by
  rw [allTests, letsAt_intercalate, List.flatMap_map,
    List.flatMap_congr fun m hm => h.letsAt_testLines hm failing depth]
  split <;> simp

theorem IsNamed.letsAt_groupVariables (h : s.IsNamed) (depth : Nat) :
    letsAt depth s.groupVariables =
      if depth = 0 then s.instance?.toList.map String.toList ++ s.stubs.flatMap declaredBy
      else [] := by
  have hinstance : letsAt depth (s.className?.map fun c =>
      Line.code 0 ("let " ++ variableName c ++ ": " ++ c ++ ";")).toList =
        if depth = 0 then s.instance?.toList.map String.toList else [] := by
    cases hclass : s.className? with
    | none => simp [letsAt, instance?, hclass]
    | some name =>
      have hname : s.instance? = some (variableName name) := by
        rw [instance?, hclass]
        rfl
      have htext : ("let " ++ variableName name ++ ": " ++ name ++ ";").toList =
          "let ".toList ++ (variableName name).toList ++ ':' :: (" " ++ name ++ ";").toList := by
        simp
      have hlets := letsOf_let_identifier (h.isIdentifier_instance hname) (c := ':') rfl
        (" " ++ name ++ ";").toList
      rw [Option.map_some, hname, Option.toList_some, Option.toList_some, letsAt_cons, Line.letsAt,
        htext, hlets]
      by_cases hdepth : depth = 0
      · simp [hdepth, letsAt]
      · simp [Ne.symm hdepth, hdepth, letsAt]
  have hstubs : letsAt depth (s.stubs.map fun name => .code 0 ("let " ++ name ++ ";")) =
      if depth = 0 then s.stubs.flatMap declaredBy else [] := by
    rw [letsAt, List.flatMap_map]
    by_cases hdepth : depth = 0
    · rw [if_pos hdepth, hdepth]
      rfl
    · rw [if_neg hdepth, List.flatMap_eq_nil_iff]
      intro name _
      exact if_neg (Ne.symm hdepth)
  rw [groupVariables, letsAt_append, hinstance, hstubs]
  split <;> simp

/-- A parameter of the constructor is assigned to without being declared. -/
theorem IsNamed.letsOf_stub_assignment (h : s.IsNamed) {stub : String} (hstub : stub ∈ s.stubs)
    (rest : List Char) : letsOf (stub.toList ++ " = ".toList ++ rest) = [] := by
  rcases h.stubs stub hstub with hidentifier | ⟨c, cs, hcs, hc⟩
  · exact letsOf_assignment (isWord_of_isIdentifier hidentifier) _
  · rw [hcs]
    rcases hc with rfl | rfl <;> exact letsOf_of_mark (by decide) (by decide) _

theorem IsNamed.letsOf_instance_assignment (h : s.IsNamed) (rest : List Char) :
    letsOf ((s.instance?.getD "instance").toList ++ " = ".toList ++ rest) = [] := by
  refine letsOf_assignment (isWord_of_isIdentifier ?_) _
  cases hname : s.instance? with
  | none => decide
  | some name => exact h.isIdentifier_instance hname

theorem IsNamed.letsAt_groupSetup (h : s.IsNamed) (depth : Nat) :
    letsAt depth s.groupSetup = [] := by
  refine letsAt_eq_nil fun l hl => ?_
  unfold groupSetup at hl
  split at hl
  · next c name names _ hstubs =>
    simp only [List.mem_append, List.mem_cons, List.not_mem_nil, or_false, List.mem_map] at hl
    rcases hl with (rfl | ⟨stub, hstub, rfl⟩) | rfl | rfl | rfl
    · exact Line.declaresNothing_code rfl
    · have hmem : stub ∈ s.stubs := by
        rw [hstubs]
        exact List.mem_cons.2 hstub
      have htext : (stub ++ " = jasmine.createSpyObj('" ++ stub ++ "', ['']);").toList =
          stub.toList ++ " = ".toList ++
            ("jasmine.createSpyObj('" ++ stub ++ "', ['']);").toList := by
        simp
      apply Line.declaresNothing_code
      rw [htext, h.letsOf_stub_assignment hmem]
    · have htext : (s.instance?.getD "instance" ++ " = new " ++ c.name ++ "(" ++
          commaList (name :: names) ++ ");").toList =
            (s.instance?.getD "instance").toList ++ " = ".toList ++
              ("new " ++ c.name ++ "(" ++ commaList (name :: names) ++ ");").toList := by
        simp
      apply Line.declaresNothing_code
      rw [htext, h.letsOf_instance_assignment]
    · exact Line.declaresNothing_code rfl
    · exact fun _ => rfl
  · cases hl

/-- A group declares its instance and the parameters of the constructor, and its tests declare
theirs. -/
theorem IsNamed.letsAt_group (h : s.IsNamed) (heading : String) (depth : Nat) :
    letsAt depth (s.group heading) =
      if depth = 1 then s.instance?.toList.map String.toList ++ s.stubs.flatMap declaredBy
      else if depth = 2 then s.tests.flatMap (·.lets)
      else [] := by
  have hopening :
      (Line.code 0 ("describe('" ++ title heading ++ "', () => \x7b")).DeclaresNothing := by
    have htext : ("describe('" ++ title heading ++ "', () => \x7b").toList =
        "describe".toList ++ '(' :: ("'" ++ title heading ++ "', () => \x7b").toList := by
      simp
    exact declaresNothing_opening htext (by decide)
  have hclosing : letsAt depth [Line.code 0 "\x7d);"] = [] :=
    letsAt_eq_nil (by simpa using Line.declaresNothing_code rfl)
  have hblank : ∀ d, letsAt d [Line.blank] = [] := fun d => rfl
  rw [group, List.cons_append, letsAt_cons, letsAt_append, hopening depth, hclosing]
  cases depth with
  | zero =>
    rw [letsAt_zero_map_nest]
    rfl
  | succ d =>
    rw [letsAt_map_nest, letsAt_append, letsAt_append, letsAt_append, h.letsAt_groupVariables,
      h.letsAt_groupSetup, h.letsAt_allTests, hblank]
    by_cases hd : d = 0
    · simp [hd]
    · simp [hd]

theorem flatMap_declaredBy_stubs (h : ∀ stub ∈ s.stubs, isIdentifier stub.toList = true) :
    s.stubs.flatMap declaredBy = s.stubs.map String.toList := by
  rw [List.flatMap_congr fun stub hstub => declaredBy_of_isIdentifier (h stub hstub)]
  exact (List.map_eq_flatMap ..).symm

/-- All declarations of a suite are of identifiers exactly if no parameter of a method is a pattern
without names and, in a group, the parameters of the constructor are identifiers. -/
theorem IsNamed.isIdentifier_letsAt_iff (h : s.IsNamed) (heading : String) :
    (∀ depth, ∀ name ∈ letsAt depth (s.body heading), isIdentifier name = true) ↔
      (∀ m ∈ s.tests, ∀ p ∈ m.params, p.BindsNames) ∧
        (s.isGrouped = true → ∀ stub ∈ s.stubs, isIdentifier stub.toList = true) := by
  have htests : (∀ name ∈ s.tests.flatMap (·.lets), isIdentifier name = true) ↔
      ∀ m ∈ s.tests, ∀ p ∈ m.params, p.BindsNames := by
    rw [List.forall_mem_flatMap]
    exact forall₂_congr fun m hm => Method.isIdentifier_lets_iff (h.params m hm)
  have hgroup : (∀ name ∈ s.instance?.toList.map String.toList ++ s.stubs.flatMap declaredBy,
      isIdentifier name = true) ↔ ∀ stub ∈ s.stubs, isIdentifier stub.toList = true := by
    rw [List.forall_mem_append, List.forall_mem_flatMap]
    have hinstance : ∀ name ∈ s.instance?.toList.map String.toList, isIdentifier name = true := by
      rw [List.forall_mem_map]
      exact fun name hname => h.isIdentifier_instance (Option.mem_toList.1 hname)
    rw [and_iff_right hinstance]
    exact forall₂_congr fun stub hstub => isIdentifier_declaredBy_iff (h.stubs stub hstub)
  unfold body
  cases s.isGrouped with
  | false =>
    simp only [Bool.false_eq_true, ↓reduceIte, false_imp_iff, and_true, h.letsAt_allTests]
    rw [← htests]
    constructor
    · intro hall
      simpa using hall 1
    · intro hall depth
      split
      · exact hall
      · simp
  | true =>
    simp only [↓reduceIte, forall_const, h.letsAt_group]
    rw [← htests, ← hgroup]
    constructor
    · intro hall
      exact ⟨by simpa using hall 2, by simpa using hall 1⟩
    · rintro ⟨hblocks, hvariables⟩ depth
      split
      · exact hvariables
      · split
        · exact hblocks
        · simp

end Suite

/-! ## Collisions -/

/-- The names that a parameter binds. -/
def Parameter.names (p : Parameter) : List String :=
  if p.identifiers.isEmpty then [p.name] else p.identifiers.map (·.name)

/-- No name of a parameter gives way to the variable of its type. -/
def Parameter.KeepsNames (p : Parameter) : Prop :=
  ∀ i ∈ p.identifiers, i.inObject = true → p.type?.bind Binding.typeVariable? = none

theorem eraseDups_of_nodup {names : List String} (h : names.Nodup) : names.eraseDups = names := by
  induction names with
  | nil => rfl
  | cons name names ih =>
    obtain ⟨hname, hnames⟩ := List.nodup_cons.1 h
    have hfilter : (names.filter fun other => !other == name) = names := by
      rw [List.filter_eq_self]
      rintro other hother
      rw [Bool.not_eq_true', beq_eq_false_iff_ne]
      rintro rfl
      exact hname hother
    rw [List.eraseDups_cons, hfilter, ih hnames]

theorem Parameter.declaredNames_eq_names {p : Parameter} (hkept : p.KeepsNames)
    (hdistinct : p.names.Nodup) : p.declaredNames = p.names := by
  unfold names at hdistinct
  unfold declaredNames names
  split
  · rfl
  · next hempty =>
    rw [if_neg hempty] at hdistinct
    have hnames : p.identifiers.map (Binding.declaredName (p.type?.bind Binding.typeVariable?)) =
        p.identifiers.map (·.name) := by
      refine List.map_congr_left fun i hi => ?_
      unfold Binding.declaredName
      split
      · next htype hin =>
        rw [hkept i hi hin] at htype
        cases htype
      · rfl
    rw [hnames, eraseDups_of_nodup hdistinct]

/-- Where distinct names are bound and all are kept, only the result can collide with one. -/
theorem Method.nodup_declaredNames_iff {m : Method} (hkept : ∀ p ∈ m.params, p.KeepsNames)
    (hdistinct : (m.params.flatMap (·.names)).Nodup) :
    m.declaredNames.Nodup ↔ (m.bindsResult = true → "result" ∉ m.params.flatMap (·.names)) := by
  have hparams : m.params.flatMap (·.declaredNames) = m.params.flatMap (·.names) := by
    refine List.flatMap_congr fun p hp => Parameter.declaredNames_eq_names (hkept p hp) ?_
    exact (List.nodup_flatMap.1 hdistinct).1 p hp
  rw [declaredNames, hparams]
  cases m.bindsResult with
  | false => simpa using hdistinct
  | true =>
    rw [if_pos rfl, List.nodup_append]
    constructor
    · rintro ⟨-, -, hapart⟩ - hmem
      exact hapart _ hmem _ (List.mem_singleton.2 rfl) rfl
    · intro hfresh
      refine ⟨hdistinct, List.nodup_singleton _, fun name hname other hother heq => ?_⟩
      rw [List.mem_singleton.1 hother] at heq
      exact hfresh rfl (heq ▸ hname)

/-! ## Declarations of a file -/

/-- When the declarations in the tests of a file are well formed.  They are all of identifiers
exactly if no parameter of a method is a pattern without names, and the tests are not grouped or the
parameters of the constructor are identifiers.  Then no name is declared twice in a group exactly if
the instance is named otherwise than the parameters of the constructor, which are distinct; and none
is declared twice in a test exactly if its variables are distinct, which they are, for distinct
names that are all kept, unless one of them is `result` and the result is bound. -/
theorem declarations_well_formed_iff (src : Source) (source target : Path) (exportedOnly : Bool)
    (spec : Spec) (hspec : Command.fileSpec src source target exportedOnly = .ok spec)
    (hnamed : spec.IsNamed) :
    spec.className? = src.className? ∧ spec.constructor? = src.constructor? ∧
      spec.tests = src.methods exportedOnly ∧
      ∃ lines, spec.render.toList = spec.header ++ Line.text lines ∧
        ((∀ depth, ∀ name ∈ letsAt depth lines, isIdentifier name = true) ↔
          (∀ m ∈ src.methods exportedOnly, ∀ p ∈ m.params, p.BindsNames) ∧
            (spec.isGrouped = true → ∀ stub ∈ spec.stubs, isIdentifier stub.toList = true)) ∧
        (spec.isGrouped = true → (∀ stub ∈ spec.stubs, isIdentifier stub.toList = true) →
          spec.stubs.Nodup → ((letsAt 1 lines).Nodup ↔
            ∀ name, src.className? = some name → variableName name ∉ spec.stubs)) ∧
        ∀ earlier m later, src.methods exportedOnly = earlier ++ m :: later →
          (∃ front back, lines = front ++ spec.placed (spec.testLines m spec.isGrouped) ++ back) ∧
          ((∀ p ∈ m.params, p.BindsNames) →
            ((letsAt 1 (spec.testLines m spec.isGrouped)).Nodup ↔ m.declaredNames.Nodup)) ∧
          ((∀ p ∈ m.params, p.KeepsNames) → (m.params.flatMap (·.names)).Nodup →
            (m.declaredNames.Nodup ↔
              (m.bindsResult = true → "result" ∉ m.params.flatMap (·.names)))) := by
  have hfacts : spec.className? = src.className? ∧ spec.constructor? = src.constructor? ∧
      spec.tests = src.methods exportedOnly := by
    simp only [Command.fileSpec] at hspec
    split at hspec
    · cases hspec
    · obtain rfl := Except.ok.inj hspec
      exact ⟨rfl, rfl, rfl⟩
  obtain ⟨hclass, hconstructor, htests⟩ := hfacts
  refine ⟨hclass, hconstructor, htests,
    spec.body (spec.className?.getD (Spec.baseTitle spec.fileName)), ?_,
    ?_, ?_, ?_⟩
  · rw [Spec.render, Suite.renderTitled, String.toList_ofList]
  · rw [hnamed.isIdentifier_letsAt_iff, htests]
  · intro hgrouped hstubs hdistinct
    rw [Suite.body, if_pos hgrouped, hnamed.letsAt_group, if_pos rfl,
      Suite.flatMap_declaredBy_stubs hstubs, ← List.map_append,
      List.nodup_map_iff fun a b => String.toList_inj.1, Suite.instance?, hclass]
    cases src.className? with
    | none => simpa using hdistinct
    | some name => simpa using fun _ => hdistinct
  · intro earlier m later hsplit
    rw [hsplit] at htests
    have hm : m ∈ spec.tests := by
      rw [htests]
      exact List.mem_append_right _ List.mem_cons_self
    refine ⟨Suite.exists_body_eq htests _, fun hbinds => ?_, Method.nodup_declaredNames_iff⟩
    rw [hnamed.letsAt_testLines hm, if_pos rfl, Method.lets_eq (hnamed.params m hm) hbinds,
      List.nodup_map_iff fun a b => String.toList_inj.1]

section Samples

open Plain

/-- A class whose constructor takes a pattern and a parameter named like the instance, and that has
a method with a parameter named like the result. -/
def sampleClash : Source :=
  let text := "class P \x7b constructor(\x7b a \x7d, p) \x7b \x7d " ++
    "go(result) \x7b return 1; \x7d stop() \x7b \x7d \x7d"
  ⟨text, program text.toList
    [node "class_declaration" [fixed ⟨"class".toList, 0, 5, false⟩,
      inField .name (wordAt "type_identifier" "P" 6),
      node "class_body" [markAt '\x7b' 8,
        node "method_definition" [inField .name (wordAt "property_identifier" "constructor" 10),
          inField .parameters (node "formal_parameters" [markAt '(' 21,
            node "required_parameter" [inField .pattern (node "object_pattern" [markAt '\x7b' 22,
              wordAt "shorthand_property_identifier_pattern" "a" 24, markAt '\x7d' 26])],
            markAt ',' 27,
            node "required_parameter" [inField .pattern (wordAt "identifier" "p" 29)],
            markAt ')' 30]),
          node "statement_block" [markAt '\x7b' 32, markAt '\x7d' 34]],
        node "method_definition" [inField .name (wordAt "property_identifier" "go" 36),
          inField .parameters (node "formal_parameters" [markAt '(' 38,
            node "required_parameter" [inField .pattern (wordAt "identifier" "result" 39)],
            markAt ')' 45]),
          node "statement_block" [markAt '\x7b' 47,
            node "return_statement" [fixed ⟨"return".toList, 49, 55, false⟩,
              wordAt "number" "1" 56, markAt ';' 57],
            markAt '\x7d' 59]],
        node "method_definition" [inField .name (wordAt "property_identifier" "stop" 61),
          inField .parameters (node "formal_parameters" [markAt '(' 65, markAt ')' 66]),
          node "statement_block" [markAt '\x7b' 68, markAt '\x7d' 70]],
        markAt '\x7d' 72]]]⟩

end Samples

theorem sampleClash_facts :
    sampleClash.className? = some "P" ∧
      sampleClash.constructor? = some ⟨"P",
        [⟨"\x7b a \x7d", none, [⟨"a", false, true⟩]⟩, ⟨"p", none, []⟩]⟩ ∧
      sampleClash.methods false =
        [⟨"go", [⟨"result", none, []⟩], some {}, false, false, false⟩,
          ⟨"stop", [], none, false, false, false⟩] := by
  decide +kernel

/-- A group declares a pattern, and the instance twice; a test declares its result twice. -/
theorem sampleClash_declares_twice :
    sampleClash.constructor?.map (fun c => c.params.flatMap (·.names)) = some ["a", "p"] ∧
      (sampleClash.methods false).map (fun m => m.params.flatMap (·.names)) = [["result"], []] ∧
      (Command.fileSpec sampleClash ⟨"a.ts"⟩ ⟨"a.spec.ts"⟩ false).toOption.map
          (fun spec => (spec.body "P").filter fun l => l.letsAt 1 != [] || l.letsAt 2 != []) =
        some [.code 1 "let p: P;", .code 1 "let \x7b a \x7d;", .code 1 "let p;",
          .code 2 "let result;", .code 2 "let result = p.go(result);"] := by
  decide +kernel

theorem sampleClash_isNamed {spec : Spec} (hclass : spec.className? = sampleClash.className?)
    (hconstructor : spec.constructor? = sampleClash.constructor?)
    (htests : spec.tests = sampleClash.methods false) : spec.IsNamed := by
  obtain ⟨hname, hc, hmethods⟩ := sampleClash_facts
  rw [hname] at hclass
  rw [hc] at hconstructor
  rw [hmethods] at htests
  constructor
  · rw [Suite.receivers, hclass, hconstructor]
    decide
  · rw [htests]
    decide
  · rw [htests]
    simp only [List.forall_mem_cons, List.not_mem_nil, false_imp_iff, implies_true, and_true]
    exact ⟨fun _ => .inl (by decide), by simp⟩
  · have hstubs : spec.stubs = ["\x7b a \x7d", "p"] := by
      rw [Suite.stubs, hconstructor]
      rfl
    rw [hstubs]
    simp only [List.forall_mem_cons, List.not_mem_nil, false_imp_iff, implies_true, and_true]
    exact ⟨.inr ⟨'\x7b', " a \x7d".toList, by decide, .inl rfl⟩, .inl (by decide)⟩

theorem sampleClash_not_well_formed :
    ∃ (spec : Spec) (lines : List Line),
      Command.fileSpec sampleClash ⟨"a.ts"⟩ ⟨"a.spec.ts"⟩ false = .ok spec ∧ spec.IsNamed ∧
      spec.render.toList = spec.header ++ Line.text lines ∧
      (¬∀ depth, ∀ name ∈ letsAt depth lines, isIdentifier name = true) ∧
      ¬(letsAt 1 (spec.testLines ⟨"go", [⟨"result", none, []⟩], some {}, false, false, false⟩
        spec.isGrouped)).Nodup := by
  obtain ⟨hname, hc, hmethods⟩ := sampleClash_facts
  obtain ⟨spec, hspec, hclass, hconstructor, htests⟩ :=
    Command.exists_fileSpec ⟨"a.ts"⟩ ⟨"a.spec.ts"⟩ (.inr (by rw [hmethods]; simp))
  have hnamed := sampleClash_isNamed hclass hconstructor htests
  obtain ⟨-, -, -, lines, hrender, hidentifiers, -, hblocks⟩ :=
    declarations_well_formed_iff sampleClash ⟨"a.ts"⟩ ⟨"a.spec.ts"⟩ false spec hspec hnamed
  obtain ⟨-, hblock, -⟩ := hblocks [] _ _ hmethods
  refine ⟨spec, lines, hspec, hnamed, hrender, ?_, ?_⟩
  · rw [hidentifiers]
    intro hall
    have hgrouped : spec.isGrouped = true := by
      rw [Suite.isGrouped, htests, hmethods]
      rfl
    have hstub : "\x7b a \x7d" ∈ spec.stubs := by
      rw [Suite.stubs, hconstructor, hc]
      exact List.mem_cons_self
    exact absurd (hall.2 hgrouped _ hstub) (by decide)
  · rw [hblock (List.forall_mem_singleton.2 fun _ => by decide)]
    decide

end SpecScaffold
