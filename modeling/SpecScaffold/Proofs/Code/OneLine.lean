import SpecScaffold.Code.Suite
import SpecScaffold.Proofs.Text.Lines
import SpecScaffold.Proofs.Text.Words

/-!
# Generated code, line by line

The code of a test is made of fixed words and of texts that come from elsewhere: the names that
calls are made on, and what is written of the method.  The name of a destructured parameter is not
among them, because the names that it binds are written instead.

Where no such text has a line feed, a generated line is one line of text, so that the lines of the
text are the lines of the code (`fullLines_text`), and no line of a test is blank.

    solid_testLines : every line of the test of a method is solid
-/

namespace SpecScaffold

open Text

/-- A text on one line. -/
def OnOneLine (s : String) : Prop :=
  '\n' ∉ s.toList

instance (s : String) : Decidable (OnOneLine s) :=
  inferInstanceAs (Decidable ('\n' ∉ s.toList))

@[simp]
theorem oneLine_append {s t : String} : OnOneLine (s ++ t) ↔ OnOneLine s ∧ OnOneLine t := by
  simp [OnOneLine]

/-! ## Texts -/

/-- The texts of a parameter that are written out. -/
def Parameter.texts (p : Parameter) : List String :=
  (if p.identifiers.isEmpty then [p.name] else p.identifiers.map (·.name)) ++ p.type?.toList

/-- The texts of a method that are written out. -/
def Method.texts (m : Method) : List String :=
  m.name :: m.params.flatMap (·.texts)

theorem Method.mem_texts_of_params {m : Method} {p : Parameter} {t : String} (hp : p ∈ m.params)
    (ht : t ∈ p.texts) : t ∈ m.texts :=
  List.mem_cons_of_mem _ (List.mem_flatMap.2 ⟨p, hp, ht⟩)

namespace Suite

/-- The names that calls are made on. -/
def receivers (s : Suite) : List String :=
  s.className?.toList ++ (s.constructor?.map (·.name)).toList

theorem mem_receivers_of_className? {s : Suite} {name : String} (h : s.className? = some name) :
    name ∈ s.receivers := by
  simp [receivers, h]

theorem mem_receivers_of_constructor? {s : Suite} {c : Constructor} (h : s.constructor? = some c) :
    c.name ∈ s.receivers := by
  simp [receivers, h]

end Suite

/-! ## Names -/

theorem mem_intercalate {α : Type} {a : α} {sep : List α} {parts : List (List α)}
    (h : a ∈ sep.intercalate parts) : a ∈ sep ∨ ∃ part ∈ parts, a ∈ part := by
  induction parts with
  | nil => cases h
  | cons part parts ih =>
    cases parts with
    | nil => exact .inr ⟨part, List.mem_cons_self, by simpa using h⟩
    | cons next parts =>
      rw [List.intercalate_cons_cons, List.append_assoc, List.mem_append, List.mem_append] at h
      rcases h with h | h | h
      · exact .inr ⟨part, List.mem_cons_self, h⟩
      · exact .inl h
      · rcases ih h with hsep | ⟨p, hp, ha⟩
        · exact .inl hsep
        · exact .inr ⟨p, List.mem_cons_of_mem _ hp, ha⟩

theorem oneLine_commaList {names : List String} (h : ∀ name ∈ names, OnOneLine name) :
    OnOneLine (commaList names) := by
  intro hmem
  rw [commaList, String.toList_intercalate] at hmem
  rcases mem_intercalate hmem with hsep | ⟨part, hpart, hin⟩
  · exact absurd hsep (by decide)
  · obtain ⟨name, hname, rfl⟩ := List.mem_map.1 hpart
    exact h name hname hin

theorem oneLine_title {name : String} (h : OnOneLine name) : OnOneLine (title name) := by
  intro hmem
  rw [title, String.toList_ofList] at hmem
  exact h (mem_of_mem_wordsOf hmem (by decide) (by decide) (by decide))

theorem oneLine_variableName {name : String} (h : OnOneLine name) :
    OnOneLine (variableName name) := by
  intro hmem
  rw [variableName, String.toList_ofList] at hmem
  exact h (mem_of_mem_decapitalize hmem (by decide) (by decide))

theorem mem_of_mem_trim {c : Char} {cs : List Char} (h : c ∈ trim cs) : c ∈ cs := by
  unfold trim trimEnd dropEndWhile trimStart at h
  have hend := (List.dropWhile_sublist isBlank).subset (List.mem_reverse.1 h)
  exact (List.dropWhile_sublist isBlank).subset (List.mem_reverse.1 hend)

theorem oneLine_typeVariable {type name : String} (h : OnOneLine type)
    (hname : Binding.typeVariable? type = some name) : OnOneLine name := by
  unfold Binding.typeVariable? at hname
  split at hname
  · cases hname
  · next c cs htake =>
    split at hname
    · cases hname
    · obtain rfl := Option.some.inj hname
      intro hmem
      rw [String.toList_ofList] at hmem
      have hstart := mem_of_mem_decapitalize hmem (by decide) (by decide)
      rw [← htake] at hstart
      exact h (mem_of_mem_trim ((List.takeWhile_sublist _).subset hstart))

theorem Parameter.oneLine_type {p : Parameter} (h : ∀ t ∈ p.texts, OnOneLine t) {type : String}
    (htype : p.type? = some type) : OnOneLine type :=
  h type (List.mem_append_right _ (by simp [htype]))

/-- What is written for a parameter is on one line. -/
theorem Parameter.oneLine_binding {p : Parameter} (h : ∀ t ∈ p.texts, OnOneLine t) :
    OnOneLine (Binding.ofParameter p).declared ∧
      OnOneLine (Binding.ofParameter p).argument := by
  have hvar : ∀ name, p.type?.bind Binding.typeVariable? = some name →
      OnOneLine name := by
    intro name hname
    obtain ⟨type, htype, hvariable⟩ := Option.bind_eq_some_iff.1 hname
    exact oneLine_typeVariable (oneLine_type h htype) hvariable
  unfold Binding.ofParameter
  split
  · next hplain =>
    have hname : OnOneLine p.name := h p.name (by simp [texts, hplain])
    exact ⟨hname, hname⟩
  · next hdestructured =>
    have hidentifier : ∀ i ∈ p.identifiers, OnOneLine i.name := by
      intro i hi
      refine h i.name (List.mem_append_left _ ?_)
      rw [if_neg hdestructured]
      exact List.mem_map_of_mem hi
    have hnames : OnOneLine (commaList (p.identifiers.map (·.name))) := by
      refine oneLine_commaList fun name hname => ?_
      obtain ⟨i, hi, rfl⟩ := List.mem_map.1 hname
      exact hidentifier i hi
    generalize p.type?.bind Binding.typeVariable? = typeVar? at hvar
    constructor
    · refine oneLine_commaList fun name hname => ?_
      obtain ⟨i, hi, rfl⟩ := List.mem_map.1 (List.mem_eraseDups.1 hname)
      unfold Binding.declaredName
      split
      · exact hvar _ rfl
      · exact hidentifier i hi
    · simp only [Binding.argumentOf]
      split
      · cases typeVar? with
        | none => simpa using ⟨⟨by decide, hnames⟩, by decide⟩
        | some name => exact hvar name rfl
      · simpa using ⟨⟨by decide, hnames⟩, by decide⟩

/-! ## Lines -/

namespace Line

/-- A line of code that is one line of text and is not blank. -/
def Solid : Line → Prop
  | .blank => False
  | .code _ text => OnOneLine text ∧ ∃ c ∈ text.toList, isBlank c = false

theorem Solid.nest {l : Line} (h : l.Solid) : l.nest.Solid := by
  cases l with
  | blank => exact h
  | code depth text => exact h

/-- A line of code that is one line of text, which may be blank. -/
def Flat : Line → Prop
  | .blank => True
  | .code _ text => OnOneLine text

theorem Solid.flat {l : Line} (h : l.Solid) : l.Flat := by
  cases l with
  | blank => trivial
  | code depth text => exact h.1

theorem Flat.nest {l : Line} (h : l.Flat) : l.nest.Flat := by
  cases l with
  | blank => exact h
  | code depth text => exact h

/-- What stands on a line, without its end. -/
def content : Line → List Char
  | .blank => []
  | .code depth text => (List.replicate depth indent).flatten ++ text.toList

theorem chars_eq (l : Line) : l.chars = l.content ++ ['\n'] := by
  cases l <;> rfl

theorem isWholeLines_text (ls : List Line) : IsWholeLines (text ls) := by
  induction ls with
  | nil => exact isWholeLines_nil
  | cons l ls ih =>
    rw [text, List.flatMap_cons, chars_eq]
    exact (isWholeLines_concat l.content).append ih

theorem lineFeed_notMem_content {l : Line} (h : l.Flat) : '\n' ∉ l.content := by
  cases l with
  | blank => simp [content]
  | code depth text =>
    intro hmem
    rcases List.mem_append.1 hmem with hindent | htext
    · obtain ⟨part, hpart, hin⟩ := List.mem_flatten.1 hindent
      rw [List.eq_of_mem_replicate hpart] at hin
      exact absurd hin (by decide)
    · exact h htext

/-- The lines of the text are the lines of the code. -/
theorem fullLines_text {ls : List Line} (h : ∀ l ∈ ls, l.Flat) :
    fullLines (text ls) = ls.map chars := by
  induction ls with
  | nil => rfl
  | cons l ls ih =>
    have hl := lineFeed_notMem_content (h l List.mem_cons_self)
    rw [text, List.flatMap_cons, chars_eq, fullLines_append (isWholeLines_concat _),
      fullLines_line hl, List.map_cons, chars_eq]
    exact congrArg (_ :: ·) (ih fun l' hl' => h l' (List.mem_cons_of_mem _ hl'))

theorem pieces_text {ls : List Line} (h : ∀ l ∈ ls, l.Flat) :
    pieces '\n' (text ls) = ls.map content ++ [[]] := by
  induction ls with
  | nil => rfl
  | cons l ls ih =>
    have hl := lineFeed_notMem_content (h l List.mem_cons_self)
    rw [text, List.flatMap_cons, chars_eq, List.append_assoc, List.singleton_append,
      pieces_append_cons hl]
    exact congrArg (_ :: ·) (ih fun l' hl' => h l' (List.mem_cons_of_mem _ hl'))

end Line

/-! ## The lines of a test -/

namespace Suite

theorem oneLine_helpersImport : OnOneLine helpersImport := by
  decide

section

variable {s : Suite} {m : Method} (hs : ∀ t ∈ s.receivers, OnOneLine t)

include hs

theorem oneLine_instance {name : String} (h : s.instance? = some name) : OnOneLine name := by
  obtain ⟨cls, hcls, rfl⟩ := Option.map_eq_some_iff.1 h
  exact oneLine_variableName (hs cls (mem_receivers_of_className? hcls))

variable (hm : ∀ t ∈ m.texts, OnOneLine t)

include hm

theorem oneLine_callee : OnOneLine (s.callee m) := by
  have hname : OnOneLine m.name := hm m.name List.mem_cons_self
  have hreceiver : ∀ c, s.receiverClass? = some c → OnOneLine c := by
    intro c hc
    rcases Option.or_eq_some_iff.1 hc with hcls | ⟨-, hctor⟩
    · exact hs c (mem_receivers_of_className? hcls)
    · obtain ⟨ctor, hsome, rfl⟩ := Option.map_eq_some_iff.1 hctor
      exact hs ctor.name (mem_receivers_of_constructor? hsome)
  unfold callee
  split
  · cases hi : s.instance? with
    | none => exact hname
    | some i => simpa using ⟨⟨⟨oneLine_instance hs hi, by decide⟩, hname⟩, by decide⟩
  · split
    · cases hc : s.receiverClass? with
      | none => exact hname
      | some c => simpa using ⟨⟨hreceiver c hc, by decide⟩, hname⟩
    · cases hi : s.instance? with
      | none => exact hname
      | some i => simpa using ⟨⟨oneLine_instance hs hi, by decide⟩, hname⟩

theorem oneLine_call : OnOneLine (s.call m) := by
  have harguments : OnOneLine
      (commaList (m.params.map fun p => (Binding.ofParameter p).argument)) := by
    refine oneLine_commaList fun name hname => ?_
    obtain ⟨p, hp, rfl⟩ := List.mem_map.1 hname
    exact (Parameter.oneLine_binding fun t ht => hm t (Method.mem_texts_of_params hp ht)).2
  unfold call
  simpa using ⟨⟨⟨oneLine_callee hs hm, by decide⟩, harguments⟩, by decide⟩

end

theorem solid_declaration {p : Parameter} (h : ∀ t ∈ p.texts, OnOneLine t) :
    (declaration p).Solid := by
  have hdeclared := (Parameter.oneLine_binding h).1
  unfold declaration
  cases htype : p.type? with
  | none => exact ⟨by simpa using ⟨⟨by decide, hdeclared⟩, by decide⟩, 'l', by simp, by decide⟩
  | some type =>
    have hone := Parameter.oneLine_type h htype
    exact ⟨by simpa using ⟨⟨⟨⟨by decide, hdeclared⟩, by decide⟩, by decide⟩, hone⟩,
      'l', by simp, by decide⟩

/-- A call has a bracket, so that it is not blank. -/
theorem bracket_mem_call (s : Suite) (m : Method) : '(' ∈ (s.call m).toList := by
  simp [call]

theorem solid_awaited {call method : String} (hcall : OnOneLine call) (hmethod : OnOneLine method)
    (hbracket : '(' ∈ call.toList) : ∀ l ∈ awaited call method, l.Solid := by
  simp only [awaited, List.forall_mem_cons, List.not_mem_nil, false_implies, implies_true, and_true]
  refine ⟨⟨hcall, '(', hbracket, by decide⟩, ⟨?_, '(', by simp, by decide⟩, ?_, ?_⟩
  · simpa using ⟨hmethod, by decide⟩
  · exact ⟨by decide, 'e', by decide, by decide⟩
  · exact ⟨by decide, '\x7d', by decide, by decide⟩

theorem solid_completion {call : String} (hcall : OnOneLine call) (hbracket : '(' ∈ call.toList)
    (returns? : Option ResultShape) : ∀ l ∈ completion call returns?, l.Solid := by
  cases returns? with
  | none =>
    intro l hl
    obtain rfl := List.mem_singleton.1 hl
    exact ⟨by simpa using ⟨hcall, by decide⟩, '(', by simp [hbracket], by decide⟩
  | some r =>
    simp only [completion]
    split
    · exact solid_awaited hcall (by decide) hbracket
    · split
      · exact solid_awaited hcall (by decide) hbracket
      · simp only [List.forall_mem_cons, List.not_mem_nil, false_implies, implies_true, and_true]
        exact ⟨⟨by simpa using ⟨⟨by decide, hcall⟩, by decide⟩, 'l', by simp, by decide⟩,
          by decide, 'e', by decide, by decide⟩

section

variable {s : Suite} {m : Method} (hs : ∀ t ∈ s.receivers, OnOneLine t)
  (hm : ∀ t ∈ m.texts, OnOneLine t) (failing : Bool)

include hs hm

theorem solid_testBody : ∀ l ∈ s.testBody m failing, l.Solid := by
  unfold testBody
  intro l hl
  rcases List.mem_append.1 hl with hl | hl
  · rcases List.mem_append.1 hl with hl | hl
    · rcases List.mem_append.1 hl with hl | hl
      · obtain ⟨p, hp, rfl⟩ := List.mem_map.1 hl
        exact solid_declaration fun t ht => hm t (Method.mem_texts_of_params hp ht)
      · exact solid_completion (oneLine_call hs hm) (bracket_mem_call s m) _ l hl
    · split at hl
      · obtain rfl := List.mem_singleton.1 hl
        exact ⟨by decide, 't', by decide, by decide⟩
      · cases hl
  · split at hl
    · obtain rfl := List.mem_singleton.1 hl
      exact ⟨by decide, 'f', by decide, by decide⟩
    · cases hl

/-- No line of a test is blank, and each is one line of text. -/
theorem solid_testLines : ∀ l ∈ s.testLines m failing, l.Solid := by
  intro l hl
  unfold testLines at hl
  rcases List.mem_append.1 hl with hl | hl
  · rcases List.mem_cons.1 hl with rfl | hl
    · refine ⟨?_, 'i', by simp, by decide⟩
      have hopening : OnOneLine (TestStyle.ofMethod m).opening := by
        cases TestStyle.ofMethod m <;> decide
      simpa using ⟨⟨⟨by decide, oneLine_title (hm m.name List.mem_cons_self)⟩, by decide⟩, hopening⟩
    · obtain ⟨inner, hinner, rfl⟩ := List.mem_map.1 hl
      exact (solid_testBody hs hm failing inner hinner).nest
  · obtain rfl := List.mem_singleton.1 hl
    cases TestStyle.ofMethod m <;> exact ⟨by decide, '\x7d', by decide, by decide⟩

end

end Suite

end SpecScaffold
