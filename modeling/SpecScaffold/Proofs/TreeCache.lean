import SpecScaffold.TreeCache

/-!
# The tree cache holds nothing stale

A cache is sound when every entry holds the tree of its own text in its own language.  The empty
cache is sound, parsing and forgetting keep a cache sound (`Sound.after`), and a sound cache answers
what the parser would (`Sound.parse_fst`).  Both steps concern one path, up to its components
(`get?_parse_of_ne`, `get?_forget_of_ne`).
-/

namespace SpecScaffold.TreeCache

/-- Every entry holds the tree of its own text in its own language. -/
def Sound (parser : Parser) (c : TreeCache) : Prop :=
  ∀ e ∈ c.entries, e.2.source.root = parser e.2.language e.2.source.text

/-- What can be done with a cache. -/
inductive Step where
  | parse (path : Path) (text : String) (language : Language)
  | forget (path : Path)

/-- The cache after one step. -/
def step (parser : Parser) (c : TreeCache) : Step → TreeCache
  | .parse path text language => (c.parse parser path text language).2
  | .forget path => c.forget path

/-- The cache after a sequence of steps. -/
def after (parser : Parser) (steps : List Step) (c : TreeCache) : TreeCache :=
  steps.foldl (step parser) c

/-! ## Looking up -/

theorem mem_entries_of_get? {c : TreeCache} {p : Path} {entry : Parsed}
    (h : c.get? p = some entry) : (p.components, entry) ∈ c.entries := by
  unfold get? at h
  obtain ⟨before, after, heq, -⟩ := List.lookup_eq_some_iff.1 h
  rw [heq]
  simp

theorem lookup_filter_of_ne {key other : List Component} (h : other ≠ key)
    (es : List (List Component × Parsed)) :
    (es.filter fun e => e.1 != key).lookup other = es.lookup other := by
  induction es with
  | nil => rfl
  | cons e es ih =>
    obtain ⟨k, entry⟩ := e
    by_cases hk : k = key
    · subst hk
      have hne : (other == k) = false := beq_eq_false_iff_ne.2 h
      rw [List.filter_cons_of_neg (by simp), ih, List.lookup_cons, hne]
    · rw [List.filter_cons_of_pos (by simpa using hk), List.lookup_cons, List.lookup_cons, ih]

theorem get?_forget_of_ne {p q : Path} (h : q.components ≠ p.components) (c : TreeCache) :
    (c.forget p).get? q = c.get? q :=
  lookup_filter_of_ne h c.entries

theorem get?_forget_self (c : TreeCache) (p : Path) : (c.forget p).get? p = none := by
  refine List.lookup_eq_none_iff.2 fun e he => ?_
  have hkey : e.1 ≠ p.components := by simpa using (List.mem_filter.1 he).2
  simpa using hkey.symm

theorem get?_put_self (c : TreeCache) (p : Path) (entry : Parsed) :
    (c.put p entry).get? p = some entry :=
  List.lookup_cons_self

theorem get?_put_of_ne {p q : Path} (h : q.components ≠ p.components) (c : TreeCache)
    (entry : Parsed) : (c.put p entry).get? q = c.get? q := by
  have hne : (q.components == p.components) = false := beq_eq_false_iff_ne.2 h
  rw [get?, put, List.lookup_cons, hne]
  exact get?_forget_of_ne h c

/-- What a path has after it has been parsed is what was returned. -/
theorem get?_parse_self (c : TreeCache) (parser : Parser) (p : Path) (text : String)
    (language : Language) :
    (c.parse parser p text language).2.get? p = some (c.parse parser p text language).1 := by
  unfold parse
  cases hf : c.fresh? p text language with
  | none => exact get?_put_self c p _
  | some entry => exact (Option.filter_eq_some_iff.1 hf).1

/-- Parsing leaves the entries of other paths alone. -/
theorem get?_parse_of_ne {p q : Path} (h : q.components ≠ p.components) (c : TreeCache)
    (parser : Parser) (text : String) (language : Language) :
    (c.parse parser p text language).2.get? q = c.get? q := by
  unfold parse
  cases c.fresh? p text language with
  | none => exact get?_put_of_ne h c _
  | some entry => rfl

/-! ## Soundness -/

theorem sound_empty (parser : Parser) : Sound parser {} := by
  intro e he
  cases he

theorem Sound.forget {parser : Parser} {c : TreeCache} (h : Sound parser c) (p : Path) :
    Sound parser (c.forget p) := by
  intro e he
  exact h e (List.mem_filter.1 he).1

theorem Sound.put {parser : Parser} {c : TreeCache} (h : Sound parser c) (p : Path) (text : String)
    (language : Language) :
    Sound parser (c.put p ⟨⟨text, parser language text⟩, language⟩) := by
  intro e he
  rcases List.mem_cons.1 he with rfl | he
  · rfl
  · exact h.forget p e he

/-- A sound cache answers what the parser would. -/
theorem Sound.parse_fst {parser : Parser} {c : TreeCache} (h : Sound parser c) (p : Path)
    (text : String) (language : Language) :
    (c.parse parser p text language).1 = ⟨⟨text, parser language text⟩, language⟩ := by
  unfold parse
  cases hf : c.fresh? p text language with
  | none => rfl
  | some entry =>
    obtain ⟨hget, hfresh⟩ := Option.filter_eq_some_iff.1 hf
    have hroot := h _ (mem_entries_of_get? hget)
    simp only [Bool.and_eq_true, beq_iff_eq] at hfresh
    obtain ⟨⟨entryText, root⟩, entryLanguage⟩ := entry
    obtain ⟨rfl, rfl⟩ : entryText = text ∧ entryLanguage = language := hfresh
    simp only at hroot ⊢
    rw [hroot]

theorem Sound.step {parser : Parser} {c : TreeCache} (h : Sound parser c) (s : Step) :
    Sound parser (c.step parser s) := by
  cases s with
  | forget path => exact h.forget path
  | parse path text language =>
    show Sound parser (c.parse parser path text language).2
    unfold TreeCache.parse
    cases c.fresh? path text language with
    | none => exact h.put path text language
    | some entry => exact h

theorem Sound.after {parser : Parser} {c : TreeCache} (h : Sound parser c) (steps : List Step) :
    Sound parser (c.after parser steps) := by
  induction steps generalizing c with
  | nil => exact h
  | cons s steps ih => exact ih (h.step s)

end SpecScaffold.TreeCache
