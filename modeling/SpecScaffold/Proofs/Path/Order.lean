import SpecScaffold.Path.Order

/-!
# Paths in order

Components are compared by a strict total order, and so are lists of them, position by position:
`componentsLe` is transitive, total, and antisymmetric.  `Path.sorted` first puts paths in this order
and then drops each one that repeats the path before it, which leaves no repetition at all:

    pairwise_sorted : each path of `sorted ps` comes strictly before all later ones
    exists_same_mem_sorted : every path of `ps` is there, in this spelling or in another
-/

namespace SpecScaffold

namespace Component

/-- Components of different kinds are compared by their kinds, names as texts. -/
theorem before_iff {a b : Component} :
    a.before b = true ↔
      a.rank < b.rank ∨ ∃ x y : String, a = .normal x ∧ b = .normal y ∧ x < y := by
  unfold before
  split
  · next x y =>
    rw [decide_eq_true_iff]
    constructor
    · exact fun hlt => .inr ⟨x, y, rfl, rfl, hlt⟩
    · rintro (hrank | ⟨x', y', hx, hy, hlt⟩)
      · exact absurd hrank (Nat.lt_irrefl _)
      · rw [Component.normal.inj hx, Component.normal.inj hy]
        exact hlt
  · next hnames =>
    rw [decide_eq_true_iff]
    constructor
    · exact .inl
    · rintro (hrank | ⟨x, y, hx, hy, -⟩)
      · exact hrank
      · exact (hnames x y hx hy).elim

theorem before_irrefl (a : Component) : a.before a = false := by
  rw [Bool.eq_false_iff, Ne, before_iff]
  rintro (hrank | ⟨x, y, hx, hy, hlt⟩)
  · exact Nat.lt_irrefl _ hrank
  · obtain rfl := Component.normal.inj (hx.symm.trans hy)
    exact String.lt_irrefl x hlt

theorem before_trans {a b c : Component} (hab : a.before b = true) (hbc : b.before c = true) :
    a.before c = true := by
  rw [before_iff] at hab hbc ⊢
  rcases hab with hrank | ⟨x, y, rfl, rfl, hxy⟩
  · rcases hbc with hnext | ⟨y, z, rfl, rfl, -⟩
    · exact .inl (Nat.lt_trans hrank hnext)
    · exact .inl hrank
  · rcases hbc with hnext | ⟨y', z, hy, rfl, hyz⟩
    · exact .inl hnext
    · obtain rfl := Component.normal.inj hy
      exact .inr ⟨x, z, rfl, rfl, String.lt_trans hxy hyz⟩

theorem before_or_eq_or_before (a b : Component) :
    a.before b = true ∨ a = b ∨ b.before a = true := by
  rw [before_iff, before_iff]
  rcases Nat.lt_trichotomy a.rank b.rank with hlt | heq | hgt
  · exact .inl (.inl hlt)
  · -- of equal kind, so equal unless they are names
    cases a <;> cases b <;> cases heq
    · exact .inr (.inl rfl)
    · exact .inr (.inl rfl)
    · exact .inr (.inl rfl)
    · next x y =>
      by_cases hxy : x < y
      · exact .inl (.inr ⟨x, y, rfl, rfl, hxy⟩)
      · by_cases hyx : y < x
        · exact .inr (.inr (.inr ⟨y, x, rfl, rfl, hyx⟩))
        · have hsame : x = y := String.le_antisymm (String.not_lt.1 hyx) (String.not_lt.1 hxy)
          exact .inr (.inl (congrArg Component.normal hsame))
  · exact .inr (.inr (.inl hgt))

theorem not_before_of_before {a b : Component} (hab : a.before b = true) : b.before a = false := by
  rw [Bool.eq_false_iff]
  intro hba
  have haa := before_trans hab hba
  rw [before_irrefl] at haa
  cases haa

end Component

namespace Path

/-! ## Comparing -/

theorem componentsLe_cons_iff {a b : Component} {as bs : List Component} :
    componentsLe (a :: as) (b :: bs) = true ↔
      a.before b = true ∨ a = b ∧ componentsLe as bs = true := by
  simp [componentsLe]

theorem componentsLe_trans {as bs cs : List Component} (hab : componentsLe as bs = true)
    (hbc : componentsLe bs cs = true) : componentsLe as cs = true := by
  induction as generalizing bs cs with
  | nil => rfl
  | cons a as ih =>
    cases bs with
    | nil => cases hab
    | cons b bs =>
      cases cs with
      | nil => cases hbc
      | cons c cs =>
        rw [componentsLe_cons_iff] at hab hbc ⊢
        rcases hab with hab | ⟨rfl, hab⟩
        · rcases hbc with hbc | ⟨rfl, -⟩
          · exact .inl (Component.before_trans hab hbc)
          · exact .inl hab
        · rcases hbc with hbc | ⟨rfl, hbc⟩
          · exact .inl hbc
          · exact .inr ⟨rfl, ih hab hbc⟩

theorem componentsLe_total (as bs : List Component) :
    componentsLe as bs = true ∨ componentsLe bs as = true := by
  induction as generalizing bs with
  | nil => exact .inl rfl
  | cons a as ih =>
    cases bs with
    | nil => exact .inr rfl
    | cons b bs =>
      rw [componentsLe_cons_iff, componentsLe_cons_iff]
      rcases Component.before_or_eq_or_before a b with hab | rfl | hba
      · exact .inl (.inl hab)
      · rcases ih bs with hle | hge
        · exact .inl (.inr ⟨rfl, hle⟩)
        · exact .inr (.inr ⟨rfl, hge⟩)
      · exact .inr (.inl hba)

theorem componentsLe_antisymm {as bs : List Component} (hab : componentsLe as bs = true)
    (hba : componentsLe bs as = true) : as = bs := by
  induction as generalizing bs with
  | nil =>
    cases bs with
    | nil => rfl
    | cons b bs => cases hba
  | cons a as ih =>
    cases bs with
    | nil => cases hab
    | cons b bs =>
      rw [componentsLe_cons_iff] at hab hba
      rcases hab with hbefore | ⟨rfl, hab⟩
      · have hnot := Component.not_before_of_before hbefore
        rcases hba with hback | ⟨rfl, -⟩
        · rw [hnot] at hback
          cases hback
        · rw [hnot] at hbefore
          cases hbefore
      · rcases hba with hback | ⟨-, hba⟩
        · rw [Component.before_irrefl] at hback
          cases hback
        · rw [ih hab hba]

theorem same_iff {p q : Path} : p.same q = true ↔ p.components = q.components := by
  unfold same
  exact beq_iff_eq

/-- One path comes strictly before another. -/
def Before (p q : Path) : Prop :=
  p.le q = true ∧ p.components ≠ q.components

instance (p q : Path) : Decidable (Before p q) :=
  inferInstanceAs (Decidable (_ ∧ _))

/-! ## Sorting -/

theorem pairwise_mergeSort_le (ps : List Path) :
    (ps.mergeSort Path.le).Pairwise fun p q => p.le q = true := by
  apply List.pairwise_mergeSort
  · intro p q r hpq hqr
    exact componentsLe_trans hpq hqr
  · intro p q
    rw [Bool.or_eq_true]
    exact componentsLe_total p.components q.components

/-- Among paths in order, those that are the same stand together, so it is enough to compare each
one with the last that was kept. -/
theorem pairwise_dropRepeatsAfter {last : Path} {ps : List Path}
    (h : (last :: ps).Pairwise fun p q => p.le q = true) :
    (last :: dropRepeats.dropRepeatsAfter last ps).Pairwise Before := by
  induction ps generalizing last with
  | nil => exact List.pairwise_singleton _ _
  | cons p ps ih =>
    obtain ⟨hlast, hps⟩ := List.pairwise_cons.1 h
    rw [dropRepeats.dropRepeatsAfter]
    split
    · apply ih
      refine List.pairwise_cons.2 ⟨fun q hq => ?_, (List.pairwise_cons.1 hps).2⟩
      exact hlast q (List.mem_cons_of_mem p hq)
    · next hdiffer =>
      have hp : Before last p := by
        refine ⟨hlast p List.mem_cons_self, fun hsame => hdiffer ?_⟩
        exact same_iff.2 hsame
      have hkept := ih hps
      refine List.pairwise_cons.2 ⟨fun q hq => ?_, hkept⟩
      rcases List.mem_cons.1 hq with rfl | hq
      · exact hp
      · have hpq := (List.pairwise_cons.1 hkept).1 q hq
        refine ⟨componentsLe_trans hp.1 hpq.1, fun hsame => hp.2 ?_⟩
        -- `q` cannot be `last` again, because `p` stands between them
        apply componentsLe_antisymm hp.1
        rw [hsame]
        exact hpq.1

theorem pairwise_sorted (ps : List Path) : (sorted ps).Pairwise Before := by
  unfold sorted
  have horder := pairwise_mergeSort_le ps
  cases hsorted : ps.mergeSort Path.le with
  | nil => exact List.Pairwise.nil
  | cons p rest =>
    rw [hsorted] at horder
    exact pairwise_dropRepeatsAfter horder

theorem exists_same_mem_dropRepeatsAfter (last : Path) {ps : List Path} {p : Path} (h : p ∈ ps) :
    ∃ q ∈ last :: dropRepeats.dropRepeatsAfter last ps, q.same p = true := by
  induction ps generalizing last with
  | nil => cases h
  | cons first ps ih =>
    rw [dropRepeats.dropRepeatsAfter]
    split
    · next hsame =>
      rcases List.mem_cons.1 h with rfl | h
      · exact ⟨last, List.mem_cons_self, hsame⟩
      · exact ih last h
    · rcases List.mem_cons.1 h with rfl | h
      · exact ⟨p, List.mem_cons_of_mem _ List.mem_cons_self, same_iff.2 rfl⟩
      · obtain ⟨q, hq, hsame⟩ := ih first h
        exact ⟨q, List.mem_cons_of_mem _ hq, hsame⟩

theorem exists_same_mem_sorted {ps : List Path} {p : Path} (h : p ∈ ps) :
    ∃ q ∈ sorted ps, q.same p = true := by
  unfold sorted
  have hmem : p ∈ ps.mergeSort Path.le := List.mem_mergeSort.2 h
  cases hsorted : ps.mergeSort Path.le with
  | nil =>
    rw [hsorted] at hmem
    cases hmem
  | cons first rest =>
    rw [hsorted] at hmem
    rcases List.mem_cons.1 hmem with rfl | hrest
    · exact ⟨p, List.mem_cons_self, same_iff.2 rfl⟩
    · exact exists_same_mem_dropRepeatsAfter first hrest

/-- Paths that stand strictly one before the other are different. -/
theorem nodup_components_of_pairwise {ps : List Path} (h : ps.Pairwise Before) :
    (ps.map components).Nodup := by
  unfold List.Nodup
  rw [List.pairwise_map]
  exact h.imp fun hbefore => hbefore.2

end Path

end SpecScaffold
