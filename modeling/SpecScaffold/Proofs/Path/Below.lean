import Mathlib.Data.List.Induction
import SpecScaffold.Proofs.Path.FileName

/-!
# Paths below a path

A path and the names that are appended to it, one by one, give `top.below names`.  Whatever the
spelling of `top`, each name adds itself and nothing else to the components and to the names that
are followed:

    components_below : (top.below names).components = top.components ++ names.map .normal
    segments_below   : segments (top.below names) = segments top ++ names

So two such paths are the same only if their names are.  The absolute path of a place is the path of
its names below the root (`absolute_eq_below`).
-/

namespace SpecScaffold

open Text

namespace Path

/-! ## Components -/

/-- The head of a path takes away from the pieces only what names nothing. -/
theorem filterMap_body (cs : List Char) :
    (body cs).filterMap pieceComponent = (pieces '/' cs).filterMap pieceComponent := by
  unfold body head
  split
  · simp [pieces, pieceComponent, idle]
  · simp [pieces, pieceComponent, idle]
  · simp [pieces, pieceComponent, idle]
  · simp

theorem components_eq (p : Path) :
    p.components = headComponent (head p.text.toList) ++
      (pieces '/' p.text.toList).filterMap pieceComponent := by
  rw [components, filterMap_body]

/-- What comes after a slash does not count for the head. -/
theorem head_append_slash {front : List Char} (hne : front ≠ []) (rest : List Char) :
    head (front ++ '/' :: rest) = head front := by
  rcases front with _ | ⟨c, _ | ⟨d, front⟩⟩
  · exact absurd rfl hne
  · by_cases hslash : c = '/'
    · subst hslash
      rfl
    · by_cases hdot : c = '.'
      · subst hdot
        rfl
      · simp [head, hslash, hdot]
  · by_cases hslash : c = '/'
    · subst hslash
      rfl
    · by_cases hdot : c = '.'
      · subst hdot
        by_cases hnext : d = '/'
        · subst hnext
          rfl
        · simp [head, hnext]
      · simp [head, hslash, hdot]

theorem components_join {name : String} (hname : IsEntryName name) (dir : Path) :
    (dir.join ⟨name⟩).components = dir.components ++ [.normal name] := by
  have hlast : (pieces '/' name.toList).filterMap pieceComponent = [.normal name] := by
    rw [pieces_of_notMem hname.slash]
    simp [hname.pieceComponent_eq]
  rw [components_eq, components_eq]
  rcases toList_join hname.slash dir with ⟨hjoin, hempty⟩ | ⟨front, hjoin, hfront⟩
  · -- the name alone: it has no head, because it is neither a slash nor a dot
    rw [hjoin, hempty, hlast, hname.head_eq]
    rfl
  · rw [hjoin, pieces_append_sep, List.filterMap_append, hlast, ← List.append_assoc]
    rcases hfront with hfront | ⟨hfront, hne⟩
    · have hhead : head (front ++ '/' :: name.toList) = head (front ++ ['/']) := by
        by_cases hne : front = []
        · rw [hne]
          rfl
        · rw [head_append_slash hne, head_append_slash hne]
      rw [hfront, hhead, pieces_append_sep, List.filterMap_append]
      simp [pieces, pieceComponent, idle]
    · rw [hfront, head_append_slash hne]

/-! ## Several names -/

/-- The path that the names lead to from `top`. -/
def below (top : Path) (names : List String) : Path :=
  names.foldl (fun dir name => dir.join ⟨name⟩) top

theorem below_cons (top : Path) (name : String) (names : List String) :
    top.below (name :: names) = (top.join ⟨name⟩).below names := rfl

theorem below_concat (top : Path) (names : List String) (name : String) :
    top.below (names ++ [name]) = (top.below names).join ⟨name⟩ :=
  List.foldl_concat _ top name names

section

variable {names : List String} (hnames : ∀ name ∈ names, IsEntryName name)

include hnames

theorem components_below (top : Path) :
    (top.below names).components = top.components ++ names.map .normal := by
  induction names generalizing top with
  | nil => simp [below]
  | cons name names ih =>
    rw [below_cons, ih (fun other hother => hnames other (List.mem_cons_of_mem _ hother)),
      components_join (hnames name List.mem_cons_self)]
    simp

/-- Names that lead to the same path are the same. -/
theorem below_inj {others : List String} (hothers : ∀ name ∈ others, IsEntryName name)
    {top : Path} (h : (top.below names).components = (top.below others).components) :
    names = others := by
  rw [components_below hnames, components_below hothers] at h
  have hinj : Function.Injective Component.normal := by
    intro a b hab
    exact Component.normal.inj hab
  exact List.map_injective_iff.2 hinj (List.append_cancel_left h)

theorem segments_below (top : Path) :
    Workspace.segments (top.below names) = Workspace.segments top ++ names := by
  induction names generalizing top with
  | nil => simp [below]
  | cons name names ih =>
    have hname := hnames name List.mem_cons_self
    rw [below_cons, ih (fun other hother => hnames other (List.mem_cons_of_mem _ hother)),
      Workspace.segments_join (by simpa using hname.ne_empty) hname.slash]
    simp

theorem start_below (w : Workspace) (top : Path) : w.start (top.below names) = w.start top := by
  induction names generalizing top with
  | nil => rfl
  | cons name names ih =>
    rw [below_cons, ih (fun other hother => hnames other (List.mem_cons_of_mem _ hother)),
      Workspace.start_join (hnames name List.mem_cons_self).slash]

/-- A path below another ends in the last of the names. -/
theorem endsInSlash_below (top : Path) (hne : names ≠ []) :
    Workspace.endsInSlash (top.below names) = false := by
  rcases List.eq_nil_or_concat names with rfl | ⟨init, name, rfl⟩
  · exact absurd rfl hne
  rw [List.concat_eq_append] at hnames ⊢
  have hname := hnames name (by simp)
  rw [below_concat]
  exact Workspace.endsInSlash_join (by simpa using hname.ne_empty) hname.slash _

end

end Path

/-! ## Places -/

theorem Workspace.absolute_concat {place : List String} (hne : place ≠ []) (name : String) :
    (absolute (place ++ [name])).text = (absolute place).text ++ "/" ++ name := by
  cases place with
  | nil => exact absurd rfl hne
  | cons first place => simp [absolute, String.append_assoc]

/-- The absolute path of a place is the path of its names below the root. -/
theorem Workspace.absolute_eq_below {place : List String}
    (h : ∀ name ∈ place, Path.IsEntryName name) : absolute place = Path.below ⟨"/"⟩ place := by
  induction place using List.reverseRecOn with
  | nil => rfl
  | append_singleton place name ih =>
    have hplace : ∀ other ∈ place, Path.IsEntryName other := by
      intro other hother
      exact h other (List.mem_append_left _ hother)
    have hname := h name (by simp)
    rw [Path.below_concat, ← ih hplace, Path.join, Path.isAbsolute_of_notMem hname.slash,
      if_neg Bool.false_ne_true]
    by_cases hne : place = []
    · subst hne
      rfl
    · have hempty : (absolute place).text.isEmpty = false := by
        cases place with
        | nil => exact absurd rfl hne
        | cons first place => simp [absolute]
      have hslash : ((absolute place).text.toList.getLast? == some '/') = false := by
        rw [ih hplace]
        exact Path.endsInSlash_below hplace ⟨"/"⟩ hne
      rw [hempty, hslash, if_neg (by decide), ← absolute_concat hne]

end SpecScaffold
