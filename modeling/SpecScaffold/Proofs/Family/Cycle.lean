import Mathlib.Data.List.Count
import Mathlib.Data.List.Rotate
import Mathlib.Data.Option.Basic
import SpecScaffold.Proofs.Family.Listing

/-!
# Going round a family

A switch looks for the current file among the members by its absolute path and goes on to the next
one.  So a member is found through every path that names its place, however it is spelled
(`same_canonical_iff`).  Members stand at different places, so each is found at its own position and
nowhere before, and a sequence of switches goes through the positions one by one:

    next?_eq           : from position `i`, a switch leads to position `(i + 1) % n`
    switched_eq        : and `k` of them to position `(i + k) % n`
    family_goes_round  : so `n` switches meet every member once and end where they started
-/

namespace SpecScaffold

namespace Family

open Workspace

/-- The path after some switches within a family. -/
def switched (w : Workspace) (family : List Path) (current : Path) : Nat → Option Path
  | 0 => some current
  | k + 1 => (switched w family current k).bind (next? w family)

/-- A path points at a member: it names the place of the member, or it names nothing and is written
like the absolute path of that place. -/
def PointsAt (w : Workspace) (current member : Path) : Prop :=
  ∃ place, w.place? member = some place ∧
    (w.place? current = some place ∨
      w.place? current = none ∧ current.components = (absolute place).components)

/-- The members have different absolute paths. -/
def Apart (w : Workspace) (family : List Path) : Prop :=
  (family.map fun p => (w.canonical p).components).Nodup

section

variable {w : Workspace} {family : List Path} {current : Path}

/-! ## One switch -/

theorem next?_eq_none_iff : next? w family current = none ↔ family.length < 2 := by
  unfold next?
  split
  · next hshort => simp [hshort]
  · next hlong =>
    refine iff_of_false (fun hnone => ?_) hlong
    split at hnone
    · next i hfind =>
      have hmod : (i + 1) % family.length < family.length := Nat.mod_lt _ (by omega)
      rw [List.getElem?_eq_none_iff] at hnone
      omega
    · rw [List.head?_eq_none_iff] at hnone
      rw [hnone] at hlong
      simp at hlong

theorem next?_of_not_mem (hlong : 2 ≤ family.length)
    (hcurrent : ∀ member ∈ family, (w.canonical current).same (w.canonical member) = false) :
    next? w family current = family.head? := by
  have hnone : family.findIdx? (fun p => (w.canonical p).same (w.canonical current)) = none := by
    rw [List.findIdx?_eq_none_iff]
    intro member hmember
    have hdiffer := hcurrent member hmember
    rw [Bool.eq_false_iff, Ne, Path.same_iff] at hdiffer ⊢
    exact fun hsame => hdiffer hsame.symm
  unfold next?
  rw [if_neg (by omega), hnone]

variable {i : Nat} {member : Path}

/-- A switch from a member, in whatever spelling, leads to the position after it. -/
theorem next?_eq (hlong : 2 ≤ family.length) (hapart : Apart w family)
    (hmember : family[i]? = some member)
    (hcurrent : (w.canonical current).same (w.canonical member) = true) :
    next? w family current = family[(i + 1) % family.length]? := by
  obtain ⟨hi, rfl⟩ := List.getElem?_eq_some_iff.1 hmember
  have hfind : family.findIdx? (fun p => (w.canonical p).same (w.canonical current)) = some i := by
    rw [List.findIdx?_eq_some_iff_getElem]
    rw [Path.same_iff] at hcurrent
    refine ⟨hi, Path.same_iff.2 hcurrent.symm, fun j hj hsame => ?_⟩
    rw [Path.same_iff, hcurrent] at hsame
    -- an earlier member would have to stand at the same place
    have hne := List.pairwise_iff_getElem.1 hapart j i (by simp; omega) (by simpa using hi) hj
    apply hne
    simpa using hsame
  unfold next?
  rw [if_neg (by omega), hfind]

/-! ## Many switches -/

theorem switched_eq (hlong : 2 ≤ family.length) (hapart : Apart w family)
    (hmember : family[i]? = some member)
    (hcurrent : (w.canonical current).same (w.canonical member) = true) (k : Nat) :
    switched w family current (k + 1) = family[(i + (k + 1)) % family.length]? := by
  induction k with
  | zero => exact next?_eq hlong hapart hmember hcurrent
  | succ k ih =>
    have hlt : (i + (k + 1)) % family.length < family.length := Nat.mod_lt _ (by omega)
    rw [switched, ih, List.getElem?_eq_getElem hlt, Option.bind_some,
      next?_eq hlong hapart (List.getElem?_eq_getElem hlt) (Path.same_iff.2 rfl), Nat.mod_add_mod,
      Nat.add_assoc]

/-- As many switches as there are members meet them in order, beginning after the first one. -/
theorem map_switched_eq_rotate (hlong : 2 ≤ family.length) (hapart : Apart w family)
    (hmember : family[i]? = some member)
    (hcurrent : (w.canonical current).same (w.canonical member) = true) :
    (List.range family.length).map (fun k => switched w family current (k + 1)) =
      (family.rotate (i + 1)).map some := by
  apply List.ext_getElem
  · simp
  · intro k hk hrotated
    have hlt : (i + (k + 1)) % family.length < family.length := Nat.mod_lt _ (by omega)
    have hposition : (k + (i + 1)) % family.length = (i + (k + 1)) % family.length := by
      rw [show k + (i + 1) = i + (k + 1) by omega]
    rw [List.getElem_map, List.getElem_range, switched_eq hlong hapart hmember hcurrent,
      List.getElem?_eq_getElem hlt, List.getElem_map, List.getElem_rotate]
    simp only [hposition]

end

/-! ## Members stand apart -/

section

variable {w : Workspace} (hw : w.tree.WellFormed) {top : Path}

include hw

/-- A file that is met on a walk is named by its path. -/
theorem place?_of_file_below {place names : List String} {e : Entry} {content : Content}
    (htop : w.locate top = .ok (place, e))
    (hfile : w.tree.find? (place ++ names) = some (.file content)) :
    w.place? (top.below names) = some (place ++ names) := by
  have hnames : ∀ name ∈ names, IsFileName name := by
    intro name hname
    exact (hw.of_find? hfile).2 name (List.mem_append_right _ hname)
  exact place?_below hnames htop hfile

theorem names_eq_of_canonical {names others : List String} (hfile : w.FileBelow top names)
    (hother : w.FileBelow top others)
    (h : (w.canonical (top.below names)).components =
      (w.canonical (top.below others)).components) : names = others := by
  obtain ⟨place, e, content, htop, hfind⟩ := hfile
  obtain ⟨place', e', content', htop', hfind'⟩ := hother
  obtain ⟨rfl, rfl⟩ := Prod.mk.inj (Except.ok.inj (htop.symm.trans htop'))
  rw [canonical, canonical, place?_of_file_below hw htop hfind,
    place?_of_file_below hw htop hfind'] at h
  have hplaces := absolute_inj (hw.of_find? hfind).2 (hw.of_find? hfind').2 h
  exact List.append_cancel_left hplaces

theorem apart_of_members {config : Config} {f : Path} {exclude : List String} {family : List Path}
    (h : members w config top f exclude = .ok family) : Apart w family ∧ family.Nodup := by
  obtain ⟨stem, patterns, -, -, rfl⟩ := members_eq_ok_iff.1 h
  have hnodup : (named w config top patterns (base config stem) f.dottedExtension).Nodup :=
    List.Nodup.of_map _ (Path.nodup_components_of_pairwise (Path.pairwise_sorted _))
  refine ⟨?_, hnodup⟩
  unfold Apart
  rw [List.nodup_map_iff_inj_on hnodup]
  intro p hp q hq hsame
  obtain ⟨names, rfl, hfile, -⟩ := (mem_named_iff hw).1 hp
  obtain ⟨others, rfl, hother, -⟩ := (mem_named_iff hw).1 hq
  rw [names_eq_of_canonical hw hfile hother hsame]

/-! ## Paths that point at a member -/

/-- A member names the place that it stands at. -/
theorem exists_place?_of_members {config : Config} {f : Path} {exclude : List String}
    {family : List Path} (h : members w config top f exclude = .ok family) {member : Path}
    (hmember : member ∈ family) : ∃ place, w.place? member = some place := by
  obtain ⟨stem, patterns, -, -, rfl⟩ := members_eq_ok_iff.1 h
  obtain ⟨names, rfl, ⟨place, e, content, htop, hfind⟩, -⟩ := (mem_named_iff hw).1 hmember
  exact ⟨place ++ names, place?_of_file_below hw htop hfind⟩

theorem isFileName_of_place? {p : Path} {place : List String} (h : w.place? p = some place) :
    ∀ name ∈ place, IsFileName name := by
  obtain ⟨e, hfind⟩ := exists_find?_of_place? h
  exact (hw.of_find? hfind).2

/-- The absolute paths of a member and of another path are the same exactly if that one points at
the member. -/
theorem same_canonical_iff {current member : Path} {place : List String}
    (hmember : w.place? member = some place) :
    (w.canonical current).same (w.canonical member) = true ↔ PointsAt w current member := by
  have hpoints : PointsAt w current member ↔ w.place? current = some place ∨
      w.place? current = none ∧ current.components = (absolute place).components := by
    simp only [PointsAt, hmember, Option.some.injEq, exists_eq_left']
  have hcanonical : w.canonical member = absolute place := by
    rw [canonical, hmember]
  rw [hpoints, hcanonical, Path.same_iff, canonical]
  cases hcurrent : w.place? current with
  | none => simp
  | some other =>
    simp only [Option.some.injEq, reduceCtorEq, false_and, or_false]
    constructor
    · intro h
      exact absolute_inj (isFileName_of_place? hw hcurrent) (isFileName_of_place? hw hmember) h
    · rintro rfl
      rfl

end

/-- Switching goes round a family.  There is nothing to switch to exactly if the family has less
than two members.  Otherwise, from a path that points at a member, in whatever spelling, as many
switches as there are members lead through all of them in their order, after the last one on to the
first, meet each exactly once, and end at the member they started from; and from a path that points
at no member, a switch leads to the first one. -/
theorem family_goes_round (w : Workspace) (hw : w.tree.WellFormed) (config : Config)
    (top f : Path) (exclude : List String) (family : List Path)
    (h : members w config top f exclude = .ok family) (current : Path) :
    (next? w family current = none ↔ family.length < 2) ∧
      (2 ≤ family.length →
        (∀ i member, family[i]? = some member → PointsAt w current member →
          (List.range family.length).map (fun k => switched w family current (k + 1)) =
              (family.rotate (i + 1)).map some ∧
            (∀ p ∈ family, ((List.range family.length).map fun k =>
              switched w family current (k + 1)).count (some p) = 1) ∧
            switched w family current family.length = some member) ∧
        ((∀ member ∈ family, ¬PointsAt w current member) →
          next? w family current = family.head?)) := by
  obtain ⟨hapart, hnodup⟩ := apart_of_members hw h
  have hsame : ∀ member ∈ family,
      ((w.canonical current).same (w.canonical member) = true ↔ PointsAt w current member) := by
    intro member hmember
    obtain ⟨place, hplace⟩ := exists_place?_of_members hw h hmember
    exact same_canonical_iff hw hplace
  refine ⟨next?_eq_none_iff, fun hlong => ⟨fun i member hmember hpoints => ?_, fun hnone => ?_⟩⟩
  · have hcurrent := (hsame member (List.mem_of_getElem? hmember)).2 hpoints
    have hround := map_switched_eq_rotate hlong hapart hmember hcurrent
    refine ⟨hround, fun p hp => ?_, ?_⟩
    · have hperm : ((family.rotate (i + 1)).map some).Perm (family.map some) :=
        (List.rotate_perm family (i + 1)).map some
      rw [hround, hperm.count_eq, List.count_map_of_injective _ _ (Option.some_injective Path),
        List.count_eq_one_of_mem hnodup hp]
    · obtain ⟨hi, -⟩ := List.getElem?_eq_some_iff.1 hmember
      have hlast := switched_eq hlong hapart hmember hcurrent (family.length - 1)
      rw [show family.length - 1 + 1 = family.length by omega, Nat.add_mod_right,
        Nat.mod_eq_of_lt hi, hmember] at hlast
      exact hlast
  · refine next?_of_not_mem hlong fun member hmember => ?_
    rw [Bool.eq_false_iff, Ne, hsame member hmember]
    exact hnone member hmember

theorem nestedSpecs_wellFormed : nestedSpecs.tree.WellFormed := by
  refine .dir (by decide) (by decide) ?_
  simpa [nestedSpecs] using Entry.WellFormed.file (.text "")

/-- Three files with one base, from the last of them under its absolute path, whose components are
not those of the member. -/
theorem nestedSpecs_goes_round :
    (⟨"/foo.ts"⟩ : Path).components ≠ (⟨"./foo.ts"⟩ : Path).components ∧
      PointsAt nestedSpecs ⟨"/foo.ts"⟩ ⟨"./foo.ts"⟩ ∧
      ∃ family, members nestedSpecs ⟨[".spec", ".spec.spec"], ".spec"⟩ ⟨"."⟩ ⟨"foo.ts"⟩ [] =
          .ok family ∧
        (List.range 3).map (fun k => switched nestedSpecs family ⟨"/foo.ts"⟩ (k + 1)) =
          [some ⟨"./foo.spec.spec.ts"⟩, some ⟨"./foo.spec.ts"⟩, some ⟨"./foo.ts"⟩] := by
  have hfamily : members nestedSpecs ⟨[".spec", ".spec.spec"], ".spec"⟩ ⟨"."⟩ ⟨"foo.ts"⟩ [] =
      .ok [⟨"./foo.spec.spec.ts"⟩, ⟨"./foo.spec.ts"⟩, ⟨"./foo.ts"⟩] :=
    members_of_pairwise rfl rfl (by decide +kernel) (by decide +kernel) (by decide +kernel)
  have hpoints : PointsAt nestedSpecs ⟨"/foo.ts"⟩ ⟨"./foo.ts"⟩ :=
    ⟨["foo.ts"], by decide +kernel, .inl (by decide +kernel)⟩
  obtain ⟨-, hround⟩ := family_goes_round nestedSpecs nestedSpecs_wellFormed _ _ _ _ _ hfamily
    ⟨"/foo.ts"⟩
  obtain ⟨hvisits, -⟩ := (hround (by decide)).1 2 ⟨"./foo.ts"⟩ rfl hpoints
  exact ⟨by decide +kernel, hpoints, _, hfamily, hvisits⟩

end Family

end SpecScaffold
