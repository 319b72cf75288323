import Mathlib.Data.List.Basic
import Mathlib.Data.List.TakeDrop
import SpecScaffold.Companion
import SpecScaffold.Proofs.Text.LineCount

/-!
# The paths of companions

The companions of a source file differ in their last name only, and in that only by the suffix:

    segments_path : segments (path source suffix) =
      segments (folder source) ++ [fileName source suffix]
    fileName_inj : fileName source s = fileName source t ↔ s = t

This takes a source with a file name, and a suffix that does not lead to another directory.
-/

namespace SpecScaffold

open Text Workspace

theorem Text.splitLast?_eq_some {sep : Char} {cs before after : List Char}
    (h : splitLast? sep cs = some (before, after)) : cs = before ++ sep :: after := by
  unfold splitLast? at h
  rw [List.span_eq_takeWhile_dropWhile] at h
  have hsplit := List.takeWhile_append_dropWhile (p := (· != sep)) (l := cs.reverse)
  cases hdrop : cs.reverse.dropWhile (· != sep) with
  | nil =>
    rw [hdrop] at h
    cases h
  | cons c rest =>
    rw [hdrop] at h hsplit
    simp only [Option.some.injEq, Prod.mk.injEq] at h
    obtain ⟨rfl, rfl⟩ := h
    have hc : c = sep := by
      have hhead := List.head?_dropWhile_not (· != sep) cs.reverse
      rw [hdrop] at hhead
      simpa using hhead
    have hcs := congrArg List.reverse hsplit
    rw [hc, List.reverse_append, List.reverse_cons, List.reverse_reverse] at hcs
    simpa using hcs.symm

theorem Text.pieces_append_sep (sep : Char) (front back : List Char) :
    pieces sep (front ++ sep :: back) = pieces sep front ++ pieces sep back := by
  induction front with
  | nil => simp [pieces]
  | cons c front ih =>
    rw [List.cons_append, pieces, pieces, ih]
    by_cases hc : c = sep
    · rw [if_pos hc, if_pos hc, List.cons_append]
    · rw [if_neg hc, if_neg hc]
      cases hp : pieces sep front with
      | nil => exact absurd hp (pieces_ne_nil sep front)
      | cons p ps => rfl

/-! ## File names -/

namespace Path

/-- A file name is not empty, and is one name. -/
theorem fileName?_spec {p : Path} {name : String} (h : p.fileName? = some name) :
    name.toList ≠ [] ∧ '/' ∉ name.toList := by
  unfold fileName? at h
  split at h
  · next found hlast =>
    obtain rfl := Option.some.inj h
    have hmem := List.mem_of_getLast? hlast
    unfold components at hmem
    rcases List.mem_append.1 hmem with hhead | hbody
    · unfold headComponent at hhead
      split at hhead <;> simp at hhead
    · obtain ⟨piece, hpiece, hcomponent⟩ := List.mem_filterMap.1 hbody
      unfold pieceComponent at hcomponent
      split at hcomponent
      · cases hcomponent
      · next hidle =>
        split at hcomponent
        · cases hcomponent
        · have hfound : String.ofList piece = found := by simpa using hcomponent
          rw [← hfound, String.toList_ofList]
          refine ⟨?_, notMem_of_mem_pieces hpiece⟩
          intro hnil
          apply hidle
          rw [hnil]
          rfl
  · cases h

/-- A file name is its stem, or its stem, a dot and its extension. -/
theorem splitName_spec (name : String) :
    splitName name = (name, none) ∨
      ∃ stem extension, splitName name = (String.ofList stem, some (String.ofList extension)) ∧
        stem ≠ [] ∧ name.toList = stem ++ '.' :: extension := by
  unfold splitName
  split
  · next stem extension hsplit =>
    split
    · exact .inl rfl
    · next hstem =>
      refine .inr ⟨stem, extension, rfl, ?_, splitLast?_eq_some hsplit⟩
      intro hnil
      apply hstem
      rw [hnil]
      rfl
  · exact .inl rfl

/-- Stem and extension of a file name are parts of one name. -/
theorem stem_and_extension {p : Path} {name : String} (h : p.fileName? = some name) :
    (p.stem?.getD "").toList ≠ [] ∧ '/' ∉ (p.stem?.getD "").toList ∧
      '/' ∉ p.dottedExtension.toList := by
  obtain ⟨hne, hslash⟩ := fileName?_spec h
  unfold dottedExtension extension? stem?
  rw [h, Option.map_some, Option.getD_some, Option.bind_some]
  rcases splitName_spec name with hwhole | ⟨stem, extension, hsplit, hstem, hname⟩
  · rw [hwhole]
    exact ⟨hne, hslash, by simp⟩
  · rw [hsplit]
    rw [hname] at hslash
    simp only [List.mem_append, List.mem_cons, not_or] at hslash
    refine ⟨?_, ?_, ?_⟩
    · rw [String.toList_ofList]
      exact hstem
    · rw [String.toList_ofList]
      exact hslash.1
    · simp only [String.toList_append, String.toList_ofList, List.mem_append, not_or]
      exact ⟨by decide, hslash.2.2⟩

end Path

/-! ## Joining a name -/

theorem Path.isAbsolute_iff {p : Path} : p.isAbsolute = true ↔ p.text.toList.head? = some '/' := by
  unfold Path.isAbsolute Path.head
  split
  · next rest hp => simp [hp]
  · next hp => simp [hp]
  · next rest hp => simp [hp]
  · next hroot _ _ =>
    refine iff_of_false (by decide) fun h => ?_
    obtain ⟨rest, hrest⟩ := List.head?_eq_some_iff.1 h
    exact hroot rest hrest

section

variable {name : String} (hne : name.toList ≠ []) (hslash : '/' ∉ name.toList)

include hslash

theorem Path.isAbsolute_of_notMem : Path.isAbsolute ⟨name⟩ = false := by
  rw [Bool.eq_false_iff, Ne, Path.isAbsolute_iff]
  intro h
  exact hslash (List.mem_of_mem_head? h)

/-- A name joined to a path comes after it, and after a slash unless the path has one. -/
theorem Path.toList_join (p : Path) :
    (p.join ⟨name⟩).text.toList = name.toList ∧ p.text.toList = [] ∨
      ∃ front, (p.join ⟨name⟩).text.toList = front ++ '/' :: name.toList ∧
        (p.text.toList = front ++ ['/'] ∨ p.text.toList = front ∧ front ≠ []) := by
  unfold Path.join
  rw [Path.isAbsolute_of_notMem hslash, if_neg Bool.false_ne_true]
  split
  · next hjoin =>
    rw [Bool.or_eq_true, String.isEmpty_iff, beq_iff_eq] at hjoin
    rcases hjoin with hempty | hlast
    · exact .inl (by simp [hempty])
    · obtain ⟨front, hfront⟩ := List.getLast?_eq_some_iff.1 hlast
      exact .inr ⟨front, by simp [hfront], .inl hfront⟩
  · next hjoin =>
    rw [Bool.or_eq_true, String.isEmpty_iff, not_or] at hjoin
    refine .inr ⟨p.text.toList, by simp, .inr ⟨rfl, ?_⟩⟩
    intro hnil
    exact hjoin.1 (String.toList_eq_nil_iff.1 hnil)

include hne

theorem Workspace.segments_join (p : Path) : segments (p.join ⟨name⟩) = segments p ++ [name] := by
  have hname : segments ⟨name⟩ = [name] := by
    unfold segments
    rw [pieces_of_notMem hslash]
    simp [hne]
  have happend : ∀ front : List Char,
      ((pieces '/' (front ++ '/' :: name.toList)).filter fun piece => !piece.isEmpty).map
        String.ofList = segments ⟨String.ofList front⟩ ++ [name] := by
    intro front
    rw [pieces_append_sep, List.filter_append, List.map_append, ← hname]
    unfold segments
    rw [String.toList_ofList]
  rcases Path.toList_join hslash p with ⟨hjoin, hempty⟩ | ⟨front, hjoin, hfront⟩
  · have hp : segments p = [] := by
      unfold segments
      rw [hempty]
      rfl
    rw [hp, ← hname]
    unfold segments
    rw [hjoin]
    rfl
  · have hp : segments p = segments ⟨String.ofList front⟩ := by
      unfold segments
      rw [String.toList_ofList]
      rcases hfront with hfront | ⟨hfront, -⟩
      · rw [hfront, pieces_append_sep]
        simp [pieces]
      · rw [hfront]
    rw [hp, ← happend]
    unfold segments
    rw [hjoin]

theorem Workspace.endsInSlash_join (p : Path) : endsInSlash (p.join ⟨name⟩) = false := by
  have hlast : (p.join ⟨name⟩).text.toList.getLast? = name.toList.getLast? := by
    rcases Path.toList_join hslash p with ⟨hjoin, -⟩ | ⟨front, hjoin, -⟩
    · rw [hjoin]
    · rw [hjoin, List.append_cons, List.getLast?_append_of_ne_nil _ hne]
  unfold endsInSlash
  rw [hlast, beq_eq_false_iff_ne]
  intro h
  exact hslash (List.mem_of_getLast? h)

omit hne

theorem Path.isAbsolute_join (p : Path) : (p.join ⟨name⟩).isAbsolute = p.isAbsolute := by
  rw [Bool.eq_iff_iff, Path.isAbsolute_iff, Path.isAbsolute_iff]
  rcases Path.toList_join hslash p with ⟨hjoin, hempty⟩ | ⟨front, hjoin, hfront⟩
  · rw [hjoin, hempty]
    refine iff_of_false (fun h => ?_) (by simp)
    exact hslash (List.mem_of_mem_head? h)
  · rw [hjoin]
    rcases hfront with hfront | ⟨hfront, hne⟩
    · rw [hfront]
      cases front <;> rfl
    · rw [hfront]
      cases front with
      | nil => exact absurd rfl hne
      | cons c front => rfl

theorem Workspace.start_join (w : Workspace) (p : Path) : w.start (p.join ⟨name⟩) = w.start p := by
  unfold start
  rw [Path.isAbsolute_join hslash]

end

/-! ## Companions -/

namespace Companion

/-- The last name of a companion. -/
def fileName (source : Path) (suffix : String) : String :=
  source.stem?.getD "" ++ suffix ++ source.dottedExtension

/-- The directory that the companions of a source stand in. -/
def folder (source : Path) : Path :=
  match source.fileName?, source.parent? with
  | some _, some q => q
  | _, _ => source

theorem path_eq (source : Path) (suffix : String) :
    path source suffix = (folder source).join ⟨fileName source suffix⟩ := by
  unfold path Path.withFileName folder
  cases source.fileName? with
  | none => rfl
  | some own => cases source.parent? <;> rfl

theorem fileName_inj {source : Path} {s t : String} :
    fileName source s = fileName source t ↔ s = t := by
  unfold fileName
  rw [String.append_left_inj, String.append_right_inj]

variable {source : Path} {own suffix : String}

theorem fileName_spec (hown : source.fileName? = some own) (hsuffix : '/' ∉ suffix.toList) :
    (fileName source suffix).toList ≠ [] ∧ '/' ∉ (fileName source suffix).toList := by
  obtain ⟨hne, hstem, hextension⟩ := Path.stem_and_extension hown
  unfold fileName
  rw [String.toList_append, String.toList_append]
  refine ⟨?_, ?_⟩
  · intro hnil
    exact hne (List.append_eq_nil_iff.1 (List.append_eq_nil_iff.1 hnil).1).1
  · simp only [List.mem_append, not_or]
    exact ⟨⟨hstem, hsuffix⟩, hextension⟩

theorem segments_path (hown : source.fileName? = some own) (hsuffix : '/' ∉ suffix.toList) :
    segments (path source suffix) = segments (folder source) ++ [fileName source suffix] := by
  obtain ⟨hne, hslash⟩ := fileName_spec hown hsuffix
  rw [path_eq, segments_join hne hslash]

theorem start_path (hown : source.fileName? = some own) (hsuffix : '/' ∉ suffix.toList)
    (w : Workspace) : w.start (path source suffix) = w.start (folder source) := by
  obtain ⟨-, hslash⟩ := fileName_spec hown hsuffix
  rw [path_eq, start_join hslash]

theorem endsInSlash_path (hown : source.fileName? = some own) (hsuffix : '/' ∉ suffix.toList) :
    endsInSlash (path source suffix) = false := by
  obtain ⟨hne, hslash⟩ := fileName_spec hown hsuffix
  rw [path_eq, endsInSlash_join hne hslash]

end Companion

end SpecScaffold
