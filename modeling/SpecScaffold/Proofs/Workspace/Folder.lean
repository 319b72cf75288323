import SpecScaffold.Proofs.Path.Companion
import SpecScaffold.Proofs.Workspace.Walk

/-!
# The directory of a file

The directory of a source is cut out of the written path: its last piece goes, and so do the idle
pieces before that.  As to the names that are followed, only dots get lost that way:

    segments p = segments (folder p) ++ dots ++ [own]

A dot stays where it is, so a path that leads to a file has a folder that leads to the directory of
that file (`follow_folder_of_locate`), whatever the spelling of the path.
-/

namespace SpecScaffold

open Text

theorem Text.joined_prefix (sep : List Char) {ps qs : List (List Char)} (h : ps <+: qs) :
    joined sep ps <+: joined sep qs := by
  obtain ⟨more, rfl⟩ := h
  induction ps with
  | nil => exact List.nil_prefix
  | cons p ps ih =>
    cases hrest : ps ++ more with
    | nil =>
      obtain ⟨rfl, rfl⟩ := List.append_eq_nil_iff.1 hrest
      exact List.prefix_refl _
    | cons r rest =>
      rw [List.cons_append, hrest, joined_cons sep p (List.cons_ne_nil r rest)]
      cases ps with
      | nil =>
        rw [List.append_assoc]
        simp [joined]
      | cons q ps =>
        rw [joined_cons sep p (List.cons_ne_nil q ps), List.prefix_append_right_inj, ← hrest]
        exact ih

namespace Workspace

/-! ## The names among pieces -/

/-- The names that are followed for the pieces of a path. -/
def names (ps : List (List Char)) : List String :=
  (ps.filter fun piece => !piece.isEmpty).map String.ofList

theorem segments_eq_names (p : Path) : segments p = names (pieces '/' p.text.toList) := rfl

theorem names_append (ps qs : List (List Char)) : names (ps ++ qs) = names ps ++ names qs := by
  simp [names]

theorem names_nil_cons (ps : List (List Char)) : names ([] :: ps) = names ps := by
  simp [names]

theorem names_pieces_joined {ps : List (List Char)} (h : ∀ piece ∈ ps, '/' ∉ piece) :
    names (pieces '/' (joined ['/'] ps)) = names ps := by
  cases ps with
  | nil => rfl
  | cons p ps => rw [pieces_joined (List.cons_ne_nil p ps) h]

/-- Idle pieces are followed by staying, if at all. -/
theorem eq_dot_of_mem_names {ps : List (List Char)} (h : ∀ piece ∈ ps, Path.idle piece = true)
    {name : String} (hname : name ∈ names ps) : name = "." := by
  obtain ⟨piece, hpiece, rfl⟩ := List.mem_map.1 hname
  obtain ⟨hmem, hne⟩ := List.mem_filter.1 hpiece
  have hidle := h piece hmem
  rw [Path.idle, Bool.or_eq_true, beq_iff_eq, beq_iff_eq] at hidle
  rcases hidle with rfl | rfl
  · cases hne
  · rfl

theorem follow_dots {w : Workspace} {place last : List String} {dots : List String}
    (hdots : ∀ name ∈ dots, name = ".") (h : w.follow place dots = .ok last) : last = place := by
  induction dots with
  | nil => exact (Except.ok.inj h).symm
  | cons name dots ih =>
    obtain rfl := hdots name List.mem_cons_self
    simp only [follow] at h
    cases hstep : w.step place "." with
    | error e =>
      rw [hstep] at h
      cases h
    | ok next =>
      rw [hstep] at h
      obtain ⟨-, ⟨-, rfl⟩ | ⟨habove, -⟩ | ⟨hnot, -⟩⟩ := step_eq_ok_iff.1 hstep
      · exact ih (fun other hother => hdots other (List.mem_cons_of_mem _ hother)) h
      · exact absurd habove (by decide)
      · exact absurd rfl hnot

end Workspace

/-! ## The head and the body of a path -/

namespace Path

open Workspace

/-- A leading dot is a head only before a slash, so that the body starts with an empty piece. -/
theorem head_cases (cs : List Char) :
    head cs = [] ∨ head cs = ['/'] ∨ head cs = ['.'] ∧ ∃ more, body cs = [] :: more := by
  unfold body head
  split
  · exact .inr (.inl rfl)
  · exact .inr (.inr ⟨rfl, [], rfl⟩)
  · exact .inr (.inr ⟨rfl, _, rfl⟩)
  · exact .inl rfl

theorem head_append_body (cs : List Char) : head cs ++ joined ['/'] (body cs) = cs := by
  unfold body
  rw [joined_pieces]
  unfold head
  split <;> rfl

/-- The names of a path that has been cut between two pieces of its body. -/
theorem names_head_append {cs : List Char} {ps : List (List Char)} (h : ps <+: body cs) :
    names (pieces '/' (head cs ++ joined ['/'] ps)) =
      names (pieces '/' (head cs)) ++ names ps := by
  have hslash : ∀ piece ∈ ps, '/' ∉ piece :=
    fun piece hpiece => notMem_of_mem_pieces (h.subset hpiece)
  rcases head_cases cs with hhead | hhead | ⟨hhead, more, hbody⟩
  · rw [hhead, List.nil_append, names_pieces_joined hslash]
    rfl
  · have hpieces : pieces '/' ('/' :: joined ['/'] ps) = [] :: pieces '/' (joined ['/'] ps) := by
      rw [pieces, if_pos rfl]
    rw [hhead, List.singleton_append, hpieces, names_nil_cons, names_pieces_joined hslash]
    rfl
  · rw [hhead]
    rw [hbody] at h
    rcases ps with _ | ⟨piece, _ | ⟨next, ps⟩⟩
    · rfl
    · obtain rfl : piece = [] := by simpa using h
      rfl
    · obtain rfl : piece = [] := (List.cons_prefix_cons.1 h).1
      have hjoined : joined ['/'] ([] :: next :: ps) = '/' :: joined ['/'] (next :: ps) :=
        joined_cons ['/'] [] (List.cons_ne_nil next ps)
      rw [hjoined, pieces_append_sep, names_append, names_nil_cons, names_pieces_joined]
      exact fun q hq => hslash q (List.mem_cons_of_mem _ hq)

/-- A path that is cut after its head, or later, starts where it did. -/
theorem isAbsolute_head_append {p : Path} {ps : List (List Char)} (h : ps <+: body p.text.toList) :
    isAbsolute ⟨String.ofList (head p.text.toList ++ joined ['/'] ps)⟩ = p.isAbsolute := by
  have hprefix : head p.text.toList ++ joined ['/'] ps <+: p.text.toList := by
    conv_rhs => rw [← head_append_body p.text.toList]
    rw [List.prefix_append_right_inj]
    exact joined_prefix ['/'] h
  rw [Bool.eq_iff_iff, isAbsolute_iff, String.toList_ofList]
  constructor
  · intro hslash
    obtain ⟨rest, hrest⟩ := List.head?_eq_some_iff.1 hslash
    obtain ⟨more, hmore⟩ := hprefix
    rw [isAbsolute_iff, ← hmore, hrest]
    rfl
  · intro habsolute
    rw [isAbsolute, beq_iff_eq] at habsolute
    rw [habsolute]
    rfl

end Path

/-! ## The folder -/

namespace Companion

open SpecScaffold.Path SpecScaffold.Workspace

variable {p : Path} {own : String}

/-- What is cut off a path that ends in a name: the name, and the idle pieces before it. -/
theorem exists_folder_eq (hown : IsEntryName own) (hends : EndsInName p.text.toList own.toList) :
    ∃ ps idles, body p.text.toList = ps ++ idles ++ [own.toList] ∧
      (∀ piece ∈ idles, idle piece = true) ∧
      folder p = ⟨String.ofList (head p.text.toList ++ joined ['/'] ps)⟩ := by
  obtain ⟨front, hbody⟩ := exists_body_eq hown hends
  have hidle : idle own.toList = false := by
    cases hidle : idle own.toList with
    | false => rfl
    | true =>
      have hcomponent := hown.pieceComponent_eq
      rw [pieceComponent, if_pos hidle] at hcomponent
      cases hcomponent
  have hbackwards : backwards p.text.toList = own.toList :: front.reverse := by
    rw [backwards, hbody, List.reverse_append, List.reverse_singleton, List.singleton_append,
      List.dropWhile_cons_of_neg (by simp [hidle])]
  have hfront : (front.reverse.dropWhile idle).reverse ++ (front.reverse.takeWhile idle).reverse =
      front := by
    rw [← List.reverse_append, List.takeWhile_append_dropWhile, List.reverse_reverse]
  refine ⟨(front.reverse.dropWhile idle).reverse, (front.reverse.takeWhile idle).reverse, ?_, ?_,
    ?_⟩
  · rw [hbody, hfront]
  · intro piece hpiece
    exact List.mem_takeWhile_imp (List.mem_reverse.1 hpiece)
  · unfold folder parent?
    simp only [fileName?_of_endsInName hown hends, hbackwards]

theorem segments_eq_folder (hown : IsEntryName own)
    (hends : EndsInName p.text.toList own.toList) :
    ∃ dots, (∀ name ∈ dots, name = ".") ∧ segments p = segments (folder p) ++ dots ++ [own] := by
  obtain ⟨ps, idles, hbody, hidles, hfolder⟩ := exists_folder_eq hown hends
  have hprefix : ps <+: body p.text.toList := ⟨idles ++ [own.toList], by rw [hbody]; simp⟩
  have hlast : names [own.toList] = [own] := by
    simp [names, hown.ne_empty]
  refine ⟨names idles, fun name => eq_dot_of_mem_names hidles, ?_⟩
  have hwhole := names_head_append (List.prefix_refl (body p.text.toList))
  rw [head_append_body, hbody, names_append, names_append, hlast, ← List.append_assoc,
    ← List.append_assoc, ← names_head_append hprefix] at hwhole
  rw [segments_eq_names, hwhole, segments_eq_names, hfolder, String.toList_ofList]

theorem start_folder (hown : IsEntryName own) (hends : EndsInName p.text.toList own.toList)
    (w : Workspace) : w.start (folder p) = w.start p := by
  obtain ⟨ps, idles, hbody, -, hfolder⟩ := exists_folder_eq hown hends
  have hprefix : ps <+: body p.text.toList := ⟨idles ++ [own.toList], by rw [hbody]; simp⟩
  unfold start
  rw [hfolder, isAbsolute_head_append hprefix]

/-- A path to a file leads there through its folder, and ends in the name of the file. -/
theorem follow_folder_of_locate {w : Workspace} {place : List String} {content : Content}
    (h : w.locate p = .ok (place, .file content)) :
    ∃ dir own, p.fileName? = some own ∧ place = dir ++ [own] ∧
      w.follow (w.start (folder p)) (segments (folder p)) = .ok dir := by
  obtain ⟨hne, hfollow, hfind, hslash⟩ := opened_of_locate h
  obtain ⟨front, own, hsegments, hname, hnot, hends⟩ := exists_segments_eq hne (hslash rfl)
  obtain ⟨hdot, hdots⟩ := last_name_of_follow (hsegments ▸ hfollow) (occupant?_eq_file_iff.2 hfind)
  have hown : IsEntryName own := ⟨hname, hdot, hdots, hnot⟩
  obtain ⟨dots, hstay, hfolder⟩ := segments_eq_folder hown hends
  rw [hfolder, ← start_folder hown hends w] at hfollow
  obtain ⟨reached, hdir, hlast⟩ := follow_append_eq_ok_iff.1 hfollow
  obtain ⟨dir, hdir, hdots⟩ := follow_append_eq_ok_iff.1 hdir
  obtain rfl := follow_dots hstay hdots
  rw [follow_singleton] at hlast
  obtain ⟨-, ⟨hcurrent, -⟩ | ⟨hparent, -⟩ | ⟨-, -, -, -, rfl⟩⟩ := step_eq_ok_iff.1 hlast
  · exact absurd hcurrent hown.ne_current
  · exact absurd hparent hown.ne_parent
  · exact ⟨reached, own, fileName?_of_endsInName hown hends, rfl, hdir⟩

end Companion

end SpecScaffold
