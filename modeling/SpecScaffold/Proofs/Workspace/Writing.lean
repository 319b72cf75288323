import SpecScaffold.Proofs.Workspace.Occupant

/-!
# Writing through a path

`WritesAt w p dir name` says what it takes to write a file through a path: its directory is reached,
and no directory stands under its last name.  It holds exactly when `locateForWriting` succeeds, and
goes on holding after the write, so a sequence of touching, reading and writing one path works on
one place from the first success on.

    locateForWriting_eq_ok_iff : w.locateForWriting p = .ok place ↔
      ∃ dir name, place = dir ++ [name] ∧ WritesAt w p dir name
    WritesAt.occupant?_putText : only the place that is written changes
    touch_cases : a path that cannot be touched leaves no trace; one that can holds a file then
-/

namespace SpecScaffold.Workspace

open Text

/-- A file can be written through `p`, and is then `name` in the directory at `dir`. -/
structure WritesAt (w : Workspace) (p : Path) (dir : List String) (name : String) : Prop where
  opened : checkOpened p = .ok ()
  noSlash : endsInSlash p = false
  last : (segments p).getLast? = some name
  fits : byteLength name.toList ≤ maxName
  notHere : name ≠ "."
  notAbove : name ≠ ".."
  reached : w.follow (w.start p) (segments p).dropLast = .ok dir
  directory : w.occupant? dir = some .directory
  free : w.occupant? (dir ++ [name]) ≠ some .directory

/-- No directory stands one name further. -/
theorem occupant?_append_singleton_ne_directory_iff {w : Workspace} {place : List String}
    {es : List (String × Entry)} (h : w.tree.find? place = some (.dir es)) (name : String) :
    w.occupant? (place ++ [name]) ≠ some .directory ↔ ∀ sub, es.lookup name ≠ some (.dir sub) := by
  rw [occupant?_append_singleton h]
  cases es.lookup name with
  | none => simp
  | some e => cases e <;> simp [Entry.occupant]

theorem locateForWriting_eq_ok_iff {w : Workspace} {p : Path} {place : List String} :
    w.locateForWriting p = .ok place ↔
      ∃ dir name, place = dir ++ [name] ∧ WritesAt w p dir name := by
  constructor
  · intro h
    unfold locateForWriting at h
    cases hopen : checkOpened p with
    | error e => rw [hopen] at h; cases h
    | ok u =>
      rw [hopen] at h
      cases hfollow : w.follow (w.start p) (segments p).dropLast with
      | error e => rw [hfollow] at h; cases h
      | ok dir =>
        rw [hfollow] at h
        simp only at h
        split at h
        · cases h
        · cases h
        · cases h
        · next name es hlast hfind =>
          split at h
          · cases h
          · next hname =>
            split at h
            · cases h
            · next hfits =>
              simp only [Bool.or_eq_true, beq_iff_eq, not_or, Bool.not_eq_true] at hname
              have hfree : ∀ sub, es.lookup name ≠ some (.dir sub) := by
                intro sub hl
                rw [hl] at h
                cases h
              refine ⟨dir, name, ?_, hopen, hname.2, hlast, by omega, hname.1.1, hname.1.2,
                hfollow, occupant?_eq_directory_iff.2 ⟨es, hfind⟩,
                (occupant?_append_singleton_ne_directory_iff hfind name).2 hfree⟩
              split at h
              · cases h
              · exact (Except.ok.inj h).symm
  · rintro ⟨dir, name, rfl, h⟩
    obtain ⟨es, hfind⟩ := occupant?_eq_directory_iff.1 h.directory
    have hfree := (occupant?_append_singleton_ne_directory_iff hfind name).1 h.free
    have hfits : ¬maxName < byteLength name.toList := Nat.not_lt.2 h.fits
    unfold locateForWriting
    rw [h.opened, h.reached, h.last]
    simp only [hfind, beq_eq_false_iff_ne.2 h.notHere, beq_eq_false_iff_ne.2 h.notAbove,
      h.noSlash, hfits, Bool.or_false, Bool.false_eq_true, if_false]

/-! ## After a write -/

section

variable {w : Workspace} {p : Path} {dir : List String} {name : String}

/-- Only the place that is written changes. -/
theorem WritesAt.occupant?_putText (h : WritesAt w p dir name) (text : String)
    (other : List String) :
    (w.putText (dir ++ [name]) text).occupant? other =
      if other = dir ++ [name] then some (.file (.text text)) else w.occupant? other := by
  obtain ⟨es, hfind⟩ := occupant?_eq_directory_iff.1 h.directory
  have hfree := (occupant?_append_singleton_ne_directory_iff hfind name).1 h.free
  exact Entry.occupant_find?_put (.text text) hfind hfree other

theorem WritesAt.keeps_putText (h : WritesAt w p dir name) (text : String) :
    Keeps w (w.putText (dir ++ [name]) text) where
  directory := by
    intro place hdir
    have hne : place ≠ dir ++ [name] := fun he => h.free (he ▸ hdir)
    rw [h.occupant?_putText, if_neg hne]
    exact hdir
  isSome := by
    intro place hsome
    rw [h.occupant?_putText]
    split
    · rfl
    · exact hsome
  here := rfl

/-- A path that a file has been written through can be written through again. -/
theorem WritesAt.putText (h : WritesAt w p dir name) (text : String) :
    WritesAt (w.putText (dir ++ [name]) text) p dir name where
  opened := h.opened
  noSlash := h.noSlash
  last := h.last
  fits := h.fits
  notHere := h.notHere
  notAbove := h.notAbove
  reached := (h.keeps_putText text).follow h.reached
  directory := (h.keeps_putText text).directory dir h.directory
  free := by
    rw [h.occupant?_putText, if_pos rfl]
    simp

theorem WritesAt.segments_eq (h : WritesAt w p dir name) :
    segments p = (segments p).dropLast ++ [name] := by
  obtain ⟨init, hinit⟩ := List.getLast?_eq_some_iff.1 h.last
  rw [hinit, List.dropLast_concat]

/-- The names of the path lead to the file, once there is one. -/
theorem WritesAt.follow_eq (h : WritesAt w p dir name)
    (hsome : (w.occupant? (dir ++ [name])).isSome) :
    w.follow (w.start p) (segments p) = .ok (dir ++ [name]) := by
  have hstep : w.step dir name = .ok (dir ++ [name]) :=
    step_eq_ok_iff.2 ⟨h.directory, .inr (.inr ⟨h.notHere, h.notAbove, h.fits, hsome, rfl⟩)⟩
  rw [h.segments_eq, follow_append, h.reached]
  simp only [follow, hstep]

/-- Where something stands already, writing and reading go to the same place. -/
theorem WritesAt.reach_eq (h : WritesAt w p dir name) {e : Entry}
    (he : w.tree.find? (dir ++ [name]) = some e) :
    w.reach p = .ok (dir ++ [name], e) := by
  have hfollow := h.follow_eq (by simp [occupant?, he])
  unfold reach
  simp only [hfollow, he, h.noSlash, Bool.false_and, if_false, Bool.false_eq_true]

theorem WritesAt.locate_eq (h : WritesAt w p dir name) {e : Entry}
    (he : w.tree.find? (dir ++ [name]) = some e) :
    w.locate p = .ok (dir ++ [name], e) := by
  unfold locate
  rw [h.opened]
  exact h.reach_eq he

theorem checkPath_of_checkOpened (h : checkOpened p = .ok ()) : checkPath p = .ok () := by
  unfold checkOpened at h
  cases hc : checkPath p with
  | error e => rw [hc] at h; cases h
  | ok u => rfl

theorem WritesAt.place?_eq (h : WritesAt w p dir name) {e : Entry}
    (he : w.tree.find? (dir ++ [name]) = some e) :
    w.place? p = some (dir ++ [name]) := by
  unfold place?
  rw [checkPath_of_checkOpened h.opened, h.reach_eq he]

theorem WritesAt.locateForWriting_eq (h : WritesAt w p dir name) :
    w.locateForWriting p = .ok (dir ++ [name]) :=
  locateForWriting_eq_ok_iff.2 ⟨dir, name, rfl, h⟩

end

/-! ## Touching -/

/-- A path that cannot be touched leaves no trace.  One that can names a file afterwards: the one
that was there, or an empty one. -/
theorem touch_cases (w : Workspace) (p : Path) :
    (∃ e, w.touch p = .error e) ∨
      ∃ dir name, WritesAt w p dir name ∧
        ((∃ content, w.occupant? (dir ++ [name]) = some (.file content) ∧ w.touch p = .ok w) ∨
          w.occupant? (dir ++ [name]) = none ∧
            w.touch p = .ok (w.putText (dir ++ [name]) "")) := by
  unfold touch
  cases hl : w.locateForWriting p with
  | error e => exact .inl ⟨e, rfl⟩
  | ok place =>
    obtain ⟨dir, name, rfl, h⟩ := locateForWriting_eq_ok_iff.1 hl
    refine .inr ⟨dir, name, h, ?_⟩
    cases hf : w.tree.find? (dir ++ [name]) with
    | none => exact .inr ⟨occupant?_eq_none_iff.2 hf, by simp only [hf]⟩
    | some e =>
      cases e with
      | file content => exact .inl ⟨content, occupant?_eq_file_iff.2 hf, by simp only [hf]⟩
      | dir es => exact absurd (occupant?_eq_directory_iff.2 ⟨es, hf⟩) h.free

end SpecScaffold.Workspace
