import SpecScaffold.Proofs.Code.Insertion
import SpecScaffold.Proofs.Text.LineCount

/-!
# The line of an insertion

The line that a plan reports is found in three ways: it is zero in a blank document, the number of
lines before a line that closes a group, and the number of all lines at the end of a document.  What
stands before the offset is whole lines in the first two cases, and then there are as many lines as
line feeds.  At the end of a document the last line may be open, and it counts as well:

    line_of_plan : the line is the number of line feeds before the offset, and one more exactly
      where the text goes after a line without a line feed
-/

namespace SpecScaffold

namespace Insertion

open Text

/-- The lines before a line that closes a group have a line feed each. -/
theorem length_before_closing {document closing : List Char} {before : List (List Char)}
    (h : lastClosing? document = some (before, closing)) :
    before.length = before.reverse.flatten.count '\n' := by
  obtain ⟨after, hlines, -, -⟩ := lastClosing?_eq_some_iff.1 h
  have hwhole := isWholeLines_of_fullLines hlines (by simp)
  rw [← hwhole.length_fullLines, (fullLines_flatten hlines (by simp)).1, List.length_reverse]

/-- What is inserted goes to the end of the document, after a line that has no line feed. -/
structure FollowsOpenLine (document : String) (joinsGroup : Bool) : Prop where
  not_blank : trim document.toList ≠ []
  no_group : joinsGroup = true → ∀ line ∈ fullLines document.toList, closesGroup line = false
  no_lineFeed : document.toList.getLast? ≠ some '\n'

/-- The line of an insertion.  The offset of a plan is never past the end of the document nor inside
a character.  The line is the number of line feeds before the offset, except where the text follows
a line without a line feed: there it is one more. -/
theorem line_of_plan (document generated : String) (hasImport joinsGroup : Bool) :
    ∃ i before after, plan document generated hasImport joinsGroup = i ∧
      document.toList = before ++ after ∧ i.offset = byteLength before ∧
      i.applyTo? document = some (String.ofList (before ++ i.text.toList ++ after)) ∧
      (¬FollowsOpenLine document joinsGroup → i.line = before.count '\n') ∧
      (FollowsOpenLine document joinsGroup → i.line = before.count '\n' + 1) := by
  rcases plan_cases document generated hasImport joinsGroup with
    ⟨hblank, hplan⟩ | ⟨rfl, before, closing, after, hclosing, hdoc, hplan⟩ | ⟨hblank, hgroup, hplan⟩
  · exact ⟨_, [], document.toList, hplan, rfl, rfl, applyTo?_eq_some rfl rfl,
      fun _ => rfl, fun h => absurd hblank h.not_blank⟩
  · refine ⟨_, before.reverse.flatten, _, hplan, hdoc, rfl,
      applyTo?_eq_some hdoc rfl, fun _ => length_before_closing hclosing, fun hfollows => ?_⟩
    -- a document with a line that closes a group gets nothing at its end
    rw [lastClosing?_eq_none_iff.2 (hfollows.no_group rfl)] at hclosing
    cases hclosing
  · have hne : document.toList ≠ [] := by
      intro hnil
      exact hblank (by rw [hnil]; rfl)
    have hdoc : document.toList = document.toList ++ [] := (List.append_nil _).symm
    refine ⟨_, document.toList, [], hplan, hdoc, rfl,
      applyTo?_eq_some hdoc rfl, fun hfollows => ?_, fun hfollows => ?_⟩
    · have hlast : document.toList.getLast? = some '\n' := by
        by_contra hopen
        exact hfollows ⟨hblank, fun hjoins => lastClosing?_eq_none_iff.1 (hgroup hjoins), hopen⟩
      exact ((isWholeLines_iff hne).2 hlast).length_fullLines
    · exact length_fullLines_of_open fun hwhole =>
        hfollows.no_lineFeed ((isWholeLines_iff hne).1 hwhole)

/-- A document without a line feed, to whose end the text goes. -/
theorem line_after_open_line :
    ¬∀ (document generated : String) (hasImport joinsGroup : Bool) (before after : List Char),
      document.toList = before ++ after →
        (plan document generated hasImport joinsGroup).offset = byteLength before →
          (plan document generated hasImport joinsGroup).line = before.count '\n' := by
  intro hall
  have hline := hall "const x = 1;" "run();\n" false true "const x = 1;".toList [] rfl
    (by decide +kernel)
  revert hline
  decide +kernel

end Insertion

end SpecScaffold
