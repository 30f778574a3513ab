import ParseRepair.Diff.Unified
import ParseRepair.Proofs.Diff.Alignment
import ParseRepair.Proofs.Text.Lines

namespace ParseRepair.Diff

open Text

theorem hunksFrom_some_ne_nil (i j : Nat) (h : Hunk) (segments : List (Segment Text)) :
    hunksFrom i j (some h) segments ≠ [] := by
  induction segments generalizing i j h with
  | nil => exact List.cons_ne_nil h []
  | cons s r ih =>
    cases s with
    | changed old new => exact ih _ _ _
    | same xs =>
      cases r with
      | nil => exact List.cons_ne_nil _ _
      | cons s r =>
        simp only [hunksFrom]
        split
        · exact List.cons_ne_nil _ _
        · exact ih _ _ _

theorem unchanged_of_no_hunk {segments : List (Segment Text)} (nothing : hunksFrom 0 0 none segments = []) :
    ∀ s ∈ segments, s.isChanged = false := by
  cases segments with
  | nil => exact fun s member => absurd member List.not_mem_nil
  | cons s r =>
    cases s with
    | changed old new => exact absurd nothing (hunksFrom_some_ne_nil _ _ _ r)
    | same xs =>
      cases r with
      | nil =>
        intro s member
        rw [List.mem_singleton.mp member]
        rfl
      | cons s r => exact absurd nothing (hunksFrom_some_ne_nil _ _ _ (s :: r))

theorem hunks_eq_nil_iff (old new : List Text) : hunks old new = [] ↔ old = new := by
  constructor
  · intro nothing
    exact eq_of_unchanged (covers_align old new) (unchanged_of_no_hunk nothing)
  · rintro rfl
    cases old with
    | nil => rfl
    | cons l ls =>
      rw [hunks, align_self _ (List.cons_ne_nil l ls)]
      rfl

theorem unifiedLines_eq_nil_iff (name : Text) (old new : List Text) :
    unifiedLines name old new = [] ↔ old = new := by
  rw [← hunks_eq_nil_iff old new, unifiedLines]
  cases hunks old new with
  | nil => exact iff_of_true rfl rfl
  | cons h hs => exact iff_of_false (List.cons_ne_nil _ _) (List.cons_ne_nil h hs)

/-- There is nothing to show exactly if a display shows the same lines of both texts. -/
theorem unified_eq_nil_iff (name old new : Text) :
    unified name old new = [] ↔ displayLines old = displayLines new := by
  rw [← unifiedLines_eq_nil_iff name, unified, diffLines]
  cases unifiedLines name (displayLines old) (displayLines new) with
  | nil => exact iff_of_true rfl rfl
  | cons l ls => simp

end ParseRepair.Diff
