import ParseRepair.Diff.Preview
import ParseRepair.Proofs.Diff.Patching
import ParseRepair.Proofs.Terminal.Apart

namespace ParseRepair.Diff

open Terminal (strip)
open Text

theorem escapeBreaks_of_unbroken {l : Text} (whole : Unbroken l) : escapeBreaks l = l := by
  induction l with
  | nil => rfl
  | cons c l ih =>
    have inside : isLineEnd c = false := whole c List.mem_cons_self
    have tail := ih (whole.mono (List.subset_cons_self c l))
    rw [isLineEnd, Bool.or_eq_false_iff] at inside
    rw [escapeBreaks, List.flatMap_cons, inside.1, inside.2, if_neg Bool.false_ne_true, if_neg Bool.false_ne_true]
    exact congrArg (c :: ·) tail

theorem strip_previewLine {l : Text} (whole : Unbroken l) : strip (previewLine l) = strip l := by
  rw [previewLine, Terminal.strip_paint, escapeBreaks_of_unbroken whole]

theorem previewLines_eq (ls : List Text) : previewLines false ls = unlines (ls.map previewLine) := by
  have lines : (ls.zipIdx 1).map (previewLine ∘ Prod.fst) = ls.map previewLine := by
    rw [← List.map_map, List.zipIdx_map_fst]
  exact congrArg unlines lines

theorem preview_unlines {ls : List Text} (whole : ∀ l ∈ ls, OneLine l) :
    preview false (unlines ls) = unlines (ls.map previewLine) := by
  rw [preview, displayLines_unlines whole, previewLines_eq]

theorem strip_preview {ls : List Text} (whole : ∀ l ∈ ls, OneLine l) :
    (ls.map previewLine).map strip = ls.map strip := by
  rw [List.map_map]
  apply List.map_congr_left
  intro l member
  exact strip_previewLine (whole l member).unbroken

end ParseRepair.Diff
