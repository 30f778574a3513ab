import Mathlib.Algebra.BigOperators.Group.List.Basic
import ParseRepair.Proofs.Recovery.Repair

namespace ParseRepair.Recovery

open Text

def Report.driftBefore (r : Report) (n : Nat) : Int :=
  ((r.patches.filter fun p => decide (p.line < (n : Int))).map Patch.lengthDelta).sum

def lineSpan (n : Nat) (t : Text) : Nat × Nat := (lineStart n t, lineStart (n + 1) t)

/-- How the text of a repair lies over its source, both with LF behind every line. -/
structure Geometry (source : Text) (r : Repair) (after : List Text) : Prop where
  count : after.length = (sourceLines source).length
  text : r.text = unlines after
  unbroken : ∀ l ∈ after, '\r' ∉ l ∧ '\n' ∉ l
  reread : Line.numbered <$> (Source.text r.text).lines = .ok (after.mapIdx fun i l => ⟨i + 1, l⟩)
  start : ∀ i, 1 ≤ i → i ≤ after.length →
    (lineStart i r.text : Int) - lineStart i (withLineFeeds source) = r.report.driftBefore i
  kept : ∀ i, 1 ≤ i → i ≤ after.length → (∀ p ∈ r.report.patches, p.line ≠ i) →
    after[i - 1]? = (sourceLines source)[i - 1]?
  steady : r.report.driftingLines = [] →
    r.text.length = (withLineFeeds source).length ∧
    ∀ i, 1 ≤ i → i ≤ after.length → lineSpan i r.text = lineSpan i (withLineFeeds source)
  steady_until : ∀ d rest, r.report.driftingLines = d :: rest →
    ∃ k : Nat, d = k ∧ 1 ≤ k ∧ k ≤ after.length ∧
      lineStart k r.text = lineStart k (withLineFeeds source) ∧
      ∀ i, 1 ≤ i → i < k → lineSpan i r.text = lineSpan i (withLineFeeds source)

theorem Report.driftBefore_eq_zero (r : Report) (n : Nat)
    (later : ∀ d ∈ r.driftingLines, (n : Int) ≤ d) : r.driftBefore n = 0 := by
  apply List.sum_eq_zero
  intro delta member
  obtain ⟨p, early, rfl⟩ := List.mem_map.mp member
  obtain ⟨recorded, before⟩ := List.mem_filter.mp early
  by_cases kept : p.lengthDelta = 0
  · exact kept
  · have drifts : p.line ∈ r.driftingLines := by
      apply List.mem_map_of_mem
      exact List.mem_filter.mpr ⟨recorded, by simpa [Patch.preservesLength] using kept⟩
    have bound := later _ drifts
    have before : p.line < n := by simpa using before
    omega

section

variable (m : Method) (c : Classified) (t : Text)

theorem lineStart_ofText (n : Nat) (bound : n ≤ (sourceLines t).length + 1) :
    (lineStart n (Repair.ofText m c t).text : Int) =
      lineStart n (withLineFeeds t) +
        (Repair.ofText m c t).report.driftBefore n := by
  let early := (Line.numbered (sourceLines t)).take (n - 1)
  have before : early.map Line.text = (sourceLines t).take (n - 1) := by
    rw [List.map_take, Line.map_text_numbered]
  have after : unlines ((Repair.linesAfter m c t).take (n - 1)) =
      (Repair.ofLines m c early).text := by
    rw [Repair.linesAfter, ← List.map_take]
    rfl
  have fits : n ≤ (Repair.linesAfter m c t).length + 1 := by
    rw [Repair.length_linesAfter]
    exact bound
  have moved := Repair.length_ofLines m c early
  rw [before] at moved
  rw [Repair.text_ofText, lineStart_unlines n _ (Repair.unbroken_linesAfter m c t) fits, after,
    ← unlines_sourceLines, lineStart_unlines n _ (fun l member => unbroken_of_mem_sourceLines member) bound,
    Report.driftBefore, Repair.filter_patches]
  exact moved

theorem lineStart_end (ls : List Text) (whole : ∀ l ∈ ls, Unbroken l) :
    lineStart (ls.length + 1) (unlines ls) = (unlines ls).length := by
  rw [lineStart_unlines _ ls whole (Nat.le_refl _), Nat.add_sub_cancel, List.take_length]

theorem aligned_ofText (n : Nat) (bound : n ≤ (sourceLines t).length + 1)
    (later : ∀ d ∈ (Repair.ofText m c t).report.driftingLines, (n : Int) ≤ d) :
    lineStart n (Repair.ofText m c t).text =
      lineStart n (withLineFeeds t) := by
  have moved := lineStart_ofText m c t n bound
  rw [Report.driftBefore_eq_zero _ n later] at moved
  omega

theorem lineSpan_ofText (n : Nat) (bound : n ≤ (sourceLines t).length)
    (later : ∀ d ∈ (Repair.ofText m c t).report.driftingLines,
      (n : Int) + 1 ≤ d) :
    lineSpan n (Repair.ofText m c t).text = lineSpan n (withLineFeeds t) := by
  have begins := aligned_ofText m c t n (by omega) fun d member => by
    have after := later d member
    omega
  have ends := aligned_ofText m c t (n + 1) (by omega) later
  rw [lineSpan, lineSpan, begins, ends]

theorem length_of_steady
    (steady : (Repair.ofText m c t).report.driftingLines = []) :
    (Repair.ofText m c t).text.length = (withLineFeeds t).length := by
  have last := aligned_ofText m c t ((sourceLines t).length + 1) (Nat.le_refl _) (by simp [steady])
  have ending := lineStart_end (sourceLines t) fun l member => unbroken_of_mem_sourceLines member
  have ending' := lineStart_end _ (Repair.unbroken_linesAfter m c t)
  rw [Repair.length_linesAfter] at ending'
  rw [unlines_sourceLines] at ending
  rw [Repair.text_ofText] at last ⊢
  rw [← ending, ← ending', last]

theorem first_drifting {d : Int} {rest : List Int}
    (drifting : (Repair.ofText m c t).report.driftingLines = d :: rest) :
    ∃ k : Nat, d = k ∧ 1 ≤ k ∧ k ≤ (sourceLines t).length ∧
      ∀ other ∈ (Repair.ofText m c t).report.driftingLines, (k : Int) ≤ other := by
  have order : (d :: rest).Pairwise (· < ·) := by
    rw [← drifting, Report.driftingLines, List.pairwise_map]
    exact (Repair.increasing_patches m c t).filter _
  have drifts : d ∈ (d :: rest) := List.mem_cons_self
  rw [← drifting] at drifts
  obtain ⟨p, recorded, rfl⟩ := List.mem_map.mp drifts
  obtain ⟨l, origin, changed⟩ := (Repair.mem_patches m c t p).mp (List.mem_filter.mp recorded).1
  have place := Line.line_of_repair? changed
  refine ⟨l.number, place, ((Line.mem_numbered _ l).mp origin).1, Line.number_le origin, ?_⟩
  intro other member
  rw [drifting] at member
  rw [← place]
  rcases List.mem_cons.mp member with rfl | member
  · exact Int.le_refl _
  · exact Int.le_of_lt ((List.pairwise_cons.mp order).1 other member)

theorem geometry_ofText : Geometry t (Repair.ofText m c t)
    (Repair.linesAfter m c t) where
  count := Repair.length_linesAfter m c t
  text := rfl
  unbroken l member :=
    ⟨(Repair.unbroken_linesAfter m c t l member).no_return, (Repair.unbroken_linesAfter m c t l member).no_feed⟩
  reread := by
    show Except.ok (Line.numbered (sourceLines _)) = _
    rw [Repair.sourceLines_ofText, Line.numbered_eq_mapIdx]
  start i _ bound := by
    rw [Repair.length_linesAfter] at bound
    have moved := lineStart_ofText m c t i (by omega)
    omega
  kept i positive bound untouched := by
    rw [Repair.length_linesAfter] at bound
    by_contra differs
    obtain ⟨p, recorded, place⟩ := (Repair.exists_patch_iff m c t i positive bound).mpr differs
    exact untouched p recorded place
  steady none_drifts := by
    refine ⟨length_of_steady m c t none_drifts, fun i _ bound => ?_⟩
    rw [Repair.length_linesAfter] at bound
    exact lineSpan_ofText m c t i bound (by simp [none_drifts])
  steady_until d rest drifting := by
    obtain ⟨k, place, positive, bound, least⟩ := first_drifting m c t drifting
    rw [Repair.length_linesAfter]
    refine ⟨k, place, positive, bound, aligned_ofText m c t k (by omega) least, fun i _ early => ?_⟩
    apply lineSpan_ofText m c t i (by omega)
    intro other member
    have first := least other member
    omega

end

/-- Whatever the diagnostics, the pipeline and the padding, a repair keeps the lines of its source
apart and accounts for every offset it moves. -/
theorem ofSource_geometry (m : Method) (c : Classified) (s : Source) (t : Text) (read : s.read = .ok t) :
    ∃ r after, (Repair.ofSource m c s).outcome = .ok r ∧ Geometry t r after :=
  ⟨_, _, Repair.ofSource_outcome m c s t read, geometry_ofText m c t⟩

theorem geometry_of_bytes :
    (Source.bytes (Utf8.encode "é = 5\r\n** GOTO a")).read = .ok "é = 5\r\n** GOTO a".toList ∧
      ∃ r after, (Repair.ofSource ⟨Strategy.all, false⟩
          ⟨[(1, [.locatedAt "Parse error. Found \"a\", expected one of >>>=" 1])], []⟩
          (.bytes (Utf8.encode "é = 5\r\n** GOTO a"))).outcome = .ok r ∧
        Geometry "é = 5\r\n** GOTO a" r after ∧ r.report.driftingLines = [1, 2] := by
  have read : (Source.bytes (Utf8.encode "é = 5\r\n** GOTO a")).read = .ok "é = 5\r\n** GOTO a".toList := by
    decide +kernel
  obtain ⟨r, after, ran, geometry⟩ := ofSource_geometry ⟨Strategy.all, false⟩
    ⟨[(1, [.locatedAt "Parse error. Found \"a\", expected one of >>>=" 1])], []⟩ _ _ read
  have drifting : (Repair.ofSource ⟨Strategy.all, false⟩
      ⟨[(1, [.locatedAt "Parse error. Found \"a\", expected one of >>>=" 1])], []⟩
      (.bytes (Utf8.encode "é = 5\r\n** GOTO a"))).outcome.toOption.map (·.report.driftingLines) =
        some [1, 2] := by
    decide +kernel
  rw [ran] at drifting
  exact ⟨read, r, after, ran, geometry, Option.some.inj drifting⟩

end ParseRepair.Recovery
