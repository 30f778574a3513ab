import Mathlib.Logic.Function.Iterate
import ParseRepair.Proofs.Recovery.Drift
import ParseRepair.Proofs.Recovery.Visibility

namespace ParseRepair.Recovery

open Text

def cleaned (pad : Bool) (u : Text) : Text := Line.apply pad u (decompilerArtifacts u)

/-- Half of the stars on the line that has the most of them. -/
def mostMarks (t : Text) : Nat := ((sourceLines t).map (List.count '*')).max?.getD 0 / 2

section Stars

variable {p q t u v : Text}

theorem count_replaceAll (marked : contains t p = true) (old : p.count '*' = 2) (new : q.count '*' = 0) :
    (replaceAll p q t).count '*' + 2 ≤ t.count '*' := by
  have some_char : p ≠ [] := by
    intro empty
    rw [empty] at old
    cases old
  have positive := occurrences_pos marked some_char
  have counted := countP_replaceAll (· == '*') p q t some_char
  simp only [← List.count_eq_countP, old, new] at counted
  omega

theorem count_fitLength (pad : Bool) (shorter : v.length ≤ u.length) : (fitLength pad u v).count '*' = v.count '*' := by
  have notLonger : ¬ u.length < v.length := by omega
  have filler : (List.replicate (u.length - v.length) ' ').count '*' = 0 := by
    rw [List.count_replicate]
    rfl
  cases pad with
  | false => simp [fitLength, notLonger]
  | true => simp [fitLength, notLonger, filler]

theorem count_edit (pad : Bool) (edit : decompilerArtifacts u = .edit v) :
    (fitLength pad u v).count '*' + 2 ≤ u.count '*' := by
  have edits : Edits {} u .decompilerArtifacts v := edits_of_verdict edit
  have shrinks := (markDrift_of_edits edits).neg
  rw [count_fitLength pad (by omega)]
  cases edits with
  | continues marked => exact count_replaceAll marked rfl rfl
  | cases _ marked => exact count_replaceAll marked rfl rfl
  | jumps _ _ marked =>
    rw [List.count_append]
    exact count_replaceAll marked rfl rfl

theorem mark_of_comment (comment : decompilerArtifacts u = .commentOut) : ("** " : Text) <:+: u := by
  have comments : Comments {} u .decompilerArtifacts := comments_of_verdict comment
  cases comments with
  | pseudocode _ _ _ begins => exact ((startsWith_iff _ _).mp begins).isInfix.trans (trim_part u)

theorem count_comment (comment : decompilerArtifacts u = .commentOut) : 2 ≤ u.count '*' := by
  have stars := (mark_of_comment comment).sublist.count_le '*'
  exact stars

end Stars

section Comment

variable {u : Text}

theorem not_contains_comment {p r : Text} (star : p.head? = some '*') (missing : contains r p = false) :
    contains ('/' :: '/' :: r) p = false := by
  obtain ⟨p, rfl⟩ := List.head?_eq_some_iff.mp star
  rw [← Bool.not_eq_true, contains_iff] at missing ⊢
  simpa [List.infix_cons_iff, List.cons_prefix_cons] using missing

theorem not_begins_comment (r : Text) : startsWith "** " (trim ('/' :: '/' :: r)) = false := by
  have kept : trimLeft ('/' :: '/' :: r) = '/' :: '/' :: r := List.dropWhile_cons_of_neg (by decide)
  rw [← Bool.not_eq_true, startsWith_iff, trim, kept]
  intro begins
  have front := begins.trans (trimRight_begin _)
  exact absurd (List.cons_prefix_cons.mp front).1 (by decide)

theorem leave_of_comment (comment : decompilerArtifacts u = .commentOut) :
    decompilerArtifacts (commentOut u) = .leave := by
  have room := (mark_of_comment comment).length_le
  have comments : Comments {} u .decompilerArtifacts := comments_of_verdict comment
  match u, room with
  | a :: b :: r, _ =>
    have tail {p : Text} (missing : contains (a :: b :: r) p = false) : contains r p = false := by
      have part : r <:+: a :: b :: r := (List.suffix_append [a, b] r).isInfix
      rw [← Bool.not_eq_true] at missing ⊢
      exact mt (contains_of_part part) missing
    cases comments with
    | pseudocode noContinue noCase noJump _ =>
      have continues := not_contains_comment (p := "** continue;") rfl (tail noContinue)
      have cases := not_contains_comment (p := "** case ") rfl (tail noCase)
      have jumps := not_contains_comment (p := "** GOTO ") rfl (tail noJump)
      simp only [commentOut, decompilerArtifacts, continues, cases, jumps, not_begins_comment, Bool.false_eq_true,
        if_false]

end Comment

section Line

variable (pad : Bool) {u v : Text}

theorem cleaned_of_leave (left : decompilerArtifacts u = .leave) : cleaned pad u = u := by
  rw [cleaned, left, Line.apply]

theorem cleaned_of_comment (comment : decompilerArtifacts u = .commentOut) : cleaned pad u = commentOut u := by
  rw [cleaned, comment, Line.apply]

theorem cleaned_of_edit (edit : decompilerArtifacts u = .edit v) : cleaned pad u = fitLength pad u v := by
  rw [cleaned, edit, Line.apply]

theorem cleaned_commentOut (comment : decompilerArtifacts u = .commentOut) :
    cleaned pad (commentOut u) = commentOut u :=
  cleaned_of_leave pad (leave_of_comment comment)

/-- Each pass that changes a line takes two stars from it, but for the last one, which needs two and comments
the line out. -/
theorem cleaned_settled (k : Nat) (u : Text) (bound : u.count '*' / 2 ≤ k) :
    cleaned pad ((cleaned pad)^[k] u) = (cleaned pad)^[k] u := by
  induction k generalizing u with
  | zero =>
    cases verdict : decompilerArtifacts u with
    | leave => exact cleaned_of_leave pad verdict
    | commentOut =>
      have stars := count_comment verdict
      omega
    | edit v =>
      have stars := count_edit pad verdict
      omega
  | succ k ih =>
    rw [Function.iterate_succ_apply]
    cases verdict : decompilerArtifacts u with
    | leave =>
      have fixed := cleaned_of_leave pad verdict
      rw [fixed, Function.iterate_fixed fixed, fixed]
    | commentOut =>
      have fixed := cleaned_commentOut pad verdict
      rw [cleaned_of_comment pad verdict, Function.iterate_fixed fixed, fixed]
    | edit v =>
      have stars := count_edit pad verdict
      rw [cleaned_of_edit pad verdict]
      exact ih _ (by omega)

theorem iterate_of_comment {j n : Nat} (later : j < n)
    (comment : decompilerArtifacts ((cleaned pad)^[j] u) = .commentOut) :
    (cleaned pad)^[n] u = commentOut ((cleaned pad)^[j] u) := by
  obtain ⟨d, rfl⟩ := Nat.exists_eq_add_of_le' later
  rw [Nat.add_succ, ← Nat.succ_add, Function.iterate_add_apply, Function.iterate_succ_apply,
    cleaned_of_comment pad comment,
    Function.iterate_fixed (cleaned_commentOut pad comment)]

theorem length_cleaned (u : Text) : (cleaned true u).length = u.length := by
  cases verdict : decompilerArtifacts u with
  | leave => rw [cleaned_of_leave true verdict]
  | commentOut => rw [cleaned_of_comment true verdict, length_commentOut]
  | edit v =>
    have edits : Edits {} u .decompilerArtifacts v := edits_of_verdict verdict
    have fitted := (fitted_marks true edits).1 rfl
    rw [cleaned_of_edit true verdict]
    omega

theorem length_iterate_cleaned (k : Nat) (u : Text) : ((cleaned true)^[k] u).length = u.length := by
  induction k with
  | zero => rfl
  | succ k ih => rw [Function.iterate_succ_apply', length_cleaned, ih]

theorem repaired_calm (l : Line) : l.repaired ⟨Strategy.all, pad⟩ {} = cleaned pad l.text := by
  by_cases left : Strategy.decompilerArtifacts.verdict {} l.text = .leave
  · have nothing : Pipeline.firstVerdict? {} l.text Strategy.all = none := firstVerdict?_cons_of_leave left
    have kept : l.repair? ⟨Strategy.all, pad⟩ {} = none := by
      simp only [Line.repair?, nothing, Option.bind_eq_bind, Option.bind_none]
    rw [Line.repaired_of_none kept, cleaned_of_leave pad left]
  · have fires : Pipeline.Fires Strategy.all {} l.text .decompilerArtifacts :=
      ⟨[], _, rfl, fun other member => absurd member List.not_mem_nil, left⟩
    rw [Line.repaired_of_fires fires]
    rfl

theorem comment_of_patch {l : Line} {p : Patch} (changed : l.repair? ⟨Strategy.all, pad⟩ {} = some p)
    (decided : p.decision = .lineComment) : decompilerArtifacts l.text = .commentOut := by
  obtain ⟨s, fires, _, rfl⟩ := (Line.repair?_eq_some_iff _ _ l p).mp changed
  have fired := fires.fired
  cases s with
  | decompilerArtifacts =>
    change (decompilerArtifacts l.text).decision = _ at decided
    cases verdict : decompilerArtifacts l.text with
    | commentOut => rfl
    | leave => exact absurd verdict fired
    | edit v =>
      rw [verdict] at decided
      cases decided
  | missingTerminator => exact absurd rfl fired
  | missingQuote => exact absurd rfl fired
  | curlyBraces => exact absurd rfl fired

end Line

structure Passes (pad : Bool) (s : Source) (sources : Nat → Source) (repairs : Nat → Repair) : Prop where
  start : sources 0 = s
  ran : ∀ k, (Repair.ofSource ⟨Strategy.all, pad⟩ {} (sources k)).outcome = .ok (repairs k)
  next : ∀ k, sources (k + 1) = .text (repairs k).text

/-- How passes over a text come to rest. -/
structure Rests (pad : Bool) (source : Text) (sources : Nat → Source) (repairs : Nat → Repair) : Prop where
  quiet : ∀ k, mostMarks source ≤ k → (repairs k).report.patches = []
  fixed : ∀ k, max 1 (mostMarks source) ≤ k → sources k = .text (repairs k).text
  commented : ∀ j k p, j < k → p ∈ (repairs j).report.patches → p.decision = .lineComment →
    (∀ q ∈ (repairs k).report.patches, q.line ≠ p.line) ∧
      (sourceLines (repairs k).text)[(p.line - 1).toNat]? = some p.after
  steady : pad = true → ∀ k, (repairs k).text.length = (withLineFeeds source).length

theorem linesAfter_calm (pad : Bool) (t : Text) :
    Repair.linesAfter ⟨Strategy.all, pad⟩ {} t = (sourceLines t).map (cleaned pad) := by
  have each (l : Line) : l.repaired ⟨Strategy.all, pad⟩ (.ofLine {} l.number) = (cleaned pad ∘ Line.text) l :=
    repaired_calm pad l
  unfold Repair.linesAfter
  rw [List.map_congr_left fun l _ => each l, ← List.map_map, Line.map_text_numbered]

theorem mark_le {t l : Text} (member : l ∈ sourceLines t) : l.count '*' / 2 ≤ mostMarks t :=
  Nat.div_le_div_right (List.le_max?_getD_of_mem (List.mem_map_of_mem member))

theorem settled_lines (pad : Bool) {t : Text} {k : Nat} (late : mostMarks t ≤ k) :
    (sourceLines t).map (cleaned pad)^[k + 1] = (sourceLines t).map (cleaned pad)^[k] := by
  apply List.map_congr_left
  intro l member
  have bound := mark_le member
  rw [Function.iterate_succ_apply']
  exact cleaned_settled pad k l (by omega)

theorem length_unlines_map {f : Text → Text} (same : ∀ l, (f l).length = l.length) (ls : List Text) :
    (unlines (ls.map f)).length = (unlines ls).length := by
  induction ls with
  | nil => rfl
  | cons l ls ih => simp only [List.map_cons, unlines_cons, List.length_append, List.length_cons, same, ih]

def textAfter (pad : Bool) (u : Text) : Text := (Repair.ofText ⟨Strategy.all, pad⟩ {} u).text

def passSource (pad : Bool) (s : Source) (t : Text) (k : Nat) : Source :=
  if k = 0 then s else .text ((textAfter pad)^[k] t)

theorem read_passSource {s : Source} {t : Text} (pad : Bool) (read : s.read = .ok t) (k : Nat) :
    (passSource pad s t k).read = .ok ((textAfter pad)^[k] t) := by
  cases k with
  | zero => exact read
  | succ k => rfl

theorem exists_passes {s : Source} {t : Text} (pad : Bool) (read : s.read = .ok t) :
    ∃ sources repairs, Passes pad s sources repairs := by
  refine ⟨passSource pad s t, fun k => Repair.ofText ⟨Strategy.all, pad⟩ {} ((textAfter pad)^[k] t), rfl, ?_, ?_⟩
  · intro k
    exact Repair.ofSource_outcome _ _ _ _ (read_passSource pad read k)
  · intro k
    show Source.text ((textAfter pad)^[k + 1] t) = _
    rw [Function.iterate_succ_apply']
    rfl

section Run

variable {pad : Bool} {s : Source} {t : Text} {sources : Nat → Source} {repairs : Nat → Repair}
  (passes : Passes pad s sources repairs)

include passes

theorem repairs_of_read {k : Nat} {u : Text} (read : (sources k).read = .ok u) :
    repairs k = Repair.ofText ⟨Strategy.all, pad⟩ {} u := by
  have outcome := passes.ran k
  rw [Repair.ofSource_outcome _ _ _ _ read] at outcome
  exact (Except.ok.inj outcome).symm

variable (read : s.read = .ok t)

include read

theorem lines_of_passes (k : Nat) :
    ∃ u, (sources k).read = .ok u ∧ sourceLines u = (sourceLines t).map (cleaned pad)^[k] := by
  induction k with
  | zero =>
    rw [passes.start]
    exact ⟨t, read, (List.map_id _).symm⟩
  | succ k ih =>
    obtain ⟨u, reads, lines⟩ := ih
    rw [passes.next, repairs_of_read passes reads]
    refine ⟨_, rfl, ?_⟩
    rw [Repair.sourceLines_ofText, linesAfter_calm, lines, List.map_map, Function.iterate_succ']

theorem lines_after (k : Nat) : sourceLines (repairs k).text = (sourceLines t).map (cleaned pad)^[k + 1] := by
  obtain ⟨u, reads, lines⟩ := lines_of_passes passes read (k + 1)
  rw [passes.next] at reads
  rw [Except.ok.inj reads, lines]

theorem text_of_passes (k : Nat) : (repairs k).text = unlines ((sourceLines t).map (cleaned pad)^[k + 1]) := by
  obtain ⟨u, reads, _⟩ := lines_of_passes passes read k
  rw [← lines_after passes read, repairs_of_read passes reads, Repair.sourceLines_ofText, Repair.text_ofText]

theorem quiet_of_passes {k : Nat} (late : mostMarks t ≤ k) : (repairs k).report.patches = [] := by
  obtain ⟨u, reads, lines⟩ := lines_of_passes passes read k
  have kept : Repair.linesAfter ⟨Strategy.all, pad⟩ {} u = sourceLines u := by
    rw [linesAfter_calm, lines, List.map_map, ← Function.iterate_succ']
    exact settled_lines pad late
  have unchanged := (Repair.changed_ofText _ _ _).mpr kept
  rw [repairs_of_read passes reads]
  simpa [Report.changed] using unchanged

theorem fixed_of_passes {k : Nat} (late : mostMarks t ≤ k) (second : 1 ≤ k) : sources k = .text (repairs k).text := by
  obtain ⟨j, rfl⟩ := Nat.exists_eq_add_of_le' second
  rw [passes.next, text_of_passes passes read, text_of_passes passes read, settled_lines pad late]

theorem commented_of_passes {j k : Nat} {p : Patch} (later : j < k) (recorded : p ∈ (repairs j).report.patches)
    (decided : p.decision = .lineComment) : (∀ q ∈ (repairs k).report.patches, q.line ≠ p.line) ∧
      (sourceLines (repairs k).text)[(p.line - 1).toNat]? = some p.after := by
  obtain ⟨u, reads, lines⟩ := lines_of_passes passes read j
  rw [repairs_of_read passes reads] at recorded
  obtain ⟨l, origin, changed⟩ := (Repair.mem_patches _ _ _ p).mp recorded
  obtain ⟨positive, held⟩ := (Line.mem_numbered _ l).mp origin
  have place := Line.line_of_repair? changed
  have comment : decompilerArtifacts l.text = .commentOut := comment_of_patch pad changed decided
  have after : p.after = commentOut l.text := by
    rw [← Line.repaired_of_some changed, ← cleaned_of_comment pad comment]
    exact repaired_calm pad l
  rw [lines, List.getElem?_map] at held
  obtain ⟨first, there, now⟩ := Option.map_eq_some_iff.mp held
  have line {n : Nat} (behind : j < n) : ((sourceLines t).map (cleaned pad)^[n])[l.number - 1]? = some p.after := by
    rw [← now] at comment
    rw [List.getElem?_map, there, Option.map_some, iterate_of_comment pad behind comment, now, after]
  have index : (p.line - 1).toNat = l.number - 1 := by omega
  constructor
  · intro q other same
    obtain ⟨v, reads', lines'⟩ := lines_of_passes passes read k
    rw [repairs_of_read passes reads'] at other
    have before := line later
    rw [← lines'] at before
    obtain ⟨bound, _⟩ := List.getElem?_eq_some_iff.mp before
    have differs := (Repair.exists_patch_iff _ _ v l.number positive (by omega)).mp ⟨q, other, same.trans place⟩
    rw [before, linesAfter_calm, lines', List.map_map, ← Function.iterate_succ', line (by omega)] at differs
    exact differs rfl
  · rw [lines_after passes read, index]
    exact line (by omega)

end Run

/-- Passes without diagnostics over a readable source come to rest. -/
theorem passes_rest (pad : Bool) (s : Source) (t : Text) (read : s.read = .ok t) :
    (∃ sources repairs, Passes pad s sources repairs) ∧
      ∀ sources repairs, Passes pad s sources repairs → Rests pad t sources repairs := by
  refine ⟨exists_passes pad read, fun sources repairs passes => ?_⟩
  exact
    { quiet := fun k late => quiet_of_passes passes read late
      fixed := fun k late => fixed_of_passes passes read (by omega) (by omega)
      commented := fun j k p later recorded decided => commented_of_passes passes read later recorded decided
      steady := by
        intro padded k
        subst padded
        rw [text_of_passes passes read, length_unlines_map (length_iterate_cleaned (k + 1)), unlines_sourceLines] }

theorem rest_of_stackedMarks :
    (Source.text "** ** continue;\r\n  ** x").read = .ok "** ** continue;\r\n  ** x".toList ∧
      mostMarks "** ** continue;\r\n  ** x" = 2 ∧
      ∃ sources repairs, Passes false (.text "** ** continue;\r\n  ** x") sources repairs ∧
        Rests false "** ** continue;\r\n  ** x" sources repairs ∧
        (repairs 0).text = "** continue;\n//** x\n".toList ∧ (repairs 1).text = "continue;\n//** x\n".toList := by
  obtain ⟨⟨sources, repairs, passes⟩, rests⟩ := passes_rest false (.text "** ** continue;\r\n  ** x") _ rfl
  refine ⟨rfl, by decide +kernel, sources, repairs, passes, rests sources repairs passes, ?_, ?_⟩
  · rw [text_of_passes passes rfl]
    decide +kernel
  · rw [text_of_passes passes rfl]
    decide +kernel

end ParseRepair.Recovery
