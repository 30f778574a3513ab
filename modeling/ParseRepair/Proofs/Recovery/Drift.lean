import ParseRepair.Proofs.Recovery.Literal
import ParseRepair.Proofs.Recovery.Repair

namespace ParseRepair.Recovery

open Text

def MarkDrift (t : Text) (delta : Int) : Prop :=
  let continues := occurrences "** continue;" t
  let cases := occurrences "** case " t
  let jumps := occurrences "** GOTO " t
  (0 < continues ∧ delta = -3 * continues) ∨
    (continues = 0 ∧ 0 < cases ∧ delta = -3 * cases) ∨
    (continues = 0 ∧ cases = 0 ∧ 0 < jumps ∧ delta = -(2 * jumps - 1))

/-- How far a closed literal exceeds its line: `short` characters, unless as many blanks at the
beginning of the line make room for them. -/
def LiteralDrift (t : Text) (start : Nat) (delta : Int) : Prop :=
  let short := 2 - literalEnd (t.drop (start + 1))
  (delta = 0 ∨ delta = short) ∧
    (delta = 0 ↔ short = 0 ∨ short ≤ start ∧ ∀ ch ∈ t.take short, isBlank ch = true)

def Strategy.Drift (pad : Bool) (lexical : List Points) (p : Patch) : Strategy → Prop
  | .curlyBraces => p.lengthDelta = 0
  | .decompilerArtifacts =>
    (p.decision = .lineComment → p.lengthDelta = 0) ∧
      (p.decision = .textEdit → pad = true → p.lengthDelta = 0) ∧
      (p.decision = .textEdit → pad = false → MarkDrift p.before p.lengthDelta)
  | .missingTerminator =>
    ∃ ch rest, p.before = ch :: rest ∧ p.lengthDelta = if isBlank ch then 0 else 1
  | .missingQuote =>
    ∃ message start, lexical = [message] ∧ FirstAt (openFragment message) p.before.points start ∧
      LiteralDrift p.before start p.lengthDelta

theorem markDrift_of_edits {e : Evidence} {t u : Text} (edit : Edits e t .decompilerArtifacts u) :
    MarkDrift t ((u.length : Int) - t.length) := by
  have absent {p : Text} (missing : contains t p = false) : occurrences p t = 0 :=
    occurrences_eq_zero missing
  unfold MarkDrift
  cases edit with
  | continues marked =>
    have count := length_replaceAll "** continue;" "continue;" t (by decide)
    have some_mark := occurrences_pos marked (by decide)
    rw [show List.length ("** continue;" : Text) = 12 from rfl,
      show List.length ("continue;" : Text) = 9 from rfl] at count
    refine .inl ⟨some_mark, ?_⟩
    omega
  | cases noContinue marked =>
    have count := length_replaceAll "** case " "case " t (by decide)
    have some_mark := occurrences_pos marked (by decide)
    rw [show List.length ("** case " : Text) = 8 from rfl,
      show List.length ("case " : Text) = 5 from rfl] at count
    refine .inr (.inl ⟨absent noContinue, some_mark, ?_⟩)
    omega
  | jumps noContinue noCase marked =>
    have count := length_replaceAll "** GOTO " "break " t (by decide)
    have some_mark := occurrences_pos marked (by decide)
    rw [show List.length ("** GOTO " : Text) = 8 from rfl,
      show List.length ("break " : Text) = 6 from rfl] at count
    refine .inr (.inr ⟨absent noContinue, absent noCase, some_mark, ?_⟩)
    rw [List.length_append, List.length_singleton]
    omega

theorem MarkDrift.neg {t : Text} {delta : Int} (drift : MarkDrift t delta) : delta < 0 := by
  rcases drift with ⟨some_mark, value⟩ | ⟨_, some_mark, value⟩ | ⟨_, _, some_mark, value⟩
  all_goals omega

theorem literalDrift_of_closeLiteral (pad : Bool) (t : Text) (start : Nat) (inside : start < t.length) :
    LiteralDrift t start ((fitLength pad t (closeLiteral t start)).length - t.length) := by
  have exceeds := length_closeLiteral t start inside
  have room := blank_front_closeLiteral t start (2 - literalEnd (t.drop (start + 1))) inside
  unfold LiteralDrift
  generalize 2 - literalEnd (t.drop (start + 1)) = short at exceeds room
  have fitted := length_fitLength_longer pad t _ short exceeds
  by_cases blank : ((closeLiteral t start).take short).all isBlank = true
  · rw [if_pos blank] at fitted
    rw [fitted]
    exact ⟨.inl (by omega), fun _ => room.mp blank, fun _ => by omega⟩
  · rw [if_neg blank] at fitted
    have positive : short ≠ 0 := fun none_short => blank (room.mpr (.inl none_short))
    rw [fitted]
    refine ⟨.inr (by omega), fun zero => ?_, fun enough => absurd (room.mpr enough) blank⟩
    omega

theorem LiteralDrift.range {t : Text} {start : Nat} {delta : Int} (drift : LiteralDrift t start delta) :
    0 ≤ delta ∧ delta ≤ 2 := by
  rcases drift.1 with value | value
  all_goals omega

theorem fitted_marks (pad : Bool) {e : Evidence} {t u : Text} (edit : Edits e t .decompilerArtifacts u) :
    (pad = true → ((fitLength pad t u).length : Int) - t.length = 0) ∧
      (pad = false → MarkDrift t ((fitLength pad t u).length - t.length)) := by
  have drift := markDrift_of_edits edit
  have shorter : u.length ≤ t.length := by
    have negative := drift.neg
    omega
  have fitted := length_fitLength_shorter pad t u shorter
  constructor
  · intro padded
    rw [padded, if_pos rfl] at fitted
    rw [padded, fitted]
    omega
  · intro unpadded
    rw [unpadded, if_neg (by decide)] at fitted
    rw [unpadded, fitted]
    exact drift

theorem fitted_terminator (pad : Bool) (ch : Char) (rest : Text) :
    ((fitLength pad (ch :: rest) (ch :: rest ++ [';'])).length : Int) - (ch :: rest).length =
      if isBlank ch then 0 else 1 := by
  have fitted := length_fitLength_longer pad (ch :: rest) (ch :: rest ++ [';']) 1 List.length_append
  have front : ((ch :: rest ++ [';']).take 1).all isBlank = isBlank ch := by simp
  rw [front] at fitted
  rw [fitted]
  by_cases blank : isBlank ch = true
  · rw [if_pos blank, if_pos blank]
    omega
  · rw [if_neg blank, if_neg blank]
    omega

theorem drift_of_comment {pad : Bool} {e : Evidence} {p : Patch} {s : Strategy}
    (after : p.after = commentOut p.before) (decided : p.decision = .lineComment)
    (comment : Comments e p.before s) : s.Drift pad e.lexical p := by
  have kept : p.lengthDelta = 0 := by
    rw [Patch.lengthDelta, after, length_commentOut]
    omega
  have noEdit : p.decision ≠ .textEdit := by
    rw [decided]
    decide
  cases comment with
  | pseudocode =>
    exact ⟨fun _ => kept, fun edited => absurd edited noEdit, fun edited => absurd edited noEdit⟩
  | problem => exact kept
  | closing => exact kept
  | opening => exact kept

theorem drift_of_edit {pad : Bool} {e : Evidence} {p : Patch} {s : Strategy} {u : Text}
    (after : p.after = fitLength pad p.before u) (decided : p.decision = .textEdit)
    (edit : Edits e p.before s u) : s.Drift pad e.lexical p := by
  have delta : p.lengthDelta = (fitLength pad p.before u).length - p.before.length := by
    rw [Patch.lengthDelta, after]
  have noComment : p.decision ≠ .lineComment := by
    rw [decided]
    decide
  cases s with
  | decompilerArtifacts =>
    obtain ⟨padded, unpadded⟩ := fitted_marks pad edit
    rw [← delta] at padded unpadded
    exact ⟨fun commented => absurd commented noComment, fun _ => padded, fun _ => unpadded⟩
  | missingTerminator =>
    cases edit with
    | terminator message only asked something unended =>
      have some_char : p.before ≠ [] := by
        intro empty
        rw [empty] at something
        exact something rfl
      obtain ⟨ch, rest, text⟩ := List.exists_cons_of_ne_nil some_char
      rw [text] at delta
      exact ⟨ch, rest, text, delta.trans (fitted_terminator pad ch rest)⟩
  | missingQuote =>
    cases edit with
    | literal message start only open_quote some_char found =>
      have first := (find?_eq_some_iff_firstAt some_char).mp found
      have inside := first.lt_length some_char
      rw [length_points] at inside
      refine ⟨message, start, only, first, ?_⟩
      rw [delta]
      exact literalDrift_of_closeLiteral pad p.before start inside
  | curlyBraces => cases edit

theorem drift_of_repair? {m : Method} {e : Evidence} {l : Line} {p : Patch} {s : Strategy}
    (changed : l.repair? m e = some p) (maker : p.strategy = s.name) : s.Drift m.pad e.lexical p := by
  obtain ⟨other, fires, _, shape⟩ := (Line.repair?_eq_some_iff m e l p).mp changed
  have same : other = s := name_injective (by rw [← maker, shape])
  subst same
  have before : p.before = l.text := Line.before_of_repair? changed
  have after : p.after = Line.apply m.pad p.before (other.verdict e p.before) := by
    rw [before, shape]
    rfl
  have decided : p.decision = (other.verdict e p.before).decision := by rw [before, shape]
  rw [← before] at fires
  cases verdict : other.verdict e p.before with
  | leave => exact absurd verdict fires.fired
  | commentOut =>
    rw [verdict] at after decided
    exact drift_of_comment after decided (comments_of_verdict verdict)
  | edit u =>
    rw [verdict] at after decided
    exact drift_of_edit after decided (edits_of_verdict verdict)

theorem Strategy.Drift.range {lexical : List Points} {p : Patch} {s : Strategy} (decided : p.decision ≠ .none)
    (drift : s.Drift true lexical p) : p.lengthDelta = 0 ∨ p.lengthDelta = 1 ∨ p.lengthDelta = 2 := by
  cases s with
  | decompilerArtifacts =>
    cases decision : p.decision with
    | none => exact absurd decision decided
    | lineComment => exact .inl (drift.1 decision)
    | textEdit => exact .inl (drift.2.1 decision rfl)
  | missingTerminator =>
    obtain ⟨ch, rest, _, value⟩ := drift
    split at value
    · exact .inl value
    · exact .inr (.inl value)
  | missingQuote =>
    obtain ⟨message, start, _, _, value⟩ := drift
    have range := value.range
    omega
  | curlyBraces => exact .inl drift

/-- Every record of a repair has exactly the length change of its strategy, and with padding no line
becomes shorter or more than two characters longer. -/
theorem ofSource_drift (m : Method) (c : Classified) (s : Source) (t : Text) (read : s.read = .ok t) :
    ∃ r, (Repair.ofSource m c s).outcome = .ok r ∧ ∀ p ∈ r.report.patches,
      (∀ maker : Strategy, p.strategy = maker.name →
        maker.Drift m.pad ((c.lexical.onLine p.line).map LexicalFailure.message) p) ∧
      (m.pad = true → p.lengthDelta = 0 ∨ p.lengthDelta = 1 ∨ p.lengthDelta = 2) := by
  refine ⟨_, Repair.ofSource_outcome m c s t read, ?_⟩
  intro p recorded
  have law (maker : Strategy) (made : p.strategy = maker.name) :
      maker.Drift m.pad ((c.lexical.onLine p.line).map LexicalFailure.message) p := by
    obtain ⟨l, _, changed⟩ := (Repair.mem_patches m c t p).mp recorded
    rw [Line.line_of_repair? changed]
    exact drift_of_repair? changed made
  refine ⟨law, fun padded => ?_⟩
  obtain ⟨maker, _, made, _, decided⟩ := Repair.maker_of_patch m c t recorded
  have drift := law maker made
  rw [padded] at drift
  exact drift.range decided

theorem drift_of_literals :
    (Source.text "f(\"\n  f(\"\n** GOTO a ** GOTO b").read = .ok "f(\"\n  f(\"\n** GOTO a ** GOTO b".toList ∧
      ∃ r, (Repair.ofSource ⟨Strategy.all, false⟩
          ⟨[], [(1, [⟨⟨"Encountered: \"\\n\" after : \"\\\"\"", none⟩, 1, 3⟩]),
            (2, [⟨⟨"Encountered: \"\\n\" after : \"\\\"\"", none⟩, 2, 5⟩])]⟩
          (.text "f(\"\n  f(\"\n** GOTO a ** GOTO b")).outcome = .ok r ∧
        r.report.patches.map Patch.lengthDelta = [2, 0, -3] ∧
        ∀ p ∈ r.report.patches, ∀ maker : Strategy, p.strategy = maker.name →
          ∃ lexical, maker.Drift false lexical p := by
  obtain ⟨r, ran, law⟩ := ofSource_drift ⟨Strategy.all, false⟩
    ⟨[], [(1, [⟨⟨"Encountered: \"\\n\" after : \"\\\"\"", none⟩, 1, 3⟩]),
      (2, [⟨⟨"Encountered: \"\\n\" after : \"\\\"\"", none⟩, 2, 5⟩])]⟩
    (.text "f(\"\n  f(\"\n** GOTO a ** GOTO b") _ rfl
  have deltas : (Repair.ofSource ⟨Strategy.all, false⟩
      ⟨[], [(1, [⟨⟨"Encountered: \"\\n\" after : \"\\\"\"", none⟩, 1, 3⟩]),
        (2, [⟨⟨"Encountered: \"\\n\" after : \"\\\"\"", none⟩, 2, 5⟩])]⟩
      (.text "f(\"\n  f(\"\n** GOTO a ** GOTO b")).outcome.toOption.map
        (·.report.patches.map Patch.lengthDelta) = some [2, 0, -3] := by
    decide +kernel
  rw [ran] at deltas
  exact ⟨rfl, r, ran, Option.some.inj deltas, fun p recorded maker made => ⟨_, (law p recorded).1 maker made⟩⟩

end ParseRepair.Recovery
