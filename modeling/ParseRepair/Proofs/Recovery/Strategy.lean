import ParseRepair.Recovery.Strategy
import ParseRepair.Proofs.Text.Lines
import ParseRepair.Proofs.Text.Search

namespace ParseRepair.Recovery

open Text

theorem ofName?_name (s : Strategy) : Strategy.ofName? s.name = some s := by
  cases s <;> rfl

theorem name_injective {s k : Strategy} (same : s.name = k.name) : s = k := by
  have found := ofName?_name s
  rw [same, ofName?_name k] at found
  exact (Option.some.inj found).symm

/-- The edits that strategies make of a line, each with what it asks of the line and of the
diagnostics. -/
inductive Edits (e : Evidence) (t : Text) : Strategy → Text → Prop
  | continues (marked : contains t "** continue;" = true) :
      Edits e t .decompilerArtifacts (replaceAll "** continue;" "continue;" t)
  | cases (noContinue : contains t "** continue;" = false) (marked : contains t "** case " = true) :
      Edits e t .decompilerArtifacts (replaceAll "** case " "case " t)
  | jumps (noContinue : contains t "** continue;" = false) (noCase : contains t "** case " = false)
      (marked : contains t "** GOTO " = true) :
      Edits e t .decompilerArtifacts (replaceAll "** GOTO " "break " t ++ [';'])
  | terminator (message : Points) (only : e.here = [message]) (asked : asksForTerminator message = true)
      (something : t.trim ≠ []) (unended : Text.endsWith ";" t.trim = false) :
      Edits e t .missingTerminator (t ++ [';'])
  | literal (message : Points) (start : Nat) (only : e.lexical = [message])
      (open_quote : reportsOpenQuote message = true) (some_char : openFragment message ≠ [])
      (found : Text.find? (openFragment message) t.points = some start) :
      Edits e t .missingQuote (closeLiteral t start)

theorem fragment?_eq_some {lexical : List Points} {fragment : Points}
    (reported : fragment? lexical = some fragment) :
    ∃ message, lexical = [message] ∧ reportsOpenQuote message = true ∧ fragment = openFragment message := by
  unfold fragment? at reported
  split at reported
  · rename_i message
    split at reported
    · rename_i open_quote
      exact ⟨message, rfl, open_quote, (Option.some.inj reported).symm⟩
    · cases reported
  · cases reported

theorem fragmentStart?_eq_some {t : Text} {fragment : Points} {start : Nat}
    (found : fragmentStart? t fragment = some start) :
    fragment ≠ [] ∧ Text.find? fragment t.points = some start := by
  unfold fragmentStart? at found
  split at found
  · cases found
  · rename_i some_char
    exact ⟨by simpa using some_char, found⟩

theorem edits_of_verdict {e : Evidence} {t u : Text} {s : Strategy}
    (verdict : s.verdict e t = .edit u) : Edits e t s u := by
  cases s with
  | decompilerArtifacts =>
    simp only [Strategy.verdict, decompilerArtifacts] at verdict
    split at verdict
    · rename_i marked
      cases verdict
      exact .continues marked
    · rename_i noContinue
      split at verdict
      · rename_i marked
        cases verdict
        exact .cases (by simpa using noContinue) marked
      · rename_i noCase
        split at verdict
        · rename_i marked
          cases verdict
          exact .jumps (by simpa using noContinue) (by simpa using noCase) marked
        · split at verdict <;> cases verdict
  | missingTerminator =>
    simp only [Strategy.verdict, missingTerminator] at verdict
    split at verdict
    · rename_i message only
      split at verdict
      · rename_i conditions
        cases verdict
        simp only [Bool.and_eq_true, Bool.not_eq_true', List.isEmpty_eq_false_iff] at conditions
        obtain ⟨⟨asked, something⟩, unended⟩ := conditions
        exact .terminator message only asked something unended
      · cases verdict
    · cases verdict
  | missingQuote =>
    simp only [Strategy.verdict, missingQuote] at verdict
    split at verdict
    · rename_i start located
      cases verdict
      obtain ⟨fragment, reported, position⟩ := Option.bind_eq_some_iff.mp located
      obtain ⟨message, only, open_quote, rfl⟩ := fragment?_eq_some reported
      obtain ⟨some_char, found⟩ := fragmentStart?_eq_some position
      exact .literal message start only open_quote some_char found
    · cases verdict
  | curlyBraces =>
    simp only [Strategy.verdict, curlyBraces] at verdict
    split at verdict
    · cases verdict
    · split at verdict
      · cases verdict
      · split at verdict <;> cases verdict

inductive Comments (e : Evidence) (t : Text) : Strategy → Prop
  | pseudocode (noContinue : contains t "** continue;" = false) (noCase : contains t "** case " = false)
      (noJump : contains t "** GOTO " = false) (begins : startsWith "** " t.trim = true) :
      Comments e t .decompilerArtifacts
  | problem (some_problem : e.here ≠ [])
      (noBrace : ∀ message ∈ e.here, (expectsClosing message || expectsOpening message) = false) :
      Comments e t .curlyBraces
  | closing (message : Points) (member : message ∈ e.before) (expects : expectsClosing message = true) :
      Comments e t .curlyBraces
  | opening (message : Points) (member : message ∈ e.after) (expects : expectsOpening message = true) :
      Comments e t .curlyBraces

theorem comments_of_verdict {e : Evidence} {t : Text} {s : Strategy}
    (verdict : s.verdict e t = .commentOut) : Comments e t s := by
  cases s with
  | decompilerArtifacts =>
    simp only [Strategy.verdict, decompilerArtifacts] at verdict
    split at verdict
    · cases verdict
    · rename_i noContinue
      split at verdict
      · cases verdict
      · rename_i noCase
        split at verdict
        · cases verdict
        · rename_i noJump
          split at verdict
          · rename_i begins
            exact .pseudocode (by simpa using noContinue) (by simpa using noCase)
              (by simpa using noJump) begins
          · cases verdict
  | curlyBraces =>
    simp only [Strategy.verdict, curlyBraces] at verdict
    split at verdict
    · rename_i conditions
      simp only [Bool.and_eq_true, Bool.not_eq_true', List.isEmpty_eq_false_iff,
        List.any_eq_false] at conditions
      exact .problem conditions.1 fun message member => by simpa using conditions.2 message member
    · split at verdict
      · rename_i found
        obtain ⟨message, member, expects⟩ := List.any_eq_true.mp found
        exact .closing message member expects
      · split at verdict
        · rename_i found
          obtain ⟨message, member, expects⟩ := List.any_eq_true.mp found
          exact .opening message member expects
        · cases verdict
  | missingTerminator =>
    simp only [Strategy.verdict, missingTerminator] at verdict
    split at verdict
    · split at verdict <;> cases verdict
    · cases verdict
  | missingQuote =>
    simp only [Strategy.verdict, missingQuote] at verdict
    split at verdict <;> cases verdict

theorem decompilerArtifacts_of_unmarked {t : Text} (unmarked : ¬ ("** " : Text) <:+: t) :
    decompilerArtifacts t = .leave := by
  have absent (rest : Text) : contains t (("** " : Text) ++ rest) = false := by
    rw [← Bool.not_eq_true, contains_iff]
    exact fun inside => unmarked ((List.prefix_append _ _).isInfix.trans inside)
  have continues : contains t "** continue;" = false := absent "continue;"
  have cases : contains t "** case " = false := absent "case "
  have jumps : contains t "** GOTO " = false := absent "GOTO "
  have begins : startsWith "** " t.trim = false := by
    rw [← Bool.not_eq_true, startsWith_iff]
    exact fun front => unmarked (front.isInfix.trans (trim_part t))
  simp only [decompilerArtifacts, continues, cases, jumps, begins, Bool.false_eq_true, if_false]

inductive Reason (e : Evidence) (t : Text) : Prop
  | mark (marked : contains t "** " = true)
  | problem (some_problem : e.here ≠ [])
  | closing (message : Points) (member : message ∈ e.before) (expects : expectsClosing message = true)
  | opening (message : Points) (member : message ∈ e.after) (expects : expectsOpening message = true)
  | lexical (only : e.lexical.length = 1)

theorem Edits.reason {e : Evidence} {t u : Text} {s : Strategy} (edit : Edits e t s u) : Reason e t := by
  have begins (rest : Text) : ("** " : Text) <:+: ("** " : Text) ++ rest := (List.prefix_append _ _).isInfix
  cases edit with
  | continues marked => exact .mark (contains_of_contains (begins "continue;") marked)
  | cases _ marked => exact .mark (contains_of_contains (begins "case ") marked)
  | jumps _ _ marked => exact .mark (contains_of_contains (begins "GOTO ") marked)
  | terminator message only =>
    apply Reason.problem
    rw [only]
    exact List.cons_ne_nil _ _
  | literal message start only =>
    apply Reason.lexical
    rw [only]
    rfl

theorem Comments.reason {e : Evidence} {t : Text} {s : Strategy} (comment : Comments e t s) :
    Reason e t := by
  cases comment with
  | pseudocode _ _ _ begins =>
    have mark : contains t.trim "** " = true :=
      (contains_iff _ _).mpr ((startsWith_iff _ _).mp begins).isInfix
    exact .mark (contains_of_part (trim_part t) mark)
  | problem some_problem _ => exact .problem some_problem
  | closing message member expects => exact .closing message member expects
  | opening message member expects => exact .opening message member expects

theorem reason_of_verdict {e : Evidence} {t : Text} {s : Strategy} (fired : s.verdict e t ≠ .leave) :
    Reason e t := by
  cases verdict : s.verdict e t with
  | leave => exact absurd verdict fired
  | commentOut => exact (comments_of_verdict verdict).reason
  | edit u => exact (edits_of_verdict verdict).reason

end ParseRepair.Recovery
