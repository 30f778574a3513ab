import ParseRepair.Proofs.Recovery.Literal

namespace ParseRepair.Recovery

open Text

/-- A message about an open literal: the lexer met the end of the line, and quotes what it had read. The
quote that ends the message is not a part of that. -/
structure Quotes (message fragment : Points) : Prop where
  encountered : points "Encountered: \"\\n\"" <:+: message
  quoted : points "after : \"\\\"" <:+: message
  behind : ∃ rest, BehindLast (points "after : \"\\") message rest ∧ fragment = rest.dropLast

def Reported (c : Classified) (n : Int) (fragment : Points) : Prop :=
  ∃ f, c.lexical.onLine n = [f] ∧ Quotes f.message fragment

structure Placeholder (t : Text) (start : Nat) (after : Text) : Prop where
  text : after = t.take start ++ '"' :: (List.replicate (max 1 (literalEnd (t.drop (start + 1)) - 1)) '?' ++
    '"' :: (t.drop (start + 1)).drop (literalEnd (t.drop (start + 1))))
  length : after.length = t.length + (2 - literalEnd (t.drop (start + 1)))
  columns : 2 ≤ literalEnd (t.drop (start + 1)) →
    ∀ k : Nat, k < start ∨ start + 1 + literalEnd (t.drop (start + 1)) ≤ k → after[k]? = t[k]?

theorem reportsOpenQuote_iff (message : Points) : reportsOpenQuote message = true ↔
    points "Encountered: \"\\n\"" <:+: message ∧ points "after : \"\\\"" <:+: message := by
  rw [reportsOpenQuote, Bool.and_eq_true, contains_iff, contains_iff]

theorem quotes_iff {message fragment : Points} :
    Quotes message fragment ↔ reportsOpenQuote message = true ∧ openFragment message = fragment := by
  constructor
  · intro quotes
    obtain ⟨rest, last, rfl⟩ := quotes.behind
    refine ⟨(reportsOpenQuote_iff message).mpr ⟨quotes.encountered, quotes.quoted⟩, ?_⟩
    rw [openFragment, afterLast?_eq_some_iff.mpr last, Option.getD_some]
  · rintro ⟨reports, rfl⟩
    obtain ⟨encountered, quoted⟩ := (reportsOpenQuote_iff message).mp reports
    refine ⟨encountered, quoted, ?_⟩
    -- Up to the quote, the words are those that the fragment stands behind.
    have shorter : points "after : \"\\" <:+: message :=
      (show points "after : \"\\" <+: points "after : \"\\\"" from ⟨[.char '"'], rfl⟩).isInfix.trans quoted
    cases found : afterLast? (points "after : \"\\") message with
    | none => exact absurd shorter (afterLast?_eq_none_iff.mp found)
    | some rest => exact ⟨rest, afterLast?_eq_some_iff.mp found, by rw [openFragment, found, Option.getD_some]⟩

variable {c : Classified} {n : Int} {t : Text}

theorem fragment?_eq_some_iff {fragment : Points} :
    fragment? (Evidence.ofLine c n).lexical = some fragment ↔ Reported c n fragment := by
  unfold Reported Evidence.ofLine
  simp only [quotes_iff]
  rcases c.lexical.onLine n with _ | ⟨f, _ | ⟨other, more⟩⟩
  · simp [fragment?]
  · simp [fragment?]
  · simp [fragment?]

theorem fragmentStart?_eq_some_iff {fragment : Points} {start : Nat} :
    fragmentStart? t fragment = some start ↔ fragment ≠ [] ∧ FirstAt fragment t.points start := by
  unfold fragmentStart?
  by_cases empty : fragment = []
  · simp [empty]
  · have filled : fragment.isEmpty = false := by simpa using empty
    rw [filled, if_neg Bool.false_ne_true, find?_eq_some_iff_firstAt empty, and_iff_right empty]

theorem openStart?_eq_some_iff {start : Nat} :
    (fragment? (Evidence.ofLine c n).lexical).bind (fragmentStart? t) = some start ↔
      ∃ fragment, Reported c n fragment ∧ fragment ≠ [] ∧ FirstAt fragment t.points start := by
  simp only [Option.bind_eq_some_iff, fragment?_eq_some_iff, fragmentStart?_eq_some_iff]

theorem drop_closeLiteral {start : Nat} (inside : start < t.length) (roomy : 2 ≤ literalEnd (t.drop (start + 1))) :
    (closeLiteral t start).drop (start + 1 + literalEnd (t.drop (start + 1))) =
      t.drop (start + 1 + literalEnd (t.drop (start + 1))) := by
  have front :
      (t.take start ++ '"' :: List.replicate (max 1 (literalEnd (t.drop (start + 1)) - 1)) '?' ++ ['"']).length =
        start + 1 + literalEnd (t.drop (start + 1)) := by
    simp only [List.length_append, List.length_take, List.length_cons, List.length_replicate, List.length_nil]
    omega
  have shape : closeLiteral t start =
      (t.take start ++ '"' :: List.replicate (max 1 (literalEnd (t.drop (start + 1)) - 1)) '?' ++ ['"']) ++
        (t.drop (start + 1)).drop (literalEnd (t.drop (start + 1))) := by
    simp only [closeLiteral_eq t inside, List.append_assoc, List.cons_append, List.nil_append]
  rw [shape, ← front, List.drop_left, List.drop_drop, front]

theorem placeholder_closeLiteral {start : Nat} (inside : start < t.length) :
    Placeholder t start (closeLiteral t start) where
  text := closeLiteral_eq t inside
  length := length_closeLiteral t start inside
  columns := by
    intro roomy k outside
    rcases outside with before | behind
    · have front := take_closeLiteral t start start inside (Nat.le_refl start)
      rw [← List.getElem?_take_of_lt before, front, List.getElem?_take_of_lt before]
    · obtain ⟨d, rfl⟩ := Nat.exists_eq_add_of_le behind
      rw [← List.getElem?_drop, drop_closeLiteral inside roomy, List.getElem?_drop]

/-- A literal is closed exactly if the only lexical failure on the line quotes a part of the line, and at the
first place where the line has that part. -/
theorem missingQuote_placeholder (c : Classified) (n : Int) (t : Text) :
    ((Strategy.verdict (.ofLine c n) t .missingQuote).decision = .textEdit ↔
      ∃ fragment, Reported c n fragment ∧ fragment ≠ [] ∧ fragment <:+: t.points) ∧
    ((Strategy.verdict (.ofLine c n) t .missingQuote).decision = .textEdit ∨
      (Strategy.verdict (.ofLine c n) t .missingQuote).decision = .none ∧
        (Strategy.verdict (.ofLine c n) t .missingQuote).textAfter t = t) ∧
    ∀ fragment start, Reported c n fragment → fragment ≠ [] → FirstAt fragment t.points start →
      Placeholder t start ((Strategy.verdict (.ofLine c n) t .missingQuote).textAfter t) := by
  have verdict : Strategy.verdict (.ofLine c n) t .missingQuote = missingQuote (Evidence.ofLine c n).lexical t := rfl
  rw [verdict, missingQuote]
  cases place : (fragment? (Evidence.ofLine c n).lexical).bind (fragmentStart? t) with
  | none =>
    have nowhere (fragment : Points) (start : Nat) (reported : Reported c n fragment) (some_char : fragment ≠ [])
        (first : FirstAt fragment t.points start) : False := by
      have here := openStart?_eq_some_iff.mpr ⟨fragment, reported, some_char, first⟩
      rw [place] at here
      cases here
    refine ⟨⟨?_, ?_⟩, .inr ⟨rfl, rfl⟩, ?_⟩
    · intro edit
      cases edit
    · rintro ⟨fragment, reported, some_char, occurs⟩
      obtain ⟨start, first⟩ := (infix_iff_exists_firstAt some_char).mp occurs
      exact (nowhere fragment start reported some_char first).elim
    · intro fragment start reported some_char first
      exact (nowhere fragment start reported some_char first).elim
  | some start =>
    obtain ⟨fragment, reported, some_char, first⟩ := openStart?_eq_some_iff.mp place
    have occurs := (infix_iff_exists_firstAt some_char).mpr ⟨start, first⟩
    refine ⟨iff_of_true rfl ⟨fragment, reported, some_char, occurs⟩, .inl rfl, ?_⟩
    intro fragment' start' reported' some_char' first'
    have same : start = start' := by
      have here := openStart?_eq_some_iff.mpr ⟨fragment', reported', some_char', first'⟩
      rw [place] at here
      exact Option.some.inj here
    subst same
    have inside := first.lt_length some_char
    rw [length_points] at inside
    exact placeholder_closeLiteral inside

def parenthesisFailure : LexicalFailure :=
  ⟨⟨"Lexical error at line 3, column 9.  Encountered: \"\\n\" (10), after : \"\\\"a)b\"", none⟩, 3, 9⟩

theorem placeholder_of_parenthesis :
    Reported ⟨[], [(3, [parenthesisFailure])]⟩ 3 "\"a)b" ∧ FirstAt (points "\"a)b") (points "say(\"a)b") 4 ∧
      Placeholder "say(\"a)b" 4 "say(\"?\")b" ∧ ("say(\"?\")b" : Text).length = ("say(\"a)b" : Text).length + 1 := by
  have reported : Reported ⟨[], [(3, [parenthesisFailure])]⟩ 3 "\"a)b" :=
    ⟨parenthesisFailure, rfl, quotes_iff.mpr ⟨by decide +kernel, by decide +kernel⟩⟩
  have first : FirstAt (points "\"a)b") (points "say(\"a)b") 4 := (find?_eq_some_iff_firstAt (by decide)).mp (by decide)
  have placed := (missingQuote_placeholder ⟨[], [(3, [parenthesisFailure])]⟩ 3 "say(\"a)b").2.2 "\"a)b" 4 reported
    (by decide) first
  have closed : (Strategy.verdict (.ofLine ⟨[], [(3, [parenthesisFailure])]⟩ 3) "say(\"a)b" .missingQuote).textAfter
      "say(\"a)b" = "say(\"?\")b".toList := by
    decide +kernel
  rw [closed] at placed
  exact ⟨reported, first, placed, placed.length⟩

end ParseRepair.Recovery
