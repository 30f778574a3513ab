import ParseRepair.Proofs.Diff.Unified
import ParseRepair.Proofs.Recovery.Literal
import ParseRepair.Proofs.Recovery.Pass
import ParseRepair.Proofs.Text.Display

namespace ParseRepair.Recovery

open Text

section Length

theorem countP_eq_zero_of_blank {f : Char → Bool} (blind : ∀ c, isBlank c = true → f c = false) {t : Text}
    (blank : ∀ c ∈ t, isBlank c = true) : t.countP f = 0 := by
  rw [List.countP_eq_zero]
  intro c member
  rw [blind c (blank c member)]
  exact Bool.false_ne_true

/-- The repair of a length only adds and removes blanks, so it hides no other character that an edit
has put in or taken out. -/
theorem toldApart_fitLength {pad : Bool} {old new : Text} (f : Char → Bool)
    (blind : ∀ c, isBlank c = true → f c = false) (differ : old.countP f ≠ new.countP f)
    (told : ToldApart old new) : ToldApart old (fitLength pad old new) := by
  have sameLength {u : Text} (size : old.length = u.length) (count : u.countP f = new.countP f) :
      ToldApart old u :=
    toldApart_of_countP f (fun c broken => blind c (isBlank_of_isDisplayBreak broken)) size (by rwa [count])
  unfold fitLength
  split
  · rename_i longer
    split
    · rename_i blank
      have cut := countP_eq_zero_of_blank blind (List.all_eq_true.mp blank)
      have whole : (new.take (surplus old new)).countP f + (new.drop (surplus old new)).countP f = new.countP f := by
        rw [← List.countP_append, List.take_append_drop]
      apply sameLength
      · rw [List.length_drop, surplus]
        omega
      · omega
    · exact told
  · split
    · have filler : (List.replicate (old.length - new.length) ' ').countP f = 0 := by
        apply countP_eq_zero_of_blank blind
        intro c member
        rw [List.eq_of_mem_replicate member]
        decide
      apply sameLength
      · rw [List.length_append, List.length_replicate]
        omega
      · rw [List.countP_append, filler, Nat.zero_add]
    · exact told

theorem toldApart_commentOut {t : Text} (changed : commentOut t ≠ t) : ToldApart t (commentOut t) := by
  match t with
  | [] => exact absurd rfl changed
  | [a] => exact absurd rfl changed
  | a :: b :: r =>
    have differ : [a, b] ≠ ['/', '/'] := by
      intro same
      obtain ⟨rfl, tail⟩ := List.cons.inj same
      obtain ⟨rfl, _⟩ := List.cons.inj tail
      exact changed rfl
    have clean : ∀ c ∈ ['/', '/'], isDisplayBreak c = false := by
      intro c member
      rw [List.eq_of_mem_replicate (n := 2) member]
      decide
    exact @toldApart_of_clean [a, b] ['/', '/'] r r rfl clean differ

end Length

theorem blind_of_solid {d : Char} (solid : isBlank d = false) (c : Char) (blank : isBlank c = true) :
    (c == d) = false := by
  rw [beq_eq_false_iff_ne]
  rintro rfl
  rw [solid] at blank
  cases blank

section Marks

variable {p q w t : Text} {c d : Char}

theorem toldApart_replaceAll (marked : contains t p = true) (old : p.head? = some c) (new : q.head? = some d)
    (inside : isDisplayBreak d = false) (other : c ≠ d) : ToldApart t (replaceAll p q t ++ w) := by
  obtain ⟨p, rfl⟩ := List.head?_eq_some_iff.mp old
  obtain ⟨q, rfl⟩ := List.head?_eq_some_iff.mp new
  obtain ⟨i, found⟩ := Option.isSome_iff_exists.mp marked
  obtain ⟨_, first⟩ := (find?_eq_some_iff _ _ _).mp found
  obtain ⟨r, here⟩ := first.1
  have front : t = t.take i ++ (c :: p ++ r) := by rw [here, List.take_append_drop]
  have apart : ToldApart (t.take i ++ (c :: p ++ r)) (replaceAll (c :: p) (d :: q) t ++ w) := by
    rw [replaceAll_of_firstAt _ (List.cons_ne_nil c p) first, List.append_assoc]
    exact (toldApart_of_head _ _ inside other).append_left _
  rwa [← front] at apart

theorem toldApart_marks (pad : Bool) (marked : contains t p = true) (star : p.head? = some '*')
    (new : q.head? = some d) (inside : isDisplayBreak d = false) (gone : '*' ∉ q) (none_behind : '*' ∉ w) :
    ToldApart t (fitLength pad t (replaceAll p q t ++ w)) := by
  have some_char : p ≠ [] := by
    rintro rfl
    cases star
  have some_star : 0 < p.count '*' := List.count_pos_iff.mpr (List.mem_of_mem_head? star)
  have other : '*' ≠ d := by
    rintro rfl
    exact gone (List.mem_of_mem_head? new)
  have counted := countP_replaceAll (· == '*') p q t some_char
  have fewer := Nat.mul_pos (occurrences_pos marked some_char) some_star
  apply toldApart_fitLength (· == '*') (blind_of_solid (by decide))
  · have left : w.countP (· == '*') = 0 := List.count_eq_zero.mpr none_behind
    have put : q.countP (· == '*') = 0 := List.count_eq_zero.mpr gone
    rw [put, Nat.mul_zero] at counted
    rw [List.count] at fewer
    rw [List.countP_append, left]
    omega
  · exact toldApart_replaceAll marked star new inside other

end Marks

section Literal

theorem toldApart_behind_literal (rest : Text) {c : Char} (v : Text) (inside : isDisplayBreak c = false)
    (parenthesis : ')' ≠ c) (semicolon : ';' ≠ c) : ToldApart (rest.drop (literalEnd rest)) (c :: v) := by
  cases behind : rest.drop (literalEnd rest) with
  | nil => exact toldApart_of_end v inside
  | cons d w =>
    rcases head_behind_literal behind with rfl | rfl
    · exact toldApart_of_head w v inside parenthesis
    · exact toldApart_of_head w v inside semicolon

theorem drop_start {t : Text} {start : Nat} (inside : start < t.length) :
    t = t.take start ++ t[start] :: t.drop (start + 1) := by
  rw [← List.drop_eq_getElem_cons inside, List.take_append_drop]

theorem toldApart_roomy {n : Nat} (c : Char) {rest : Text} (room : n + 2 ≤ rest.length)
    (differ : c :: rest ≠ '"' :: (List.replicate (n + 1) '?' ++ '"' :: rest.drop (n + 2))) :
    ToldApart (c :: rest) ('"' :: (List.replicate (n + 1) '?' ++ '"' :: rest.drop (n + 2))) := by
  have size : (c :: rest.take (n + 2)).length = ('"' :: (List.replicate (n + 1) '?' ++ ['"'])).length := by
    simp only [List.length_cons, List.length_take, List.length_append, List.length_replicate, List.length_nil]
    omega
  have clean : ∀ d ∈ '"' :: (List.replicate (n + 1) '?' ++ ['"']), isDisplayBreak d = false := by
    intro d member
    simp only [List.mem_cons, List.mem_append, List.mem_replicate, List.not_mem_nil, or_false] at member
    rcases member with rfl | ⟨_, rfl⟩ | rfl <;> decide
  have front : c :: rest = (c :: rest.take (n + 2)) ++ rest.drop (n + 2) := by
    rw [List.cons_append, List.take_append_drop]
  have back : '"' :: (List.replicate (n + 1) '?' ++ '"' :: rest.drop (n + 2)) =
      '"' :: (List.replicate (n + 1) '?' ++ ['"']) ++ rest.drop (n + 2) := by
    simp
  rw [front, back] at differ
  rw [front, back]
  exact toldApart_of_clean _ _ size clean fun same => differ (by rw [same])

/-- A literal of less than two characters does not give the filler and its quotes the room they need,
so the rest of the line moves. A longer one is filled in place. -/
theorem toldApart_filled (c : Char) (rest : Text) (differ : c :: rest ≠
      '"' :: (List.replicate (max 1 (literalEnd rest - 1)) '?' ++ '"' :: rest.drop (literalEnd rest))) :
    ToldApart (c :: rest)
      ('"' :: (List.replicate (max 1 (literalEnd rest - 1)) '?' ++ '"' :: rest.drop (literalEnd rest))) := by
  have filler (v : Text) : ToldApart (rest.drop (literalEnd rest)) ('?' :: v) :=
    toldApart_behind_literal rest v (by decide) (by decide) (by decide)
  have quote (v : Text) : ToldApart (rest.drop (literalEnd rest)) ('"' :: v) :=
    toldApart_behind_literal rest v (by decide) (by decide) (by decide)
  have room := literalEnd_le rest
  match count : literalEnd rest with
  | 0 =>
    rw [count] at filler
    by_cases opens : c = '"'
    · subst opens
      exact (filler ('"' :: rest)).append_left ['"']
    · exact toldApart_of_head _ _ (by decide) opens
  | 1 =>
    obtain ⟨d, r, rfl⟩ := List.exists_cons_of_length_pos (show 0 < rest.length by omega)
    rw [count] at quote
    by_cases opens : c = '"'
    · subst opens
      by_cases filled : d = '?'
      · subst filled
        exact (quote r).append_left ['"', '?']
      · exact (toldApart_of_head r ('"' :: r) (by decide) filled).append_left ['"']
    · exact toldApart_of_head _ _ (by decide) opens
  | n + 2 =>
    have fits : max 1 (n + 2 - 1) = n + 1 := by omega
    rw [count, fits] at differ
    rw [fits]
    exact toldApart_roomy c (by omega) differ

theorem toldApart_closeLiteral {t : Text} {start : Nat} (inside : start < t.length)
    (changed : closeLiteral t start ≠ t) : ToldApart t (closeLiteral t start) := by
  have old := drop_start inside
  have new := closeLiteral_eq t inside
  have apart : ToldApart (t.take start ++ t[start] :: t.drop (start + 1)) (closeLiteral t start) := by
    rw [new]
    apply ToldApart.append_left
    apply toldApart_filled
    intro same
    apply changed
    rw [new, ← same]
    exact old.symm
  rwa [← old] at apart

def isLiteralChar (c : Char) : Bool := c == '"' || c == '?'

theorem countP_closeLiteral {t : Text} {start : Nat} (inside : start < t.length)
    (short : literalEnd (t.drop (start + 1)) < 2) :
    t.countP isLiteralChar < (closeLiteral t start).countP isLiteralChar := by
  have old := congrArg (List.countP isLiteralChar) (drop_start inside)
  have taken : ((t.drop (start + 1)).take (literalEnd (t.drop (start + 1)))).countP isLiteralChar < 2 :=
    Nat.lt_of_le_of_lt (List.countP_le_length.trans (List.length_take_le _ _)) short
  have parts := congrArg (List.countP isLiteralChar)
    (List.take_append_drop (literalEnd (t.drop (start + 1))) (t.drop (start + 1)))
  have one : max 1 (literalEnd (t.drop (start + 1)) - 1) = 1 := by omega
  have quote : isLiteralChar '"' = true := by decide
  have filler : isLiteralChar '?' = true := by decide
  have first : (if isLiteralChar t[start] = true then 1 else 0) ≤ 1 := by split <;> decide
  rw [List.countP_append, List.countP_cons] at old
  rw [List.countP_append] at parts
  simp only [closeLiteral_eq t inside, one, List.countP_append, List.countP_cons, List.replicate_one, List.countP_nil,
    quote, filler, if_true]
  omega

theorem toldApart_fitLength_closeLiteral {t : Text} {start : Nat} {pad : Bool} (inside : start < t.length)
    (changed : fitLength pad t (closeLiteral t start) ≠ t) : ToldApart t (fitLength pad t (closeLiteral t start)) := by
  have blind (c : Char) (blank : isBlank c = true) : isLiteralChar c = false := by
    rw [isLiteralChar, blind_of_solid (by decide) c blank, blind_of_solid (by decide) c blank, Bool.or_self]
  by_cases short : literalEnd (t.drop (start + 1)) < 2
  · have more := countP_closeLiteral inside short
    have told : ToldApart t (closeLiteral t start) := by
      apply toldApart_closeLiteral inside
      intro same
      rw [same] at more
      exact Nat.lt_irrefl _ more
    exact toldApart_fitLength isLiteralChar blind (Nat.ne_of_lt more) told
  · have same : (closeLiteral t start).length = t.length := by
      rw [length_closeLiteral t start inside]
      omega
    rw [fitLength_same pad _ _ same] at changed ⊢
    exact toldApart_closeLiteral inside changed

end Literal

section Line

theorem toldApart_of_edit {e : Evidence} {t u : Text} {s : Strategy} {pad : Bool} (edit : Edits e t s u)
    (changed : fitLength pad t u ≠ t) : ToldApart t (fitLength pad t u) := by
  cases edit with
  | continues marked =>
    rw [← List.append_nil (replaceAll _ _ t)]
    exact toldApart_marks (d := 'c') pad marked rfl rfl (by decide) (by decide) (by decide)
  | cases _ marked =>
    rw [← List.append_nil (replaceAll _ _ t)]
    exact toldApart_marks (d := 'c') pad marked rfl rfl (by decide) (by decide) (by decide)
  | jumps _ _ marked =>
    exact toldApart_marks (d := 'b') pad marked rfl rfl (by decide) (by decide) (by decide)
  | terminator message only asked something unended =>
    have told : ToldApart (t ++ []) (t ++ [';']) := (toldApart_of_end [] (by decide)).append_left t
    rw [List.append_nil] at told
    refine toldApart_fitLength (· == ';') (blind_of_solid (by decide)) ?_ told
    rw [List.countP_append]
    simp
  | literal message start only open_quote some_char found =>
    have inside : start < t.length := by
      have bound := find?_bound found
      have size := List.length_pos_iff.mpr some_char
      rw [length_points] at bound
      omega
    exact toldApart_fitLength_closeLiteral inside changed

theorem toldApart_of_repaired {m : Method} {e : Evidence} {l : Line} (changed : l.repaired m e ≠ l.text) :
    ToldApart l.text (l.repaired m e) := by
  cases found : l.repair? m e with
  | none => exact absurd (Line.repaired_of_none found) changed
  | some p =>
    obtain ⟨s, fires, _, _⟩ := (Line.repair?_eq_some_iff m e l p).mp found
    rw [Line.repaired_of_fires fires, Line.outcome] at changed ⊢
    cases verdict : s.verdict e l.text with
    | leave => exact absurd verdict fires.fired
    | commentOut =>
      rw [verdict] at changed
      exact toldApart_commentOut changed
    | edit u =>
      rw [verdict] at changed
      exact toldApart_of_edit (edits_of_verdict verdict) changed

end Line

namespace Repair

variable (m : Method) (c : Classified) (t : Text)

theorem changed_ofText : (ofText m c t).report.changed = false ↔ linesAfter m c t = sourceLines t := by
  have same := List.map_inj_left (l := Line.numbered (sourceLines t))
    (f := fun l => l.repaired m (.ofLine c l.number)) (g := Line.text)
  rw [Line.map_text_numbered] at same
  rw [linesAfter, same, Report.changed, Bool.not_eq_false', List.isEmpty_iff]
  simp only [ofText, ofLines, List.filterMap_eq_nil_iff, Line.repair?_eq_none_iff]

theorem shown_ofText : shown (ofText m c t).text = unlines (displayLines (ofText m c t).text) := by
  have shown_lines := shown_unlines_sourceLines (ofText m c t).text
  rwa [sourceLines_ofText, text_ofText, if_neg (not_endsApart_unlines _), List.append_nil] at shown_lines

theorem displayLines_ofText :
    displayLines t = displayLines (ofText m c t).text ↔ (ofText m c t).report.changed = false ∧ ¬ EndsApart t := by
  have before := shown_unlines_sourceLines t
  rw [changed_ofText, displayLines_eq_iff, ← shown_ofText, text_ofText]
  constructor
  · intro same
    rw [same, ← Line.map_text_numbered (sourceLines t)] at before
    have told : ∀ l ∈ Line.numbered (sourceLines t),
        l.text = l.repaired m (.ofLine c l.number) ∨ ToldApart l.text (l.repaired m (.ofLine c l.number)) := by
      intro l _
      by_cases kept : l.repaired m (.ofLine c l.number) = l.text
      · exact .inl kept.symm
      · exact .inr (toldApart_of_repaired kept)
    rw [← List.append_nil (shown (unlines (List.map Line.text _)))] at before
    obtain ⟨lines, ends⟩ := eq_of_unlines_shown _ _ _ told before
    rw [Line.map_text_numbered] at lines
    refine ⟨lines.symm, ?_⟩
    intro apart
    rw [if_pos apart] at ends
    cases ends
  · rintro ⟨kept, whole⟩
    rw [kept, before, if_neg whole, List.append_nil]

end Repair

/-- The differences that a pass leaves to show are none exactly if the pass changed no line and the
source does not end with a separator that only a display breaks a line at. -/
theorem unified_patchSource (t name : Text) (ds : List Diagnostic) (settings : Config.Settings) (r : Repair)
    (ran : (patchSource (.text t) ds settings).outcome = .ok r) :
    Diff.unified name t r.text = [] ↔ r.report.changed = false ∧ ¬ EndsApart t := by
  obtain ⟨c, u, _, read, rfl⟩ := (patchSource_eq_ok_iff r).mp ran
  cases read
  rw [Diff.unified_eq_nil_iff]
  exact Repair.displayLines_ofText _ c t

theorem unified_of_inner_separator : ∃ r, (patchSource (.text "a\x0cb\r\nc") [] {}).outcome = .ok r ∧
    r.report.changed = false ∧ ¬ EndsApart "a\x0cb\r\nc" ∧ Diff.unified "A" "a\x0cb\r\nc" r.text = [] := by
  have whole : ¬ EndsApart "a\x0cb\r\nc" := by decide
  refine ⟨_, rfl, by decide +kernel, whole, ?_⟩
  exact (unified_patchSource _ _ [] {} _ rfl).mpr ⟨by decide +kernel, whole⟩

theorem unified_of_last_separator : ∃ r, (patchSource (.text "a\x0c") [] {}).outcome = .ok r ∧
    r.report.changed = false ∧ Diff.unified "A" "a\x0c" r.text ≠ [] := by
  refine ⟨_, rfl, by decide +kernel, ?_⟩
  decide +kernel

end ParseRepair.Recovery
