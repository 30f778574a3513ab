import ParseRepair.Proofs.Text.Offsets

namespace ParseRepair.Text

def shownChar (c : Char) : Char := if isDisplayBreak c then '\n' else c

def shown (t : Text) : Text := t.map shownChar

@[simp] theorem shown_nil : shown [] = [] := rfl

@[simp] theorem shown_cons (c : Char) (t : Text) : shown (c :: t) = shownChar c :: shown t := rfl

@[simp] theorem shown_append (t u : Text) : shown (t ++ u) = shown t ++ shown u := List.map_append

@[simp] theorem length_shown (t : Text) : (shown t).length = t.length := List.length_map _

theorem shownChar_of_inside {c : Char} (inside : isDisplayBreak c = false) : shownChar c = c := by
  simp [shownChar, inside]

theorem shownChar_of_break {c : Char} (broken : isDisplayBreak c = true) : shownChar c = '\n' := by
  simp [shownChar, broken]

theorem isDisplayBreak_of_isLineEnd {c : Char} (ends : isLineEnd c = true) : isDisplayBreak c = true := by
  simp only [isLineEnd, Bool.or_eq_true, beq_iff_eq] at ends
  rcases ends with rfl | rfl <;> decide

theorem isLineEnd_of_inside {c : Char} (inside : isDisplayBreak c = false) : isLineEnd c = false := by
  cases ends : isLineEnd c with
  | true => exact absurd (isDisplayBreak_of_isLineEnd ends) (by simp [inside])
  | false => rfl

def OneLine (t : Text) : Prop := ∀ c ∈ t, isDisplayBreak c = false

instance (t : Text) : Decidable (OneLine t) :=
  decidable_of_iff (t.all (fun c => !isDisplayBreak c) = true) (by simp [OneLine])

theorem OneLine.cons {c : Char} {t : Text} (head : isDisplayBreak c = false) (tail : OneLine t) : OneLine (c :: t) :=
  List.forall_mem_cons.mpr ⟨head, tail⟩

theorem OneLine.concat {ts : List Text} (each : ∀ t ∈ ts, OneLine t) : OneLine (Text.concat ts) := by
  intro c member
  obtain ⟨t, there, place⟩ := List.mem_flatten.mp member
  exact each t there c place

theorem OneLine.unbroken {t : Text} (whole : OneLine t) : Unbroken t :=
  fun c member => isLineEnd_of_inside (whole c member)

theorem oneLine_of_mem_displayLines {t l : Text} (member : l ∈ displayLines t) : OneLine l :=
  whole_of_mem_linesBy isDisplayBreak t l member

theorem isBlank_of_isDisplayBreak {c : Char} (broken : isDisplayBreak c = true) : isBlank c = true := by
  simp only [isDisplayBreak, isBlank, Bool.or_eq_true, Bool.and_eq_true, decide_eq_true_eq, beq_iff_eq] at broken ⊢
  omega

theorem shownChar_eq_iff {c d : Char} (inside : isDisplayBreak d = false) : shownChar c = d ↔ c = d := by
  cases broken : isDisplayBreak c with
  | false => rw [shownChar_of_inside broken]
  | true =>
    rw [shownChar_of_break broken]
    constructor
    · rintro rfl
      cases inside
    · rintro rfl
      rw [broken] at inside
      cases inside

theorem eq_of_shown_eq {t u : Text} (clean : ∀ c ∈ u, isDisplayBreak c = false) (same : shown t = u) : t = u := by
  induction t generalizing u with
  | nil => exact same
  | cons c t ih =>
    cases u with
    | nil => cases same
    | cons d u =>
      obtain ⟨head, tail⟩ := List.cons.inj same
      rw [(shownChar_eq_iff (clean d List.mem_cons_self)).mp head,
        ih (fun c member => clean c (List.mem_cons_of_mem _ member)) tail]

theorem shown_of_clean {t : Text} (clean : ∀ c ∈ t, isDisplayBreak c = false) : shown t = t := by
  induction t with
  | nil => rfl
  | cons c t ih =>
    rw [shown_cons, shownChar_of_inside (clean c List.mem_cons_self),
      ih fun c member => clean c (List.mem_cons_of_mem _ member)]

theorem countP_shown (f : Char → Bool) (blind : ∀ c, isDisplayBreak c = true → f c = false) (t : Text) :
    (shown t).countP f = t.countP f := by
  rw [shown, List.countP_map]
  apply List.countP_congr
  intro c _
  cases broken : isDisplayBreak c with
  | false => rw [Function.comp_apply, shownChar_of_inside broken]
  | true => rw [Function.comp_apply, shownChar_of_break broken, blind c broken, blind '\n' (by decide)]

section Told

/-- A display tells the two lines apart, whatever lines follow them. -/
def ToldApart (t u : Text) : Prop := ∀ r r' : Text, shown t ++ '\n' :: r ≠ shown u ++ '\n' :: r'

theorem ToldApart.append_left {t u : Text} (w : Text) (told : ToldApart t u) : ToldApart (w ++ t) (w ++ u) := by
  intro r r' same
  rw [shown_append, shown_append, List.append_assoc, List.append_assoc] at same
  exact told r r' (List.append_cancel_left same)

theorem toldApart_of_end {c : Char} (t : Text) (inside : isDisplayBreak c = false) : ToldApart [] (c :: t) := by
  intro r r' same
  rw [shown_cons, shownChar_of_inside inside] at same
  obtain ⟨rfl, _⟩ := List.cons.inj same
  cases inside

theorem toldApart_of_clean {t u : Text} (w w' : Text) (size : t.length = u.length)
    (clean : ∀ c ∈ u, isDisplayBreak c = false) (differ : t ≠ u) : ToldApart (t ++ w) (u ++ w') := by
  intro r r' same
  rw [shown_append, shown_append, List.append_assoc, List.append_assoc] at same
  have pieces := (List.append_inj same (by rw [length_shown, length_shown, size])).1
  rw [shown_of_clean clean] at pieces
  exact differ (eq_of_shown_eq clean pieces)

theorem toldApart_of_head {c d : Char} (t u : Text) (inside : isDisplayBreak d = false) (other : c ≠ d) :
    ToldApart (c :: t) (d :: u) := by
  intro r r' same
  obtain ⟨head, _⟩ := List.cons.inj same
  rw [shownChar_of_inside inside] at head
  exact other ((shownChar_eq_iff inside).mp head)

theorem toldApart_of_countP {t u : Text} (f : Char → Bool) (blind : ∀ c, isDisplayBreak c = true → f c = false)
    (size : t.length = u.length) (differ : t.countP f ≠ u.countP f) : ToldApart t u := by
  intro r r' same
  have pieces := (List.append_inj same (by rw [length_shown, length_shown, size])).1
  have counts := congrArg (List.countP f) pieces
  rw [countP_shown f blind, countP_shown f blind] at counts
  exact differ counts

theorem eq_of_unlines_shown {α : Type} (f g : α → Text) (xs : List α)
    (told : ∀ x ∈ xs, f x = g x ∨ ToldApart (f x) (g x)) {r r' : Text}
    (same : shown (unlines (xs.map f)) ++ r = shown (unlines (xs.map g)) ++ r') :
    xs.map f = xs.map g ∧ r = r' := by
  induction xs with
  | nil => exact ⟨rfl, same⟩
  | cons x xs ih =>
    simp only [List.map_cons, unlines_cons, shown_append, shown_cons, List.append_assoc, List.cons_append] at same
    rcases told x List.mem_cons_self with equal | apart
    · rw [equal] at same
      obtain ⟨_, rest⟩ := List.cons.inj (List.append_cancel_left same)
      obtain ⟨tails, ends⟩ := ih (fun x member => told x (List.mem_cons_of_mem _ member)) rest
      exact ⟨by rw [List.map_cons, List.map_cons, equal, tails], ends⟩
    · exact absurd same (apart _ _)

end Told

/-- The text ends with a separator that a display breaks a line at and a compiler does not. -/
def EndsApart (t : Text) : Prop := ∃ c, t.getLast? = some c ∧ isDisplayBreak c = true ∧ isLineEnd c = false

instance (t : Text) : Decidable (EndsApart t) :=
  decidable_of_iff (t.getLast?.any (fun c => isDisplayBreak c && !isLineEnd c) = true)
    (by simp [EndsApart, Option.any_eq_true])

@[simp] theorem not_endsApart_nil : ¬ EndsApart [] := by
  rintro ⟨c, last, _⟩
  cases last

theorem endsApart_single (c : Char) :
    EndsApart [c] ↔ isDisplayBreak c = true ∧ isLineEnd c = false := by
  simp [EndsApart]

theorem endsApart_cons (c : Char) {t : Text} (more : t ≠ []) : EndsApart (c :: t) ↔ EndsApart t := by
  cases t with
  | nil => exact absurd rfl more
  | cons d u => simp [EndsApart]

theorem endsApart_end {c : Char} (ends : isLineEnd c = true) (t : Text) :
    EndsApart (c :: t) ↔ EndsApart t := by
  cases t with
  | nil => simp [endsApart_single, ends]
  | cons d u => exact endsApart_cons c (List.cons_ne_nil d u)

theorem not_endsApart_unlines (ls : List Text) : ¬ EndsApart (unlines ls) := by
  rintro ⟨c, last, _, inside⟩
  by_cases no_line : ls = []
  · rw [no_line] at last
    cases last
  · obtain rfl := Option.some.inj ((getLast?_unlines no_line).symm.trans last)
    cases inside

theorem displayLines_break {c : Char} {r : Text} (alone : ∀ u, c = '\r' → r = '\n' :: u → False)
    (broken : isDisplayBreak c = true) : displayLines (c :: r) = [] :: displayLines r := by
  rw [displayLines, linesBy.eq_3 _ _ _ alone, if_pos broken]
  rfl

theorem displayLines_char {c : Char} (r : Text) (inside : isDisplayBreak c = false) :
    displayLines (c :: r) = consFirst c (displayLines r) := by
  have noReturn : ∀ u, c = '\r' → r = '\n' :: u → False := by
    rintro u rfl
    cases inside
  rw [displayLines, linesBy.eq_3 _ _ _ noReturn, if_neg (by simp [inside])]
  rfl

theorem displayLines_ne_nil (c : Char) (r : Text) : displayLines (c :: r) ≠ [] := by
  unfold displayLines linesBy
  split
  · contradiction
  · simp
  · split
    · simp
    · cases linesBy isDisplayBreak _ <;> simp [consFirst]

theorem sourceLines_end {c : Char} {r : Text} (alone : ∀ u, c = '\r' → r = '\n' :: u → False)
    (ends : isLineEnd c = true) : sourceLines (c :: r) = [] :: sourceLines r := by
  rw [sourceLines, linesBy.eq_3 _ _ _ alone, if_pos ends]
  rfl

/-- Written back, the lines that a compiler counts show as those of a display, with one more break if
the text ends with a separator that only a display knows: that one gets a line feed of its own. -/
theorem shown_unlines_sourceLines (t : Text) :
    shown (unlines (sourceLines t)) = unlines (displayLines t) ++ if EndsApart t then ['\n'] else [] := by
  -- The cases are those of the display, which breaks wherever a compiler does. Only the last character
  -- can be a break to one and not to the other, with nothing behind it.
  induction t using linesBy.induct isDisplayBreak with
  | case1 => rfl
  | case2 r ih =>
    have same : EndsApart ('\r' :: '\n' :: r) ↔ EndsApart r :=
      (endsApart_end (by decide) _).trans (endsApart_end (by decide) r)
    rw [sourceLines_pair, unlines_cons, List.nil_append, shown_cons, ih]
    simp only [same]
    rfl
  | case3 c r alone broken ih =>
    rw [displayLines_break alone broken, unlines_cons, List.nil_append, List.cons_append]
    cases ends : isLineEnd c with
    | true =>
      rw [sourceLines_end alone ends, unlines_cons, List.nil_append, shown_cons, ih]
      simp only [endsApart_end ends]
      rfl
    | false =>
      rw [sourceLines_char c r ends]
      cases r with
      | nil =>
        have apart := (endsApart_single c).mpr ⟨broken, ends⟩
        show shown (unlines [[c]]) = _
        rw [if_pos apart, unlines_cons, shown_append, shown_cons, shownChar_of_break broken]
        rfl
      | cons d u =>
        rw [unlines_consFirst c _ (sourceLines_ne_nil d u), shown_cons, ih, shownChar_of_break broken]
        simp only [endsApart_cons c (List.cons_ne_nil d u)]
  | case4 c r alone inside ih =>
    have plain : isDisplayBreak c = false := by simpa using inside
    rw [displayLines_char r plain, sourceLines_char c r (isLineEnd_of_inside plain)]
    cases r with
    | nil =>
      have whole : ¬ EndsApart [c] := by simp [endsApart_single, plain]
      show shown (unlines [[c]]) = unlines [[c]] ++ _
      rw [if_neg whole, List.append_nil, unlines_cons, shown_append, shown_cons, shownChar_of_inside plain]
      rfl
    | cons d u =>
      rw [unlines_consFirst c _ (sourceLines_ne_nil d u), unlines_consFirst c _ (displayLines_ne_nil d u),
        shown_cons, ih, shownChar_of_inside plain]
      simp only [endsApart_cons c (List.cons_ne_nil d u), List.cons_append]

theorem displayLines_append (r : Text) {l : Text} (whole : OneLine l) :
    displayLines (l ++ '\n' :: r) = l :: displayLines r := by
  induction l with
  | nil =>
    have alone : ∀ u, '\n' = '\r' → r = '\n' :: u → False := by
      intro u same
      exact absurd same (by decide)
    exact displayLines_break alone (by decide)
  | cons c l ih =>
    have tail := ih fun d member => whole d (List.mem_cons_of_mem _ member)
    rw [List.cons_append, displayLines_char _ (whole c List.mem_cons_self), tail, consFirst]

theorem displayLines_unlines {ls : List Text} (whole : ∀ l ∈ ls, OneLine l) :
    displayLines (unlines ls) = ls := by
  induction ls with
  | nil => rfl
  | cons l ls ih =>
    have tail := ih fun k member => whole k (List.mem_cons_of_mem _ member)
    rw [unlines_cons, displayLines_append _ (whole l List.mem_cons_self), tail]

theorem sourceLines_unlines_displayLines (t : Text) : sourceLines (unlines (displayLines t)) = displayLines t := by
  apply sourceLines_unlines
  exact fun l member => (oneLine_of_mem_displayLines member).unbroken

theorem displayLines_eq_iff (t u : Text) :
    displayLines t = displayLines u ↔ unlines (displayLines t) = unlines (displayLines u) := by
  constructor
  · intro same
    rw [same]
  · intro same
    rw [← sourceLines_unlines_displayLines t, same, sourceLines_unlines_displayLines]

end ParseRepair.Text
