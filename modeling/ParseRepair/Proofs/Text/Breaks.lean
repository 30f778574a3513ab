import Mathlib.Data.List.Chain
import ParseRepair.Proofs.Text.Display
import ParseRepair.Text.Search

namespace ParseRepair.Text

inductive Terminator
  | feed
  | carriageReturn
  | pair
  deriving DecidableEq, Repr

def Terminator.text : Terminator → Text
  | .feed => ['\n']
  | .carriageReturn => ['\r']
  | .pair => ['\r', '\n']

structure EndedLine where
  text : Text
  ends : Terminator
  unbroken : Unbroken text

namespace EndedLine

def whole (l : EndedLine) : Text := l.text ++ l.ends.text

/-- The two lines are read as two. Only CR with an empty line ended by LF behind it would be read as one
break. -/
def Parted (l k : EndedLine) : Prop := l.ends = .carriageReturn → ¬ (k.text = [] ∧ k.ends = .feed)

instance (l k : EndedLine) : Decidable (l.Parted k) := inferInstanceAs (Decidable (_ → ¬ (_ ∧ _)))

theorem whole_no_feed {l k : EndedLine} (parted : l.Parted k) (ends : l.ends = .carriageReturn) (r u : Text) :
    k.whole ++ r ≠ '\n' :: u := by
  obtain ⟨text, terminator, unbroken⟩ := k
  cases text with
  | nil =>
    cases terminator with
    | feed => exact absurd ⟨rfl, rfl⟩ (parted ends)
    | carriageReturn => simp [whole, Terminator.text]
    | pair => simp [whole, Terminator.text]
  | cons c text =>
    intro same
    have feed : c = '\n' := (List.cons.inj same).1
    exact unbroken.no_feed (by rw [feed]; exact List.mem_cons_self)

theorem sourceLines_whole (l : EndedLine) (r : Text) (alone : l.ends = .carriageReturn → ∀ u, r ≠ '\n' :: u) :
    sourceLines (l.whole ++ r) = l.text :: sourceLines r := by
  obtain ⟨text, terminator, unbroken⟩ := l
  simp only [whole, List.append_assoc]
  induction text with
  | nil =>
    cases terminator with
    | feed => exact sourceLines_feed r
    | carriageReturn => exact sourceLines_return r (alone rfl)
    | pair => exact sourceLines_pair r
  | cons c text ih =>
    have head : isLineEnd c = false := unbroken c List.mem_cons_self
    have rest := ih (unbroken.mono (List.subset_cons_self c text)) alone
    rw [List.cons_append, sourceLines_char c _ head, rest, consFirst]

end EndedLine

def joined (ls : List EndedLine) : Text := ls.flatMap EndedLine.whole

theorem joined_cons (l : EndedLine) (ls : List EndedLine) : joined (l :: ls) = l.whole ++ joined ls :=
  List.flatMap_cons

theorem sourceLines_joined_append {ls : List EndedLine} (parted : ls.IsChain EndedLine.Parted) {last : Text}
    (unbroken : Unbroken last) : sourceLines (joined ls ++ last) = ls.map EndedLine.text ++ sourceLines last := by
  induction ls with
  | nil => rfl
  | cons l ls ih =>
    have rest := ih parted.tail
    have alone : l.ends = .carriageReturn → ∀ u, joined ls ++ last ≠ '\n' :: u := by
      intro ends u
      cases ls with
      | nil =>
        intro same
        exact unbroken.no_feed (by rw [show last = '\n' :: u from same]; exact List.mem_cons_self)
      | cons k ls =>
        rw [joined_cons, List.append_assoc]
        exact EndedLine.whole_no_feed (List.isChain_cons_cons.mp parted).1 ends _ u
    rw [joined_cons, List.append_assoc, EndedLine.sourceLines_whole l _ alone, rest]
    rfl

theorem sourceLines_unbroken {t : Text} (unbroken : Unbroken t) (some_char : t ≠ []) : sourceLines t = [t] := by
  induction t with
  | nil => exact absurd rfl some_char
  | cons c r ih =>
    have head : isLineEnd c = false := unbroken c List.mem_cons_self
    rw [sourceLines_char c r head]
    cases r with
    | nil => rfl
    | cons d u => rw [ih (unbroken.mono (List.subset_cons_self c _)) (List.cons_ne_nil d u), consFirst]

theorem no_return_normalizeBreaks (t : Text) : '\r' ∉ normalizeBreaks t := by
  induction t using normalizeBreaks.induct with
  | case1 => exact List.not_mem_nil
  | case2 r ih =>
    rw [normalizeBreaks, List.mem_cons, not_or]
    exact ⟨by decide, ih⟩
  | case3 c r pair ih =>
    rw [normalizeBreaks.eq_3 c r pair, List.mem_cons, not_or]
    refine ⟨?_, ih⟩
    split
    · decide
    · rename_i other
      exact fun same => other (beq_iff_eq.mpr same.symm)

theorem withLineFeeds_normalizeBreaks (t : Text) : withLineFeeds (normalizeBreaks t) = withLineFeeds t := by
  rw [withLineFeeds, normalizeBreaks_of_no_return (no_return_normalizeBreaks t)]
  rfl

theorem sourceLines_normalizeBreaks (t : Text) : sourceLines (normalizeBreaks t) = sourceLines t := by
  rw [← sourceLines_withLineFeeds, withLineFeeds_normalizeBreaks, sourceLines_withLineFeeds]

def Unended (t : Text) : Prop := t ≠ [] ∧ ∀ c ∈ t.getLast?, isLineEnd c = false

theorem Unended.tail {c d : Char} {r : Text} (unended : Unended (c :: d :: r)) : Unended (d :: r) := by
  refine ⟨List.cons_ne_nil d r, fun e last => unended.2 e ?_⟩
  rw [List.getLast?_cons_cons]
  exact last

theorem sourceLines_append_feed {t : Text} (unended : Unended t) : sourceLines (t ++ ['\n']) = sourceLines t := by
  induction t using normalizeBreaks.induct with
  | case1 => exact absurd rfl unended.1
  | case2 r ih =>
    cases r with
    | nil => exact absurd (unended.2 '\n' rfl) (by decide)
    | cons d r =>
      rw [List.cons_append, List.cons_append, sourceLines_pair, sourceLines_pair, ih unended.tail.tail]
  | case3 c r pair ih =>
    cases r with
    | nil =>
      have inside : isLineEnd c = false := unended.2 c rfl
      rw [List.cons_append, List.nil_append, sourceLines_char c _ inside, sourceLines_char c _ inside]
      rfl
    | cons d r =>
      have rest := ih unended.tail
      cases ends : isLineEnd c with
      | false => rw [List.cons_append, sourceLines_char c _ ends, sourceLines_char c _ ends, rest]
      | true =>
        have alone : ∀ u, c = '\r' → d :: (r ++ ['\n']) = '\n' :: u → False := by
          intro u same feed
          exact pair r same (by rw [(List.cons.inj feed).1])
        rw [sourceLines_end pair ends, ← rest, List.cons_append, List.cons_append, sourceLines_end alone ends]

section Normalized

variable {c : Char} {t u : Text}

theorem normalizeBreaks_cons (other : c ≠ '\r') (t : Text) : normalizeBreaks (c :: t) = c :: normalizeBreaks t := by
  rw [normalizeBreaks.eq_3 c t fun _ same _ => other same, if_neg]
  simpa using other

theorem normalizeBreaks_inside (inside : isLineEnd c = false) (t : Text) :
    normalizeBreaks (c :: t) = c :: normalizeBreaks t := by
  refine normalizeBreaks_cons ?_ t
  rintro rfl
  cases inside

theorem normalizeBreaks_return (t : Text) : ∃ u, normalizeBreaks ('\r' :: t) = '\n' :: u := by
  by_cases pair : ∃ r, t = '\n' :: r
  · obtain ⟨r, rfl⟩ := pair
    exact ⟨_, normalizeBreaks.eq_2 r⟩
  · exact ⟨_, normalizeBreaks.eq_3 '\r' t fun r _ same => pair ⟨r, same⟩⟩

/-- Only a line feed in the new text can stand for something else. -/
theorem of_normalizeBreaks_cons (inside : isLineEnd c = false) (shape : normalizeBreaks t = c :: u) :
    ∃ r, t = c :: r ∧ normalizeBreaks r = u := by
  cases t with
  | nil => cases shape
  | cons d r =>
    by_cases ret : d = '\r'
    · obtain ⟨w, broken⟩ := normalizeBreaks_return r
      rw [ret, broken] at shape
      rw [← (List.cons.inj shape).1] at inside
      cases inside
    · rw [normalizeBreaks_cons ret] at shape
      obtain ⟨rfl, rest⟩ := List.cons.inj shape
      exact ⟨r, rfl, rest⟩

theorem normalizeBreaks_ne_cons (inside : isLineEnd c = false) (other : ∀ r, t ≠ c :: r) (u : Text) :
    normalizeBreaks t ≠ c :: u := by
  intro shape
  obtain ⟨r, same, _⟩ := of_normalizeBreaks_cons inside shape
  exact other r same

theorem takeWhile_normalizeBreaks {p : Char → Bool} (feed : p '\n' = false) (ret : p '\r' = false) (t : Text) :
    (normalizeBreaks t).takeWhile p = t.takeWhile p := by
  induction t with
  | nil => rfl
  | cons c t ih =>
    by_cases broken : c = '\r'
    · obtain ⟨u, shape⟩ := normalizeBreaks_return t
      rw [broken, shape, List.takeWhile_cons, List.takeWhile_cons, feed, ret]
      rfl
    · rw [normalizeBreaks_cons broken, List.takeWhile_cons, List.takeWhile_cons, ih]

theorem dropWhile_normalizeBreaks {p : Char → Bool} (same : p '\n' = p '\r') (t : Text) :
    (normalizeBreaks t).dropWhile p = normalizeBreaks (t.dropWhile p) := by
  induction t using normalizeBreaks.induct with
  | case1 => rfl
  | case2 r ih =>
    cases dropped : p '\r' with
    | true =>
      rw [normalizeBreaks.eq_2, List.dropWhile_cons_of_pos (same.trans dropped), List.dropWhile_cons_of_pos dropped,
        List.dropWhile_cons_of_pos (same.trans dropped), ih]
    | false =>
      rw [List.dropWhile_cons_of_neg (by simp [dropped]), normalizeBreaks.eq_2,
        List.dropWhile_cons_of_neg (by simp [same, dropped])]
  | case3 c r pair ih =>
    have head : p (if (c == '\r') = true then '\n' else c) = p c := by
      split
      · rename_i ret
        rw [same, eq_of_beq ret]
      · rfl
    rw [normalizeBreaks.eq_3 c r pair]
    cases dropped : p c with
    | true => rw [List.dropWhile_cons_of_pos (head.trans dropped), List.dropWhile_cons_of_pos dropped, ih]
    | false =>
      rw [List.dropWhile_cons_of_neg (by rw [head, dropped]; exact Bool.false_ne_true),
        List.dropWhile_cons_of_neg (by simp [dropped]), normalizeBreaks.eq_3 c r pair]

theorem stripStart?_normalizeBreaks {p : Text} (unbroken : ∀ c ∈ p, isLineEnd c = false) (t : Text) :
    stripStart? p (normalizeBreaks t) = (stripStart? p t).map normalizeBreaks := by
  induction p generalizing t with
  | nil => rfl
  | cons c p ih =>
    have head : isLineEnd c = false := unbroken c List.mem_cons_self
    cases t with
    | nil => rfl
    | cons d t =>
      by_cases broken : d = '\r'
      · obtain ⟨u, shape⟩ := normalizeBreaks_return t
        have feed : c ≠ '\n' := by
          rintro rfl
          cases head
        have ret : c ≠ '\r' := by
          rintro rfl
          cases head
        rw [broken, shape, stripStart?, stripStart?, if_neg feed, if_neg ret]
        rfl
      · rw [normalizeBreaks_cons broken, stripStart?, stripStart?]
        split
        · exact ih (fun e member => unbroken e (List.mem_cons_of_mem c member)) t
        · rfl

end Normalized

end ParseRepair.Text
