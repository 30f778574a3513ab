import ParseRepair.Text.Lines

namespace ParseRepair.Text

def Unbroken (t : Text) : Prop := ∀ c ∈ t, isLineEnd c = false

instance (t : Text) : Decidable (Unbroken t) :=
  decidable_of_iff (t.all (fun c => !isLineEnd c) = true) (by simp [Unbroken])

theorem Unbroken.mono {t u : Text} (whole : Unbroken u) (part : t ⊆ u) : Unbroken t :=
  fun c member => whole c (part member)

theorem Unbroken.append {t u : Text} (left : Unbroken t) (right : Unbroken u) : Unbroken (t ++ u) := by
  intro c member
  rcases List.mem_append.mp member with member | member
  · exact left c member
  · exact right c member

theorem Unbroken.cons {c : Char} {t : Text} (head : isLineEnd c = false) (tail : Unbroken t) :
    Unbroken (c :: t) := by
  intro d member
  rcases List.mem_cons.mp member with rfl | member
  · exact head
  · exact tail d member

theorem Unbroken.replicate (n : Nat) {c : Char} (char : isLineEnd c = false) :
    Unbroken (List.replicate n c) := by
  intro d member
  rw [List.eq_of_mem_replicate member]
  exact char

theorem Unbroken.no_feed {t : Text} (whole : Unbroken t) : '\n' ∉ t :=
  fun member => by simpa [isLineEnd] using whole _ member

theorem Unbroken.no_return {t : Text} (whole : Unbroken t) : '\r' ∉ t :=
  fun member => by simpa [isLineEnd] using whole _ member

theorem sourceLines_pair (r : Text) : sourceLines ('\r' :: '\n' :: r) = [] :: sourceLines r := rfl

theorem sourceLines_feed (r : Text) : sourceLines ('\n' :: r) = [] :: sourceLines r := by
  simp [sourceLines, linesBy, isLineEnd]

theorem sourceLines_return (r : Text) (alone : ∀ u, r ≠ '\n' :: u) :
    sourceLines ('\r' :: r) = [] :: sourceLines r := by
  cases r with
  | nil => simp [sourceLines, linesBy, isLineEnd]
  | cons d u =>
    have other : d ≠ '\n' := fun same => alone u (by rw [same])
    simp [sourceLines, linesBy, isLineEnd, other]

theorem sourceLines_char (c : Char) (r : Text) (inside : isLineEnd c = false) :
    sourceLines (c :: r) = consFirst c (sourceLines r) := by
  have noReturn : c ≠ '\r' := by
    intro same
    simp [same, isLineEnd] at inside
  unfold sourceLines
  rw [linesBy]
  · simp [inside]
  · intro u same
    exact absurd same noReturn

theorem sourceLines_append (l r : Text) (whole : Unbroken l) :
    sourceLines (l ++ '\n' :: r) = l :: sourceLines r := by
  induction l with
  | nil => exact sourceLines_feed r
  | cons c l ih =>
    have head : isLineEnd c = false := whole c List.mem_cons_self
    have tail : Unbroken l := whole.mono (List.subset_cons_self c l)
    rw [List.cons_append, sourceLines_char c _ head, ih tail, consFirst]

@[simp] theorem unlines_nil : unlines [] = [] := rfl

@[simp] theorem unlines_cons (l : Text) (ls : List Text) :
    unlines (l :: ls) = l ++ '\n' :: unlines ls := by
  simp [unlines]

theorem unlines_append (ls ks : List Text) : unlines (ls ++ ks) = unlines ls ++ unlines ks := List.flatMap_append

theorem getLast?_unlines {ls : List Text} (some_line : ls ≠ []) : (unlines ls).getLast? = some '\n' := by
  rcases List.eq_nil_or_concat ls with rfl | ⟨front, l, rfl⟩
  · exact absurd rfl some_line
  · simp only [unlines, List.concat_eq_append, List.flatMap_append, List.flatMap_cons, List.flatMap_nil,
      List.append_nil, ← List.append_assoc, List.getLast?_concat]

theorem sourceLines_unlines (ls : List Text) (whole : ∀ l ∈ ls, Unbroken l) :
    sourceLines (unlines ls) = ls := by
  induction ls with
  | nil => rfl
  | cons l ls ih =>
    have head := whole l List.mem_cons_self
    have tail := ih fun k member => whole k (List.mem_cons_of_mem _ member)
    rw [unlines_cons, sourceLines_append l _ head, tail]

theorem mem_consFirst {c : Char} {ls : List Text} {l : Text} (member : l ∈ consFirst c ls) :
    l ∈ ls ∨ ∃ k, (k = [] ∨ k ∈ ls) ∧ l = c :: k := by
  cases ls with
  | nil =>
    simp only [consFirst, List.mem_singleton] at member
    exact .inr ⟨[], .inl rfl, member⟩
  | cons k ls =>
    simp only [consFirst, List.mem_cons] at member
    rcases member with same | member
    · exact .inr ⟨k, .inr List.mem_cons_self, same⟩
    · exact .inl (List.mem_cons_of_mem _ member)

theorem whole_of_mem_linesBy (isBreak : Char → Bool) (t l : Text) (member : l ∈ linesBy isBreak t) :
    ∀ c ∈ l, isBreak c = false := by
  have empty : ∀ c ∈ ([] : Text), isBreak c = false := fun c member => absurd member List.not_mem_nil
  induction t using linesBy.induct isBreak generalizing l with
  | case1 => simp [linesBy] at member
  | case2 r ih =>
    rcases List.mem_cons.mp member with rfl | member
    · exact empty
    · exact ih l member
  | case3 c r pair broken ih =>
    rw [linesBy.eq_3 _ _ _ pair, if_pos broken] at member
    rcases List.mem_cons.mp member with rfl | member
    · exact empty
    · exact ih l member
  | case4 c r pair inside ih =>
    rw [linesBy.eq_3 _ _ _ pair, if_neg inside] at member
    have head : isBreak c = false := by simpa using inside
    rcases mem_consFirst member with member | ⟨k, rest, rfl⟩
    · exact ih l member
    · intro d place
      rcases List.mem_cons.mp place with rfl | place
      · exact head
      · rcases rest with rfl | rest
        · exact empty d place
        · exact ih k rest d place

theorem unbroken_of_mem_sourceLines {t l : Text} (member : l ∈ sourceLines t) : Unbroken l :=
  whole_of_mem_linesBy isLineEnd t l member

theorem normalizeBreaks_of_no_return {t : Text} (none : '\r' ∉ t) : normalizeBreaks t = t := by
  induction t using normalizeBreaks.induct with
  | case1 => rfl
  | case2 r ih => exact absurd List.mem_cons_self none
  | case3 c r noPair ih =>
    rw [List.mem_cons, not_or] at none
    have other : (c == '\r') = false := beq_eq_false_iff_ne.mpr (Ne.symm none.1)
    rw [normalizeBreaks, other, ih none.2, if_neg Bool.false_ne_true]
    exact noPair

end ParseRepair.Text
