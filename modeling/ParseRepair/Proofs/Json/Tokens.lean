import ParseRepair.Proofs.Json.Strings

namespace ParseRepair.Json

open Text (sepBy EndsDigits stripStart?)

def Gap (t : Text) : Prop := ∀ c ∈ t, isBlank c = true

instance (t : Text) : Decidable (Gap t) := decidable_of_iff (t.all isBlank = true) List.all_eq_true

def delimiters : List Char := [' ', '\t', '\n', '\r', ',', ']', '}']

def Delimits (t : Text) : Prop := ∀ c r, t = c :: r → c ∈ delimiters

section Blanks

theorem skipBlank_gap {g : Text} (blank : Gap g) (t : Text) : skipBlank (g ++ t) = skipBlank t :=
  List.dropWhile_append_of_pos blank

theorem skipBlank_cons {c : Char} (visible : isBlank c = false) (t : Text) : skipBlank (c :: t) = c :: t :=
  List.dropWhile_cons_of_neg (by simp [visible])

theorem delimits_nil : Delimits [] := by
  rintro c r ⟨⟩

theorem delimits_cons {c : Char} (delimiter : c ∈ delimiters) (t : Text) : Delimits (c :: t) := by
  rintro d r ⟨⟩
  exact delimiter

theorem Delimits.gap {g t : Text} (ends : Delimits t) (blank : Gap g) : Delimits (g ++ t) := by
  cases g with
  | nil => exact ends
  | cons c g =>
    apply delimits_cons
    have kind := blank c List.mem_cons_self
    simp only [isBlank, Bool.or_eq_true, beq_iff_eq] at kind
    rcases kind with ((rfl | rfl) | rfl) | rfl <;> decide

theorem Delimits.all {t : Text} (ends : Delimits t) {p : Char → Bool} (each : delimiters.all p = true) :
    ∀ c r, t = c :: r → p c = true :=
  fun c r shape => List.all_eq_true.mp each c (ends c r shape)

end Blanks

section Number

variable {rest : Text}

theorem Delimits.endsDigits (ends : Delimits rest) : EndsDigits rest := by
  intro c r shape
  have other := ends.all (p := fun c => !Text.isAsciiDigit c) (by decide) c r shape
  simpa using other

theorem fraction_of_delimits (ends : Delimits rest) : Decimal.fraction rest = ([], rest) := by
  unfold Decimal.fraction
  split
  · rename_i r
    exact absurd (ends.all (p := (· != '.')) (by decide) '.' r rfl) (by decide)
  · rfl

theorem power_of_delimits (ends : Delimits rest) : Decimal.power rest = (none, rest) := by
  cases rest with
  | nil => rfl
  | cons c r =>
    have other := ends.all (p := fun c => !(c == 'e' || c == 'E')) (by decide) c r rfl
    rw [Bool.not_eq_true'] at other
    rw [Decimal.power, if_neg (by simp [other])]

theorem whole?_ofNat (n : Nat) (ends : EndsDigits rest) : whole? (.ofNat n ++ rest) = some (.ofNat n, rest) := by
  rcases Nat.eq_zero_or_pos n with rfl | positive
  · rfl
  · obtain ⟨c, r, shape, other⟩ := Text.head_ofNat positive
    have digits : Decimal.digits (.ofNat n ++ rest) = (.ofNat n, rest) :=
      Text.span_digits (Text.isAsciiDigit_ofNat n) ends
    have filled : (Text.ofNat n).isEmpty = false := by simp [shape]
    have notZero : ∀ u, Text.ofNat n ++ rest = '0' :: u → False := by
      intro u same
      rw [shape, List.cons_append] at same
      exact other (List.cons.inj same).1
    rw [whole?.eq_2 _ notZero, digits]
    exact if_neg (by simp [filled])

theorem value_plain {t : Text} {fuel depth : Nat} (quote : ∀ r, t ≠ '"' :: r) (bracket : ∀ r, t ≠ '[' :: r)
    (brace : ∀ r, t ≠ '{' :: r) : value (fuel + 1) depth t =
      match keyword? t with
      | some found => .ok found
      | none => number t :=
  value.eq_5 _ _ _ quote bracket brace

theorem value_plain_cons {c : Char} {r : Text} {fuel depth : Nat} (quote : c ≠ '"') (bracket : c ≠ '[')
    (brace : c ≠ '{') : value (fuel + 1) depth (c :: r) =
      match keyword? (c :: r) with
      | some found => .ok found
      | none => number (c :: r) := by
  apply value_plain
  · rintro u ⟨⟩
    exact quote rfl
  · rintro u ⟨⟩
    exact bracket rfl
  · rintro u ⟨⟩
    exact brace rfl

theorem number_of_signed {t : Text} {negative : Bool} {n : Nat}
    (signed : Decimal.signed t = (negative, .ofNat n ++ rest)) (short : (Text.ofNat n).length ≤ digitLimit)
    (ends : Delimits rest) : number t = .ok (.int (if negative then -n else n), rest) := by
  simp only [number, signed, whole?_ofNat n ends.endsDigits, fraction_of_delimits ends, power_of_delimits ends,
    Text.toNat_ofNat short, List.isEmpty_nil, Option.isNone_none, Bool.and_self, if_true]

theorem head_digit (n : Nat) : ∃ c r, Text.ofNat n = c :: r ∧ Text.isAsciiDigit c = true := by
  cases shape : Text.ofNat n with
  | nil => exact absurd shape (Text.ofNat_ne_nil n)
  | cons c r => exact ⟨c, r, rfl, Text.isAsciiDigit_ofNat n c (by rw [shape]; exact List.mem_cons_self)⟩

theorem keyword?_digit {c : Char} (digit : Text.isAsciiDigit c = true) (r : Text) : keyword? (c :: r) = none := by
  have letters : keywords.all (fun k => k.1.head?.any (!Text.isAsciiDigit ·)) = true := by decide
  rw [keyword?, List.findSome?_eq_none_iff]
  rintro ⟨word, v⟩ member
  have letter := List.all_eq_true.mp letters _ member
  cases word with
  | nil => cases letter
  | cons d word =>
    have other : d ≠ c := by
      rintro rfl
      simp [digit] at letter
    simp only [stripStart?, if_neg other, Option.map_none]

theorem keyword?_minus {c : Char} (other : 'I' ≠ c) (r : Text) : keyword? ('-' :: c :: r) = none := by
  simp [keyword?, keywords, stripStart?, other]

theorem plain_of_digit {c : Char} (digit : Text.isAsciiDigit c = true) :
    isBlank c = false ∧ c ≠ '"' ∧ c ≠ '[' ∧ c ≠ '{' ∧ c ≠ '-' ∧ 'I' ≠ c := by
  have other {d : Char} (no_digit : Text.isAsciiDigit d = false) : c ≠ d := by
    rintro rfl
    rw [no_digit] at digit
    cases digit
  have space := other (show Text.isAsciiDigit ' ' = false by decide)
  have tab := other (show Text.isAsciiDigit '\t' = false by decide)
  have feed := other (show Text.isAsciiDigit '\n' = false by decide)
  have ret := other (show Text.isAsciiDigit '\r' = false by decide)
  exact ⟨by simp [isBlank, space, tab, feed, ret], other (by decide), other (by decide), other (by decide),
    other (by decide), (other (by decide)).symm⟩

theorem value_ofInt (n : Int) (short : (Text.ofNat n.natAbs).length ≤ digitLimit) (ends : Delimits rest)
    (fuel depth : Nat) : ∃ c r, Text.ofInt n ++ rest = c :: r ∧ isBlank c = false ∧
      value (fuel + 1) depth (c :: r) = .ok (.int n, rest) := by
  cases n with
  | ofNat n =>
    obtain ⟨c, r, shape, digit⟩ := head_digit n
    obtain ⟨visible, quote, bracket, brace, minus, _⟩ := plain_of_digit digit
    have written : Text.ofInt (.ofNat n) ++ rest = c :: (r ++ rest) := by
      rw [Text.ofInt, shape, List.cons_append]
    have signed : Decimal.signed (c :: (r ++ rest)) = (false, .ofNat n ++ rest) := by
      rw [shape, List.cons_append, Decimal.signed.eq_2]
      rintro u ⟨⟩
      exact minus rfl
    refine ⟨c, r ++ rest, written, visible, ?_⟩
    rw [value_plain_cons quote bracket brace, keyword?_digit digit]
    exact number_of_signed signed short ends
  | negSucc n =>
    obtain ⟨c, r, shape, digit⟩ := head_digit (n + 1)
    obtain ⟨_, _, _, _, _, letter⟩ := plain_of_digit digit
    refine ⟨'-', Text.ofNat (n + 1) ++ rest, rfl, rfl, ?_⟩
    rw [value_plain_cons (by decide) (by decide) (by decide)]
    rw [shape, List.cons_append, keyword?_minus letter, ← List.cons_append, ← shape]
    exact @number_of_signed rest _ true _ rfl short ends

end Number

end ParseRepair.Json
