import ParseRepair.Proofs.Diagnostic.Placement
import ParseRepair.Proofs.Text.Points

namespace ParseRepair

namespace Text

theorem decimalDigit?_of_ascii {c : Char} (digit : isAsciiDigit c = true) :
    decimalDigit? c = some (c.toNat - '0'.toNat) := by
  have range := range_of_isAsciiDigit digit
  have first : (decide (0x30 ≤ c.toNat) && decide (c.toNat < 0x30 + 10)) = true := by
    simp only [Bool.and_eq_true, decide_eq_true_eq]
    omega
  simp only [decimalDigit?, decimalZeros, List.findSome?_cons, first, if_true]
  rfl

theorem isDecimal_of_ascii {c : Char} (digit : isAsciiDigit c = true) : isDecimal c = true := by
  rw [isDecimal, decimalDigit?_of_ascii digit]
  rfl

theorem toNat_digits {ds : Text} (digits : Digits ds) : toNat ds =
    if digitLimit < ds.length then .error (.tooManyDigits ds.length)
    else .ok (ofDigits 10 (ds.filterMap decimalDigit?)) := by
  obtain ⟨some_digit, each⟩ := digits
  have decimal : ∀ c ∈ ds, isDecimal c = true := fun c member => isDecimal_of_ascii (each c member)
  have run : ds.takeWhile isDecimal = ds := List.takeWhile_eq_self_iff.mpr decimal
  split
  · rename_i long
    exact toNat_eq_error_iff.mpr (.inl ⟨by rwa [run], by rw [run]⟩)
  · rename_i short
    exact toNat_eq_ok_iff.mpr ⟨some_digit, decimal, Nat.le_of_not_lt short, rfl⟩

end Text

namespace Diagnostic

open Text

/-- A message goes on with a place. The numbers are taken as far as they go. -/
def BeginsPlace (m : Points) (line column : Text) : Prop :=
  ∃ rest : Points, m = points "line " ++ (line.points ++ (points ", column " ++ (column.points ++ rest))) ∧
    Digits line ∧ Digits column ∧ rest.EndsDigits

def NamesPlace (m : Points) (line column : Text) : Prop :=
  ∃ i, BeginsPlace (m.drop i) line column ∧ ∀ j < i, ∀ line' column', ¬ BeginsPlace (m.drop j) line' column'

theorem locationHere?_of_beginsPlace {m : Points} {line column : Text} (begins : BeginsPlace m line column) :
    locationHere? m = some (line, column) := by
  obtain ⟨rest, rfl, ⟨some_digit, digits⟩, ⟨some_digit', digits'⟩, ends⟩ := begins
  have comma : Points.EndsDigits (points ", column " ++ (column.points ++ rest)) :=
    Points.endsDigits_cons (by rintro c ⟨⟩; rfl) _
  have first : stripStart? (points "line ") (points "line " ++
      (line.points ++ (points ", column " ++ (column.points ++ rest)))) =
        some (line.points ++ (points ", column " ++ (column.points ++ rest))) :=
    (stripStart?_eq_some_iff _ _ _).mpr rfl
  have second : stripStart? (points ", column ") (points ", column " ++ (column.points ++ rest)) =
      some (column.points ++ rest) :=
    (stripStart?_eq_some_iff _ _ _).mpr rfl
  have filled : (line.isEmpty || column.isEmpty) = false := by simp [some_digit, some_digit']
  simp only [locationHere?, first, second, Points.digits_append digits comma, Points.digits_append digits' ends, filled,
    Option.bind_eq_bind, Option.bind_some, Bool.false_eq_true, if_false]

theorem locationHere?_eq_some_iff {m : Points} {line column : Text} :
    locationHere? m = some (line, column) ↔ BeginsPlace m line column := by
  constructor
  · intro here
    unfold locationHere? at here
    simp only [Option.bind_eq_bind, Option.bind_eq_some_iff] at here
    obtain ⟨u, stripped, w, stripped', here⟩ := here
    split at here
    · cases here
    · rename_i filled
      rw [Bool.not_eq_true, Bool.or_eq_false_iff] at filled
      cases here
      obtain ⟨shape, each, _⟩ := Points.digits_spec u
      obtain ⟨shape', each', ends⟩ := Points.digits_spec w
      refine ⟨(Points.digits w).2, ?_, ⟨by simpa using filled.1, each⟩, ⟨by simpa using filled.2, each'⟩, ends⟩
      rw [← shape', ← (stripStart?_eq_some_iff _ _ _).mp stripped', ← shape]
      exact (stripStart?_eq_some_iff _ _ _).mp stripped
  · exact locationHere?_of_beginsPlace

theorem location?_of_here {m : Points} {place : Text × Text} (here : locationHere? m = some place) :
    location? m = some place := by
  cases m with
  | nil => cases here
  | cons c r => rw [location?, here, Option.some_or]

theorem location?_eq_some_iff {m : Points} {line column : Text} :
    location? m = some (line, column) ↔ NamesPlace m line column := by
  induction m with
  | nil =>
    constructor
    · intro found
      cases found
    · rintro ⟨i, ⟨rest, shape, _⟩, _⟩
      rw [List.drop_nil] at shape
      cases shape
  | cons c r ih =>
    cases here : locationHere? (c :: r) with
    | some place =>
      obtain ⟨line', column'⟩ := place
      have begins := locationHere?_eq_some_iff.mp here
      rw [location?_of_here here]
      constructor
      · rintro ⟨⟩
        exact ⟨0, begins, fun j before => absurd before (Nat.not_lt_zero j)⟩
      · rintro ⟨i, begins', first⟩
        cases i with
        | zero =>
          rw [← here]
          exact locationHere?_eq_some_iff.mpr begins'
        | succ i => exact absurd begins (first 0 (Nat.succ_pos i) line' column')
    | none =>
      rw [location?, here, Option.none_or, ih]
      constructor
      · rintro ⟨i, begins, first⟩
        refine ⟨i + 1, begins, ?_⟩
        intro j before line' column' begins'
        cases j with
        | zero =>
          have found := locationHere?_eq_some_iff.mpr begins'
          rw [List.drop_zero, here] at found
          cases found
        | succ j => exact first j (by omega) line' column' begins'
      · rintro ⟨i, begins, first⟩
        cases i with
        | zero =>
          have found := locationHere?_eq_some_iff.mpr begins
          rw [List.drop_zero, here] at found
          cases found
        | succ i => exact ⟨i, begins, fun j before => first (j + 1) (by omega)⟩

/-- The message names a place with more digits than are read as a number, `count` of them in the first such
number. -/
def Overlong (d : Diagnostic) (count : Nat) : Prop :=
  d.span = none ∧ locationHint.points <:+: d.message ∧ ∃ line column, NamesPlace d.message line column ∧
    (digitLimit < line.length ∧ count = line.length ∨
      line.length ≤ digitLimit ∧ digitLimit < column.length ∧ count = column.length)

theorem NamesPlace.digits {m : Points} {line column : Text} (named : NamesPlace m line column) :
    Digits line ∧ Digits column := by
  obtain ⟨_, ⟨_, _, digits, digits', _⟩, _⟩ := named
  exact ⟨digits, digits'⟩

theorem locate_of_named {d : Diagnostic} {line column : Text} (bare : d.span = none)
    (hint : locationHint.points <:+: d.message) (named : NamesPlace d.message line column) : d.locate =
      if digitLimit < line.length then .error (.tooManyDigits line.length)
      else if digitLimit < column.length then .error (.tooManyDigits column.length)
      else .ok (some ⟨d, ofDigits 10 (line.filterMap decimalDigit?),
        ofDigits 10 (column.filterMap decimalDigit?)⟩) := by
  obtain ⟨digits, digits'⟩ := named.digits
  rw [locate, bare, (contains_iff _ _).mpr hint, location?_eq_some_iff.mpr named]
  simp only [toNat_digits digits, toNat_digits digits', Option.isSome_none, Bool.not_true, Bool.or_self,
    Bool.false_eq_true, if_false]
  by_cases long : digitLimit < line.length
  · rw [if_pos long, if_pos long]
    rfl
  rw [if_neg long, if_neg long]
  by_cases long' : digitLimit < column.length
  · rw [if_pos long', if_pos long']
    rfl
  rw [if_neg long', if_neg long']
  rfl

theorem locate_of_nowhere {d : Diagnostic}
    (nowhere : ¬ (d.span = none ∧ locationHint.points <:+: d.message ∧
      ∃ line column, NamesPlace d.message line column)) :
    d.locate = .ok none := by
  rw [locate]
  split
  · rfl
  rename_i searched
  rw [Bool.or_eq_true, not_or, Bool.not_eq_true, Option.isSome_eq_false_iff, Option.isNone_iff_eq_none,
    Bool.not_eq_true', Bool.not_eq_false, contains_iff] at searched
  cases found : location? d.message with
  | none => rfl
  | some place => exact absurd ⟨searched.1, searched.2, place.1, place.2, location?_eq_some_iff.mp found⟩ nowhere

theorem locate_eq_error_iff {d : Diagnostic} {e : IntegerError} :
    d.locate = .error e ↔ ∃ count, d.Overlong count ∧ e = .tooManyDigits count := by
  constructor
  · intro failed
    by_cases somewhere : d.span = none ∧ locationHint.points <:+: d.message ∧
        ∃ line column, NamesPlace d.message line column
    · obtain ⟨bare, hint, line, column, named⟩ := somewhere
      rw [locate_of_named bare hint named] at failed
      split at failed
      · rename_i long
        cases failed
        exact ⟨_, ⟨bare, hint, line, column, named, .inl ⟨long, rfl⟩⟩, rfl⟩
      split at failed
      · rename_i short long
        cases failed
        exact ⟨_, ⟨bare, hint, line, column, named, .inr ⟨Nat.le_of_not_lt short, long, rfl⟩⟩, rfl⟩
      · cases failed
    · rw [locate_of_nowhere somewhere] at failed
      cases failed
  · rintro ⟨count, ⟨bare, hint, line, column, named, ⟨long, rfl⟩ | ⟨short, long, rfl⟩⟩, rfl⟩
    · rw [locate_of_named bare hint named, if_pos long]
    · rw [locate_of_named bare hint named, if_neg (Nat.not_lt.mpr short), if_pos long]

theorem placement_eq_error_iff {d : Diagnostic} {e : IntegerError} :
    d.placement = .error e ↔ ∃ count, d.Overlong count ∧ e = .tooManyDigits count := by
  rw [← locate_eq_error_iff]
  cases spanned : d.span with
  | some s =>
    rw [placement_of_span spanned, locate, spanned]
    simp
  | none =>
    rw [placement_of_no_span spanned]
    cases d.locate <;> simp [Except.map]

theorem placeable_iff {d : Diagnostic} : d.Placeable ↔ ∀ count, ¬ d.Overlong count := by
  constructor
  · rintro ⟨p, placed⟩ count long
    rw [placement_eq_error_iff.mpr ⟨count, long, rfl⟩] at placed
    cases placed
  · intro short
    cases placed : d.placement with
    | ok p => exact ⟨p, placed⟩
    | error e =>
      obtain ⟨count, long, _⟩ := placement_eq_error_iff.mp placed
      exact absurd long (short count)

end Diagnostic

end ParseRepair
