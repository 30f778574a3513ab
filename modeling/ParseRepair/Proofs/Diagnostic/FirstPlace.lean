import ParseRepair.Proofs.Diagnostic.Location

namespace ParseRepair

namespace Text

theorem ofDigits_ascii {ds : Text} (digits : ∀ c ∈ ds, isAsciiDigit c = true) :
    ofDigits 10 (ds.filterMap decimalDigit?) = Nat.ofDigitChars 10 ds 0 := by
  have fold (n : Nat) : (ds.filterMap decimalDigit?).foldl (10 * · + ·) n = Nat.ofDigitChars 10 ds n := by
    induction ds generalizing n with
    | nil => rfl
    | cons c ds ih =>
      have value := decimalDigit?_of_ascii (digits c List.mem_cons_self)
      rw [List.filterMap_cons_some value, List.foldl_cons, Nat.ofDigitChars_cons]
      exact ih (fun c member => digits c (List.mem_cons_of_mem _ member)) _
  exact fold 0

end Text

namespace Diagnostic

open Text

/-- A place in a message, with what stands before and after it. The last number goes as far as there are digits. -/
structure PlaceIn (m before : Points) (line column : Text) (after : Points) : Prop where
  shape : m = before ++ (points "line " ++ (line.points ++ (points ", column " ++ (column.points ++ after))))
  line : Digits line
  column : Digits column
  ends : after.EndsDigits

def FirstPlace (m before : Points) (line column : Text) (after : Points) : Prop :=
  PlaceIn m before line column after ∧
    ∀ before' line' column' after', PlaceIn m before' line' column' after' → before.length ≤ before'.length

theorem PlaceIn.begins {m before after : Points} {line column : Text} (place : PlaceIn m before line column after) :
    BeginsPlace (m.drop before.length) line column :=
  ⟨after, by rw [place.shape, List.drop_left], place.line, place.column, place.ends⟩

theorem exists_placeIn {m : Points} {line column : Text} {i : Nat} (begins : BeginsPlace (m.drop i) line column) :
    ∃ after, PlaceIn m (m.take i) line column after := by
  obtain ⟨after, shape, digits, digits', ends⟩ := begins
  exact ⟨after, by rw [← shape, List.take_append_drop], digits, digits', ends⟩

theorem namesPlace_iff {m : Points} {line column : Text} :
    NamesPlace m line column ↔ ∃ before after, FirstPlace m before line column after := by
  constructor
  · rintro ⟨i, begins, first⟩
    obtain ⟨after, place⟩ := exists_placeIn begins
    refine ⟨m.take i, after, place, ?_⟩
    intro before' line' column' after' place'
    refine (List.length_take_le i m).trans (Nat.le_of_not_lt fun earlier => ?_)
    exact first before'.length earlier line' column' place'.begins
  · rintro ⟨before, after, place, first⟩
    refine ⟨before.length, place.begins, ?_⟩
    intro j earlier line' column' begins'
    obtain ⟨after', place'⟩ := exists_placeIn begins'
    have bound := (first _ line' column' after' place').trans (List.length_take_le j m)
    exact absurd earlier (Nat.not_lt.mpr bound)

/-- The message says that the problem is somewhere, and its first place has these numbers. -/
def PlacedAt (d : Diagnostic) (line column : Int) : Prop :=
  locationHint.points <:+: d.message ∧ ∃ before digits digits' after, FirstPlace d.message before digits digits' after ∧
    line = Nat.ofDigitChars 10 digits 0 ∧ column = Nat.ofDigitChars 10 digits' 0

section Message

variable (line column : Nat) (t : Points)

def lexicalMessage : Points :=
  Text.points (.concat ["Lexical error at line ", .ofNat line, ", column ", .ofNat column, "."]) ++ t

theorem lexicalMessage_eq : lexicalMessage line column t =
    points "Lexical error at " ++ (points "line " ++
      ((ofNat line).points ++ (points ", column " ++ ((ofNat column).points ++ .char '.' :: t)))) := by
  simp [lexicalMessage, Text.concat]

theorem namesPlace_lexicalMessage : NamesPlace (lexicalMessage line column t) (.ofNat line) (.ofNat column) := by
  have skip (u : Points) : location? (points "Lexical error at " ++ u) = location? u := rfl
  have stop : Points.EndsDigits (.char '.' :: t) := Points.endsDigits_cons (by rintro c ⟨⟩; rfl) t
  rw [← location?_eq_some_iff, lexicalMessage_eq, skip]
  refine location?_of_here (locationHere?_of_beginsPlace ⟨_, rfl, ?_, ?_, stop⟩)
  · exact ⟨ofNat_ne_nil line, isAsciiDigit_ofNat line⟩
  · exact ⟨ofNat_ne_nil column, isAsciiDigit_ofNat column⟩

theorem hint_lexicalMessage : locationHint.points <:+: lexicalMessage line column t := by
  have words : points "Lexical error at " ++ points "line " = points "Lexical error " ++ locationHint.points := by
    decide
  rw [lexicalMessage_eq, ← List.append_assoc, words, List.append_assoc]
  exact ⟨_, _, List.append_assoc _ _ _⟩

theorem locate_lexicalMessage : locate ⟨lexicalMessage line column t, none⟩ =
    if digitLimit < (ofNat line).length then .error (.tooManyDigits (ofNat line).length)
    else if digitLimit < (ofNat column).length then .error (.tooManyDigits (ofNat column).length)
    else .ok (some ⟨⟨lexicalMessage line column t, none⟩, line, column⟩) := by
  rw [locate_of_named rfl (hint_lexicalMessage line column t) (namesPlace_lexicalMessage line column t),
    ofDigits_ofNat, ofDigits_ofNat]

end Message

section Locate

variable {d : Diagnostic} (bare : d.span = none) (short : ∀ e, d.locate ≠ .error e)

include bare short

theorem locate_of_firstPlace {before after : Points} {line column : Text}
    (hint : locationHint.points <:+: d.message) (first : FirstPlace d.message before line column after) :
    d.locate = .ok (some ⟨d, Nat.ofDigitChars 10 line 0, Nat.ofDigitChars 10 column 0⟩) := by
  have located := locate_of_named bare hint (namesPlace_iff.mpr ⟨before, after, first⟩)
  split at located
  · exact absurd located (short _)
  split at located
  · exact absurd located (short _)
  rw [located, ofDigits_ascii first.1.line.2, ofDigits_ascii first.1.column.2]

theorem locate_eq_none_iff : d.locate = .ok none ↔ ∀ line column, ¬ d.PlacedAt line column := by
  constructor
  · rintro nowhere line column ⟨hint, before, digits, digits', after, first, _⟩
    rw [locate_of_firstPlace bare short hint first] at nowhere
    cases nowhere
  · intro nowhere
    apply locate_of_nowhere
    rintro ⟨_, hint, line, column, named⟩
    obtain ⟨before, after, first⟩ := namesPlace_iff.mp named
    exact nowhere _ _ ⟨hint, before, line, column, after, first, rfl, rfl⟩

theorem locate_eq_some_iff {f : LexicalFailure} :
    d.locate = .ok (some f) ↔ f.diagnostic = d ∧ d.PlacedAt f.line f.column := by
  constructor
  · intro located
    have somewhere : ¬ ∀ line column, ¬ d.PlacedAt line column := by
      rw [← locate_eq_none_iff bare short, located]
      simp
    simp only [not_forall, not_not] at somewhere
    obtain ⟨line, column, placed⟩ := somewhere
    obtain ⟨hint, before, digits, digits', after, first, _⟩ := id placed
    rw [locate_of_firstPlace bare short hint first] at located
    cases located
    exact ⟨rfl, hint, before, digits, digits', after, first, rfl, rfl⟩
  · rintro ⟨own, hint, before, digits, digits', after, first, line, column⟩
    rw [locate_of_firstPlace bare short hint first, ← line, ← column, ← own]

end Locate

/-- A diagnostic without a span is placed by the first place in its message, with all the digits there are, or not
at all. A lexer's message is placed where it says at its beginning, whatever the source that it quotes says. -/
theorem locate_first {d : Diagnostic} (bare : d.span = none) :
    (∀ e, d.locate = .error e ↔ ∃ count, d.Overlong count ∧ e = .tooManyDigits count) ∧
    ((∀ e, d.locate ≠ .error e) →
      (∀ f, d.locate = .ok (some f) ↔ f.diagnostic = d ∧ d.PlacedAt f.line f.column) ∧
      (d.locate = .ok none ↔ ∀ line column, ¬ d.PlacedAt line column)) ∧
    ∀ (line column : Nat) (t : Points), locate ⟨lexicalMessage line column t, none⟩ =
      if digitLimit < (ofNat line).length then .error (.tooManyDigits (ofNat line).length)
      else if digitLimit < (ofNat column).length then .error (.tooManyDigits (ofNat column).length)
      else .ok (some ⟨⟨lexicalMessage line column t, none⟩, line, column⟩) := by
  refine ⟨fun e => locate_eq_error_iff, fun short => ?_, locate_lexicalMessage⟩
  exact ⟨fun f => locate_eq_some_iff bare short, locate_eq_none_iff bare short⟩

def restartedMessage : Points := "at line 1, line 007, column 30: line 2, column 1"

theorem first_of_restartedMessage : (⟨restartedMessage, none⟩ : Diagnostic).span = none ∧
    (∀ e, locate ⟨restartedMessage, none⟩ ≠ .error e) ∧ PlacedAt ⟨restartedMessage, none⟩ 7 30 := by
  have located : locate ⟨restartedMessage, none⟩ = .ok (some ⟨⟨restartedMessage, none⟩, 7, 30⟩) := by
    decide +kernel
  have short (e : IntegerError) : locate ⟨restartedMessage, none⟩ ≠ .error e := by
    rw [located]
    simp
  exact ⟨rfl, short, ((((locate_first rfl).2.1 short).1 _).mp located).2⟩

end Diagnostic

end ParseRepair
