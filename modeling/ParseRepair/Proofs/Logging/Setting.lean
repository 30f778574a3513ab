import ParseRepair.Logging.Setup
import ParseRepair.Proofs.Diagnostic.FirstPlace

namespace ParseRepair.Logging

open Text

namespace Level

def Named (t : Text) (level : Level) : Prop := (t.trim.map capital, level) ∈ spellings

def DigitRun (t : Text) : Prop := t.trim ≠ [] ∧ ∀ c ∈ t.trim, isDecimal c = true ∨ isDigitSign c = true

/-- But for blanks around it the text is a decimal number, of no more digits than are read. -/
structure Numeral (t : Text) (level : Level) : Prop where
  filled : t.trim ≠ []
  decimal : ∀ c ∈ t.trim, isDecimal c = true
  short : t.trim.length ≤ digitLimit
  value : level = ofDigits 10 (t.trim.filterMap decimalDigit?)

/-- What is wrong with a run of digits that is no number: it begins with too many decimals, or there are digits of
another kind in it. -/
def NoNumber (t : Text) (e : IntegerError) : Prop :=
  DigitRun t ∧
    (digitLimit < (t.trim.takeWhile isDecimal).length ∧ e = .tooManyDigits (t.trim.takeWhile isDecimal).length ∨
      (t.trim.takeWhile isDecimal).length ≤ digitLimit ∧ (∃ c ∈ t.trim, isDecimal c = false) ∧ e = .invalid t.trim)

theorem Numeral.digitRun {t : Text} {level : Level} (numeral : Numeral t level) : DigitRun t :=
  ⟨numeral.filled, fun c member => .inl (numeral.decimal c member)⟩

section Names

theorem find?_spellings_eq_some_iff {name : Text} {level : Level} :
    (spellings.find? (·.1 == name)).map Prod.snd = some level ↔ (name, level) ∈ spellings := by
  have each : ∀ entry ∈ spellings, spellings.find? (·.1 == entry.1) = some entry := by decide
  constructor
  · intro found
    obtain ⟨⟨name', level'⟩, here, rfl⟩ := Option.map_eq_some_iff.mp found
    have matched := List.find?_some here
    have same : name' = name := beq_iff_eq.mp matched
    exact same ▸ List.mem_of_find?_eq_some here
  · intro member
    rw [each _ member]
    rfl

theorem find?_spellings_eq_none_iff {name : Text} :
    (spellings.find? (·.1 == name)).map Prod.snd = none ↔ ∀ level, (name, level) ∉ spellings := by
  rw [Option.eq_none_iff_forall_ne_some]
  exact forall_congr' fun level => not_congr find?_spellings_eq_some_iff

theorem not_digit_of_lower : ∀ n, 97 ≤ n → n < 123 →
    isDecimal (Char.ofNat n) = false ∧ isDigitSign (Char.ofNat n) = false := by
  decide

theorem capital_of_digit {c : Char} (digit : isDecimal c = true ∨ isDigitSign c = true) : capital c = c := by
  have other {d : Char} (letter : isDecimal d = false ∧ isDigitSign d = false) : c ≠ d := by
    rintro rfl
    simp [letter] at digit
  have dotless : (c == 'ı') = false := beq_eq_false_iff_ne.mpr (other (by decide))
  have long : (c == 'ſ') = false := beq_eq_false_iff_ne.mpr (other (by decide))
  have not_lower : ¬ (97 ≤ c.toNat ∧ c.toNat ≤ 122) := fun range =>
    other (not_digit_of_lower c.toNat range.1 (Nat.lt_succ_of_le range.2)) (Char.ofNat_toNat c).symm
  rw [capital, dotless, long, if_neg Bool.false_ne_true, if_neg Bool.false_ne_true]
  exact dif_neg not_lower

theorem not_named_of_digitRun {t : Text} (run : DigitRun t) (level : Level) : ¬ Named t level := by
  have letters : ∀ entry ∈ spellings, (entry.1.all fun c => !(isDecimal c || isDigitSign c)) = true := by decide
  obtain ⟨filled, digits⟩ := run
  obtain ⟨c, r, shape⟩ := List.exists_cons_of_ne_nil filled
  have member : c ∈ t.trim := shape ▸ List.mem_cons_self
  have first : c ∈ t.trim.map capital :=
    List.mem_map.mpr ⟨c, member, capital_of_digit (digits c member)⟩
  intro named
  have letter : isDecimal c = false ∧ isDigitSign c = false := by
    simpa using List.all_eq_true.mp (letters _ named) c first
  simpa [letter] using digits c member

end Names

section Reading

variable {t : Text} {level : Level}

theorem ofSetting_of_digitRun (run : DigitRun t) :
    ofSetting t = (toNat t.trim).map fun n => some (n : Int) := by
  have filled : ¬ t.trim.isEmpty = true := fun empty => run.1 (List.isEmpty_iff.mp empty)
  have digits : (t.trim.all fun c => isDecimal c || isDigitSign c) = true := by simpa using run.2
  simp only [ofSetting, if_neg filled, if_pos digits]

theorem ofSetting_of_no_digitRun (no_run : ¬ DigitRun t) :
    ofSetting t = .ok ((spellings.find? (·.1 == t.trim.map capital)).map Prod.snd) := by
  unfold ofSetting
  dsimp only
  split
  · rename_i empty
    rw [List.isEmpty_iff.mp empty]
    rfl
  rename_i filled
  split
  · rename_i digits
    exact absurd ⟨fun empty => filled (List.isEmpty_iff.mpr empty), by simpa using digits⟩ no_run
  · rfl

theorem ofSetting_eq_some_iff : ofSetting t = .ok (some level) ↔ Named t level ∨ Numeral t level := by
  by_cases run : DigitRun t
  · rw [ofSetting_of_digitRun run, or_iff_right (not_named_of_digitRun run level)]
    constructor
    · intro read
      cases number : toNat t.trim with
      | error e =>
        rw [number] at read
        cases read
      | ok n =>
        rw [number] at read
        cases read
        obtain ⟨filled, decimal, short, value⟩ := toNat_eq_ok_iff.mp number
        exact ⟨filled, decimal, short, congrArg Int.ofNat value⟩
    · rintro ⟨filled, decimal, short, rfl⟩
      rw [toNat_eq_ok_iff.mpr ⟨filled, decimal, short, rfl⟩]
      rfl
  · rw [ofSetting_of_no_digitRun run, or_iff_left fun numeral => run numeral.digitRun, Except.ok.injEq]
    exact find?_spellings_eq_some_iff

theorem ofSetting_eq_none_iff : ofSetting t = .ok none ↔ (∀ level, ¬ Named t level) ∧ ¬ DigitRun t := by
  by_cases run : DigitRun t
  · rw [ofSetting_of_digitRun run]
    refine iff_of_false ?_ fun neither => neither.2 run
    cases toNat t.trim <;> simp [Except.map]
  · rw [ofSetting_of_no_digitRun run, and_iff_left run, Except.ok.injEq]
    exact find?_spellings_eq_none_iff

theorem ofSetting_eq_error_iff {e : IntegerError} : ofSetting t = .error e ↔ NoNumber t e := by
  by_cases run : DigitRun t
  · rw [ofSetting_of_digitRun run, NoNumber, and_iff_right run]
    have failed : (toNat t.trim).map (fun n => some (n : Int)) = .error e ↔ toNat t.trim = .error e := by
      cases toNat t.trim <;> simp [Except.map]
    rw [failed, toNat_eq_error_iff, or_iff_right run.1]
  · rw [ofSetting_of_no_digitRun run]
    exact iff_of_false (fun same => nomatch same) fun wrong => run wrong.1

theorem ofSetting_digits {ds : Text} (digits : Digits ds) (short : ds.length ≤ digitLimit) :
    ofSetting ds = .ok (some (Nat.ofDigitChars 10 ds 0)) := by
  obtain ⟨filled, ascii⟩ := digits
  have decimal (c : Char) (member : c ∈ ds) : isDecimal c = true := isDecimal_of_ascii (ascii c member)
  have same : ds.trim = ds := trim_of_solid fun c member => not_blank_of_isAsciiDigit (ascii c member)
  have value := congrArg (Nat.cast (R := Int)) (ofDigits_ascii ascii)
  refine ofSetting_eq_some_iff.mpr (.inr ?_)
  rw [← value]
  constructor <;> rw [same]
  · exact filled
  · exact decimal
  · exact short

end Reading

def Asks (setting : Option Text) (level : Level) : Prop := ∃ t, setting = some t ∧ (Named t level ∨ Numeral t level)

def Silent (setting : Option Text) : Prop := ∀ t, setting = some t → (∀ level, ¬ Named t level) ∧ ¬ DigitRun t

/-- The variable does not decide: it asks for nothing, or for zero. -/
def LeftOpen (setting : Option Text) : Prop := Asks setting 0 ∨ Silent setting

section Environment

variable {setting : Option Text} {level : Level}

theorem asks_some_iff {t : Text} : Asks (some t) level ↔ ofSetting t = .ok (some level) := by
  simp [Asks, ofSetting_eq_some_iff]

theorem ofEnvironment_some (t : Text) :
    ofEnvironment (some t) = (ofSetting t).map fun asked => asked.filter (· != 0) := by
  unfold ofEnvironment
  dsimp only
  cases ofSetting t <;> rfl

theorem ofEnvironment_eq_some_iff :
    ofEnvironment setting = .ok (some level) ↔ level ≠ 0 ∧ Asks setting level := by
  cases setting with
  | none => exact iff_of_false (fun same => nomatch same) fun asks => nomatch asks.2
  | some t =>
    rw [ofEnvironment_some, asks_some_iff]
    cases ofSetting t with
    | error e => simp [Except.map]
    | ok asked => simp [Except.map, Option.filter_eq_some_iff, and_comm]

theorem ofEnvironment_eq_none_iff : ofEnvironment setting = .ok none ↔ LeftOpen setting := by
  cases setting with
  | none => exact iff_of_true rfl (.inr fun t same => nomatch same)
  | some t =>
    have silent : Silent (some t) ↔ ofSetting t = .ok none := by
      simp [Silent, ofSetting_eq_none_iff]
    rw [ofEnvironment_some, LeftOpen, asks_some_iff, silent]
    cases ofSetting t with
    | error e => simp [Except.map]
    | ok asked => cases asked <;> simp [Except.map, Option.filter]

theorem ofEnvironment_eq_error_iff {e : IntegerError} :
    ofEnvironment setting = .error e ↔ ∃ t, setting = some t ∧ NoNumber t e := by
  cases setting with
  | none => exact iff_of_false (fun same => nomatch same) fun wrong => nomatch wrong
  | some t =>
    have wrong : (∃ u, some t = some u ∧ NoNumber u e) ↔ ofSetting t = .error e := by
      simp [ofSetting_eq_error_iff]
    rw [ofEnvironment_some, wrong]
    cases ofSetting t <;> simp [Except.map]

end Environment

end Level

namespace Handler

open Level

variable {setting : Option Text}

theorem default_eq (setting : Option Text) :
    Handler.default setting = (ofEnvironment setting).map fun level => ⟨level.getD critical⟩ := by
  unfold Handler.default
  cases ofEnvironment setting <;> rfl

theorem default_eq_error_iff {e : IntegerError} :
    Handler.default setting = .error e ↔ ∃ t, setting = some t ∧ NoNumber t e := by
  rw [default_eq, ← ofEnvironment_eq_error_iff]
  cases ofEnvironment setting <;> simp [Except.map]

theorem default_eq_ok_iff {level : Level} :
    Handler.default setting = .ok ⟨level⟩ ↔ level ≠ 0 ∧ Asks setting level ∨ LeftOpen setting ∧ level = critical := by
  rw [default_eq, ← ofEnvironment_eq_some_iff, ← ofEnvironment_eq_none_iff]
  cases ofEnvironment setting with
  | error e => simp [Except.map]
  | ok asked => cases asked <;> simp [Except.map, eq_comm]

end Handler

namespace Verbosity

theorem level?_eq_none_iff {v : Verbosity} : v.level? = none ↔ 0 < v.verbose ∧ 0 < v.quiet := by
  have conflicting : v.conflicting = true ↔ 0 < v.verbose ∧ 0 < v.quiet := by simp [Verbosity.conflicting]
  rw [← conflicting, level?]
  split
  · rename_i both
    exact iff_of_true rfl both
  · rename_i fine
    refine iff_of_false ?_ fine
    split
    · simp
    split
    · simp
    split
    · simp
    split <;> simp

end Verbosity

end ParseRepair.Logging
