import Mathlib.Data.List.TakeDrop
import Mathlib.Data.List.TakeWhile
import ParseRepair.Text.Digits

namespace ParseRepair.Text

theorem ofNat_eq (n : Nat) :
    ofNat n = if n < 10 then [Nat.digitChar n] else ofNat (n / 10) ++ [Nat.digitChar (n % 10)] :=
  Nat.toDigits_eq_if (by decide)

theorem digitChar_mem : ∀ d < 10, Nat.digitChar d ∈ ['0', '1', '2', '3', '4', '5', '6', '7', '8', '9'] := by
  decide

theorem decimalDigit?_digitChar : ∀ d < 10, decimalDigit? (Nat.digitChar d) = some d := by
  decide

theorem hexDigit?_digitChar : ∀ d < 16, hexDigit? (Nat.digitChar d) = some d := by
  decide

theorem forall_mem_ofNat {p : Char → Prop} (n : Nat)
    (each : ∀ c ∈ ['0', '1', '2', '3', '4', '5', '6', '7', '8', '9'], p c) : ∀ c ∈ ofNat n, p c := by
  induction n using Nat.strongRecOn with
  | ind n ih =>
    intro c member
    rw [ofNat_eq] at member
    split at member
    · rename_i small
      rw [List.mem_singleton.mp member]
      exact each _ (digitChar_mem n small)
    · rcases List.mem_append.mp member with member | member
      · exact ih (n / 10) (by omega) c member
      · rw [List.mem_singleton.mp member]
        exact each _ (digitChar_mem _ (Nat.mod_lt n (by decide)))

theorem ofNat_ne_nil (n : Nat) : ofNat n ≠ [] := Nat.toDigits_ne_nil

theorem isAsciiDigit_ofNat (n : Nat) : ∀ c ∈ ofNat n, isAsciiDigit c = true :=
  forall_mem_ofNat n (List.all_eq_true.mp (by decide))

theorem isDecimal_ofNat (n : Nat) : ∀ c ∈ ofNat n, isDecimal c = true :=
  forall_mem_ofNat n (List.all_eq_true.mp (by decide))

theorem head_ofNat {n : Nat} (positive : 0 < n) : ∃ c r, ofNat n = c :: r ∧ c ≠ '0' := by
  induction n using Nat.strongRecOn with
  | ind n ih =>
    rw [ofNat_eq]
    split
    · rename_i small
      refine ⟨_, [], rfl, ?_⟩
      rw [ne_eq, Nat.digitChar_eq_zero]
      omega
    · rename_i large
      obtain ⟨c, r, shape, other⟩ := ih (n / 10) (by omega) (by omega)
      exact ⟨c, r ++ [Nat.digitChar (n % 10)], by rw [shape, List.cons_append], other⟩

theorem ofDigits_append_single (base : Nat) (ds : List Nat) (d : Nat) :
    ofDigits base (ds ++ [d]) = base * ofDigits base ds + d := by
  simp [ofDigits, List.foldl_append]

theorem ofDigits_ofNat (n : Nat) : ofDigits 10 ((ofNat n).filterMap decimalDigit?) = n := by
  induction n using Nat.strongRecOn with
  | ind n ih =>
    rw [ofNat_eq]
    split
    · rename_i small
      rw [List.filterMap_cons_some (decimalDigit?_digitChar n small)]
      simp [ofDigits]
    · have last : [Nat.digitChar (n % 10)].filterMap decimalDigit? = [n % 10] := by
        rw [List.filterMap_cons_some (decimalDigit?_digitChar _ (Nat.mod_lt n (by decide))), List.filterMap_nil]
      rw [List.filterMap_append, last, ofDigits_append_single, ih (n / 10) (by omega)]
      omega

theorem length_takeWhile_lt_iff {p : Char → Bool} {t : Text} :
    (t.takeWhile p).length < t.length ↔ ∃ c ∈ t, p c = false := by
  have start := List.takeWhile_prefix (l := t) p
  have whole : (t.takeWhile p).length = t.length ↔ ∀ c ∈ t, p c = true :=
    ⟨fun same => List.takeWhile_eq_self_iff.mp (start.eq_of_length same),
      fun all => congrArg List.length (List.takeWhile_eq_self_iff.mpr all)⟩
  rw [Nat.lt_iff_le_and_ne, and_iff_right start.length_le, ne_eq, whole]
  simp

/-- A text is a number if all of it is decimal digits, one at least and not too many. -/
theorem toNat_eq_ok_iff {t : Text} {n : Nat} : toNat t = .ok n ↔
    t ≠ [] ∧ (∀ c ∈ t, isDecimal c = true) ∧ t.length ≤ digitLimit ∧
      n = ofDigits 10 (t.filterMap decimalDigit?) := by
  unfold toNat
  dsimp only
  split
  · rename_i long
    refine iff_of_false (fun same => nomatch same) ?_
    rintro ⟨_, _, short, _⟩
    exact absurd (long.trans_le (List.takeWhile_prefix isDecimal).length_le) (Nat.not_lt.mpr short)
  rename_i short
  split
  · rename_i ended
    refine iff_of_false (fun same => nomatch same) ?_
    rintro ⟨filled, all, _⟩
    rw [List.takeWhile_eq_self_iff.mpr all] at ended
    simp [filled] at ended
  · rename_i whole
    rw [Bool.or_eq_true, not_or, decide_eq_true_eq, length_takeWhile_lt_iff] at whole
    have all : ∀ c ∈ t, isDecimal c = true := by simpa using whole.2
    rw [List.takeWhile_eq_self_iff.mpr all] at short whole ⊢
    have filled : t ≠ [] := by simpa using whole.1
    rw [and_iff_right filled, and_iff_right all, and_iff_right (Nat.le_of_not_lt short), Except.ok.injEq]
    exact eq_comm

theorem toNat_eq_error_iff {t : Text} {e : IntegerError} : toNat t = .error e ↔
    digitLimit < (t.takeWhile isDecimal).length ∧ e = .tooManyDigits (t.takeWhile isDecimal).length ∨
      (t.takeWhile isDecimal).length ≤ digitLimit ∧ (t = [] ∨ ∃ c ∈ t, isDecimal c = false) ∧ e = .invalid t := by
  unfold toNat
  dsimp only
  split
  · rename_i long
    rw [and_iff_right long, or_iff_left fun short => absurd long (Nat.not_lt.mpr short.1), Except.error.injEq]
    exact eq_comm
  rename_i short
  rw [or_iff_right fun long => short long.1, and_iff_right (Nat.le_of_not_lt short)]
  have empty : (t.takeWhile isDecimal).isEmpty = true → t = [] ∨ (t.takeWhile isDecimal).length < t.length := by
    intro none_taken
    rw [List.isEmpty_iff.mp none_taken]
    exact (eq_or_ne t []).imp_right List.length_pos_iff.mpr
  have ended : ((t.takeWhile isDecimal).isEmpty || (t.takeWhile isDecimal).length < t.length) = true ↔
      t = [] ∨ ∃ c ∈ t, isDecimal c = false := by
    rw [Bool.or_eq_true, decide_eq_true_eq, ← length_takeWhile_lt_iff]
    refine ⟨fun ended => ended.elim empty .inr, fun ended => ended.imp ?_ id⟩
    rintro rfl
    rfl
  split
  · rename_i stops
    rw [and_iff_right (ended.mp stops), Except.error.injEq]
    exact eq_comm
  · rename_i goes
    exact iff_of_false (fun same => nomatch same) fun stops => goes (ended.mpr stops.1)

theorem toNat_ofNat {n : Nat} (short : (ofNat n).length ≤ digitLimit) : toNat (ofNat n) = .ok n :=
  toNat_eq_ok_iff.mpr ⟨ofNat_ne_nil n, isDecimal_ofNat n, short, (ofDigits_ofNat n).symm⟩

theorem hex_one {n : Nat} (small : n < 16) : hex 1 n = [Nat.digitChar n] := by
  rw [hex, Nat.toDigits_of_lt_base small]
  rfl

theorem hex_succ (width n : Nat) : hex (width + 2) n = hex (width + 1) (n / 16) ++ [Nat.digitChar (n % 16)] := by
  unfold hex padLeft
  rw [Nat.toDigits_eq_if (by decide)]
  split
  · rename_i small
    have zero : Nat.toDigits 16 0 = ['0'] := rfl
    rw [Nat.div_eq_of_lt small, Nat.mod_eq_of_lt small, zero, List.length_singleton, List.length_singleton]
    show List.replicate (width + 1) '0' ++ _ = List.replicate width '0' ++ _ ++ _
    rw [List.replicate_succ']
  · have count : width + 2 - ((Nat.toDigits 16 (n / 16)).length + 1) =
        width + 1 - (Nat.toDigits 16 (n / 16)).length := by
      omega
    rw [List.length_append, List.length_singleton, count, List.append_assoc]

theorem hex_four {n : Nat} (small : n < 0x10000) : hex 4 n =
    [Nat.digitChar (n / 4096), Nat.digitChar (n / 256 % 16), Nat.digitChar (n / 16 % 16), Nat.digitChar (n % 16)] := by
  have first : n / 16 / 16 / 16 = n / 4096 := by omega
  have second : n / 16 / 16 = n / 256 := by omega
  rw [hex_succ, hex_succ, hex_succ, hex_one (by omega), first, second]
  rfl

theorem range_of_isAsciiDigit {c : Char} (digit : isAsciiDigit c = true) : 0x30 ≤ c.toNat ∧ c.toNat ≤ 0x39 := by
  have range : '0' ≤ c ∧ c ≤ '9' := by simpa [isAsciiDigit] using digit
  exact range

theorem not_blank_of_isAsciiDigit {c : Char} (digit : isAsciiDigit c = true) : isBlank c = false := by
  have range := range_of_isAsciiDigit digit
  simp only [isBlank, Bool.or_eq_false_iff, Bool.and_eq_false_iff, beq_eq_false_iff_ne, decide_eq_false_iff_not]
  omega

theorem trim_of_solid {t : Text} (solid : ∀ c ∈ t, isBlank c = false) : trim t = t := by
  have untouched {u : Text} (solid : ∀ c ∈ u, isBlank c = false) : u.dropWhile isBlank = u := by
    cases u with
    | nil => rfl
    | cons c r => rw [List.dropWhile_cons_of_neg (Bool.eq_false_iff.mp (solid c List.mem_cons_self))]
  rw [trim, trimLeft, untouched solid, trimRight, untouched fun c member => solid c (List.mem_reverse.mp member),
    List.reverse_reverse]

def EndsDigits (t : Text) : Prop := ∀ c r, t = c :: r → isAsciiDigit c = false

theorem endsDigits_append {t : Text} (u : Text) (starts : t.head?.any (!isAsciiDigit ·) = true) :
    EndsDigits (t ++ u) := by
  intro c r shape
  cases t with
  | nil => cases starts
  | cons d t =>
    obtain ⟨rfl, _⟩ := List.cons.inj shape
    simpa using starts

theorem span_digits {ds rest : Text} (digits : ∀ c ∈ ds, isAsciiDigit c = true) (ends : EndsDigits rest) :
    (ds ++ rest).span isAsciiDigit = (ds, rest) := by
  rw [List.span_eq_takeWhile_dropWhile, List.takeWhile_append_of_pos digits,
    List.dropWhile_append_of_pos digits]
  cases rest with
  | nil => simp
  | cons c r => simp [ends c r rfl]

end ParseRepair.Text
