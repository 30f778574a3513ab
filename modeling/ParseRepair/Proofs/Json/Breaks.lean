import ParseRepair.Proofs.Json.Nesting
import ParseRepair.Proofs.Text.Breaks

namespace ParseRepair.Json

open Text

variable {α β : Type}

/-- What is read from a text, and what is read from it after its line breaks have been turned into LF. Faults
may be found at other places. -/
inductive Parallel : Except Stop (α × Text) → Except Stop (α × Text) → Prop
  | ok (a : α) (r : Text) : Parallel (.ok (a, r)) (.ok (a, normalizeBreaks r))
  | fault (f f' : Fault) (rest rest' : Text) : Parallel (.error (.fault f rest)) (.error (.fault f' rest'))
  | integer (e : IntegerError) : Parallel (.error (.integer e)) (.error (.integer e))
  | tooDeep (c : Container) : Parallel (.error (.tooDeep c)) (.error (.tooDeep c))

theorem Parallel.bind {x y : Except Stop (α × Text)} {f g : α × Text → Except Stop (β × Text)} (parallel : Parallel x y)
    (next : ∀ a r, Parallel (f (a, r)) (g (a, normalizeBreaks r))) : Parallel (x >>= f) (y >>= g) := by
  cases parallel with
  | ok a r => exact next a r
  | fault f f' rest rest' => exact .fault f f' rest rest'
  | integer e => exact .integer e
  | tooDeep c => exact .tooDeep c

theorem skipBlank_normalizeBreaks (t : Text) : skipBlank (normalizeBreaks t) = normalizeBreaks (skipBlank t) :=
  dropWhile_normalizeBreaks rfl t

section Number

variable (t : Text)

theorem signed_normalizeBreaks :
    Decimal.signed (normalizeBreaks t) = ((Decimal.signed t).1, normalizeBreaks (Decimal.signed t).2) := by
  by_cases minus : ∃ r, t = '-' :: r
  · obtain ⟨r, rfl⟩ := minus
    rw [normalizeBreaks_inside rfl]
    rfl
  · have other := normalizeBreaks_ne_cons (c := '-') rfl (not_exists.mp minus)
    rw [Decimal.signed.eq_2 _ other, Decimal.signed.eq_2 _ (not_exists.mp minus)]

theorem anySign_normalizeBreaks :
    Decimal.anySign (normalizeBreaks t) = ((Decimal.anySign t).1, normalizeBreaks (Decimal.anySign t).2) := by
  by_cases plus : ∃ r, t = '+' :: r
  · obtain ⟨r, rfl⟩ := plus
    rw [normalizeBreaks_inside rfl]
    rfl
  · have other := normalizeBreaks_ne_cons (c := '+') rfl (not_exists.mp plus)
    rw [Decimal.anySign.eq_2 _ other, Decimal.anySign.eq_2 _ (not_exists.mp plus)]
    exact signed_normalizeBreaks t

theorem digits_normalizeBreaks :
    Decimal.digits (normalizeBreaks t) = ((Decimal.digits t).1, normalizeBreaks (Decimal.digits t).2) := by
  rw [digits_eq, digits_eq, takeWhile_normalizeBreaks rfl rfl, dropWhile_normalizeBreaks rfl]

theorem fraction_normalizeBreaks :
    Decimal.fraction (normalizeBreaks t) = ((Decimal.fraction t).1, normalizeBreaks (Decimal.fraction t).2) := by
  by_cases point : ∃ r, t = '.' :: r
  · obtain ⟨r, rfl⟩ := point
    rw [normalizeBreaks_inside rfl, Decimal.fraction, Decimal.fraction, digits_normalizeBreaks]
    split
    · rw [normalizeBreaks_inside rfl]
    · rfl
  · have other := normalizeBreaks_ne_cons (c := '.') rfl (not_exists.mp point)
    rw [Decimal.fraction.eq_2 _ other, Decimal.fraction.eq_2 _ (not_exists.mp point)]

theorem power_normalizeBreaks :
    Decimal.power (normalizeBreaks t) = ((Decimal.power t).1, normalizeBreaks (Decimal.power t).2) := by
  cases t with
  | nil => rfl
  | cons c r =>
    by_cases broken : c = '\r'
    · obtain ⟨u, shape⟩ := normalizeBreaks_return r
      subst broken
      show Decimal.power _ = (none, normalizeBreaks ('\r' :: r))
      rw [shape]
      rfl
    · rw [normalizeBreaks_cons broken, Decimal.power, Decimal.power]
      by_cases mark : (c == 'e' || c == 'E') = true
      · simp only [if_pos mark, anySign_normalizeBreaks, digits_normalizeBreaks]
        split
        · rw [normalizeBreaks_cons broken]
        · rfl
      · rw [if_neg mark, if_neg mark, normalizeBreaks_cons broken]

theorem whole?_normalizeBreaks :
    whole? (normalizeBreaks t) = (whole? t).map fun p => (p.1, normalizeBreaks p.2) := by
  by_cases zero : ∃ r, t = '0' :: r
  · obtain ⟨r, rfl⟩ := zero
    rw [normalizeBreaks_inside rfl]
    rfl
  · have other := normalizeBreaks_ne_cons (c := '0') rfl (not_exists.mp zero)
    rw [whole?.eq_2 _ other, whole?.eq_2 _ (not_exists.mp zero),
      digits_normalizeBreaks]
    split
    · rfl
    · rfl

theorem parallel_number : Parallel (number t) (number (normalizeBreaks t)) := by
  simp only [number, signed_normalizeBreaks, whole?_normalizeBreaks]
  cases whole? (Decimal.signed t).2 with
  | none => exact .fault _ _ _ _
  | some p =>
    simp only [Option.map_some, fraction_normalizeBreaks, power_normalizeBreaks]
    split
    · cases Text.toNat p.1 with
      | ok n => exact .ok _ _
      | error e => exact .integer e
    · exact .ok _ _

end Number

section Tokens

theorem keyword?_normalizeBreaks (t : Text) :
    keyword? (normalizeBreaks t) = (keyword? t).map fun p => (p.1, normalizeBreaks p.2) := by
  have inside : ∀ k ∈ keywords, k.1.all (isLineEnd · == false) = true := by decide
  have unbroken : ∀ k ∈ keywords, ∀ c ∈ k.1, isLineEnd c = false := by
    intro k known c member
    exact eq_of_beq (List.all_eq_true.mp (inside k known) c member)
  unfold keyword?
  generalize keywords = ks at unbroken ⊢
  induction ks with
  | nil => rfl
  | cons k ks ih =>
    obtain ⟨word, v⟩ := k
    have rest := ih fun k member => unbroken k (List.mem_cons_of_mem _ member)
    rw [List.findSome?_cons, List.findSome?_cons, rest]
    dsimp only
    rw [stripStart?_normalizeBreaks (unbroken (word, v) List.mem_cons_self)]
    cases stripStart? word t <;> rfl

def HexAhead (t : Text) (n : Nat) (r : Text) : Prop :=
  r ≠ [] ∧ ∃ a b c d, t = a :: b :: c :: d :: r ∧ hexUnit? a b c d = some n

theorem isLineEnd_of_hexDigit {c : Char} {n : Nat} (digit : hexDigit? c = some n) : isLineEnd c = false := by
  cases ends : isLineEnd c with
  | false => rfl
  | true =>
    rcases Bool.or_eq_true_iff.mp ends with same | same
    · rw [eq_of_beq same] at digit
      cases digit
    · rw [eq_of_beq same] at digit
      cases digit

theorem isLineEnd_of_hexUnit {a b c d : Char} {n : Nat} (unit : hexUnit? a b c d = some n) :
    isLineEnd a = false ∧ isLineEnd b = false ∧ isLineEnd c = false ∧ isLineEnd d = false := by
  simp only [hexUnit?, Option.bind_eq_bind, Option.bind_eq_some_iff] at unit
  obtain ⟨_, a, _, b, _, c, _, d, _⟩ := unit
  exact ⟨isLineEnd_of_hexDigit a, isLineEnd_of_hexDigit b, isLineEnd_of_hexDigit c, isLineEnd_of_hexDigit d⟩

theorem units_of_hexAhead {t r : Text} {n : Nat} (ahead : HexAhead t n r) (opening : Text) :
    units opening ('\\' :: 'u' :: t) = (units opening r).bind fun p => .ok (.ofCode n :: p.1, p.2) := by
  obtain ⟨filled, a, b, c, d, rfl, unit⟩ := ahead
  obtain ⟨e, r, rfl⟩ := List.exists_cons_of_ne_nil filled
  rw [units.eq_3, unit]
  rfl

theorem units_of_no_hex {t : Text} (none : ¬ ∃ n r, HexAhead t n r) (opening : Text) :
    units opening ('\\' :: 'u' :: t) = .error (.fault .badUnicode ('u' :: t)) := by
  by_cases long : ∃ a b c d e r, t = a :: b :: c :: d :: e :: r
  · obtain ⟨a, b, c, d, e, r, rfl⟩ := long
    rw [units.eq_3]
    cases unit : hexUnit? a b c d with
    | none => rfl
    | some n => exact absurd ⟨n, e :: r, List.cons_ne_nil e r, a, b, c, d, rfl, unit⟩ none
  · exact units.eq_4 opening t fun a b c d e r same => long ⟨a, b, c, d, e, r, same⟩

theorem HexAhead.broken {t r : Text} {n : Nat} (ahead : HexAhead t n r) :
    HexAhead (normalizeBreaks t) n (normalizeBreaks r) := by
  obtain ⟨filled, a, b, c, d, rfl, unit⟩ := ahead
  obtain ⟨ha, hb, hc, hd⟩ := isLineEnd_of_hexUnit unit
  obtain ⟨e, r, rfl⟩ := List.exists_cons_of_ne_nil filled
  refine ⟨normalizeBreaks_ne_nil e r, a, b, c, d, ?_, unit⟩
  rw [normalizeBreaks_inside ha, normalizeBreaks_inside hb, normalizeBreaks_inside hc, normalizeBreaks_inside hd]

theorem hexAhead_of_broken {t u : Text} {n : Nat} (ahead : HexAhead (normalizeBreaks t) n u) :
    ∃ r, HexAhead t n r := by
  obtain ⟨filled, a, b, c, d, shape, unit⟩ := ahead
  obtain ⟨ha, hb, hc, hd⟩ := isLineEnd_of_hexUnit unit
  obtain ⟨_, rfl, shapeA⟩ := of_normalizeBreaks_cons ha shape
  obtain ⟨_, rfl, shapeB⟩ := of_normalizeBreaks_cons hb shapeA
  obtain ⟨_, rfl, shapeC⟩ := of_normalizeBreaks_cons hc shapeB
  obtain ⟨r, rfl, rfl⟩ := of_normalizeBreaks_cons hd shapeC
  refine ⟨r, ?_, a, b, c, d, rfl, unit⟩
  rintro rfl
  exact filled rfl

theorem parallel_badUnicode {t : Text} (none : ¬ ∃ n r, HexAhead t n r) (opening opening' : Text) :
    Parallel (units opening ('\\' :: 'u' :: t)) (units opening' (normalizeBreaks ('\\' :: 'u' :: t))) := by
  have none' : ¬ ∃ n r, HexAhead (normalizeBreaks t) n r := by
    rintro ⟨n, u, ahead⟩
    exact none ⟨n, hexAhead_of_broken ahead⟩
  rw [normalizeBreaks_inside rfl, normalizeBreaks_inside rfl, units_of_no_hex none, units_of_no_hex none']
  exact .fault _ _ _ _

/-- A break inside a string is a fault, also behind a backslash. -/
theorem parallel_units (opening opening' t : Text) :
    Parallel (units opening t) (units opening' (normalizeBreaks t)) := by
  fun_induction units opening t with
  | case1 => exact .fault _ _ _ _
  | case2 r =>
    rw [normalizeBreaks_inside rfl]
    exact .ok _ _
  | case3 a b c d e r bad =>
    have none : ¬ ∃ n u, HexAhead (a :: b :: c :: d :: e :: r) n u := by
      rintro ⟨n, u, _, _, _, _, _, same, unit⟩
      cases same
      rw [bad] at unit
      cases unit
    have parallel := parallel_badUnicode none opening opening'
    rw [units_of_no_hex none] at parallel
    exact parallel
  | case4 a b c d e r n unit ih =>
    have ahead : HexAhead (a :: b :: c :: d :: e :: r) n (e :: r) := ⟨List.cons_ne_nil e r, a, b, c, d, rfl, unit⟩
    rw [normalizeBreaks_inside rfl, normalizeBreaks_inside rfl, units_of_hexAhead ahead.broken]
    exact ih.bind fun _ _ => .ok _ _
  | case5 r short =>
    have none : ¬ ∃ n u, HexAhead r n u := by
      rintro ⟨n, u, filled, a, b, c, d, same, _⟩
      obtain ⟨e, u, rfl⟩ := List.exists_cons_of_ne_nil filled
      exact short a b c d e u same
    have parallel := parallel_badUnicode none opening opening'
    rw [units_of_no_hex none] at parallel
    exact parallel
  | case6 => exact .fault _ _ _ _
  | case7 c r _ other bad =>
    rw [normalizeBreaks_inside rfl]
    by_cases ret : c = '\r'
    · obtain ⟨u, shape⟩ := normalizeBreaks_return r
      rw [ret, shape, units_escape (by decide)]
      exact .fault _ _ _ _
    · rw [normalizeBreaks_cons ret, units_escape other, bad]
      exact .fault _ _ _ _
  | case8 c r _ other d short ih =>
    have ret : c ≠ '\r' := by
      rintro rfl
      cases short
    rw [normalizeBreaks_inside rfl, normalizeBreaks_cons ret, units_escape other, short]
    exact ih.bind fun _ _ => .ok _ _
  | case9 c r quote _ _ last escape control =>
    have backslash : c ≠ '\\' := by
      rintro rfl
      exact absurd control (by decide)
    by_cases ret : c = '\r'
    · obtain ⟨u, shape⟩ := normalizeBreaks_return r
      rw [ret, shape, units_plain (by decide) (by decide)]
      exact .fault _ _ _ _
    · rw [normalizeBreaks_cons ret, units_plain quote backslash, if_pos control]
      exact .fault _ _ _ _
  | case10 c r quote _ _ last escape visible ih =>
    have backslash : c ≠ '\\' := by
      intro same
      cases r with
      | nil => exact last same rfl
      | cons d r => exact escape d r same rfl
    have ret : c ≠ '\r' := by
      rintro rfl
      exact visible (by decide)
    rw [normalizeBreaks_cons ret, units_plain quote backslash, if_neg visible]
    exact ih.bind fun _ _ => .ok _ _

theorem parallel_string (opening opening' t : Text) :
    Parallel (string opening t) (string opening' (normalizeBreaks t)) :=
  (parallel_units opening opening' t).bind fun _ _ => .ok _ _

theorem skipBlank_head {t r : Text} {c : Char} (next : skipBlank t = c :: r) : isBlank c = false := by
  have first := List.head?_dropWhile_not isBlank t
  rw [show t.dropWhile isBlank = c :: r from next] at first
  simpa using first

theorem normalizeBreaks_visible {c : Char} (visible : isBlank c = false) (r : Text) :
    normalizeBreaks (c :: r) = c :: normalizeBreaks r := by
  refine normalizeBreaks_cons ?_ r
  rintro rfl
  cases visible

end Tokens

section Values

theorem skipBlank_eq_broken {t u : Text} {c : Char} (inside : isLineEnd c = false) (next : skipBlank t = c :: u) :
    skipBlank (normalizeBreaks t) = c :: normalizeBreaks u := by
  rw [skipBlank_normalizeBreaks, next, normalizeBreaks_inside inside]

theorem skipBlank_ne_broken {t : Text} {c : Char} (inside : isLineEnd c = false) (other : ∀ u, skipBlank t ≠ c :: u)
    (u : Text) : skipBlank (normalizeBreaks t) ≠ c :: u := by
  rw [skipBlank_normalizeBreaks]
  exact normalizeBreaks_ne_cons inside other u

theorem parallel_name (t : Text) : Parallel (name t) (name (normalizeBreaks t)) := by
  by_cases quote : ∃ r, t = '"' :: r
  · obtain ⟨r, rfl⟩ := quote
    rw [normalizeBreaks_inside rfl, name, name]
    refine (parallel_string _ _ r).bind fun key u => ?_
    by_cases colon : ∃ w, skipBlank u = ':' :: w
    · obtain ⟨w, colon⟩ := colon
      have broken := skipBlank_eq_broken (c := ':') rfl colon
      simp only [colon, broken]
      rw [skipBlank_normalizeBreaks]
      exact .ok _ _
    · have other := skipBlank_ne_broken rfl (not_exists.mp colon)
      simp only
      split
      · rename_i w same
        exact absurd ⟨w, same⟩ colon
      · exact .fault _ _ _ _
  · have quote' := normalizeBreaks_ne_cons (c := '"') rfl (not_exists.mp quote)
    rw [name.eq_2 _ (not_exists.mp quote), name.eq_2 _ quote']
    exact .fault _ _ _ _

mutual

theorem parallel_value : ∀ (fuel depth : Nat) (t : Text),
    Parallel (value fuel depth t) (value fuel depth (normalizeBreaks t))
  | 0, _, _ => .fault _ _ _ _
  | fuel + 1, depth, t => by
    cases begins t with
    | string r =>
      rw [normalizeBreaks_inside rfl, value, value]
      exact (parallel_string _ _ r).bind fun _ _ => .ok _ _
    | plain quote bracket brace =>
      have quote' := normalizeBreaks_ne_cons (c := '"') rfl quote
      have bracket' := normalizeBreaks_ne_cons (c := '[') rfl bracket
      have brace' := normalizeBreaks_ne_cons (c := '{') rfl brace
      rw [value_plain quote bracket brace, value_plain quote' bracket' brace', keyword?_normalizeBreaks]
      cases keyword? t with
      | none => exact parallel_number t
      | some p => exact .ok _ _
    | emptyList closed =>
      rw [normalizeBreaks_inside rfl]
      cases depth with
      | zero => exact .tooDeep _
      | succ depth =>
        rw [value_emptyList closed, value_emptyList (skipBlank_eq_broken rfl closed)]
        exact .ok _ _
    | list filled =>
      rw [normalizeBreaks_inside rfl]
      cases depth with
      | zero => exact .tooDeep _
      | succ depth =>
        rw [value_filledList filled, value_filledList (skipBlank_ne_broken rfl filled), skipBlank_normalizeBreaks]
        exact (parallel_items fuel depth _).bind fun _ _ => .ok _ _
    | emptyObject closed =>
      rw [normalizeBreaks_inside rfl]
      cases depth with
      | zero => exact .tooDeep _
      | succ depth =>
        rw [value_emptyObject closed, value_emptyObject (skipBlank_eq_broken rfl closed)]
        exact .ok _ _
    | object filled =>
      rw [normalizeBreaks_inside rfl]
      cases depth with
      | zero => exact .tooDeep _
      | succ depth =>
        rw [value_filledObject filled, value_filledObject (skipBlank_ne_broken rfl filled), skipBlank_normalizeBreaks]
        exact (parallel_members fuel depth _).bind fun _ _ => .ok _ _

theorem parallel_items : ∀ (fuel depth : Nat) (t : Text),
    Parallel (items fuel depth t) (items fuel depth (normalizeBreaks t))
  | 0, _, _ => .fault _ _ _ _
  | fuel + 1, depth, t => by
    unfold items
    refine (parallel_value fuel depth t).bind fun v r => ?_
    simp only [skipBlank_normalizeBreaks]
    cases next : skipBlank r with
    | nil => exact .fault _ _ _ _
    | cons c u =>
      rw [normalizeBreaks_visible (skipBlank_head next)]
      split
      · rename_i same
        cases same
        exact .ok _ _
      · rename_i same
        cases same
        simp only [skipBlank_normalizeBreaks]
        exact (parallel_items fuel depth _).bind fun _ _ => .ok _ _
      · rename_i unclosed last
        split
        · rename_i same
          cases same
          exact (unclosed u rfl).elim
        · rename_i same
          cases same
          exact (last u rfl).elim
        · exact .fault _ _ _ _

theorem parallel_members : ∀ (fuel depth : Nat) (t : Text),
    Parallel (members fuel depth t) (members fuel depth (normalizeBreaks t))
  | 0, _, _ => .fault _ _ _ _
  | fuel + 1, depth, t => by
    unfold members
    refine (parallel_name t).bind fun key u => ?_
    refine (parallel_value fuel depth u).bind fun v r => ?_
    simp only [skipBlank_normalizeBreaks]
    cases next : skipBlank r with
    | nil => exact .fault _ _ _ _
    | cons c w =>
      rw [normalizeBreaks_visible (skipBlank_head next)]
      split
      · rename_i same
        cases same
        exact .ok _ _
      · rename_i same
        cases same
        simp only [skipBlank_normalizeBreaks]
        exact (parallel_members fuel depth _).bind fun _ _ => .ok _ _
      · rename_i unclosed last
        split
        · rename_i same
          cases same
          exact (unclosed w rfl).elim
        · rename_i same
          cases same
          exact (last w rfl).elim
        · exact .fault _ _ _ _

end

end Values

section Document

end Document

end ParseRepair.Json
