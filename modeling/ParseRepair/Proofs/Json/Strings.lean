import ParseRepair.Json.Printer
import ParseRepair.Json.Reader
import ParseRepair.Proofs.Text.Digits

namespace ParseRepair.Json

open Text

def pointUnits : Point → Points
  | .half n => [.half n]
  | .char c =>
    if c.toNat < 0x10000 then [.char c]
    else [.ofCode (0xD800 + (c.toNat - 0x10000) / 0x400), .ofCode (0xDC00 + (c.toNat - 0x10000) % 0x400)]

theorem pointUnits_narrow {c : Char} (narrow : c.toNat < 0x10000) : pointUnits (.char c) = [.char c] := if_pos narrow

theorem pointUnits_wide {c : Char} (wide : ¬ c.toNat < 0x10000) : pointUnits (.char c) =
    [.ofCode (0xD800 + (c.toNat - 0x10000) / 0x400), .ofCode (0xDC00 + (c.toNat - 0x10000) % 0x400)] := if_neg wide

theorem ofCode_char (c : Char) : Point.ofCode c.toNat = .char c := by
  have valid : c.toNat < 0xD800 ∨ 0xDFFF < c.toNat ∧ c.toNat < 0x110000 := c.valid
  rw [Point.ofCode, dif_neg (by omega), Char.ofNat_toNat]

theorem ofCode_half {n : Nat} (small : n < 0x800) : Point.ofCode (0xD800 + n) = .half ⟨n, small⟩ := by
  have back : 0xD800 + n - 0xD800 = n := by omega
  rw [Point.ofCode, dif_pos (by omega)]
  simp only [back]

theorem toNat_lt (c : Char) : c.toNat < 0x110000 := by
  rcases c.valid with low | ⟨_, high⟩
  · exact Nat.lt_trans low (by decide)
  · exact high

theorem hexUnit?_digits {n : Nat} (small : n < 0x10000) :
    hexUnit? (Nat.digitChar (n / 4096)) (Nat.digitChar (n / 256 % 16)) (Nat.digitChar (n / 16 % 16))
      (Nat.digitChar (n % 16)) = some n := by
  have digit (m : Nat) : hexDigit? (Nat.digitChar (m % 16)) = some (m % 16) :=
    hexDigit?_digitChar _ (Nat.mod_lt m (by decide))
  have first := hexDigit?_digitChar (n / 4096) (by omega)
  simp only [hexUnit?, first, digit, Option.bind_eq_bind, Option.bind_some, ofDigits, List.foldl_cons, List.foldl_nil,
    Option.some.injEq]
  omega

section Units

variable {opening r rest : Text} {ps : Points}

theorem units_unicodeEscape {n : Nat} (small : n < 0x10000) (behind : units opening r = .ok (ps, rest)) :
    units opening (unicodeEscape n ++ r) = .ok (.ofCode n :: ps, rest) := by
  cases r with
  | nil => cases behind
  | cons e r =>
    rw [unicodeEscape, hex_four small]
    simp only [List.cons_append, List.nil_append, units, hexUnit?_digits small, behind]
    rfl

theorem units_escape {c : Char} (other : c ≠ 'u') (opening r : Text) :
    units opening ('\\' :: c :: r) = match shortEscape? c with
      | none => .error (.fault .badEscape ('\\' :: c :: r))
      | some d => units opening r >>= fun p => .ok (.char d :: p.1, p.2) :=
  units.eq_6 opening c r (fun _ _ _ _ _ _ same _ => other same) other

theorem units_plain {c : Char} (quote : c ≠ '"') (backslash : c ≠ '\\') (opening r : Text) :
    units opening (c :: r) = if c.toNat ≤ 0x1F then .error (.fault .controlCharacter (c :: r))
      else units opening r >>= fun p => .ok (.char c :: p.1, p.2) := by
  have plain (t : Prop) : c = '\\' → t := fun same => absurd same backslash
  exact units.eq_7 opening c r quote (fun _ _ _ _ _ _ => plain _) (fun _ => plain _) (plain _) fun _ _ => plain _

theorem units_shortEscape {c d : Char} (short : shortEscape? c = some d)
    (behind : units opening r = .ok (ps, rest)) : units opening ('\\' :: c :: r) = .ok (.char d :: ps, rest) := by
  have other : c ≠ 'u' := by
    rintro rfl
    cases short
  rw [units_escape other, short, behind]
  rfl

theorem units_char {c : Char} (quote : c ≠ '"') (backslash : c ≠ '\\') (visible : ¬ c.toNat ≤ 0x1F)
    (behind : units opening r = .ok (ps, rest)) : units opening (c :: r) = .ok (.char c :: ps, rest) := by
  rw [units_plain quote backslash, if_neg visible, behind]
  rfl

theorem units_escapeChar (c : Char) (behind : units opening r = .ok (ps, rest)) :
    units opening (escapeChar c ++ r) = .ok (pointUnits (.char c) ++ ps, rest) := by
  have escaped {e : Char} (narrow : c.toNat < 0x10000) (short : shortEscape? e = some c) :
      units opening ('\\' :: e :: r) = .ok (pointUnits (.char c) ++ ps, rest) := by
    rw [pointUnits_narrow narrow]
    exact units_shortEscape short behind
  have of_code {d : Char} (same : c.toNat = d.toNat) : c = d := by
    rw [← Char.ofNat_toNat c, same, Char.ofNat_toNat]
  have bound := toNat_lt c
  -- The cases are the branches of `escapeChar`, in their order.
  unfold escapeChar
  dsimp only
  split
  · rename_i quote
    obtain rfl := eq_of_beq quote
    exact escaped (by decide) rfl
  split
  · rename_i backslash
    obtain rfl := eq_of_beq backslash
    exact escaped (by decide) rfl
  split
  · rename_i feed
    obtain rfl := eq_of_beq feed
    exact escaped (by decide) rfl
  split
  · rename_i ret
    obtain rfl := eq_of_beq ret
    exact escaped (by decide) rfl
  split
  · rename_i tab
    obtain rfl := eq_of_beq tab
    exact escaped (by decide) rfl
  split
  · rename_i backspace
    obtain rfl : c = '\x08' := of_code (eq_of_beq backspace)
    exact escaped (by decide) rfl
  split
  · rename_i formFeed
    obtain rfl : c = '\x0c' := of_code (eq_of_beq formFeed)
    exact escaped (by decide) rfl
  split
  · rename_i quote backslash _ _ _ _ _ visible
    simp only [Bool.and_eq_true, decide_eq_true_eq] at visible
    rw [pointUnits_narrow (by omega)]
    exact units_char (by simpa using quote) (by simpa using backslash) (by omega) behind
  split
  · rename_i narrow
    have read := units_unicodeEscape narrow behind
    rw [ofCode_char] at read
    rw [pointUnits_narrow narrow]
    exact read
  · rename_i wide
    rw [pointUnits_wide wide, List.append_assoc]
    exact units_unicodeEscape (by omega) (units_unicodeEscape (by omega) behind)

theorem units_escapePoint (p : Point) (behind : units opening r = .ok (ps, rest)) :
    units opening (escape p ++ r) = .ok (pointUnits p ++ ps, rest) := by
  cases p with
  | char c => exact units_escapeChar c behind
  | half n =>
    have read := units_unicodeEscape (n := 0xD800 + n.val) (by omega) behind
    rw [ofCode_half n.isLt] at read
    exact read

end Units

section Pairs

def Apart : Point → Point → Prop
  | .half n, .half m => isPair n m = false
  | _, _ => True

instance : ∀ p q, Decidable (Apart p q)
  | .half n, .half m => inferInstanceAs (Decidable (isPair n m = false))
  | .half _, .char _ => .isTrue trivial
  | .char _, _ => .isTrue trivial

/-- No half stands in front of one that it would make a pair with. -/
def Unpaired (t : Points) : Prop := t.IsChain Apart

instance (t : Points) : Decidable (Unpaired t) := inferInstanceAs (Decidable (t.IsChain Apart))

theorem unpaired_points (t : Text) : Unpaired t.points := by
  induction t with
  | nil => exact .nil
  | cons c t ih =>
    cases t with
    | nil => exact .singleton _
    | cons d t => exact .cons_cons trivial ih

theorem joinPairs_half {n : Fin 0x800} {r : Points} (apart : ∀ m u, r = .half m :: u → isPair n m = false) :
    joinPairs (.half n :: r) = .half n :: joinPairs r := by
  cases r with
  | nil => rfl
  | cons p u =>
    cases p with
    | char c => rfl
    | half m =>
      rw [joinPairs, if_neg]
      rw [apart m u rfl]
      exact Bool.false_ne_true

theorem joinHalves_split {n : Nat} (high : n / 0x400 < 0x800) (low : 0x400 + n % 0x400 < 0x800) :
    joinHalves ⟨n / 0x400, high⟩ ⟨0x400 + n % 0x400, low⟩ = Char.ofNat (0x10000 + n) := by
  have whole : 0x10000 + n / 0x400 * 0x400 + (0x400 + n % 0x400 - 0x400) = 0x10000 + n := by
    have parts := Nat.div_add_mod' n 0x400
    omega
  rw [joinHalves, whole]

/-- The units of a point make the point again, unless they go on with the other half of a pair. -/
theorem joinPairs_pointUnits {p : Point} {r : Points} (apart : ∀ n m u, p = .half n → r = .half m :: u →
    isPair n m = false) : joinPairs (pointUnits p ++ r) = p :: joinPairs r := by
  cases p with
  | half n => exact joinPairs_half fun m u => apart n m u rfl
  | char c =>
    by_cases narrow : c.toNat < 0x10000
    · rw [pointUnits_narrow narrow]
      rfl
    · have bound := toNat_lt c
      have high : (c.toNat - 0x10000) / 0x400 < 0x800 := by omega
      have low : 0x400 + (c.toNat - 0x10000) % 0x400 < 0x800 := by omega
      have wide : 0x10000 + (c.toNat - 0x10000) = c.toNat := by omega
      have pair : isPair ⟨_, high⟩ ⟨_, low⟩ = true := by
        simp only [isPair, Bool.and_eq_true, decide_eq_true_eq]
        omega
      have second : 0xDC00 + (c.toNat - 0x10000) % 0x400 = 0xD800 + (0x400 + (c.toNat - 0x10000) % 0x400) := by omega
      rw [pointUnits_wide narrow, second, ofCode_half high, ofCode_half low, List.cons_append, List.cons_append,
        List.nil_append, joinPairs, if_pos pair, joinHalves_split high low, wide, Char.ofNat_toNat]

theorem isPair_pointUnits {n m : Fin 0x800} {q : Point} {r u : Points} (apart : Apart (.half n) q)
    (begins : pointUnits q ++ r = .half m :: u) : isPair n m = false := by
  cases q with
  | half k =>
    cases begins
    exact apart
  | char c =>
    by_cases narrow : c.toNat < 0x10000
    · rw [pointUnits_narrow narrow] at begins
      cases begins
    · have bound := toNat_lt c
      have high : (c.toNat - 0x10000) / 0x400 < 0x800 := by omega
      rw [pointUnits_wide narrow, ofCode_half high] at begins
      cases begins
      simp only [isPair, Bool.and_eq_false_iff, decide_eq_false_iff_not]
      omega

theorem joinPairs_flatMap {t : Points} (unpaired : Unpaired t) : joinPairs (t.flatMap pointUnits) = t := by
  induction unpaired with
  | nil => rfl
  | singleton p => exact joinPairs_pointUnits (r := []) fun _ _ _ _ behind => nomatch behind
  | @cons_cons p q t apart _ ih =>
    rw [List.flatMap_cons, joinPairs_pointUnits, ih]
    rintro n m u rfl begins
    rw [List.flatMap_cons] at begins
    exact isPair_pointUnits apart begins

end Pairs

theorem units_flatMap (opening : Text) (t : Points) (rest : Text) :
    units opening (t.flatMap escape ++ '"' :: rest) = .ok (t.flatMap pointUnits, rest) := by
  induction t with
  | nil => rfl
  | cons p t ih => rw [List.flatMap_cons, List.flatMap_cons, List.append_assoc, units_escapePoint p ih]

theorem string_flatMap (opening : Text) {t : Points} (unpaired : Unpaired t) (rest : Text) :
    string opening (t.flatMap escape ++ '"' :: rest) = .ok (t, rest) := by
  rw [string, units_flatMap]
  show Except.ok (joinPairs (t.flatMap pointUnits), rest) = _
  rw [joinPairs_flatMap unpaired]

end ParseRepair.Json
