import ParseRepair.Text.Utf8

namespace ParseRepair.Utf8

section Continuation

variable {p : Pending} {b : UInt8} {position : Nat} {r : Bytes}

theorem decodeFrom_last (low : p.low ≤ b.toNat) (high : b.toNat ≤ p.high) (last : p.need = 1) :
    decodeFrom (some p) position (b :: r) =
      (Char.ofNat (p.bits * 64 + (b.toNat - 0x80)) :: ·) <$> decodeFrom none (position + 1) r := by
  simp only [decodeFrom, low, high, last, decide_true, Bool.and_self, if_true]

theorem decodeFrom_more (low : p.low ≤ b.toNat) (high : b.toNat ≤ p.high) (more : p.need ≠ 1) :
    decodeFrom (some p) position (b :: r) =
      decodeFrom (some ⟨p.start, p.lead, p.need - 1, 0x80, 0xBF, p.bits * 64 + (b.toNat - 0x80)⟩) (position + 1) r := by
  simp only [decodeFrom, low, high, decide_true, Bool.and_self, if_true, if_neg more]

theorem decodeFrom_lead {q : Pending} (outside : ¬ b.toNat < 0x80) (begun : Pending.ofLead? position b = some q) :
    decodeFrom none position (b :: r) = decodeFrom (some q) (position + 1) r := by
  simp only [decodeFrom, if_neg outside, begun]

end Continuation

theorem ofLead?_two {n : Nat} (low : 0x80 ≤ n) (high : n < 0x800) {b : UInt8} (lead : b.toNat = 0xC0 + n / 64)
    (position : Nat) : Pending.ofLead? position b = some ⟨position, b, 1, 0x80, 0xBF, n / 64⟩ := by
  have range : (decide (0xC2 ≤ b.toNat) && decide (b.toNat ≤ 0xDF)) = true := by
    simp only [Bool.and_eq_true, decide_eq_true_eq]
    omega
  have bits : b.toNat - 0xC0 = n / 64 := by omega
  simp only [Pending.ofLead?, range, if_true, bits]

theorem ofLead?_three {n : Nat} (low : 0x800 ≤ n) (high : n < 0x10000) (whole : n < 0xD800 ∨ 0xDFFF < n)
    {b : UInt8} (lead : b.toNat = 0xE0 + n / 4096) (position : Nat) :
    ∃ least greatest, Pending.ofLead? position b = some ⟨position, b, 2, least, greatest, n / 4096⟩ ∧
      least ≤ 0x80 + n / 64 % 64 ∧ 0x80 + n / 64 % 64 ≤ greatest := by
  have first : (decide (0xC2 ≤ b.toNat) && decide (b.toNat ≤ 0xDF)) = false := by
    simp only [Bool.and_eq_false_iff, decide_eq_false_iff_not]
    omega
  unfold Pending.ofLead?
  simp only [first, Bool.false_eq_true, if_false]
  split
  -- With E0 the bits begin with zeros, so a second byte below A0 would be a long form.
  · rename_i e0
    rw [beq_iff_eq] at e0
    have bits : n / 4096 = 0 := by omega
    exact ⟨0xA0, 0xBF, by rw [bits], by omega, by omega⟩
  split
  · rename_i ed
    rw [beq_iff_eq] at ed
    have bits : n / 4096 = 0xD := by omega
    exact ⟨0x80, 0x9F, by rw [bits], by omega, by omega⟩
  split
  · have bits : b.toNat - 0xE0 = n / 4096 := by omega
    exact ⟨0x80, 0xBF, by rw [bits], by omega, by omega⟩
  · rename_i e0 _ other
    simp only [Bool.and_eq_true, decide_eq_true_eq, beq_iff_eq] at e0 other
    omega

theorem ofLead?_four {n : Nat} (low : 0x10000 ≤ n) (high : n < 0x110000) {b : UInt8}
    (lead : b.toNat = 0xF0 + n / 262144) (position : Nat) :
    ∃ least greatest, Pending.ofLead? position b = some ⟨position, b, 3, least, greatest, n / 262144⟩ ∧
      least ≤ 0x80 + n / 4096 % 64 ∧ 0x80 + n / 4096 % 64 ≤ greatest := by
  have two : (decide (0xC2 ≤ b.toNat) && decide (b.toNat ≤ 0xDF)) = false := by
    simp only [Bool.and_eq_false_iff, decide_eq_false_iff_not]
    omega
  have three : (decide (0xE1 ≤ b.toNat) && decide (b.toNat ≤ 0xEF)) = false := by
    simp only [Bool.and_eq_false_iff, decide_eq_false_iff_not]
    omega
  have e0 : (b.toNat == 0xE0) = false := by rw [beq_eq_false_iff_ne]; omega
  have ed : (b.toNat == 0xED) = false := by rw [beq_eq_false_iff_ne]; omega
  unfold Pending.ofLead?
  simp only [two, three, e0, ed, Bool.false_eq_true, if_false]
  split
  · rename_i f0
    rw [beq_iff_eq] at f0
    have bits : n / 262144 = 0 := by omega
    exact ⟨0x90, 0xBF, by rw [bits], by omega, by omega⟩
  split
  · have bits : b.toNat - 0xF0 = n / 262144 := by omega
    exact ⟨0x80, 0xBF, by rw [bits], by omega, by omega⟩
  split
  · rename_i f4
    rw [beq_iff_eq] at f4
    have bits : n / 262144 = 4 := by omega
    exact ⟨0x80, 0x8F, by rw [bits], by omega, by omega⟩
  · rename_i f0 middle f4
    simp only [Bool.and_eq_true, decide_eq_true_eq, beq_iff_eq] at f0 middle f4
    omega

def tail (n weight : Nat) : UInt8 := UInt8.ofNat (0x80 + n / weight % 64)

theorem toNat_ofNat {m : Nat} (small : m < 256) : (UInt8.ofNat m).toNat = m := UInt8.toNat_ofNat_of_lt' small

theorem toNat_tail (n weight : Nat) : (tail n weight).toNat = 0x80 + n / weight % 64 := by
  have small := Nat.mod_lt (n / weight) (show 0 < 64 by decide)
  exact toNat_ofNat (by omega)

theorem map_cons_ofNat {c : Char} {n : Nat} (same : n = c.toNat) (x : Except DecodeError Text) :
    (Char.ofNat n :: ·) <$> x = (c :: ·) <$> x := by
  rw [same, Char.ofNat_toNat]

section Lengths

variable {c : Char} (position : Nat) (r : Bytes)

theorem decodeFrom_oneByte (ascii : c.toNat < 0x80) : decodeFrom none position (UInt8.ofNat c.toNat :: r) =
    (c :: ·) <$> decodeFrom none (position + 1) r := by
  have byte := toNat_ofNat (show c.toNat < 256 by omega)
  rw [decodeFrom, if_pos (by omega), byte]
  exact map_cons_ofNat rfl _

theorem decodeFrom_twoBytes (low : 0x80 ≤ c.toNat) (high : c.toNat < 0x800) :
    decodeFrom none position (UInt8.ofNat (0xC0 + c.toNat / 64) :: tail c.toNat 1 :: r) =
      (c :: ·) <$> decodeFrom none (position + 2) r := by
  have last := toNat_tail c.toNat 1
  have lead := toNat_ofNat (show 0xC0 + c.toNat / 64 < 256 by omega)
  rw [decodeFrom_lead (by omega) (ofLead?_two low high lead position),
    decodeFrom_last (by simp only; omega) (by simp only; omega) rfl, last]
  exact map_cons_ofNat (by simp only; omega) _

theorem decodeFrom_threeBytes (low : 0x800 ≤ c.toNat) (high : c.toNat < 0x10000) :
    decodeFrom none position (UInt8.ofNat (0xE0 + c.toNat / 4096) :: tail c.toNat 64 :: tail c.toNat 1 :: r) =
      (c :: ·) <$> decodeFrom none (position + 3) r := by
  have valid : c.toNat < 0xD800 ∨ 0xDFFF < c.toNat ∧ c.toNat < 0x110000 := c.valid
  have last := toNat_tail c.toNat 1
  have second := toNat_tail c.toNat 64
  have lead := toNat_ofNat (show 0xE0 + c.toNat / 4096 < 256 by omega)
  obtain ⟨least, greatest, begun, above, below⟩ := ofLead?_three low high (by omega) lead position
  rw [decodeFrom_lead (by omega) begun,
    decodeFrom_more (by simp only; omega) (by simp only; omega) (show 2 ≠ 1 by decide),
    decodeFrom_last (by simp only; omega) (by simp only; omega) rfl, second, last]
  exact map_cons_ofNat (by simp only; omega) _

theorem decodeFrom_fourBytes (low : 0x10000 ≤ c.toNat) :
    decodeFrom none position
        (UInt8.ofNat (0xF0 + c.toNat / 262144) :: tail c.toNat 4096 :: tail c.toNat 64 :: tail c.toNat 1 :: r) =
      (c :: ·) <$> decodeFrom none (position + 4) r := by
  have valid : c.toNat < 0xD800 ∨ 0xDFFF < c.toNat ∧ c.toNat < 0x110000 := c.valid
  have last := toNat_tail c.toNat 1
  have third := toNat_tail c.toNat 64
  have second := toNat_tail c.toNat 4096
  have lead := toNat_ofNat (show 0xF0 + c.toNat / 262144 < 256 by omega)
  obtain ⟨least, greatest, begun, above, below⟩ := ofLead?_four low (by omega) lead position
  rw [decodeFrom_lead (by omega) begun,
    decodeFrom_more (by simp only; omega) (by simp only; omega) (show 3 ≠ 1 by decide),
    decodeFrom_more (by simp only; omega) (by simp only; omega) (show 2 ≠ 1 by decide),
    decodeFrom_last (by simp only; omega) (by simp only; omega) rfl, second, third, last]
  exact map_cons_ofNat (by simp only; omega) _

end Lengths

theorem decodeFrom_encodeChar (c : Char) (position : Nat) (r : Bytes) :
    decodeFrom none position (encodeChar c ++ r) =
      (c :: ·) <$> decodeFrom none (position + (encodeChar c).length) r := by
  by_cases one : c.toNat < 0x80
  · have encoded : encodeChar c = [UInt8.ofNat c.toNat] := if_pos one
    rw [encoded]
    exact decodeFrom_oneByte position r one
  by_cases two : c.toNat < 0x800
  · have encoded : encodeChar c = [UInt8.ofNat (0xC0 + c.toNat / 64), tail c.toNat 1] :=
      (if_neg one).trans (if_pos two)
    rw [encoded]
    exact decodeFrom_twoBytes position r (Nat.le_of_not_lt one) two
  by_cases three : c.toNat < 0x10000
  · have encoded : encodeChar c = [UInt8.ofNat (0xE0 + c.toNat / 4096), tail c.toNat 64, tail c.toNat 1] :=
      (if_neg one).trans ((if_neg two).trans (if_pos three))
    rw [encoded]
    exact decodeFrom_threeBytes position r (Nat.le_of_not_lt two) three
  · have encoded : encodeChar c =
        [UInt8.ofNat (0xF0 + c.toNat / 262144), tail c.toNat 4096, tail c.toNat 64, tail c.toNat 1] :=
      (if_neg one).trans ((if_neg two).trans (if_neg three))
    rw [encoded]
    exact decodeFrom_fourBytes position r (Nat.le_of_not_lt three)

theorem decodeFrom_encode (t : Text) (position : Nat) : decodeFrom none position (encode t) = .ok t := by
  induction t generalizing position with
  | nil => rfl
  | cons c t ih =>
    rw [encode, List.flatMap_cons, decodeFrom_encodeChar]
    show (c :: ·) <$> decodeFrom none _ (encode t) = _
    rw [ih]
    rfl

theorem decode_encode (t : Text) : decode (encode t) = .ok t := decodeFrom_encode t 0

theorem mapError_decode_encode {ε : Type} (f : DecodeError → ε) (t : Text) :
    (decode (encode t)).mapError f = .ok t := by
  rw [decode_encode]
  rfl

section Converse

def tails (n : Nat) : Nat → Bytes
  | 0 => []
  | need + 1 => tail n (Nat.pow 64 need) :: tails n need

theorem tail_eq {n weight : Nat} {b : UInt8} (bits : 0x80 + n / weight % 64 = b.toNat) : tail n weight = b :=
  UInt8.toNat_inj.mp ((toNat_tail n weight).trans bits)

theorem tails_of_decodeFrom {p : Pending} {position : Nat} {bytes : Bytes} {t : Text}
    (low : 0x80 ≤ p.low) (high : p.high ≤ 0xBF) (begun : p.need ≠ 0)
    (read : decodeFrom (some p) position bytes = .ok t) :
    ∃ n r t', bytes = tails n p.need ++ r ∧ n / Nat.pow 64 p.need = p.bits ∧
      p.low ≤ 0x80 + n / Nat.pow 64 (p.need - 1) % 64 ∧ 0x80 + n / Nat.pow 64 (p.need - 1) % 64 ≤ p.high ∧
      t = Char.ofNat n :: t' ∧ decodeFrom none (position + p.need) r = .ok t' := by
  obtain ⟨start, lead, need, least, greatest, bits⟩ := p
  -- By the bytes still needed. Only the bounds of the first of them say anything about `n`.
  induction need generalizing position bytes least greatest bits with
  | zero => exact absurd rfl begun
  | succ need ih =>
    cases bytes with
    | nil => cases read
    | cons b r =>
      by_cases inside : least ≤ b.toNat ∧ b.toNat ≤ greatest
      · obtain ⟨above, below⟩ := inside
        cases need with
        | zero =>
          rw [decodeFrom_last above below rfl] at read
          cases rest : decodeFrom none (position + 1) r with
          | error e =>
            rw [rest] at read
            cases read
          | ok t' =>
            rw [rest] at read
            simp only at low high
            refine ⟨bits * 64 + (b.toNat - 0x80), r, t', ?_, ?_, ?_, ?_, (Except.ok.inj read).symm, rest⟩
            · rw [tails, tails, tail_eq (b := b) (by show 0x80 + _ / 1 % 64 = _; omega)]
              rfl
            · show (bits * 64 + (b.toNat - 0x80)) / 64 = bits
              omega
            · show least ≤ 0x80 + (bits * 64 + (b.toNat - 0x80)) / 1 % 64
              omega
            · show 0x80 + (bits * 64 + (b.toNat - 0x80)) / 1 % 64 ≤ greatest
              omega
        | succ need =>
          rw [decodeFrom_more above below (by simp)] at read
          simp only at low high
          obtain ⟨n, rest, t', shape, front, _, _, text, onward⟩ :=
            ih 0x80 0xBF (bits * 64 + (b.toNat - 0x80)) (Nat.le_refl _) (Nat.le_refl _) (Nat.succ_ne_zero _) read
          simp only at shape front onward
          rw [Nat.add_assoc, Nat.add_comm 1] at onward
          refine ⟨n, rest, t', ?_, ?_, ?_, ?_, text, onward⟩
          · rw [tails, tail_eq (b := b) (by omega), shape]
            rfl
          · show n / (Nat.pow 64 (need + 1) * 64) = bits
            rw [← Nat.div_div_eq_div_mul, front]
            omega
          · show least ≤ 0x80 + n / Nat.pow 64 (need + 1) % 64
            omega
          · show 0x80 + n / Nat.pow 64 (need + 1) % 64 ≤ greatest
            omega
      · have outside : (decide (least ≤ b.toNat) && decide (b.toNat ≤ greatest)) = false := by
          rw [Bool.and_eq_false_iff, decide_eq_false_iff_not, decide_eq_false_iff_not]
          exact Decidable.not_and_iff_or_not.mp inside
        simp only [decodeFrom, outside, Bool.false_eq_true, if_false] at read
        cases read

/-- What a lead byte says: how many bytes follow it, the bits it gives, and which second bytes would make a
long form, a surrogate or a character that is too great. -/
theorem ofLead?_cases {position : Nat} {b : UInt8} {p : Pending} (begun : Pending.ofLead? position b = some p) :
    ∃ need low high bits, p = ⟨position, b, need, low, high, bits⟩ ∧ 0x80 ≤ low ∧ high ≤ 0xBF ∧
      (need = 1 ∧ bits + 0xC0 = b.toNat ∧ 2 ≤ bits ∧ bits < 0x20 ∨
      need = 2 ∧ bits + 0xE0 = b.toNat ∧ bits < 0x10 ∧ (bits = 0 → 0xA0 ≤ low) ∧ (bits = 0xD → high ≤ 0x9F) ∨
      need = 3 ∧ bits + 0xF0 = b.toNat ∧ bits < 5 ∧ (bits = 0 → 0x90 ≤ low) ∧ (bits = 4 → high ≤ 0x8F)) := by
  unfold Pending.ofLead? at begun
  simp only [Bool.and_eq_true, decide_eq_true_eq, beq_iff_eq] at begun
  split at begun
  · cases begun
    exact ⟨_, _, _, _, rfl, by omega, by omega, by omega⟩
  split at begun
  · cases begun
    exact ⟨_, _, _, _, rfl, by omega, by omega, by omega⟩
  split at begun
  · cases begun
    exact ⟨_, _, _, _, rfl, by omega, by omega, by omega⟩
  split at begun
  · cases begun
    exact ⟨_, _, _, _, rfl, by omega, by omega, by omega⟩
  split at begun
  · cases begun
    exact ⟨_, _, _, _, rfl, by omega, by omega, by omega⟩
  split at begun
  · cases begun
    exact ⟨_, _, _, _, rfl, by omega, by omega, by omega⟩
  split at begun
  · cases begun
    exact ⟨_, _, _, _, rfl, by omega, by omega, by omega⟩
  · cases begun

theorem toNat_char {n : Nat} (valid : n < 0xD800 ∨ 0xDFFF < n ∧ n < 0x110000) : (Char.ofNat n).toNat = n := by
  have proper : n.isValidChar := valid
  rw [Char.ofNat, dif_pos proper]
  rfl

theorem ofNat_eq {b : UInt8} {m : Nat} (same : m = b.toNat) : UInt8.ofNat m = b := by
  rw [same, UInt8.ofNat_toNat]

theorem encodeChar_of_tails {position : Nat} {b : UInt8} {p : Pending} {n : Nat}
    (begun : Pending.ofLead? position b = some p) (front : n / Nat.pow 64 p.need = p.bits)
    (above : p.low ≤ 0x80 + n / Nat.pow 64 (p.need - 1) % 64)
    (below : 0x80 + n / Nat.pow 64 (p.need - 1) % 64 ≤ p.high) :
    encodeChar (Char.ofNat n) = b :: tails n p.need := by
  obtain ⟨need, low, high, bits, rfl, _, _, two | three | four⟩ := ofLead?_cases begun
  · obtain ⟨rfl, lead, _, _⟩ := two
    change n / 64 = bits at front
    change low ≤ 0x80 + n / 1 % 64 at above
    change 0x80 + n / 1 % 64 ≤ high at below
    have code := toNat_char (n := n) (by omega)
    rw [encodeChar, code, if_neg (by omega), if_pos (by omega), ofNat_eq (b := b) (by omega)]
    rfl
  · obtain ⟨rfl, lead, _, _, _⟩ := three
    change n / 4096 = bits at front
    change low ≤ 0x80 + n / 64 % 64 at above
    change 0x80 + n / 64 % 64 ≤ high at below
    have code := toNat_char (n := n) (by omega)
    rw [encodeChar, code, if_neg (by omega), if_neg (by omega), if_pos (by omega),
      show Nat.pow 64 2 = 4096 from rfl, ofNat_eq (b := b) (by omega)]
    rfl
  · obtain ⟨rfl, lead, _, _, _⟩ := four
    change n / 262144 = bits at front
    change low ≤ 0x80 + n / 4096 % 64 at above
    change 0x80 + n / 4096 % 64 ≤ high at below
    have code := toNat_char (n := n) (by omega)
    rw [encodeChar, code, if_neg (by omega), if_neg (by omega), if_neg (by omega),
      show Nat.pow 64 3 = 262144 from rfl, ofNat_eq (b := b) (by omega)]
    rfl

theorem encodeChar_ascii {b : UInt8} (ascii : b.toNat < 0x80) : encodeChar (Char.ofNat b.toNat) = [b] := by
  have code := toNat_char (n := b.toNat) (by omega)
  rw [encodeChar, code, if_pos ascii, ofNat_eq rfl]

theorem encode_of_decodeFrom {position : Nat} {bytes : Bytes} {t : Text}
    (read : decodeFrom none position bytes = .ok t) : bytes = encode t := by
  match bytes with
  | [] =>
    cases read
    rfl
  | b :: r =>
    by_cases ascii : b.toNat < 0x80
    · rw [decodeFrom, if_pos ascii] at read
      cases rest : decodeFrom none (position + 1) r with
      | error e =>
        rw [rest] at read
        cases read
      | ok t' =>
        rw [rest] at read
        cases read
        rw [encode_of_decodeFrom rest, encode, encode, List.flatMap_cons, encodeChar_ascii ascii]
        rfl
    · cases begun : Pending.ofLead? position b with
      | none =>
        rw [decodeFrom, if_neg ascii, begun] at read
        cases read
      | some p =>
        rw [decodeFrom_lead ascii begun] at read
        obtain ⟨need, low, high, bits, made, least, greatest, lengths⟩ := ofLead?_cases begun
        obtain ⟨n, r', t', shape, front, above, below, rfl, rest⟩ := tails_of_decodeFrom (by rw [made]; exact least)
          (by rw [made]; exact greatest) (by rw [made]; show need ≠ 0; omega) read
        have shorter : r'.length ≤ r.length := by
          rw [shape, List.length_append]
          omega
        rw [shape, encode_of_decodeFrom rest, encode, encode, List.flatMap_cons,
          encodeChar_of_tails begun front above below]
        rfl
termination_by bytes.length

/-- Bytes are read as a text exactly if they are the bytes of that text. -/
theorem decode_eq_ok_iff {bytes : Bytes} {t : Text} : decode bytes = .ok t ↔ bytes = encode t := by
  constructor
  · exact encode_of_decodeFrom
  · rintro rfl
    exact decode_encode t

end Converse

theorem encodeChar_eq (c : Char) : encodeChar c = String.utf8EncodeChar c := by
  have valid : c.toNat < 0xD800 ∨ 0xDFFF < c.toNat ∧ c.toNat < 0x110000 := c.valid
  have code : c.val.toNat = c.toNat := rfl
  unfold String.utf8EncodeChar
  rw [code]
  by_cases one : c.toNat < 0x80
  · rw [if_pos (by omega)]
    exact if_pos one
  have last : tail c.toNat 1 = UInt8.ofNat (c.toNat % 64 + 128) := by
    rw [tail, Nat.div_one, Nat.add_comm]
  have third : tail c.toNat 64 = UInt8.ofNat (c.toNat / 64 % 64 + 128) := by
    rw [tail, Nat.add_comm]
  have second : tail c.toNat 4096 = UInt8.ofNat (c.toNat / 4096 % 64 + 128) := by
    rw [tail, Nat.add_comm]
  rw [if_neg (by omega), ← last, ← third, ← second]
  by_cases two : c.toNat < 0x800
  · have lead : c.toNat / 64 % 32 + 192 = 0xC0 + c.toNat / 64 := by omega
    rw [if_pos (by omega), lead]
    exact (if_neg one).trans (if_pos two)
  rw [if_neg (by omega)]
  by_cases three : c.toNat < 0x10000
  · have lead : c.toNat / 4096 % 16 + 224 = 0xE0 + c.toNat / 4096 := by omega
    rw [if_pos (by omega), lead]
    exact (if_neg one).trans ((if_neg two).trans (if_pos three))
  · have lead : c.toNat / 262144 % 8 + 240 = 0xF0 + c.toNat / 262144 := by omega
    rw [if_neg (by omega), lead]
    exact (if_neg one).trans ((if_neg two).trans (if_neg three))

theorem toByteArray_encode (t : Text) : (encode t).toByteArray = t.utf8Encode := by
  have same : encodeChar = String.utf8EncodeChar := funext encodeChar_eq
  rw [encode, same]
  rfl

theorem encode_eq (t : Text) : encode t = t.utf8Encode.data.toList := by
  rw [← toByteArray_encode, List.toList_data_toByteArray]

theorem isValidUTF8_iff {b : Bytes} : b.toByteArray.IsValidUTF8 ↔ ∃ t, decode b = .ok t := by
  constructor
  · intro valid
    obtain ⟨t, same⟩ := valid
    refine ⟨t, decode_eq_ok_iff.mpr ?_⟩
    rw [encode_eq, ← same, List.toList_data_toByteArray]
  · intro read
    obtain ⟨t, read⟩ := read
    refine ⟨t, ?_⟩
    rw [decode_eq_ok_iff.mp read, toByteArray_encode]

end ParseRepair.Utf8
