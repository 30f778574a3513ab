import ParseRepair.Text.Blank

namespace ParseRepair.Utf8

abbrev Bytes := List UInt8

inductive Reason
  | invalidStart
  | invalidContinuation
  | unexpectedEnd
  deriving DecidableEq, Repr

structure DecodeError where
  start : Nat
  size : Nat
  lead : UInt8
  reason : Reason
  deriving DecidableEq, Repr

structure Pending where
  start : Nat
  lead : UInt8
  need : Nat
  low : Nat
  high : Nat
  bits : Nat

/-- What a byte outside ASCII begins. The bounds leave out long forms, surrogates and all above
U+10FFFF. -/
def Pending.ofLead? (start : Nat) (lead : UInt8) : Option Pending :=
  let b := lead.toNat
  if 0xC2 ≤ b && b ≤ 0xDF then some ⟨start, lead, 1, 0x80, 0xBF, b - 0xC0⟩
  else if b == 0xE0 then some ⟨start, lead, 2, 0xA0, 0xBF, 0⟩
  else if b == 0xED then some ⟨start, lead, 2, 0x80, 0x9F, 0xD⟩
  else if 0xE1 ≤ b && b ≤ 0xEF then some ⟨start, lead, 2, 0x80, 0xBF, b - 0xE0⟩
  else if b == 0xF0 then some ⟨start, lead, 3, 0x90, 0xBF, 0⟩
  else if 0xF1 ≤ b && b ≤ 0xF3 then some ⟨start, lead, 3, 0x80, 0xBF, b - 0xF0⟩
  else if b == 0xF4 then some ⟨start, lead, 3, 0x80, 0x8F, 4⟩
  else none

def Pending.fail (p : Pending) (position : Nat) (reason : Reason) : DecodeError :=
  ⟨p.start, position - p.start, p.lead, reason⟩

def decodeFrom : Option Pending → Nat → Bytes → Except DecodeError Text
  | none, _, [] => .ok []
  | some p, position, [] => .error (p.fail position .unexpectedEnd)
  | none, position, b :: r =>
    if b.toNat < 0x80 then (Char.ofNat b.toNat :: ·) <$> decodeFrom none (position + 1) r
    else match Pending.ofLead? position b with
      | none => .error ⟨position, 1, b, .invalidStart⟩
      | some p => decodeFrom (some p) (position + 1) r
  | some p, position, b :: r =>
    if p.low ≤ b.toNat && b.toNat ≤ p.high then
      let bits := p.bits * 64 + (b.toNat - 0x80)
      if p.need = 1 then (Char.ofNat bits :: ·) <$> decodeFrom none (position + 1) r
      else decodeFrom
        (some { p with need := p.need - 1, low := 0x80, high := 0xBF, bits }) (position + 1) r
    else .error (p.fail position .invalidContinuation)

/-- Reads bytes as UTF-8. An error names the longest beginning of a character at the place where
reading stops. -/
def decode (bytes : Bytes) : Except DecodeError Text := decodeFrom none 0 bytes

def encodeChar (c : Char) : Bytes :=
  let n := c.toNat
  let tail (k : Nat) : UInt8 := UInt8.ofNat (0x80 + n / Nat.pow 64 k % 64)
  if n < 0x80 then [UInt8.ofNat n]
  else if n < 0x800 then [UInt8.ofNat (0xC0 + n / 64), tail 0]
  else if n < 0x10000 then [UInt8.ofNat (0xE0 + n / Nat.pow 64 2), tail 1, tail 0]
  else [UInt8.ofNat (0xF0 + n / Nat.pow 64 3), tail 2, tail 1, tail 0]

def encode (t : Text) : Bytes := t.flatMap encodeChar

def Reason.text : Reason → Text
  | .invalidStart => "invalid start byte"
  | .invalidContinuation => "invalid continuation byte"
  | .unexpectedEnd => "unexpected end of data"

def hexByte (b : UInt8) : Text := Text.padLeft 2 '0' (Nat.toDigits 16 b.toNat)

def DecodeError.message (e : DecodeError) : Text :=
  if e.size ≤ 1 then
    .concat ["'utf-8' codec can't decode byte 0x", hexByte e.lead, " in position ",
      .ofNat e.start, ": ", e.reason.text]
  else
    .concat ["'utf-8' codec can't decode bytes in position ", .ofNat e.start, "-",
      .ofNat (e.start + e.size - 1), ": ", e.reason.text]

end ParseRepair.Utf8
