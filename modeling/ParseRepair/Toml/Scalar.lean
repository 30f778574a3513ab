import ParseRepair.Decimal.Notation
import ParseRepair.Text.Search
import ParseRepair.Value

namespace ParseRepair

/-- Digits of a base up to sixteen, in any script, where single low lines may stand between two of
them. -/
def Text.groupedDigits? (base : Nat) : Text → Option (List Nat)
  | [] => none
  | [c] => (digit c).map ([·])
  | c :: '_' :: r => do
    let d ← digit c
    (d :: ·) <$> groupedDigits? base r
  | c :: r => do
    let d ← digit c
    (d :: ·) <$> groupedDigits? base r
where
  digit (c : Char) : Option Nat :=
    ((decimalDigit? c).or (hexDigit? c)).filter (· < base)

def Text.baseMark? : Nat → Option Char
  | 2 => some 'b'
  | 8 => some 'o'
  | 16 => some 'x'
  | _ => none

def Text.withoutBase (base : Nat) (t : Text) : Text :=
  match t, baseMark? base with
  | '0' :: c :: r, some mark => if c.toLower == mark then (stripStart? "_" r).getD r else t
  | _, _ => t

/-- The blanks that may stand around a number: all but the four separators among the controls. -/
def Text.isNumberBlank (c : Char) : Bool := isBlank c && !(0x1C ≤ c.toNat && c.toNat ≤ 0x1F)

def Text.trimNumber (t : Text) : Text :=
  ((t.dropWhile isNumberBlank).reverse.dropWhile isNumberBlank).reverse

def Text.integer? (base : Nat) (t : Text) : Option Int := do
  let (negative, r) := Decimal.anySign t.trimNumber
  let ds ← groupedDigits? base (withoutBase base r)
  let n := ofDigits base ds
  if base == 10 && digitLimit < ds.length then none else some (if negative then -n else n)

namespace Toml

def plainDigits (t : Text) : Text :=
  t.map fun c => ((Text.decimalDigit? c).map fun d => Char.ofNat ('0'.toNat + d)).getD c

def fraction (t : Text) : Text × Text :=
  match t with
  | '.' :: r => Decimal.digits r
  | _ => ([], t)

def real? (t : Text) : Option Binary64 :=
  let (negative, r) := Decimal.anySign (Text.trimNumber (plainDigits t))
  if r = "inf".toList ∨ r = "infinity".toList then some (.infinite negative)
  else if r = "nan".toList then some .nan
  else
    let (whole, r) := Decimal.digits r
    let (places, r) := fraction r
    let (power, r) := Decimal.power r
    if whole.isEmpty || !r.isEmpty then none
    else some (.ofDecimal negative (.ofParts whole places power))

def lower (t : Text) : Text := t.map Char.toLower

def dropGrouping (isDigit : Char → Bool) : Text → Text
  | a :: '_' :: b :: r =>
    if isDigit a && isDigit b then a :: dropGrouping isDigit (b :: r)
    else a :: '_' :: dropGrouping isDigit (b :: r)
  | c :: r => c :: dropGrouping isDigit r
  | [] => []

def baseOf (t : Text) : Nat :=
  if Text.startsWith "0b" t then 2
  else if Text.startsWith "0o" t then 8
  else if Text.startsWith "0x" t then 16
  else 10

def isBaseDigit (base : Nat) (c : Char) : Bool :=
  match Text.hexDigit? c with
  | some d => d < base
  | none => false

def zeroStarts : List Text := ["0.", "0o", "0x", "0b", "0e"]

def startsWrong (signed : Bool) (t : Text) : Bool :=
  1 < t.length &&
    ((Text.startsWith "0" t && !(zeroStarts.any fun p => Text.startsWith p t)) ||
      (signed && Text.startsWith "." t))

def endsWrong (t : Text) : Bool :=
  Text.endsWith "." t ||
    (!Text.startsWith "0x" t && Text.endsWith "." (t.takeWhile (· != 'e')))

/-- An integer or a real. One that has too many digits for an integer is read as a real. -/
def number? (raw : Text) : Option Value :=
  let (sign, t) := match raw with
    | '+' :: r => (['+'], r)
    | '-' :: r => (['-'], r)
    | _ => ([], raw)
  let base := baseOf t
  let clean := lower (dropGrouping (isBaseDigit base) t)
  if startsWrong (!sign.isEmpty) t || (base != 10 && !sign.isEmpty) || Text.contains clean "_" ||
      endsWrong clean then none
  else (Value.int <$> Text.integer? base (sign ++ clean)).or (Value.real <$> real? (sign ++ clean))

end Toml

end ParseRepair
