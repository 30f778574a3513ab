import ParseRepair.Decimal.Binary64

namespace ParseRepair.Binary64

def pointPosition (numerator denominator : Nat) : Int :=
  let guess : Int := (decimalLength numerator : Int) - decimalLength denominator
  let (n, d) := scale 10 (-guess) numerator denominator
  if n < d then guess else guess + 1

/-- Of the two decimals of `count` digits beside the number, the nearer of those that read back as
the number. Of two that are equally near it is the even one. -/
def neighbour? (mantissa : Nat) (exponent : Int) (count : Nat) : Option Decimal :=
  let (numerator, denominator) := scale 2 exponent mantissa 1
  let last := pointPosition numerator denominator - count
  let (n, d) := scale 10 (-last) numerator denominator
  let low := n / d
  let readsBack (k : Nat) := ofDecimal false ⟨k, last⟩ == .finite false mantissa exponent
  let nearest := roundHalfEven n d
  let other := if nearest = low then low + 1 else low
  ([nearest, other].find? readsBack).map (⟨·, last⟩)

def trimZeros : Nat → Decimal → Decimal
  | 0, d => d
  | n + 1, d => if d.mantissa % 10 = 0 then trimZeros n ⟨d.mantissa / 10, d.exponent + 1⟩ else d

def shortest (mantissa : Nat) (exponent : Int) : Decimal :=
  if mantissa = 0 then ⟨0, 0⟩
  else trimZeros 17 (((List.range' 1 17).findSome? (neighbour? mantissa exponent)).getD ⟨0, 0⟩)

def isPositional (point : Int) : Bool := -4 < point && point ≤ 16

def exponentText (e : Int) : Text :=
  (if e < 0 then '-' else '+') :: Text.padLeft 2 '0' (Text.ofNat e.natAbs)

def decimalText (d : Decimal) : Text :=
  let digits := Text.ofNat d.mantissa
  let point := (digits.length : Int) + d.exponent
  if d.mantissa = 0 then "0.0"
  else if !isPositional point then
    match digits with
    | [only] => only :: 'e' :: exponentText (point - 1)
    | first :: rest => first :: '.' :: rest ++ 'e' :: exponentText (point - 1)
    | [] => []
  else if point ≤ 0 then "0.".toList ++ List.replicate (-point).toNat '0' ++ digits
  else if (digits.length : Int) ≤ point then
    digits ++ List.replicate (point.toNat - digits.length) '0' ++ ".0".toList
  else digits.take point.toNat ++ '.' :: digits.drop point.toNat

def text : Binary64 → Text
  | .nan => "nan"
  | .infinite negative => if negative then "-inf" else "inf"
  | .finite negative mantissa exponent =>
    let t := decimalText (shortest mantissa exponent)
    if negative then '-' :: t else t

end ParseRepair.Binary64
