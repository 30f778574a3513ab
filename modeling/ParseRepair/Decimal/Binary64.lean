import ParseRepair.Text.Blank

namespace ParseRepair

structure Decimal where
  mantissa : Nat
  exponent : Int
  deriving DecidableEq, Repr

/-- A binary floating-point number of 64 bits. The finite ones are `mantissa * 2 ^ exponent`, where
the mantissa has at most 53 bits, and 53 of them unless the exponent is the least one. -/
inductive Binary64
  | finite (negative : Bool) (mantissa : Nat) (exponent : Int)
  | infinite (negative : Bool)
  | nan
  deriving DecidableEq, Repr

namespace Binary64

def leastExponent : Int := -1074

def greatestExponent : Int := 971

def decimalLength (n : Nat) : Nat := (Nat.toDigits 10 n).length

def scale (base : Nat) (exponent : Int) (numerator denominator : Nat) : Nat × Nat :=
  if 0 ≤ exponent then (numerator * base.pow exponent.toNat, denominator)
  else (numerator, denominator * base.pow (-exponent).toNat)

def roundHalfEven (numerator denominator : Nat) : Nat :=
  let q := numerator / denominator
  let twice := 2 * (numerator % denominator)
  if denominator < twice || (twice = denominator && q % 2 = 1) then q + 1 else q

def exponentFor (numerator denominator : Nat) : Int :=
  let guess : Int := (Nat.log2 numerator : Int) - Nat.log2 denominator - 52
  let (n, d) := scale 2 (-guess) numerator denominator
  max leastExponent (if n < d * Nat.pow 2 52 then guess - 1 else guess)

def ofQuotient (negative : Bool) (numerator denominator : Nat) : Binary64 :=
  let exponent := exponentFor numerator denominator
  let (n, d) := scale 2 (-exponent) numerator denominator
  let mantissa := roundHalfEven n d
  let (mantissa, exponent) :=
    if mantissa = Nat.pow 2 53 then (Nat.pow 2 52, exponent + 1) else (mantissa, exponent)
  if greatestExponent < exponent then .infinite negative else .finite negative mantissa exponent

/-- The nearest number to a decimal. Decimals far outside the range are told by their length, so
that no huge power is computed. -/
def ofDecimal (negative : Bool) (d : Decimal) : Binary64 :=
  let size := (decimalLength d.mantissa : Int) + d.exponent
  if d.mantissa = 0 || size < -330 then .finite negative 0 leastExponent
  else if 330 < size then .infinite negative
  else
    let (n, m) := scale 10 d.exponent d.mantissa 1
    ofQuotient negative n m

end Binary64

end ParseRepair
