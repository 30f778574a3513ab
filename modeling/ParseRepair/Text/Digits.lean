import ParseRepair.Text.Quoted

namespace ParseRepair

namespace Text

/-- The digit zero of each decimal script. The other nine digits follow it in order. -/
def decimalZeros : List Nat :=
  [0x30, 0x660, 0x6F0, 0x7C0, 0x966, 0x9E6, 0xA66, 0xAE6, 0xB66, 0xBE6, 0xC66, 0xCE6, 0xD66,
    0xDE6, 0xE50, 0xED0, 0xF20, 0x1040, 0x1090, 0x17E0, 0x1810, 0x1946, 0x19D0, 0x1A80, 0x1A90,
    0x1B50, 0x1BB0, 0x1C40, 0x1C50, 0xA620, 0xA8D0, 0xA900, 0xA9D0, 0xA9F0, 0xAA50, 0xABF0,
    0xFF10, 0x104A0, 0x10D30, 0x11066, 0x110F0, 0x11136, 0x111D0, 0x112F0, 0x11450, 0x114D0,
    0x11650, 0x116C0, 0x11730, 0x118E0, 0x11950, 0x11C50, 0x11D50, 0x11DA0, 0x16A60, 0x16AC0,
    0x16B50, 0x1D7CE, 0x1D7D8, 0x1D7E2, 0x1D7EC, 0x1D7F6, 0x1E140, 0x1E2F0, 0x1E950, 0x1FBF0]

def decimalDigit? (c : Char) : Option Nat :=
  decimalZeros.findSome? fun start =>
    if start ≤ c.toNat && c.toNat < start + 10 then some (c.toNat - start) else none

def isDecimal (c : Char) : Bool := (decimalDigit? c).isSome

def digitSignRanges : List (Nat × Nat) :=
  [(0xB2, 0xB3), (0xB9, 0xB9), (0x1369, 0x1371), (0x19DA, 0x19DA), (0x2070, 0x2070),
    (0x2074, 0x2079), (0x2080, 0x2089), (0x2460, 0x2468), (0x2474, 0x247C), (0x2488, 0x2490),
    (0x24EA, 0x24EA), (0x24F5, 0x24FD), (0x24FF, 0x24FF), (0x2776, 0x277E), (0x2780, 0x2788),
    (0x278A, 0x2792), (0x10A40, 0x10A43), (0x10E60, 0x10E68), (0x11052, 0x1105A),
    (0x1F100, 0x1F10A)]

def isDigitSign (c : Char) : Bool :=
  digitSignRanges.any fun (first, last) => first ≤ c.toNat && c.toNat ≤ last

def ofDigits (base : Nat) (digits : List Nat) : Nat := digits.foldl (base * · + ·) 0

def isAsciiDigit (c : Char) : Bool := '0' ≤ c && c ≤ '9'

def hexDigit? (c : Char) : Option Nat :=
  if isAsciiDigit c then some (c.toNat - '0'.toNat)
  else if 'a' ≤ c && c ≤ 'f' then some (c.toNat - 'a'.toNat + 10)
  else if 'A' ≤ c && c ≤ 'F' then some (c.toNat - 'A'.toNat + 10)
  else none

end Text

def Points.digits : Points → Text × Points
  | .char c :: r => if Text.isAsciiDigit c then (c :: (digits r).1, (digits r).2) else ([], .char c :: r)
  | t => ([], t)

def digitLimit : Nat := 4300

inductive IntegerError
  | tooManyDigits (count : Nat)
  | invalid (text : Text)
  deriving DecidableEq, Repr

def IntegerError.message : IntegerError → Text
  | .tooManyDigits count =>
    .concat ["Exceeds the limit (", .ofNat digitLimit, " digits) for integer string conversion: ",
      "value has ", .ofNat count, " digits; ",
      "use sys.set_int_max_str_digits() to increase the limit"]
  | .invalid t =>
    "invalid literal for int() with base 10: ".toList ++ (Text.quoted t).take 200

/-- The number that decimal digits denote, of whatever scripts. Too long a run of digits counts
before anything that follows it. -/
def Text.toNat (t : Text) : Except IntegerError Nat :=
  let run := t.takeWhile isDecimal
  if digitLimit < run.length then .error (.tooManyDigits run.length)
  else if run.isEmpty || run.length < t.length then .error (.invalid t)
  else .ok (ofDigits 10 (run.filterMap decimalDigit?))

end ParseRepair
