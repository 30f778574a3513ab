import ParseRepair.Text.Digits
import ParseRepair.Text.Search

namespace ParseRepair.Toml

def twoDigits? : Text → Option (Nat × Text)
  | a :: b :: r =>
    if Text.isAsciiDigit a && Text.isAsciiDigit b then
      some ((a.toNat - '0'.toNat) * 10 + (b.toNat - '0'.toNat), r)
    else none
  | _ => none

def expect? (c : Char) : Text → Option Text
  | d :: r => if d = c then some r else none
  | [] => none

structure Date where
  year : Nat
  month : Nat
  day : Nat
  deriving DecidableEq, Repr

structure Clock where
  hour : Nat
  minute : Nat
  second : Nat
  micros : Nat
  deriving DecidableEq, Repr

abbrev Offset := Int

inductive Moment
  | date (d : Date)
  | time (t : Clock)
  | both (d : Date) (t : Clock) (offset : Option Offset)
  deriving DecidableEq, Repr

def Moment.date? : Moment → Option Date
  | .date d | .both d _ _ => some d
  | .time _ => none

def Moment.clock? : Moment → Option Clock
  | .time t | .both _ t _ => some t
  | .date _ => none

def isLeap (year : Nat) : Bool := year % 4 == 0 && (year % 100 != 0 || year % 400 == 0)

def daysIn (year month : Nat) : Nat :=
  if month = 2 then if isLeap year then 29 else 28
  else if month = 4 ∨ month = 6 ∨ month = 9 ∨ month = 11 then 30
  else 31

def Date.valid (d : Date) : Bool :=
  1 ≤ d.year && d.year ≤ 9999 && 1 ≤ d.month && d.month ≤ 12 && 1 ≤ d.day &&
    d.day ≤ daysIn d.year d.month

def Clock.valid (t : Clock) : Bool := t.hour ≤ 23 && t.minute ≤ 59 && t.second ≤ 59

def Moment.valid (m : Moment) : Bool := m.date?.all Date.valid && m.clock?.all Clock.valid

def Date.writable (d : Date) : Bool :=
  1 ≤ d.month && d.month ≤ 12 && 1 ≤ d.day && d.day ≤ 31

def Clock.writable (t : Clock) : Bool := t.hour ≤ 23 && t.minute ≤ 59 && t.second ≤ 60

def date? (t : Text) : Option (Date × Text) := do
  let (year, r) := t.span Text.isAsciiDigit
  if year.isEmpty || digitLimit < year.length then none
  let (month, r) ← twoDigits? (← expect? '-' r)
  let (day, r) ← twoDigits? (← expect? '-' r)
  let date : Date := ⟨Text.ofDigits 10 (year.filterMap Text.decimalDigit?), month, day⟩
  if date.writable then some (date, r) else none

def micros (ds : Text) : Nat :=
  Text.ofDigits 10 ((ds.take 6 ++ List.replicate (6 - ds.length) '0').filterMap Text.decimalDigit?)

def places? (t : Text) : Option (Nat × Text) :=
  match t with
  | '.' :: r =>
    let (ds, r) := r.span Text.isAsciiDigit
    if ds.isEmpty then none else some (micros ds, r)
  | _ => some (0, t)

def clock? (t : Text) : Option (Clock × Text) := do
  let (hour, r) ← twoDigits? t
  let (minute, r) ← twoDigits? (← expect? ':' r)
  let (second, r) ← twoDigits? (← expect? ':' r)
  let (micros, r) ← places? r
  let clock : Clock := ⟨hour, minute, second, micros⟩
  if clock.writable then some (clock, r) else none

/-- The rest of a moment after its clock: nothing, `Z`, or a sign with hours and minutes. A bar
stands for a plus. -/
def offset? (t : Text) : Option (Option Offset) :=
  match t with
  | [] => some none
  | [c] => if c = 'Z' ∨ c = 'z' then some (some 0) else none
  | c :: r => do
    if c != '+' && c != '-' && c != '|' then none
    let (hours, r) ← twoDigits? r
    let (minutes, r) ← twoDigits? (← expect? ':' r)
    if 23 < hours || 59 < minutes || !r.isEmpty then none
    let ahead : Int := hours * 60 + minutes
    some (some (if c = '-' then -ahead else ahead))

def isSeparator (c : Char) : Bool := c == 'T' || c == 't' || c == ' '

def moment? (t : Text) : Option Moment :=
  match date? t with
  | some (date, []) => some (.date date)
  | some (date, c :: r) => do
    if !isSeparator c then none
    let (clock, r) ← clock? r
    some (.both date clock (← offset? r))
  | none => do
    let (clock, r) ← clock? t
    if r.isEmpty then some (.time clock) else none

def number2 (n : Nat) : Text := Text.padLeft 2 '0' (.ofNat n)

def Date.text (d : Date) : Text :=
  .concat [Text.padLeft 4 '0' (.ofNat d.year), "-", number2 d.month, "-", number2 d.day]

def Clock.text (t : Clock) : Text :=
  .concat [number2 t.hour, ":", number2 t.minute, ":", number2 t.second,
    if t.micros = 0 then [] else '.' :: Text.padLeft 6 '0' (.ofNat t.micros)]

def offsetText (o : Offset) : Text :=
  (if o < 0 then '-' else '+') :: Text.concat [number2 (o.natAbs / 60), ":", number2 (o.natAbs % 60)]

def Moment.text : Moment → Text
  | .date d => d.text
  | .time t => t.text
  | .both d t offset => .concat [d.text, "T", t.text, (offset.map offsetText).getD []]

/-- Whether a text that begins with a digit looks like a date or a time rather than a number: it has
a hyphen after digits, or a colon after two of them. -/
def looksLikeMoment (t : Text) : Bool :=
  match t.dropWhile Text.isDecimal with
  | '-' :: _ => true
  | ':' :: _ => true
  | _ => false

end ParseRepair.Toml
