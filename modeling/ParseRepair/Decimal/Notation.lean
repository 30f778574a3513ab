import ParseRepair.Decimal.Binary64
import ParseRepair.Text.Digits

namespace ParseRepair.Decimal

def digits (t : Text) : Text × Text := t.span Text.isAsciiDigit

def valueOf (ds : Text) : Nat := Text.ofDigits 10 (ds.filterMap Text.decimalDigit?)

def signed (t : Text) : Bool × Text :=
  match t with
  | '-' :: r => (true, r)
  | _ => (false, t)

def anySign (t : Text) : Bool × Text :=
  match t with
  | '+' :: r => (false, r)
  | _ => signed t

def fraction (t : Text) : Text × Text :=
  match t with
  | '.' :: r => if (digits r).1.isEmpty then ([], t) else digits r
  | _ => ([], t)

def power (t : Text) : Option Int × Text :=
  match t with
  | c :: r =>
    if c == 'e' || c == 'E' then
      let (negative, r) := anySign r
      let (ds, rest) := digits r
      if ds.isEmpty then (none, t)
      else (some (if negative then -(valueOf ds) else valueOf ds), rest)
    else (none, t)
  | [] => (none, [])

def ofParts (whole places : Text) (power : Option Int) : Decimal :=
  ⟨valueOf (whole ++ places), power.getD 0 - places.length⟩

end ParseRepair.Decimal
