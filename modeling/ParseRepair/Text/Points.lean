import ParseRepair.Text.Blank

namespace ParseRepair

/-- A code point that JSON can write: a character, or half of a surrogate pair that stands alone. -/
inductive Point
  | char (c : Char)
  | half (n : Fin 0x800)
  deriving DecidableEq, Repr

abbrev Points := List Point

def Text.points (t : Text) : Points := t.map .char

instance : Coe Text Points := ⟨Text.points⟩

def Point.ofCode (n : Nat) : Point :=
  if h : 0xD800 ≤ n ∧ n < 0xE000 then .half ⟨n - 0xD800, by omega⟩ else .char (Char.ofNat n)

end ParseRepair
