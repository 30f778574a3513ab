import ParseRepair.Text.Points
import ParseRepair.Text.Printable

namespace ParseRepair

namespace Text

def hex (width n : Nat) : Text := padLeft width '0' (Nat.toDigits 16 n)

def escapeUnprintable (c : Char) : Text :=
  let n := c.toNat
  if n ≤ 0xFF then '\\' :: 'x' :: hex 2 n
  else if n ≤ 0xFFFF then '\\' :: 'u' :: hex 4 n
  else '\\' :: 'U' :: hex 8 n

def quoteChar (quote c : Char) : Text :=
  if c == quote || c == '\\' then ['\\', c]
  else if c == '\n' then ['\\', 'n']
  else if c == '\r' then ['\\', 'r']
  else if c == '\t' then ['\\', 't']
  else if isPrintable c then [c]
  else escapeUnprintable c

end Text

def Point.quote (quote : Char) : Point → Text
  | .char c => Text.quoteChar quote c
  | .half n => '\\' :: 'u' :: Text.hex 4 (0xD800 + n)

namespace Points

def quoteFor (t : Points) : Char := if .char '\'' ∈ t ∧ .char '"' ∉ t then '"' else '\''

/-- Between quotes, on one line and of printable characters only. -/
def quoted (t : Points) : Text :=
  let quote := quoteFor t
  quote :: t.flatMap (Point.quote quote) ++ [quote]

end Points

def Text.quoted (t : Text) : Text := t.points.quoted

end ParseRepair
