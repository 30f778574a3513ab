import ParseRepair.Text.Quoted
import ParseRepair.Decimal.Shortest
import ParseRepair.Value

namespace ParseRepair.Json

def unicodeEscape (n : Nat) : Text := '\\' :: 'u' :: Text.hex 4 n

def escapeChar (c : Char) : Text :=
  let n := c.toNat
  if c == '"' then "\\\""
  else if c == '\\' then "\\\\"
  else if c == '\n' then "\\n"
  else if c == '\r' then "\\r"
  else if c == '\t' then "\\t"
  else if n == 0x8 then "\\b"
  else if n == 0xC then "\\f"
  else if 0x20 ≤ n && n ≤ 0x7E then [c]
  else if n < 0x10000 then unicodeEscape n
  else
    let m := n - 0x10000
    unicodeEscape (0xD800 + m / 0x400) ++ unicodeEscape (0xDC00 + m % 0x400)

def escape : Point → Text
  | .char c => escapeChar c
  | .half n => unicodeEscape (0xD800 + n)

def printText (t : Points) : Text := '"' :: t.flatMap escape ++ ['"']

def printReal : Binary64 → Text
  | .nan => "NaN"
  | .infinite negative => if negative then "-Infinity" else "Infinity"
  | x => x.text

structure Layout where
  before : Nat → Text
  closing : Nat → Text
  separator : Text
  colon : Text

def lineAt (depth : Nat) : Text := '\n' :: List.replicate (2 * depth) ' '

def Layout.indented : Layout := ⟨fun d => lineAt (d + 1), lineAt, [','], [':', ' ']⟩

def Layout.compact : Layout := ⟨fun _ => [], fun _ => [], [','], [':']⟩

def enclose (l : Layout) (depth : Nat) (opening closing : Char) (members : List Text) : Text :=
  if members.isEmpty then [opening, closing]
  else opening :: Text.sepBy l.separator (members.map (l.before depth ++ ·)) ++
    l.closing depth ++ [closing]

mutual

def printAt (l : Layout) (depth : Nat) : Value → Text
  | .null => "null"
  | .bool b => if b then "true" else "false"
  | .int n => .ofInt n
  | .real x => printReal x
  | .text t => printText t
  | .moment iso => printText iso.points
  | .list items => enclose l depth '[' ']' (printItems l (depth + 1) items)
  | .object fields => enclose l depth '{' '}' (printFields l (depth + 1) fields)

def printItems (l : Layout) (depth : Nat) : List Value → List Text
  | [] => []
  | v :: r => printAt l depth v :: printItems l depth r

def printFields (l : Layout) (depth : Nat) : List (Points × Value) → List Text
  | [] => []
  | (k, v) :: r => (printText k ++ l.colon ++ printAt l depth v) :: printFields l depth r

end

def print (v : Value) : Text := printAt .indented 0 v

def printCompact (v : Value) : Text := printAt .compact 0 v

end ParseRepair.Json
