import ParseRepair.Value
import ParseRepair.Decimal.Shortest
import ParseRepair.Text.Quoted

namespace ParseRepair.Value

mutual

def spell : Json.Value → Text
  | .null => "None"
  | .bool b => if b then "True" else "False"
  | .int n => .ofInt n
  | .real x => x.text
  | .text t => Points.quoted t
  | .moment iso => iso
  | .list items => '[' :: Text.sepBy ", " (spellItems items) ++ [']']
  | .object fields => '{' :: Text.sepBy ", " (spellFields fields) ++ ['}']

def spellItems : List Json.Value → List Text
  | [] => []
  | v :: r => spell v :: spellItems r

def spellFields : List (Points × Json.Value) → List Text
  | [] => []
  | (k, v) :: r => (k.quoted ++ ':' :: ' ' :: spell v) :: spellFields r

end

def kind : Value → Text
  | .null => "NoneType"
  | .bool _ => "bool"
  | .int _ => "int"
  | .real _ => "float"
  | .text _ | .moment _ => "str"
  | .list _ => "list"
  | .object _ => "dict"

end ParseRepair.Value
