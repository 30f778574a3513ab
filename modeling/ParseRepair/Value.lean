import ParseRepair.Decimal.Binary64
import ParseRepair.Text.Points

namespace ParseRepair

/-- What a document of problems or of settings holds. `α` is what its texts are made of: characters in one of
settings, points in one of problems. A moment is a date, a time or both. -/
inductive Value (α : Type := Char)
  | null
  | bool (b : Bool)
  | int (n : Int)
  | real (x : Binary64)
  | text (t : List α)
  | moment (iso : Text)
  | list (items : List (Value α))
  | object (fields : List (List α × Value α))

namespace Value

abbrev Fields (α : Type := Char) := List (List α × Value α)

section Fields

variable {α : Type} [DecidableEq α]

def lookup? (key : List α) (fields : Fields α) : Option (Value α) :=
  (fields.find? fun (k, _) => k == key).map Prod.snd

def put (key : List α) (value : Value α) : Fields α → Fields α
  | [] => [(key, value)]
  | (k, v) :: r => if k == key then (k, value) :: r else (k, v) :: put key value r

/-- The members of an object as they were written. A repeated key keeps its first place and its last
value. -/
def ofMembers (members : Fields α) : Fields α :=
  members.foldl (fun fields (k, v) => put k v fields) []

def get? (key : List α) : Value α → Option (Value α)
  | .object fields => lookup? key fields
  | _ => none

end Fields

def isNull {α : Type} : Value α → Bool
  | .null => true
  | _ => false

section Map

variable {α β : Type} (f : α → β)

mutual

def map : Value α → Value β
  | .null => .null
  | .bool b => .bool b
  | .int n => .int n
  | .real x => .real x
  | .text t => .text (t.map f)
  | .moment iso => .moment iso
  | .list items => .list (mapItems items)
  | .object fields => .object (mapFields fields)

def mapItems : List (Value α) → List (Value β)
  | [] => []
  | v :: r => map v :: mapItems r

def mapFields : List (List α × Value α) → List (List β × Value β)
  | [] => []
  | (k, v) :: r => (k.map f, map v) :: mapFields r

end

end Map

end Value

abbrev Json.Value := ParseRepair.Value Point

abbrev Json.Value.Fields := ParseRepair.Value.Fields Point

def Value.points (v : Value) : Json.Value := v.map .char

end ParseRepair
