import ParseRepair.Toml.Refusal
import ParseRepair.Value

namespace ParseRepair.Toml

abbrev Key := List Text

structure Name where
  text : Text
  dotted : Bool := false
  deriving DecidableEq, Repr

/-- How a table came about: by a header of its own, as the parent of others, or as the parent of an
array in another element of an array that has its name. A parent may be indented as the header is
that names it. -/
inductive Origin
  | own
  | parent (indented : Bool)
  | element
  deriving DecidableEq, Repr

namespace Origin

def isParent : Origin → Bool
  | own => false
  | _ => true

def isIndented : Origin → Bool
  | parent indented => indented
  | _ => false

end Origin

/-- What stands under a name: a value, a table, or an array of tables. Where an array has taken up a
table, the place of the table is left. -/
inductive Node
  | leaf (v : Value)
  | table (origin : Origin) (body : List (Name × Node))
  | tables (bodies : List (List (Name × Node)))
  | vacated

abbrev Part := Name × Node

/-- What a document says about a table, in order. A name may stand there more than once: the tables
under it are then parts of one table, written in different places. -/
abbrev Body := List Part

mutual

def Node.depth : Node → Nat
  | .leaf _ => 0
  | .table _ body => bodyDepth body + 1
  | .tables bodies => bodiesDepth bodies + 1
  | .vacated => 0

def bodyDepth : List (Name × Node) → Nat
  | [] => 0
  | (_, node) :: r => max node.depth (bodyDepth r)

def bodiesDepth : List (List (Name × Node)) → Nat
  | [] => 0
  | body :: r => max (bodyDepth body) (bodiesDepth r)

end

def Node.isVacated : Node → Bool
  | .vacated => true
  | _ => false

def Node.indent : Node → Node
  | .table (.parent _) body => .table (.parent true) body
  | node => node

namespace Body

def standsUnder (name : Text) (part : Part) : Bool := part.1.text == name && !part.2.isVacated

def under (name : Text) (b : Body) : Body := b.filter (standsUnder name)

def names (b : Body) : List Text := (b.map fun (n, _) => n.text).eraseDups

def contents (parts : Body) : Body :=
  parts.flatMap fun
    | (_, .table _ body) => body.filter fun (_, node) => !node.isVacated
    | _ => []

def isPlaceOfTable : Part → Bool
  | (_, .table _ _) | (_, .vacated) => true
  | _ => false

def lastTable? (b : Body) : Option Text := (b.reverse.find? isPlaceOfTable).map (·.1.text)

def replaceFirst (name : Text) (node : Node) : Body → Body
  | [] => []
  | part :: r =>
    if standsUnder name part then (part.1, node) :: r else part :: replaceFirst name node r

def replaceLast (name : Text) (node : Node) (b : Body) : Body :=
  (replaceFirst name node b.reverse).reverse

def vacate (name : Text) (b : Body) : Body :=
  b.map fun part => if standsUnder name part then (part.1, .vacated) else part

def gather (name : Name) (bodies : List (List (Name × Node))) : Body → Body
  | [] => []
  | part :: r =>
    if standsUnder name.text part then (name, .tables bodies) :: vacate name.text (part :: r)
    else part :: gather name bodies r

def indent (name : Text) (b : Body) : Except Refusal Body :=
  match b.under name with
  | [(_, node)] => .ok (b.replaceLast name node.indent)
  | _ => .error .scattered

def put (b : Body) (part : Part) : Except Refusal Body :=
  match (b.under part.1.text).getLast? with
  | none | some (_, .table _ _) => .ok (b ++ [part])
  | some _ => .error (.taken part.1.text)

def join (check : Text → Body → Except Refusal Unit) (parts : Body) : Except Refusal Body := do
  let b ← (contents parts).foldlM put []
  b.names.forM fun name => check name b
  pure b

def settle (check : Text → Body → Except Refusal Unit) (name : Text) (b : Body) :
    Except Refusal Unit :=
  if (b.under name).length < 2 then .ok () else (join check (b.under name)).map fun _ => ()

def levels (b : Body) : Nat := 2 * bodyDepth b + 2

variable (limits : Limits)

mutual

/-- Whether the parts under a name could have been written in one place, one behind the other.
`levels` bounds how deep the tables lie in each other, twice counted. -/
def check : Nat → Text → Body → Except Refusal Unit
  | 0, _, _ => .ok ()
  | levels + 1, name, b =>
    if (b.under name).length < 2 then .ok ()
    else do
      let joined ← (contents (b.under name)).foldlM (addWithin levels false) []
      joined.names.forM fun inner => check levels inner joined

/-- Adds a part where its name may stand already. Tables that are only parents grow into one if
nothing was written between them. Otherwise they stay apart, as a table with a header of its own
does, and a strict addition checks the parts at once. An element makes an array of what it meets. -/
def addWithin : Nat → Bool → Body → Part → Except Refusal Body
  | 0, _, b, part => put b part
  | levels + 1, strict, b, (name, node) => do
    settle (check levels) name.text b
    match (b.under name.text).getLast?, node with
    | none, _ => .ok (b ++ [(name, node)])
    | some (_, .table _ old), .table .element new => .ok (b.gather name [old, new])
    | some (_, .tables old), .table .element new =>
      .ok (b.replaceLast name.text (.tables (old ++ [new])))
    | some (old, .table origin inner), .table (.parent _) new =>
      if !origin.isParent then .ok (b ++ [(name, node)])
      else if name.dotted || old.dotted || b.lastTable? != some name.text then do
        let b := b ++ [(name, node)]
        if strict then check levels name.text b
        .ok b
      else if limits.growth ≤ bodyDepth inner then .error .tooDeep
      else do
        let grown ← new.foldlM (fun inner part => do
          let inner ← addWithin levels true inner part
          settle (check levels) part.1.text inner
          if origin.isIndented then inner.indent part.1.text else .ok inner) inner
        .ok (b.replaceLast name.text (.table origin grown))
    | some (old, .table origin _), .table .own _ =>
      if !origin.isParent then .error (.taken name.text)
      else if old.dotted then .error .redefined
      else .ok (b ++ [(name, node)])
    | some (_, .tables old), .tables new => .ok (b.replaceLast name.text (.tables (old ++ new)))
    | some _, _ => .error (.taken name.text)

end

def add (strict : Bool) (b : Body) (part : Part) : Except Refusal Body :=
  addWithin limits (levels (part :: b)) strict b part

def extend (strict : Bool) (b : Body) (part : Part) : Except Refusal Body := do
  let b ← b.add limits strict part
  settle (check limits b.levels) part.1.text b
  pure b

def checkAll (b : Body) : Except Refusal Unit := b.names.forM fun name => check limits b.levels name b

end Body

def partOf (name : Text) (value : Value) : List Text → Part
  | [] => (⟨name, false⟩, .leaf value)
  | next :: rest => (⟨name, true⟩, .table (.parent false) [partOf next value rest])

namespace Body

variable (limits : Limits)

def assign (b : Body) (key : Key) (value : Value) : Except Refusal Body :=
  match key with
  | [] => .ok b
  | name :: rest => b.add limits true (partOf name value rest)

mutual

def fields : Nat → Body → Except Refusal Value.Fields
  | 0, _ => .ok []
  | levels + 1, b => b.names.mapM fun name =>
    match b.under name with
    | [(_, node)] => (name, ·) <$> nodeValue levels node
    | parts => do
      let joined ← join (check limits levels) parts
      let fields ← fields levels joined
      .ok (name, .object fields)

def nodeValue : Nat → Node → Except Refusal Value
  | _, .leaf v => .ok v
  | _, .vacated => .ok .null
  | 0, _ => .ok .null
  | levels + 1, .table _ body => Value.object <$> fields levels body
  | levels + 1, .tables bodies => do
    let items ← bodies.mapM (fields levels)
    .ok (.list (items.map .object))

end

def value (b : Body) : Except Refusal Value := Value.object <$> fields limits (2 * b.levels) b

end Body

end ParseRepair.Toml
