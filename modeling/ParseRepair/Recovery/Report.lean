import ParseRepair.Recovery.Strategy
import ParseRepair.Value

namespace ParseRepair.Recovery

structure Patch where
  line : Int
  strategy : Text
  decision : Decision
  before : Text
  after : Text
  deriving DecidableEq, Repr

namespace Patch

def lengthDelta (p : Patch) : Int := (p.after.length : Int) - p.before.length

def preservesLength (p : Patch) : Bool := p.lengthDelta == 0

def toValue (p : Patch) : Value :=
  .object [("line", .int p.line), ("strategy", .text p.strategy),
    ("decision", .text p.decision.text), ("original", .text p.before),
    ("patched", .text p.after), ("length_delta", .int p.lengthDelta)]

end Patch

structure Report where
  patches : List Patch := []
  deriving DecidableEq, Repr

namespace Report

def add (r : Report) (p : Patch) : Report := ⟨r.patches ++ [p]⟩

def size (r : Report) : Nat := r.patches.length

def changed (r : Report) : Bool := !r.patches.isEmpty

def driftingLines (r : Report) : List Int :=
  (r.patches.filter (!·.preservesLength)).map Patch.line

def countIn (name : Text) : List (Text × Nat) → List (Text × Nat)
  | [] => [(name, 1)]
  | (n, k) :: r => if n = name then (n, k + 1) :: r else (n, k) :: countIn name r

def byStrategy (r : Report) : List (Text × Nat) :=
  r.patches.foldl (fun counts p => countIn p.strategy counts) []

def toValue (r : Report) : Value :=
  .object [("changed", .bool r.changed), ("patches", .list (r.patches.map Patch.toValue)),
    ("drifting_lines", .list (r.driftingLines.map .int))]

end Report

end ParseRepair.Recovery
