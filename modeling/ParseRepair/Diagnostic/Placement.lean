import ParseRepair.Diagnostic
import ParseRepair.Diagnostic.LineMap
import ParseRepair.Logging.Record
import ParseRepair.Text.Digits
import ParseRepair.Text.Search
import ParseRepair.Traced

namespace ParseRepair.Diagnostic

open Logging

def locationHint : Text := "at line "

def locationHere? (t : Points) : Option (Text × Text) := do
  let (line, r) := Points.digits (← Text.stripStart? "line " t)
  let (column, _) := Points.digits (← Text.stripStart? ", column " r)
  if line.isEmpty || column.isEmpty then none else some (line, column)

def location? : Points → Option (Text × Text)
  | [] => none
  | c :: r => (locationHere? (c :: r)).or (location? r)

def locate (d : Diagnostic) : Except IntegerError (Option LexicalFailure) :=
  if d.span.isSome || !Text.contains d.message locationHint then .ok none
  else match location? d.message with
    | none => .ok none
    | some (line, column) => do
      let line ← Text.toNat line
      let column ← Text.toNat column
      .ok (some ⟨d, line, column⟩)

inductive Placement
  | structural (line : Int)
  | lexical (failure : LexicalFailure)
  | nowhere
  deriving DecidableEq, Repr

def placement (d : Diagnostic) : Except IntegerError Placement :=
  match d.span with
  | some span => .ok (.structural span.start.line)
  | none => do
    match ← locate d with
    | some failure => .ok (.lexical failure)
    | none => .ok .nowhere

end ParseRepair.Diagnostic

namespace ParseRepair

/-- The diagnostics of one parse by line: those with a span by the line on which it begins, the
lexical failures by the line that the message names. -/
structure Classified where
  problems : LineMap Diagnostic := []
  lexical : LineMap LexicalFailure := []
  deriving DecidableEq, Repr

namespace Classified

open Diagnostic Logging

def add (c : Classified) (d : Diagnostic) : Placement → Classified
  | .structural line => { c with problems := c.problems.add line d }
  | .lexical failure => { c with lexical := c.lexical.add failure.line failure }
  | .nowhere => c

def droppedRecord (d : Diagnostic) : Record :=
  ⟨.trace, .placement, "Dropping unlocalizable diagnostic: ".toList ++ d.message.quoted⟩

def placementNotes (d : Diagnostic) : Placement → List Record
  | .nowhere => [droppedRecord d]
  | _ => []

def addAll (c : Classified) : List Diagnostic → Traced Record IntegerError Classified
  | [] => pure c
  | d :: r => do
    let p ← Traced.ofExcept d.placement
    Traced.emitAll (placementNotes d p)
    addAll (c.add d p) r

def summary (c : Classified) : Record :=
  ⟨.debug, .placement, .concat ["Classified diagnostics: ", .ofNat c.problems.length,
    " structural line(s), ", .ofNat c.lexical.length, " lexical line(s)"]⟩

def ofDiagnostics (ds : List Diagnostic) : Traced Record IntegerError Classified := do
  let c ← addAll {} ds
  Traced.emit c.summary
  pure c

end Classified

end ParseRepair
