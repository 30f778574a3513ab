import ParseRepair.Config.Settings
import ParseRepair.Logging.Record
import ParseRepair.Traced

namespace ParseRepair.Config

open Logging

def textsOf : List Value → Option (List Text)
  | [] => some []
  | .text t :: r => (t :: ·) <$> textsOf r
  | _ => none

inductive Misuse
  | recoveryNotTable
  | strategiesNotNames
  | padNotBoolean
  deriving DecidableEq, Repr

def Misuse.text : Misuse → Text
  | .recoveryNotTable => "[recovery] must be a table"
  | .strategiesNotNames => "'strategies' must be a list of strings"
  | .padNotBoolean => "'pad-shortened-lines' must be a boolean"

/-- What one key sets. A value of the wrong kind sets nothing and is a misuse. -/
def setting {α : Type} (key : Text) (read : Value → Option α) (misuse : Misuse)
    (fields : Value.Fields) : Option α × List Misuse :=
  match Value.lookup? key fields with
  | none | some .null => (none, [])
  | some v =>
    match read v with
    | some a => (some a, [])
    | none => (none, [misuse])

def strategiesOf : Value → Option (List Text)
  | .list items => textsOf items
  | _ => none

def padOf : Value → Option Bool
  | .bool b => some b
  | _ => none

def readTable (table : Value.Fields) : (Option (List Text) × Option Bool) × List Misuse :=
  match (Value.lookup? "recovery" table).getD (.object []) with
  | .object recovery =>
    let strategies := setting "strategies" strategiesOf .strategiesNotNames recovery
    let pad := setting "pad-shortened-lines" padOf .padNotBoolean recovery
    ((strategies.1, pad.1), strategies.2 ++ pad.2)
  | _ => ((none, none), [.recoveryNotTable])

def Layer.ofTable (source : Text) (table : Value.Fields) : Layer :=
  let ((strategies, pad), misuses) := readTable table
  { strategies, pad, warnings := misuses.map fun m => .concat [source, ": ", m.text] }

def Layer.warningRecords (l : Layer) : List Record := l.warnings.map (⟨.warning, .settings, ·⟩)

end ParseRepair.Config
