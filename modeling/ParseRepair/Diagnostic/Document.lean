import ParseRepair.Diagnostic.Encoding
import ParseRepair.Json.Printer
import ParseRepair.Json.Reader
import ParseRepair.Logging.Record
import ParseRepair.Text.Lines
import ParseRepair.Text.Utf8
import ParseRepair.Traced

namespace ParseRepair.Diagnostic

open Logging

inductive DocumentError
  | malformed (fault : Json.Fault) (place : Json.Place)
  | noContainer
  | notList
  | entry (e : FormatError)
  | integer (e : IntegerError)
  | tooDeep (c : Json.Container)
  | undecodable (e : Utf8.DecodeError)

def containerKeys : List Text := ["problems", "diagnostics"]

def DocumentError.message : DocumentError → Text
  | .malformed fault place =>
    .concat ["Invalid diagnostics JSON: ", fault.text, ": ", place.text]
  | .noContainer =>
    "Diagnostics object needs one of the keys: ".toList ++ .sepBy ", " containerKeys
  | .notList => "Diagnostics document must be a JSON array"
  | .entry e => e.message
  | .integer e => e.message
  | .tooDeep c => Json.tooDeepMessage c
  | .undecodable e => e.message

def container (v : Json.Value) : Except DocumentError Json.Value :=
  match v with
  | .object fields =>
    match containerKeys.findSome? (Value.lookup? ·.points fields) with
    | some v => .ok v
    | none => .error .noContainer
  | _ => .ok v

def listOfValue (v : Json.Value) : Except DocumentError (List Diagnostic) := do
  match ← container v with
  | .list items => (items.mapM ofValue).mapError .entry
  | _ => .error .notList

def readJson (depth : Nat) (t : Text) : Except DocumentError Json.Value :=
  match Json.read depth t with
  | .ok v => .ok v
  | .error (.malformed fault place) => .error (.malformed fault place)
  | .error (.integer e) => .error (.integer e)
  | .error (.tooDeep c) => .error (.tooDeep c)

def readList (depth : Nat) (t : Text) : Except DocumentError (List Diagnostic) := do
  listOfValue (← readJson depth t)

def loadedRecord (count : Nat) : Record :=
  ⟨.debug, .documents, .concat ["Loaded ", .ofNat count, " diagnostic(s)"]⟩

/-- Reads a document: a list of diagnostics, or an object that holds one. `depth` is what the caller's
stack leaves for containers in each other. -/
def parseDocument (depth : Nat) (t : Text) : Traced Record DocumentError (List Diagnostic) := do
  let ds ← Traced.ofExcept (readList depth t)
  Traced.emit (loadedRecord ds.length)
  pure ds

/-- Reads a document from the bytes of a file, whatever line breaks it has. That takes one level of the
caller's stack. -/
def parseFile (depth : Nat) (bytes : Utf8.Bytes) : Traced Record DocumentError (List Diagnostic) :=
  match Utf8.decode bytes with
  | .ok t => parseDocument (depth - 1) t.normalizeBreaks
  | .error e => .fail (.undecodable e)

def dump (ds : List Diagnostic) : Text := Json.print (.list (ds.map toValue))

end ParseRepair.Diagnostic
