import ParseRepair.Config.Table
import ParseRepair.Files.Tree
import ParseRepair.Text.Lines
import ParseRepair.Toml.Document

namespace ParseRepair.Config

open Files Logging

inductive LoadError
  | unreadable (path : Path) (e : SystemError)
  | invalid (path : Path)
  | undecodable (e : Utf8.DecodeError)
  | system (e : SystemError)
  | nullByte
  | loop (path : Text)
  | refused (r : Toml.Refusal)
  deriving DecidableEq, Repr

def LoadError.message : LoadError → Text
  | .unreadable path e => .concat ["Cannot read config file ", path.text, ": ", e.message]
  | .invalid path => "Invalid TOML in ".toList ++ path.text
  | .undecodable e => e.message
  | .system e => e.message
  | .nullByte => AccessError.nullByte.message
  | .loop path => loopMessage path
  | .refused r => r.message

def LoadError.ofAccess (path : Path) : AccessError → LoadError
  | .nullByte => .nullByte
  | .system e => .unreadable path e

def LoadError.ofResolve : ResolveError → LoadError
  | .nullByte => .nullByte
  | .loop path => .loop path

def LoadError.ofFault (path : Path) : Toml.Fault → LoadError
  | .malformed => .invalid path
  | .refused r => .refused r

variable (limits : Toml.Limits)

def loadDocument (tree : Tree) (path : Path) : Except LoadError Value := do
  let bytes ← (tree.read path).mapError (.ofAccess path)
  let t ← (Utf8.decode bytes).mapError .undecodable
  (Toml.read limits t.normalizeBreaks).mapError (.ofFault path)

def sharedName : Text := "pyproject.toml"

def ownName : Text := "sourcemend.toml"

def tableIn? (path : Path) (document : Value) : Option Value :=
  if path.name != sharedName then some document
  else
    let tool := (Value.get? "tool" document).getD (.object [])
    match Value.get? "sourcemend" tool with
    | some (.object fields) => some (.object fields)
    | _ => none

def noTableRecord (path : Path) : Record :=
  ⟨.debug, .discovery, "No [tool.sourcemend] table in ".toList ++ path.text⟩

def extractTable {ε : Type} (path : Path) (document : Value) : Traced Record ε (Option Value) :=
  match tableIn? path document with
  | some v => pure (some v)
  | none => do
    Traced.emit (noTableRecord path)
    pure none

def fieldsOf : Value → Value.Fields
  | .object fields => fields
  | _ => []

def loadTable (tree : Tree) (path : Path) : Traced Record LoadError (Option Value.Fields) := do
  let document ← Traced.ofExcept (loadDocument limits tree path)
  return (← extractTable path document).map fieldsOf

def loadingRecord (path : Path) : Record :=
  ⟨.debug, .settings, "Loading config file: ".toList ++ path.text⟩

def loadLayer (tree : Tree) (path : Path) : Traced Record LoadError (Option Layer) := do
  Traced.emit (loadingRecord path)
  match ← loadTable limits tree path with
  | none => pure none
  | some table => do
    let layer := Layer.ofTable path.text table
    Traced.emitAll layer.warningRecords
    pure (some { layer with files := [path] })

def isRoot (table : Value.Fields) : Bool :=
  match Value.lookup? "root" table with
  | some (.bool b) => b
  | _ => false

def searchNames (tree : Tree) (directory : Location) :
    List Text → Traced Record LoadError (List Path × Bool)
  | [] => pure ([], false)
  | name :: r => do
    let candidate := Location.path (directory ++ [name])
    let found ← Traced.ofExcept ((tree.isFile candidate).mapError .system)
    let table ← if found then loadTable limits tree candidate else pure none
    let (files, stop) ← searchNames tree directory r
    match table with
    | some table => pure (candidate :: files, isRoot table || stop)
    | none => pure (files, stop)

def upwardFrom : List Text → List Location
  | [] => [[]]
  | name :: r => (name :: r).reverse :: upwardFrom r

def upward (l : Location) : List Location := upwardFrom l.reverse

/-- Searches one directory after the other until one stops the search. What is found further up goes
in front. -/
def searchUpward (tree : Tree) : List Location → Traced Record LoadError (List Path)
  | [] => pure []
  | directory :: r => do
    let (files, stop) ← searchNames limits tree directory [sharedName, ownName]
    if stop then pure files
    else do
      let above ← searchUpward tree r
      pure (above ++ files)

def foundRecord (files : List Path) : Record :=
  ⟨.debug, .discovery, .concat ["Discovered config files: [",
    .sepBy ", " (files.map fun p => .concat ["PosixPath(", p.text.quoted, ")"]), "]"]⟩

/-- The settings files that apply to a start directory, the one nearest to the root first. If the
start is no directory, the search begins in its parent. -/
def discover (tree : Tree) (start : Path) : Traced Record LoadError (List Path) := do
  let isDirectory ← Traced.ofExcept ((tree.isDirectory start).mapError .system)
  let anchor := if isDirectory then start else start.parent
  let location ← Traced.ofExcept ((tree.resolve anchor).mapError .ofResolve)
  let files ← searchUpward limits tree (upward location)
  Traced.emit (foundRecord files)
  pure files

def mergeFiles (tree : Tree) (layer : Layer) : List Path → Traced Record LoadError Layer
  | [] => pure layer
  | path :: r => do
    match ← loadLayer limits tree path with
    | some upper => mergeFiles tree (layer.merge upper) r
    | none => mergeFiles tree layer r

def loadMerged (tree : Tree) (start : Option Path) (extra : List Path) :
    Traced Record LoadError Layer := do
  let found ← match start with
    | some start => discover limits tree start
    | none => pure []
  mergeFiles limits tree {} (found ++ extra)

end ParseRepair.Config
