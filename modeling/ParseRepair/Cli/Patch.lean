import ParseRepair.Cli.Command
import ParseRepair.Cli.Outcome
import ParseRepair.Config.Loading
import ParseRepair.Diagnostic.Document
import ParseRepair.Diff.Preview
import ParseRepair.Diff.Unified
import ParseRepair.Recovery.Pass

namespace ParseRepair.Cli

open Config (Layer LoadError Settings)
open Files (Location Tree)
open Logging
open Recovery (Decision Patch PatchError Repair Report Source patchSource)
open Terminal (Console)

def stdinMark : Text := "-"

/-- What a run can read, and how deep things may lie in each other in a document of diagnostics and in one of
settings. -/
structure Inputs where
  tree : Tree
  stdin : Utf8.Bytes
  depth : Nat
  limits : Toml.Limits

inductive Role
  | diagnostics
  | source
  deriving DecidableEq, Repr

def Role.title : Role → Text
  | .diagnostics => "Diagnostics file"
  | .source => "Source"

def Role.word : Role → Text
  | .diagnostics => "diagnostics file"
  | .source => "source"

/-- A file that is missing or a directory is not found. All other faults are faults of reading. -/
def faultEnding (role : Role) (location : Text) (e : Files.SystemError) : Ending :=
  if e.fault.findsNone then .failed .fileNotFound (.concat [role.title, " not found: ", location])
  else .failed .ioError (.concat ["Cannot read ", role.word, " ", location, ": ", e.message])

def readEnding (role : Role) (location : Text) : Files.AccessError → Ending
  | .nullByte => .crashed .nullByte
  | .system e => faultEnding role location e

def readInput (i : Inputs) (role : Role) (location : Text) : Step Utf8.Bytes :=
  if location = stdinMark then pure i.stdin
  else Traced.ofExcept ((i.tree.read (Path.ofText location)).mapError (readEnding role location))

def loadEnding : LoadError → Ending
  | .unreadable path e => .failed .configError (LoadError.unreadable path e).message
  | .invalid path => .failed .configError (LoadError.invalid path).message
  | .undecodable e => .crashed (.undecodable e)
  | .system e => .crashed (.system e)
  | .nullByte => .crashed .nullByte
  | .loop path => .crashed (.loop path)
  | .refused r => .crashed (.refused r)

def searchStart (tree : Tree) (r : PatchRequest) : Option Path :=
  if r.noConfig then none
  else if r.source = stdinMark then some (Location.path tree.current)
  else some (Path.ofText r.source).parent

def overrides (r : PatchRequest) : Layer :=
  { strategies := if r.strategies.isEmpty then none else some r.strategies, pad := r.pad }

def loadSettings (limits : Toml.Limits) (tree : Tree) (r : PatchRequest) : Step Settings := do
  let layer ← Step.logged loadEnding
    (Config.loadMerged limits tree (searchStart tree r) (r.configFiles.map Path.ofText))
  pure (layer.merge (overrides r)).freeze

def malformed (message : Text) : Ending :=
  .failed .encodingError ("Malformed diagnostics: ".toList ++ message)

def documentEnding : Diagnostic.DocumentError → Ending
  | .integer e => .crashed (.integer e)
  | .tooDeep c => .crashed (.tooDeep (Json.tooDeepMessage c))
  | e => malformed e.message

def readDiagnostics (i : Inputs) (r : PatchRequest) : Step (List Diagnostic) := do
  let bytes ← readInput i .diagnostics r.diagnostics
  let t ← Traced.ofExcept ((Utf8.decode bytes).mapError fun e => malformed e.message)
  Step.logged documentEnding (Diagnostic.parseDocument i.depth t)

def patchEnding : PatchError → Ending
  | .integer e => .crashed (.integer e)
  | .source e => .failed .encodingError e.message

def sourceName (r : PatchRequest) : Text := if r.source = stdinMark then "<stdin>" else r.source

def decisionPaint : Decision → Terminal.Paint
  | .none => [.gray]
  | .lineComment => [.yellow]
  | .textEdit => [.green]

def renderDecision (d : Decision) (t : Text) : Text := (decisionPaint d).apply t

def signedText (n : Int) : Text := if n < 0 then .ofInt n else '+' :: Text.ofInt n

def summaryLine (c : Console) (p : Patch) : Text :=
  .concat ["  line ", .ofInt p.line, ": ", p.strategy, " (",
    if c.color then renderDecision p.decision p.decision.text else p.decision.text,
    if p.preservesLength then [] else ", offsets drift by ".toList ++ signedText p.lengthDelta, ")"]

def printSummary (c : Console) (r : Report) : Step Unit := do
  Step.printLine c []
  Step.printLine c (.concat ["Patched ", .ofNat r.size, " line(s):"])
  let _ ← Traced.forEach (fun p => Step.printLine c (summaryLine c p)) r.patches
  pure ()

def printDiff (c : Console) (name before : Text) (w : Repair) : Step Unit := do
  let lines := Diff.diffLines name before w.text
  Step.log (Diff.sizeRecord lines)
  if lines.isEmpty then pure ()
  else do
    let diff := Text.unlines lines
    Step.print c false (if c.color then Diff.preview false diff else diff)
    printSummary c w.report

def payload (name : Text) (s : Settings) (w : Repair) : Value :=
  .object [("source", .text name), ("config", s.toTable), ("report", w.report.toValue),
    ("patched", .text w.text)]

def printRepair (c : Console) (r : PatchRequest) (s : Settings) (bytes : Utf8.Bytes)
    (w : Repair) : Step Unit :=
  match r.format with
  | .source => Step.print c false w.text
  | .diff => do
    let before ← Traced.ofExcept ((Utf8.decode bytes).mapError fun e => .crashed (.undecodable e))
    printDiff c (sourceName r) before w
  | .json => Step.printLine c (Json.print (payload (sourceName r) s w).points)

def patchedRecord (r : PatchRequest) (w : Repair) : Record :=
  ⟨.info, .patching,
    .concat ["Patched ", .ofNat w.report.size, " line(s) of ", sourceName r]⟩

/-- One pass over a source. Nothing is printed before all has been read and the pass has been
made. -/
def runPatch (i : Inputs) (c : Console) (r : PatchRequest) : Step Unit := do
  if r.source = stdinMark ∧ r.diagnostics = stdinMark then
    Step.failed .usageError "SOURCE and --diagnostics cannot both be read from STDIN."
  let settings ← loadSettings i.limits i.tree r
  let _ ← Traced.forEach (fun w => Step.warn c ("Config: ".toList ++ w)) settings.warnings
  let ds ← readDiagnostics i r
  let bytes ← readInput i .source r.source
  let w ← Step.logged patchEnding (patchSource (.bytes bytes) ds settings)
  printRepair c r settings bytes w
  Step.log (patchedRecord r w)
  if w.report.changed then Step.exit .wouldChange

end ParseRepair.Cli
