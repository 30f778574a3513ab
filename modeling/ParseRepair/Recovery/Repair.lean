import ParseRepair.Recovery.Length
import ParseRepair.Recovery.Report
import ParseRepair.Text.Lines
import ParseRepair.Text.Utf8
import ParseRepair.Value.Spelling

namespace ParseRepair.Recovery

open Logging

inductive Source
  | text (t : Text)
  | bytes (b : Utf8.Bytes)
  | other (v : Value)

inductive SourceError
  | undecodable (e : Utf8.DecodeError)
  | notText (kind : Text)
  deriving DecidableEq, Repr

def SourceError.message : SourceError → Text
  | .undecodable e => "Source is not valid UTF-8: ".toList ++ e.message
  | .notText kind => "Cannot read lines from ".toList ++ kind

namespace Source

def read : Source → Except SourceError Text
  | .text t => .ok t
  | .bytes b => (Utf8.decode b).mapError .undecodable
  | .other v => .error (.notText v.kind)

def lines (s : Source) : Except SourceError (List Text) := Text.sourceLines <$> s.read

end Source

structure Line where
  number : Nat
  text : Text
  deriving DecidableEq, Repr

def Line.numbered (ls : List Text) : List Line := (ls.zipIdx 1).map fun (t, n) => ⟨n, t⟩

structure Method where
  pipeline : Pipeline := Strategy.all
  pad : Bool := true
  deriving DecidableEq, Repr

namespace Line

def apply (pad : Bool) (old : Text) : Verdict → Text
  | .leave => old
  | .commentOut => commentOut old
  | .edit t => fitLength pad old t

def repair? (m : Method) (e : Evidence) (l : Line) : Option Patch := do
  let (s, v) ← m.pipeline.firstVerdict? e l.text
  let after := apply m.pad l.text v
  if after = l.text then none else some ⟨l.number, s.name, v.decision, l.text, after⟩

def repaired (m : Method) (e : Evidence) (l : Line) : Text :=
  match l.repair? m e with
  | some p => p.after
  | none => l.text

def editNotes (l : Line) : Option (Strategy × Verdict) → List Record
  | some (_, .edit t) => fitNotes l.number l.text t
  | _ => []

def notes (m : Method) (e : Evidence) (l : Line) : List Record :=
  m.pipeline.notes l.number e l.text ++ l.editNotes (m.pipeline.firstVerdict? e l.text)

end Line

/-- The text after a pass, every line of it followed by LF, and what was changed. -/
structure Repair where
  text : Text
  report : Report
  deriving DecidableEq, Repr

namespace Repair

def ofLines (m : Method) (c : Classified) (ls : List Line) : Repair where
  text := Text.unlines (ls.map fun l => l.repaired m (.ofLine c l.number))
  report := ⟨ls.filterMap fun l => l.repair? m (.ofLine c l.number)⟩

def driftNotes (r : Repair) : List Record :=
  match r.report.driftingLines with
  | [] => []
  | ls => [⟨.debug, .repairs,
      .concat ["Offsets drift after line(s): [", .sepBy ", " (ls.map Text.ofInt), "]"]⟩]

def notes (m : Method) (c : Classified) (ls : List Line) : List Record :=
  ls.flatMap (fun l => l.notes m (.ofLine c l.number)) ++ (ofLines m c ls).driftNotes

/-- Repairs a source line by line. No line's repair depends on another line's. -/
def ofSource (m : Method) (c : Classified) (s : Source) : Traced Record SourceError Repair := do
  let ls := Line.numbered (← Traced.ofExcept s.lines)
  Traced.emitAll (notes m c ls)
  pure (ofLines m c ls)

end Repair

end ParseRepair.Recovery
