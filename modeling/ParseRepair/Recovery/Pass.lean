import ParseRepair.Config.Settings
import ParseRepair.Recovery.Repair

namespace ParseRepair.Recovery

open Config (Settings)
open Logging

inductive PatchError
  | integer (e : IntegerError)
  | source (e : SourceError)
  deriving DecidableEq, Repr

def PatchError.message : PatchError → Text
  | .integer e => e.message
  | .source e => e.message

def Method.ofSettings (s : Settings) : Method := ⟨Pipeline.select s.strategies, s.pad⟩

def patchSource (s : Source) (ds : List Diagnostic) (settings : Settings) :
    Traced Record PatchError Repair := do
  let c ← (Classified.ofDiagnostics ds).mapError .integer
  Traced.emitAll (Pipeline.selectNotes settings.strategies)
  (Repair.ofSource (.ofSettings settings) c s).mapError .source

structure ParseResult (τ : Type) where
  tree : Option τ
  diagnostics : List Diagnostic

def ParseResult.successful {τ : Type} (r : ParseResult τ) : Bool :=
  r.tree.isSome && r.diagnostics.isEmpty

/-- A parser may fail, and may answer otherwise when it is asked again: it sees the sources it was
given earlier. -/
abbrev Parser (ε τ : Type) :=
  (earlier : List Source) → (source : Source) → Except ε (ParseResult τ)

inductive Event
  | log (r : Record)
  | parse (source : Source)

namespace Event

def record? : Event → Option Record
  | log r => some r
  | parse _ => none

def source? : Event → Option Source
  | log _ => none
  | parse s => some s

end Event

inductive RecoveryError (ε : Type)
  | patch (e : PatchError)
  | parser (e : ε)

structure Outcome (τ : Type) where
  repair : Repair
  result : ParseResult τ

variable {ε τ : Type}

def call (p : Parser ε τ) (earlier : List Source) (source : Source) :
    Traced Event (RecoveryError ε) (ParseResult τ) := do
  Traced.emit (.parse source)
  (Traced.ofExcept (p earlier source)).mapError .parser

def passRecord (r : Report) : Record :=
  ⟨.info, .passes, .concat ["Recovery patched ", .ofNat r.size, " line(s); reparsing"]⟩

def reparseRecord (r : ParseResult τ) : Record :=
  ⟨.debug, .passes, .concat ["Reparse ", if r.successful then "succeeded" else "failed",
    " with ", .ofNat r.diagnostics.length, " diagnostic(s)"]⟩

def attemptRecord (r : ParseResult τ) : Record :=
  ⟨.info, .passes, .concat ["Initial parse reported ", .ofNat r.diagnostics.length,
    " problem(s); attempting recovery"]⟩

def recover (p : Parser ε τ) (earlier : List Source) (s : Source) (ds : List Diagnostic)
    (settings : Settings) : Traced Event (RecoveryError ε) (Outcome τ) := do
  let repair ← ((patchSource s ds settings).mapTrace .log).mapError .patch
  Traced.emit (.log (passRecord repair.report))
  let result ← call p earlier (.text repair.text)
  Traced.emit (.log (reparseRecord result))
  pure ⟨repair, result⟩

def reparse (p : Parser ε τ) (earlier : List Source) (s : Source) (ds : List Diagnostic)
    (settings : Settings) : Traced Event (RecoveryError ε) (ParseResult τ) := do
  let outcome ← recover p earlier s ds settings
  pure outcome.result

/-- Parses a source and, if that fails, makes one pass and parses again. The second answer stands,
whatever it is. -/
def parseWithRecovery (p : Parser ε τ) (source : Source) (settings : Settings) :
    Traced Event (RecoveryError ε) (ParseResult τ) := do
  let first ← call p [] source
  if first.successful then pure first
  else do
    Traced.emit (.log (attemptRecord first))
    reparse p [source] source first.diagnostics settings

end ParseRepair.Recovery
