import ParseRepair.Cli.Program
import ParseRepair.Proofs.Cli.Settings
import ParseRepair.Proofs.Cli.Step
import ParseRepair.Proofs.Recovery.Account
import ParseRepair.Proofs.Recovery.Failure

namespace ParseRepair.Cli

open Config (LoadError Settings)
open Recovery (Repair patchSource)
open Terminal (Console)
open Text (sourceLines)

inductive Stage
  | inputs
  | settings
  | diagnosticsFile
  | document
  | sourceFile
  | placement
  | source
  deriving DecidableEq, Repr

def Stage.index : Stage → Nat
  | .inputs => 0
  | .settings => 1
  | .diagnosticsFile => 2
  | .document => 3
  | .sourceFile => 4
  | .placement => 5
  | .source => 6

inductive Failure
  | reported (code : ExitCode)
  | unreported
  deriving DecidableEq, Repr

namespace Failure

def status : Failure → Nat
  | reported code => code.number
  | unreported => 1

def ofLoad : LoadError → Failure
  | .unreadable .. | .invalid _ => reported .configError
  | _ => unreported

def ofAccess : Files.AccessError → Failure
  | .nullByte => unreported
  | .system e => reported (if e.fault.code = 2 ∨ e.fault.code = 21 then .fileNotFound else .ioError)

def ofDocument : Diagnostic.DocumentError → Failure
  | .integer _ | .tooDeep _ => unreported
  | _ => reported .encodingError

theorem status_loadEnding (e : LoadError) : (loadEnding e).status = (ofLoad e).status := by
  cases e <;> rfl

theorem status_readEnding (role : Role) (location : Text) (e : Files.AccessError) :
    (readEnding role location e).status = (ofAccess e).status := by
  cases e with
  | nullByte => rfl
  | system e =>
    by_cases none_there : e.fault.code = 2 ∨ e.fault.code = 21
    · simp [readEnding, faultEnding, ofAccess, Files.Fault.findsNone, none_there, Ending.status, status]
    · simp [readEnding, faultEnding, ofAccess, Files.Fault.findsNone, none_there, Ending.status, status]

theorem status_documentEnding (e : Diagnostic.DocumentError) :
    (documentEnding e).status = (ofDocument e).status := by
  cases e <;> rfl

end Failure

def contentOf (i : Inputs) (location : Text) : Except Files.AccessError Utf8.Bytes :=
  if location = stdinMark then .ok i.stdin else i.tree.read (Path.ofText location)

def ReadsDiagnostics (i : Inputs) (r : PatchRequest) (ds : List Diagnostic) : Prop :=
  ∃ t, contentOf i r.diagnostics = .ok (Utf8.encode t) ∧ (Diagnostic.parseDocument i.depth t).outcome = .ok ds

/-- What is wrong at a stage, whatever is wrong at the others. -/
inductive Fails (i : Inputs) (r : PatchRequest) : Stage → Failure → Prop
  | inputs (source : r.source = stdinMark) (diagnostics : r.diagnostics = stdinMark) :
    Fails i r .inputs (.reported .usageError)
  | settings {e : LoadError}
    (failed : (Config.loadMerged i.limits i.tree (searchStart i.tree r)
      (r.configFiles.map Path.ofText)).outcome = .error e) :
    Fails i r .settings (.ofLoad e)
  | diagnosticsFile {e : Files.AccessError} (failed : contentOf i r.diagnostics = .error e) :
    Fails i r .diagnosticsFile (.ofAccess e)
  | undecodable {bytes : Utf8.Bytes} (read : contentOf i r.diagnostics = .ok bytes)
    (noText : ∀ t, bytes ≠ Utf8.encode t) : Fails i r .document (.reported .encodingError)
  | document {t : Text} {e : Diagnostic.DocumentError} (read : contentOf i r.diagnostics = .ok (Utf8.encode t))
    (failed : (Diagnostic.parseDocument i.depth t).outcome = .error e) : Fails i r .document (.ofDocument e)
  | sourceFile {e : Files.AccessError} (failed : contentOf i r.source = .error e) :
    Fails i r .sourceFile (.ofAccess e)
  | placement {ds : List Diagnostic} {e : IntegerError} (read : ReadsDiagnostics i r ds)
    (failed : (Classified.ofDiagnostics ds).outcome = .error e) : Fails i r .placement .unreported
  | source {bytes : Utf8.Bytes} (read : contentOf i r.source = .ok bytes) (noText : ∀ t, bytes ≠ Utf8.encode t) :
    Fails i r .source (.reported .encodingError)

def Sound (i : Inputs) (r : PatchRequest) (stage : Stage) : Prop := ∀ f, ¬ Fails i r stage f

structure FirstFails (i : Inputs) (r : PatchRequest) (stage : Stage) (f : Failure) : Prop where
  fails : Fails i r stage f
  earlier : ∀ stage' : Stage, stage'.index < stage.index → Sound i r stage'

/-- A run makes a repair of a text by the settings that hold for it. -/
structure Makes (i : Inputs) (r : PatchRequest) (s : Settings) (t : Text) (w : Repair) : Prop where
  inputs : ¬ (r.source = stdinMark ∧ r.diagnostics = stdinMark)
  settings : (loadSettings i.limits i.tree r).outcome = .ok s
  source : contentOf i r.source = .ok (Utf8.encode t)
  repair : ∃ ds, ReadsDiagnostics i r ds ∧ (patchSource (.bytes (Utf8.encode t)) ds s).outcome = .ok w

section Parts

variable {i : Inputs} {r : PatchRequest}

theorem readInput_eq (role : Role) (location : Text) : readInput i role location =
    Traced.ofExcept ((contentOf i location).mapError (readEnding role location)) := by
  unfold readInput contentOf
  split <;> rfl

theorem readInput_gives {location : Text} {bytes : Utf8.Bytes} (role : Role)
    (read : contentOf i location = .ok bytes) : (readInput i role location).Gives bytes := by
  rw [readInput_eq]
  exact Step.gives_ofExcept (by rw [read]; rfl)

theorem readInput_stops {location : Text} {e : Files.AccessError} (role : Role)
    (failed : contentOf i location = .error e) :
    (readInput i role location).Stops (Failure.ofAccess e).status := by
  rw [readInput_eq, ← Failure.status_readEnding role location]
  exact Step.stops_ofExcept (by rw [failed]; rfl)

theorem loadSettings_stops {e : LoadError}
    (failed : (Config.loadMerged i.limits i.tree (searchStart i.tree r)
      (r.configFiles.map Path.ofText)).outcome = .error e) :
    (loadSettings i.limits i.tree r).Stops (Failure.ofLoad e).status := by
  rw [loadSettings, ← Failure.status_loadEnding]
  exact (Step.stops_logged loadEnding failed).bind

theorem loadSettings_gives {s : Settings} (settled : (loadSettings i.limits i.tree r).outcome = .ok s) :
    (loadSettings i.limits i.tree r).Gives s := by
  obtain ⟨layer, loaded, rfl⟩ := (loadSettings_eq_ok_iff i.limits i.tree r s).mp settled
  exact (Step.gives_logged loadEnding loaded).bind (Step.gives_pure _)

theorem settles_of_sound (sound : Sound i r .settings) : ∃ s, (loadSettings i.limits i.tree r).outcome = .ok s := by
  cases loaded : (Config.loadMerged i.limits i.tree (searchStart i.tree r) (r.configFiles.map Path.ofText)).outcome with
  | error e => exact absurd (.settings loaded) (sound _)
  | ok layer => exact ⟨_, (loadSettings_eq_ok_iff i.limits i.tree r _).mpr ⟨layer, loaded, rfl⟩⟩

theorem decode_of_noText {bytes : Utf8.Bytes} (noText : ∀ t, bytes ≠ Utf8.encode t) :
    ∃ e, Utf8.decode bytes = .error e := by
  cases decoded : Utf8.decode bytes with
  | error e => exact ⟨e, rfl⟩
  | ok t => exact absurd (Utf8.decode_eq_ok_iff.mp decoded) (noText t)

theorem readDiagnostics_of_text {t : Text} (read : contentOf i r.diagnostics = .ok (Utf8.encode t)) :
    readDiagnostics i r = Step.logged documentEnding (Diagnostic.parseDocument i.depth t) := by
  have content (onError : Files.AccessError → Ending) :
      (contentOf i r.diagnostics).mapError onError = .ok (Utf8.encode t) := by
    rw [read]
    rfl
  rw [readDiagnostics, readInput_eq, content, Traced.ofExcept_ok_bind,
    Utf8.mapError_decode_encode, Traced.ofExcept_ok_bind]

theorem readDiagnostics_gives {ds : List Diagnostic} (reads : ReadsDiagnostics i r ds) :
    (readDiagnostics i r).Gives ds := by
  obtain ⟨t, read, parsed⟩ := reads
  rw [readDiagnostics_of_text read]
  exact Step.gives_logged documentEnding parsed

theorem readDiagnostics_stops {stage : Stage} {f : Failure} (place : stage = .diagnosticsFile ∨ stage = .document)
    (fails : Fails i r stage f) : (readDiagnostics i r).Stops f.status := by
  cases fails with
  | diagnosticsFile failed => exact (readInput_stops .diagnostics failed).bind
  | undecodable read noText =>
    obtain ⟨e, failed⟩ := decode_of_noText noText
    refine (readInput_gives .diagnostics read).stops_bind (Step.Stops.bind ?_)
    exact Step.stops_ofExcept (e := malformed e.message) (by rw [failed]; rfl)
  | document read failed =>
    rw [readDiagnostics_of_text read, ← Failure.status_documentEnding]
    exact Step.stops_logged documentEnding failed
  | inputs | settings | sourceFile | placement | source => simp at place

theorem reads_of_sound (file : Sound i r .diagnosticsFile) (document : Sound i r .document) :
    ∃ ds, ReadsDiagnostics i r ds := by
  cases read : contentOf i r.diagnostics with
  | error e => exact absurd (.diagnosticsFile read) (file _)
  | ok bytes =>
    by_cases text : ∃ t, bytes = Utf8.encode t
    · obtain ⟨t, rfl⟩ := text
      cases parsed : (Diagnostic.parseDocument i.depth t).outcome with
      | error e => exact absurd (.document read parsed) (document _)
      | ok ds => exact ⟨ds, t, read, parsed⟩
    · exact absurd (.undecodable read (not_exists.mp text)) (document _)

end Parts

end ParseRepair.Cli
