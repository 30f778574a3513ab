import ParseRepair.Cli.Help
import ParseRepair.Cli.Patch

namespace ParseRepair.Cli

open Logging
open Recovery (Strategy)
open Terminal (Console Style)

def programVersion : Text := "0.1.0"

structure Invocation where
  program : Text
  arguments : List Text
  logSetting : Option Text
  inputs : Inputs

def listStrategies (c : Console) : Step Unit := do
  let width := (Strategy.all.map fun s => s.name.length).foldl max 0
  let _ ← Traced.forEach (fun (s, n) => Step.printLine c (.concat [.ofNat n, ". ",
    c.styled { bold := some true } (s.name.padRight width), "  ", s.summary]))
    (Strategy.all.zipIdx 1)
  pure ()

/-- Reads the words of a command. Asking for help comes before all else. -/
def readWords {σ : Type} [DecidableEq σ] (synopsis : Synopsis) (help : Text) (helpSwitch : σ)
    (c : Console) (ss : Switches σ) (mixed : Bool) (words : List Text) : Step (Words σ) := do
  let w ← Traced.ofExcept ((ss.read mixed none words).mapError (.refused synopsis))
  if w.has helpSwitch then do
    Step.print c false help
    Step.exit .success
  else pure w

def requestEnding (synopsis : Synopsis) : RequestFault → Ending
  | .usage f => .refused synopsis f
  | .nullByte => .crashed .nullByte

def runCommand (v : Invocation) (c : Console) (command : Command) (words : List Text) :
    Step Unit := do
  let synopsis := commandSynopsis v.program command
  let help := commandHelp v.program command
  match command with
  | .patch => do
    let w ← readWords synopsis help PatchSwitch.help c patchSwitches true words
    let request ← Traced.ofExcept
      ((PatchRequest.ofWords v.inputs.tree w).mapError (requestEnding synopsis))
    runPatch v.inputs c request
  | _ => do
    let w ← readWords synopsis help HelpSwitch.help c helpSwitches true words
    if !w.arguments.isEmpty then Traced.fail (.refused synopsis (.extraArguments w.arguments))
    else if command = .version then Step.printLine c programVersion
    else listStrategies c

def printHint (v : Invocation) (c : Console) : Step Unit := do
  Step.printLine c "Hint: use 'sourcemend patch SOURCE -d DIAGNOSTICS.json'."
  Step.printLine c []
  Step.print c false (groupHelp v.program)

def plain : Console := ⟨false⟩

def readGroup (v : Invocation) (words : List Text) : Step (Words GroupSwitch) :=
  readWords (groupSynopsis v.program) (groupHelp v.program) GroupSwitch.help plain groupSwitches
    false words

/-- The command that the first word names. A word that names none but looks like a switch is read as
one before it is refused. -/
def resolve (v : Invocation) (word : Text) (rest : List Text) : Step Command :=
  match Command.ofName? word with
  | some c => pure c
  | none => do
    let _ ← if Switches.isSwitch word then readGroup v (word :: rest) else pure {}
    Traced.fail (.refused (groupSynopsis v.program) (.noSuchCommand word))

def target (v : Invocation) (w : Words GroupSwitch) : Step (Option (Command × List Text)) :=
  match w.arguments with
  | [] => pure none
  | word :: rest => do
    let c ← resolve v word rest
    pure (some (c, rest))

def verbosityOf (w : Words GroupSwitch) : Verbosity := ⟨w.count .verbose, w.count .quiet⟩

def logLevel (v : Invocation) (w : Words GroupSwitch) : Step Level := do
  match ← Traced.ofExcept ((Level.ofEnvironment v.logSetting).mapError (.crashed <| .integer ·)) with
  | some level => pure level
  | none =>
    match (verbosityOf w).level? with
    | some level => pure level
    | none => Step.failed .usageError Verbosity.conflictMessage

structure Session where
  logLevel : Level
  handler : Handler
  console : Console
  target : Option (Command × List Text)

def openSession (v : Invocation) : Step Session := do
  let w ← readGroup v v.arguments
  let target ← target v w
  let level ← logLevel v w
  pure ⟨level, ⟨level⟩, ⟨!w.has .noColor⟩, target⟩

def Session.run (s : Session) (v : Invocation) : Step Unit :=
  match s.target with
  | some (command, words) => runCommand v s.console command words
  | none => printHint v s.console

def run (v : Invocation) : Result :=
  let opened := openSession v
  match opened.outcome with
  | .error e => .ofStep ⟨Level.critical⟩ plain ⟨opened.trace, .error e⟩
  | .ok session => .ofStep session.handler session.console (session.run v)

end ParseRepair.Cli
