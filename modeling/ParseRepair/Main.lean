import ParseRepair.Cli.Program

namespace ParseRepair

open Files (Entry Fault Location Tree)

def locationsTo (l : Location) : List Location := Config.upward l

/-- Where a run may look: the places that its words and the values in them name, and the settings
files on the way to them. -/
def locationsOfInterest (current : Location) (words : List Text) : List Location :=
  let tree : Tree := ⟨fun _ => none, current⟩
  let named := words ++ words.map (·.drop 2) ++ words.filterMap (Cli.Switches.splitValue · |>.2)
  let places := named.filterMap fun w => (tree.resolve (Path.ofText w)).toOption
  let ways := (current :: places).flatMap locationsTo
  (ways ++ ways.flatMap fun l => [l ++ [Config.sharedName], l ++ [Config.ownName]]).eraseDups

def faultOfCode (code : Nat) (reason : Text) : Fault :=
  ([.missing, .notDirectory, .isDirectory, .nameTooLong].find? (·.code = code)).getD (.other code reason)

def faultOfError : IO.Error → Fault
  | .noFileOrDirectory _ code reason | .interrupted _ code reason
  | .alreadyExists _ code reason | .invalidArgument _ code reason | .permissionDenied _ code reason
  | .resourceExhausted _ code reason | .inappropriateType _ code reason | .noSuchThing _ code reason
  | .otherError code reason | .resourceBusy code reason | .resourceVanished code reason
  | .unsupportedOperation code reason | .hardwareFault code reason
  | .unsatisfiedConstraints code reason | .illegalOperation code reason
  | .protocolError code reason | .timeExpired code reason => faultOfCode code.toNat reason.toList
  | e => .other 5 (toString e).toList

def openFault? (path : Text) : IO (Option Fault) := do
  try
    let _ ← IO.FS.Handle.mk (String.ofList path) .readWrite
    return none
  catch e => return some (faultOfError e)

/-- What stands where a file cannot be read. Only a directory cannot be written for being one, and only
where there is another entry is there no directory to look into. -/
def entryOfFault (path : Text) (f : Fault) : IO (Option Entry) := do
  match f with
  | .missing | .notDirectory | .nameTooLong => return none
  | .isDirectory => return some .directory
  | f =>
    if (← openFault? path) = some .isDirectory then return some .directory
    if (← openFault? (path ++ "/.".toList)) = some .notDirectory then return some (.unreadable f)
    return some (.unreachable f)

def readEntry (l : Location) : IO (Option Entry) := do
  let path := (Location.path l).text
  try return some (.file (← IO.FS.readBinFile (String.ofList path)).toList)
  catch e => entryOfFault path (faultOfError e)

def readTree (words : List Text) : IO Tree := do
  let current := (Path.ofText (toString (← IO.currentDir)).toList).parts
  let entries ← (locationsOfInterest current words).mapM fun l => return (l, ← readEntry l)
  return ⟨fun l => (entries.find? (·.1 == l)).bind Prod.snd, current⟩

partial def readAll (input : IO.FS.Stream) (before : ByteArray) : IO ByteArray := do
  let bytes ← input.read 65536
  if bytes.isEmpty then return before else readAll input (before ++ bytes)

def readStdin (words : List Text) : IO Utf8.Bytes := do
  if words.contains Cli.stdinMark then
    return (← readAll (← IO.getStdin) .empty).toList
  else return []

/-- Round figures for what a run from the command line leaves of the stack, here and in `settingsLimits`. -/
def documentDepth : Nat := 990

def settingsLimits : Toml.Limits where
  keyNames := 490
  values := 980
  perArray := 2
  perTable := 3
  growth := 75

def invocation (arguments : List String) : IO Cli.Invocation := do
  let words := arguments.map String.toList
  let logSetting := (← IO.getEnv "SOURCEMEND_LOG_LEVEL").map String.toList
  return ⟨"sourcemend", words, logSetting, ⟨← readTree words, ← readStdin words, documentDepth, settingsLimits⟩⟩

end ParseRepair

def main (arguments : List String) : IO UInt32 := do
  let result := ParseRepair.Cli.run (← ParseRepair.invocation arguments)
  (← IO.getStdout).putStr (String.ofList result.out)
  (← IO.getStderr).putStr (String.ofList result.err)
  if let some crash := result.crash then IO.eprintln (String.ofList crash.message)
  return UInt32.ofNat result.status
