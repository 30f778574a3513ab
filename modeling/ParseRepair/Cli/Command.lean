import ParseRepair.Cli.Switches
import ParseRepair.Files.Tree
import ParseRepair.Recovery.Strategy

namespace ParseRepair.Cli

open Files (Tree)

inductive GroupSwitch
  | verbose
  | quiet
  | noColor
  | help
  deriving DecidableEq, Repr

def groupSwitches : Switches GroupSwitch :=
  [⟨"-q", .quiet, false⟩, ⟨"--quiet", .quiet, false⟩, ⟨"-v", .verbose, false⟩,
    ⟨"--verbose", .verbose, false⟩, ⟨"--no-color", .noColor, false⟩, ⟨"-h", .help, false⟩,
    ⟨"--help", .help, false⟩]

inductive Command
  | patch
  | strategies
  | version
  deriving DecidableEq, Repr

namespace Command

def all : List Command := [.patch, .strategies, .version]

def name : Command → Text
  | patch => "patch"
  | strategies => "strategies"
  | version => "version"

def ofName? (name : Text) : Option Command := all.find? (·.name == name)

def operands : Command → Text
  | patch => "[OPTIONS] SOURCE"
  | strategies => "[OPTIONS]"
  | version => "[OPTIONS]"

end Command

inductive Format
  | source
  | diff
  | json
  deriving DecidableEq, Repr

namespace Format

def all : List Format := [.source, .diff, .json]

def name : Format → Text
  | source => "source"
  | diff => "diff"
  | json => "json"

def ofName? (name : Text) : Option Format := all.find? (·.name == name)

end Format

inductive PatchSwitch
  | diagnostics
  | format
  | pad
  | noPad
  | strategy
  | noConfig
  | config
  | help
  deriving DecidableEq, Repr

def patchSwitches : Switches PatchSwitch :=
  [⟨"--diagnostics", .diagnostics, true⟩, ⟨"-d", .diagnostics, true⟩, ⟨"--format", .format, true⟩,
    ⟨"--pad", .pad, false⟩, ⟨"--no-pad", .noPad, false⟩, ⟨"--strategy", .strategy, true⟩,
    ⟨"-s", .strategy, true⟩, ⟨"--no-config", .noConfig, false⟩, ⟨"--config", .config, true⟩,
    ⟨"-c", .config, true⟩, ⟨"--help", .help, false⟩, ⟨"-h", .help, false⟩]

def PatchSwitch.names (s : PatchSwitch) : List Text :=
  (patchSwitches.filter (·.switch = s)).map Switch.name

structure PatchRequest where
  source : Text
  diagnostics : Text
  format : Format := .source
  configFiles : List Text := []
  noConfig : Bool := false
  strategies : List Text := []
  pad : Option Bool := none
  deriving DecidableEq, Repr

def checkFormat (value : Text) : Except UsageFault Format :=
  match Format.ofName? value with
  | some f => .ok f
  | none => .error (.notChoice (PatchSwitch.names .format) value (Format.all.map Format.name))

def checkStrategy (value : Text) : Except UsageFault Unit :=
  match Recovery.Strategy.ofName? value with
  | some _ => .ok ()
  | none => .error (.notChoice (PatchSwitch.names .strategy) value
      (Recovery.Strategy.all.map Recovery.Strategy.name))

inductive RequestFault
  | usage (f : UsageFault)
  | nullByte
  deriving DecidableEq, Repr

/-- A settings file is no directory, and access to it is not denied. Whether it is there is not asked
yet. -/
def checkConfig (tree : Tree) (value : Text) : Except RequestFault Unit :=
  if (Path.ofText value).hasNull then .error .nullByte
  else match tree.find (Path.ofText value) with
  | .ok .directory =>
    if value.isEmpty then .ok ()
    else .error (.usage (.isDirectory (PatchSwitch.names .config) value))
  | .ok (.unreadable f) =>
    if f.isDenial then .error (.usage (.notReadable (PatchSwitch.names .config) value)) else .ok ()
  | _ => .ok ()

def checkSwitch (tree : Tree) (w : Words PatchSwitch) : PatchSwitch → Except RequestFault Unit
  | .format => ((w.values .format).getLast?.toList).forM fun v =>
    ((checkFormat v).map fun _ => ()).mapError .usage
  | .strategy => (w.values .strategy).forM fun v => (checkStrategy v).mapError .usage
  | .config => (w.values .config).forM (checkConfig tree)
  | _ => .ok ()

def formatOf (w : Words PatchSwitch) : Format :=
  (((w.values .format).getLast?).bind Format.ofName?).getD .source

def padOf (w : Words PatchSwitch) : Option Bool :=
  (w.uses.filterMap fun u =>
    match u.switch with
    | .pad => some true
    | .noPad => some false
    | _ => none).getLast?

/-- Checks the switches in the order of their first use, then that nothing is missing, then that
nothing is left over. -/
def PatchRequest.ofWords (tree : Tree) (w : Words PatchSwitch) :
    Except RequestFault PatchRequest := do
  w.switches.forM (checkSwitch tree w)
  match w.arguments with
  | [] => .error (.usage (.missingArgument "SOURCE"))
  | source :: extra =>
    match (w.values .diagnostics).getLast? with
    | none => .error (.usage (.missingOption (PatchSwitch.names .diagnostics)))
    | some diagnostics =>
      if !extra.isEmpty then .error (.usage (.extraArguments extra))
      else
        let (configFiles, noConfig) := (w.values .config, w.has .noConfig)
        .ok ⟨source, diagnostics, formatOf w, configFiles, noConfig, w.values .strategy, padOf w⟩

inductive HelpSwitch
  | help
  deriving DecidableEq, Repr

def helpSwitches : Switches HelpSwitch := [⟨"-h", .help, false⟩, ⟨"--help", .help, false⟩]

end ParseRepair.Cli
