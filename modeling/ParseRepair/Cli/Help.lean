import ParseRepair.Cli.Command
import ParseRepair.Cli.Outcome
import ParseRepair.Text.Lines

namespace ParseRepair.Cli

def helpLine : Text := "Show this message and exit."

def groupSynopsis (program : Text) : Synopsis := ⟨program, "[OPTIONS] COMMAND [ARGS]..."⟩

def commandSynopsis (program : Text) (c : Command) : Synopsis :=
  ⟨.concat [program, " ", c.name], c.operands⟩

def columns (width : Nat) (rows : List (Text × Text)) : Text :=
  Text.unlines (rows.map fun (left, right) => .concat ["  ", left.padRight width, "  ", right])

def Command.summary : Command → Text
  | .patch => "Patch SOURCE using the diagnostics of its failed parse."
  | .strategies => "List recovery strategies in pipeline order."
  | .version => "Show the current version of SourceMend."

def groupOptions : List (Text × Text) :=
  [("-q, --quiet", "Suppress warnings; only errors are logged."),
    ("-v, --verbose", "Increase verbosity. Repeat up to three times for TRACE output."),
    ("--no-color", "Disable ANSI colors in program output."), ("-h, --help", helpLine)]

def Command.options : Command → List (Text × Text)
  | .patch =>
    [("-d, --diagnostics TEXT", "JSON file with the parser's diagnostics (use"),
      ("", "'-' for STDIN).  [required]"),
      ("--format [source|diff|json]", "What to print: the patched source, a unified"),
      ("", "diff, or a JSON report.  [default: source]"),
      ("--pad / --no-pad", "Left-pad edits that shortened a line, keeping"),
      ("", "later offsets stable."),
      ("-s, --strategy NAME", "Enable only these strategies (repeatable)."),
      ("", "Pipeline order is fixed."),
      ("--no-config", "Do not discover config files from the source's"),
      ("", "directory upwards."),
      ("-c, --config FILE", "Extra config file(s) (sourcemend.toml or"),
      ("", "pyproject.toml), applied last."),
      ("-h, --help", helpLine)]
  | _ => [("-h, --help", helpLine)]

def groupHelp (program : Text) : Text :=
  .concat [(groupSynopsis program).line, "\n",
    "  SourceMend: patch source that failed to parse so it parses on a second\n  attempt.\n\n",
    "Options:\n", columns 13 groupOptions, "\nCommands:\n",
    columns 10 (Command.all.map fun c => (c.name, c.summary))]

def commandHelp (program : Text) (c : Command) : Text :=
  .concat [(commandSynopsis program c).line, "\n  ", c.summary, "\n\nOptions:\n",
    columns (if c = .patch then 30 else 10) c.options]

end ParseRepair.Cli
