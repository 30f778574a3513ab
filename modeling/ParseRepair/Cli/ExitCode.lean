import ParseRepair.Text.Blank

namespace ParseRepair.Cli

inductive ExitCode
  | success
  | failure
  | wouldChange
  | usageError
  | encodingError
  | fileNotFound
  | ioError
  | configError
  deriving DecidableEq, Repr

namespace ExitCode

def all : List ExitCode :=
  [.success, .failure, .wouldChange, .usageError, .encodingError, .fileNotFound, .ioError,
    .configError]

def number : ExitCode → Nat
  | success => 0
  | failure => 1
  | wouldChange => 2
  | usageError => 64
  | encodingError => 65
  | fileNotFound => 66
  | ioError => 74
  | configError => 78

def name : ExitCode → Text
  | success => "SUCCESS"
  | failure => "FAILURE"
  | wouldChange => "WOULD_CHANGE"
  | usageError => "USAGE_ERROR"
  | encodingError => "ENCODING_ERROR"
  | fileNotFound => "FILE_NOT_FOUND"
  | ioError => "IO_ERROR"
  | configError => "CONFIG_ERROR"

end ExitCode

end ParseRepair.Cli
