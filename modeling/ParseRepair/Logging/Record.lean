import ParseRepair.Text.Blank

namespace ParseRepair.Logging

abbrev Level := Int

namespace Level

def trace : Level := 5
def debug : Level := 10
def info : Level := 20
def warning : Level := 30
def error : Level := 40
def critical : Level := 50

def names : List (Level × Text) :=
  [(50, "CRITICAL"), (40, "ERROR"), (30, "WARNING"), (20, "INFO"), (10, "DEBUG"), (5, "TRACE"),
    (0, "NOTSET")]

def name (level : Level) : Text :=
  match names.find? (·.1 == level) with
  | some (_, name) => name
  | none => "Level ".toList ++ .ofInt level

end Level

structure Channel where
  name : Text
  deriving DecidableEq, Repr

namespace Channel

def documents : Channel := ⟨"sourcemend.diagnostic.io"⟩
def placement : Channel := ⟨"sourcemend.recovery.classifier"⟩
def strategies : Channel := ⟨"sourcemend.recovery.strategies"⟩
def repairs : Channel := ⟨"sourcemend.recovery.rewriter"⟩
def passes : Channel := ⟨"sourcemend.recovery.driver"⟩
def discovery : Channel := ⟨"sourcemend.config.loaders"⟩
def settings : Channel := ⟨"sourcemend.config.model"⟩
def differences : Channel := ⟨"sourcemend.utils.diff"⟩
def patching : Channel := ⟨"sourcemend.cli.commands.patch"⟩

end Channel

structure Record where
  level : Level
  channel : Channel
  message : Text
  deriving DecidableEq, Repr

end ParseRepair.Logging
