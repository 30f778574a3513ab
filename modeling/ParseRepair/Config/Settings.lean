import ParseRepair.Files.Path
import ParseRepair.Value

namespace ParseRepair.Config

/-- The settings of a pass and where they come from. Without names every strategy is enabled. -/
structure Settings where
  strategies : Option (List Text) := none
  pad : Bool := true
  files : List Path := []
  warnings : List Text := []
  deriving DecidableEq, Repr

structure Layer where
  strategies : Option (List Text) := none
  pad : Option Bool := none
  files : List Path := []
  warnings : List Text := []
  deriving DecidableEq, Repr

namespace Layer

def merge (lower upper : Layer) : Layer where
  strategies := upper.strategies.or lower.strategies
  pad := upper.pad.or lower.pad
  files := lower.files ++ upper.files
  warnings := lower.warnings ++ upper.warnings

def freeze (l : Layer) : Settings := ⟨l.strategies, l.pad.getD true, l.files, l.warnings⟩

end Layer

namespace Settings

def thaw (s : Settings) : Layer := ⟨s.strategies, some s.pad, s.files, s.warnings⟩

def toTable (s : Settings) : Value :=
  .object [("recovery", .object (("pad-shortened-lines".toList, .bool s.pad) ::
    match s.strategies with
    | none => []
    | some names => [("strategies".toList, .list (names.map .text))]))]

end Settings

end ParseRepair.Config
