import ParseRepair.Cli.ExitCode
import ParseRepair.Cli.Usage
import ParseRepair.Files.Tree
import ParseRepair.Logging.Setup
import ParseRepair.Terminal.Console
import ParseRepair.Text.Digits
import ParseRepair.Toml.Refusal
import ParseRepair.Traced

namespace ParseRepair.Cli

open Logging
open Terminal (Console Stream)

inductive Emission
  | log (r : Record)
  | write (s : Stream) (t : Text)
  deriving DecidableEq, Repr

/-- A failure that no message is made for. -/
inductive Crash
  | integer (e : IntegerError)
  | undecodable (e : Utf8.DecodeError)
  | system (e : Files.SystemError)
  | nullByte
  | loop (path : Text)
  | tooDeep (message : Text)
  | refused (r : Toml.Refusal)
  deriving DecidableEq, Repr

def Crash.message : Crash → Text
  | .integer e => e.message
  | .undecodable e => e.message
  | .system e => e.message
  | .nullByte => Files.AccessError.nullByte.message
  | .loop path => Files.loopMessage path
  | .tooDeep message => message
  | .refused r => r.message

structure Synopsis where
  name : Text
  operands : Text
  deriving DecidableEq, Repr

inductive Ending
  | exit (code : ExitCode)
  | refused (synopsis : Synopsis) (fault : UsageFault)
  | failed (code : ExitCode) (message : Text)
  | crashed (c : Crash)
  deriving DecidableEq, Repr

def Synopsis.line (s : Synopsis) : Text := .concat ["Usage: ", s.name, " ", s.operands, "\n"]

def Synopsis.hint (s : Synopsis) : Text := .concat ["Try '", s.name, " -h' for help.\n"]

def errorText (message : Text) : Text := .concat ["Error: ", message, "\n"]

namespace Ending

/-- The status of a command line that was refused is the one that a change has, too. -/
def status : Ending → Nat
  | exit code => code.number
  | refused _ _ => 2
  | failed code _ => code.number
  | crashed _ => 1

def text : Ending → Text
  | exit _ => []
  | refused synopsis fault =>
    if fault.namesUsage then
      .concat [synopsis.line, synopsis.hint, "\n", errorText fault.message]
    else errorText fault.message
  | failed _ message => errorText message
  | crashed _ => []

def crash? : Ending → Option Crash
  | crashed c => some c
  | _ => none

end Ending

abbrev Step (α : Type) := Traced Emission Ending α

namespace Step

variable {α : Type}

def write (s : Stream) (t : Text) : Step Unit := Traced.emit (.write s t)

def exit (code : ExitCode) : Step α := Traced.fail (.exit code)

def failed (code : ExitCode) (message : Text) : Step α := Traced.fail (.failed code message)

def crashed (c : Crash) : Step α := Traced.fail (.crashed c)

def log (r : Record) : Step Unit := Traced.emit (.log r)

def logged {ε : Type} (toEnding : ε → Ending) (x : Traced Record ε α) : Step α :=
  (x.mapTrace .log).mapError toEnding

def print (c : Console) (newline : Bool) (t : Text) : Step Unit :=
  write .out (c.message {} newline t)

def printLine (c : Console) (t : Text) : Step Unit := print c true t

def warn (c : Console) (t : Text) : Step Unit := write .err (c.message Console.warning true t)

end Step

structure Result where
  status : Nat
  out : Text
  err : Text
  crash : Option Crash := none
  deriving DecidableEq, Repr

def Emission.out : Emission → Text
  | .write .out t => t
  | _ => []

def Emission.err (h : Handler) : Emission → Text
  | .write .err t => t
  | .write .out _ => []
  | .log r => h.write r

def Result.ofStep (h : Handler) (c : Console) (x : Step Unit) : Result :=
  let out := x.trace.flatMap Emission.out
  let err := x.trace.flatMap (Emission.err h)
  match x.outcome with
  | .ok () => ⟨0, out, err, none⟩
  | .error e => ⟨e.status, out, err ++ c.shown e.text, e.crash?⟩

end ParseRepair.Cli
