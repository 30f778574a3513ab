import ParseRepair.Logging.Record
import ParseRepair.Terminal.Paint
import ParseRepair.Text.Digits

namespace ParseRepair.Logging

open Terminal (Paint Rendition)

namespace Level

def spellings : List (Text × Level) :=
  [("TRACE", 5), ("DEBUG", 10), ("INFO", 20), ("WARN", 30), ("WARNING", 30), ("ERROR", 40),
    ("CRITICAL", 50), ("FATAL", 50), ("NOTSET", 0)]

/-- Capital letters, as far as names of levels have them. The dotless i and the long s count as
small letters of I and S. -/
def capital (c : Char) : Char :=
  if c == 'ı' then 'I' else if c == 'ſ' then 'S' else c.toUpper

def ofSetting (value : Text) : Except IntegerError (Option Level) :=
  let t := value.trim
  if t.isEmpty then .ok none
  else if t.all fun c => Text.isDecimal c || Text.isDigitSign c then
    (Text.toNat t).map fun n => some (n : Int)
  else .ok ((spellings.find? (·.1 == t.map capital)).map Prod.snd)

/-- The level of the environment, where zero counts as none. -/
def ofEnvironment (value : Option Text) : Except IntegerError (Option Level) :=
  match value with
  | none => .ok none
  | some t => do
    let level ← ofSetting t
    .ok (level.filter (· != 0))

end Level

structure Handler where
  level : Level
  deriving DecidableEq, Repr

namespace Handler

def default (environment : Option Text) : Except IntegerError Handler := do
  .ok ⟨(← Level.ofEnvironment environment).getD Level.critical⟩

def shows (h : Handler) (r : Record) : Bool := 0 < r.level && h.level ≤ r.level

def paints : List (Level × Rendition) :=
  [(Level.critical, .brightRed), (Level.error, .red), (Level.warning, .yellow),
    (Level.info, .green), (Level.debug, .gray), (Level.trace, .blue)]

def paint (level : Level) : Paint :=
  [((paints.find? (·.1 ≤ level)).map Prod.snd).getD .dim]

def line (h : Handler) (r : Record) : Text :=
  if Level.info ≤ h.level then .concat ["[", Level.name r.level, "] ", r.message]
  else .concat ["[", Level.name r.level, "] [", r.channel.name, "] ", r.message]

def format (h : Handler) (r : Record) : Text := (paint r.level).apply (h.line r) ++ ['\n']

def write (h : Handler) (r : Record) : Text := if h.shows r then h.format r else []

end Handler

structure Verbosity where
  verbose : Nat
  quiet : Nat
  deriving DecidableEq, Repr

namespace Verbosity

def conflicting (v : Verbosity) : Bool := 0 < v.verbose && 0 < v.quiet

def level? (v : Verbosity) : Option Level :=
  if v.conflicting then none
  else if 3 ≤ v.verbose then some Level.trace
  else if v.verbose = 2 then some Level.debug
  else if v.verbose = 1 then some Level.info
  else if 1 ≤ v.quiet then some Level.error
  else some Level.warning

def conflictMessage : Text := "The '--verbose' and '--quiet' options are mutually exclusive."

end Verbosity

end ParseRepair.Logging
