import ParseRepair.Diff.Alignment
import ParseRepair.Text.Quoted
import ParseRepair.Text.Search

namespace ParseRepair.Cli

inductive UsageFault
  | noSuchOption (name : Text) (similar : List Text)
  | needsValue (name : Text)
  | takesNoValue (name : Text)
  | missingArgument (name : Text)
  | missingOption (names : List Text)
  | notChoice (names : List Text) (value : Text) (choices : List Text)
  | isDirectory (names : List Text) (path : Text)
  | notReadable (names : List Text) (path : Text)
  | extraArguments (arguments : List Text)
  | noSuchCommand (name : Text)
  deriving DecidableEq, Repr

def optionNames (names : List Text) : Text :=
  Text.sepBy " / " (names.map fun n => '\'' :: n ++ ['\''])

def similarText (similar : List Text) : Text :=
  match similar with
  | [] => []
  | [name] => .concat [" Did you mean ", name, "?"]
  | names => .concat [" (Possible options: ", .sepBy ", " (names.mergeSort Text.le), ")"]

namespace UsageFault

def message : UsageFault → Text
  | noSuchOption name similar => .concat ["No such option: ", name, similarText similar]
  | needsValue name => .concat ["Option ", name.quoted, " requires an argument."]
  | takesNoValue name => .concat ["Option ", name.quoted, " does not take a value."]
  | missingArgument name => .concat ["Missing argument '", name, "'."]
  | missingOption names => .concat ["Missing option ", optionNames names, "."]
  | notChoice names value choices => .concat ["Invalid value for ", optionNames names, ": ",
      value.quoted, " is not one of ", .sepBy ", " (choices.map Text.quoted), "."]
  | isDirectory names path => .concat ["Invalid value for ", optionNames names, ": File ",
      path.quoted, " is a directory."]
  | notReadable names path => .concat ["Invalid value for ", optionNames names, ": File ",
      path.quoted, " is not readable."]
  | extraArguments arguments => .concat ["Got unexpected extra argument",
      if arguments.length = 1 then "" else "s", " (", .sepBy " " arguments, ")"]
  | noSuchCommand name => .concat ["No such command ", name.quoted, "."]

/-- Whether the usage line stands above the message. It does not if only the value of a switch is
wrong: missing, or not wanted. -/
def namesUsage : UsageFault → Bool
  | needsValue _ => false
  | takesNoValue _ => false
  | _ => true

end UsageFault

def likeness (a b : Text) : Nat × Nat :=
  let same := (Diff.align a b).filterMap fun
    | .same xs => some xs.length
    | .changed _ _ => none
  (2 * same.foldl (· + ·) 0, a.length + b.length)

def isSimilar (l : Nat × Nat) : Bool := 3 * l.2 ≤ 5 * l.1

def moreSimilar (a b : Text × Nat × Nat) : Bool :=
  let (x, y) := (a.2.1 * b.2.2, b.2.1 * a.2.2)
  y < x || (x == y && Text.le b.1 a.1)

def similarNames (word : Text) (names : List Text) : List Text :=
  let rated := (names.map fun n => (n, likeness n word)).filter fun r => isSimilar r.2
  ((rated.mergeSort moreSimilar).take 3).map Prod.fst

end ParseRepair.Cli
