import ParseRepair.Diagnostic.Placement

namespace ParseRepair.Recovery

open Logging

inductive Decision
  | none
  | lineComment
  | textEdit
  deriving DecidableEq, Repr

namespace Decision

def all : List Decision := [.none, .lineComment, .textEdit]

def text : Decision → Text
  | .none => "none"
  | .lineComment => "line comment"
  | .textEdit => "text edit"

def ofText? (t : Text) : Option Decision := all.find? (·.text == t)

end Decision

inductive Verdict
  | leave
  | commentOut
  | edit (text : Text)
  deriving DecidableEq, Repr

namespace Verdict

def decision : Verdict → Decision
  | .leave => .none
  | .commentOut => .lineComment
  | .edit _ => .textEdit

def textAfter (old : Text) : Verdict → Text
  | .edit t => t
  | _ => old

end Verdict

/-- All that a strategy may know of the diagnostics: the messages of the problems on the line and on
its two neighbours, and of the lexical failures on the line. -/
structure Evidence where
  before : List Points := []
  here : List Points := []
  after : List Points := []
  lexical : List Points := []
  deriving DecidableEq, Repr

def Evidence.ofLine (c : Classified) (number : Int) : Evidence where
  before := (c.problems.onLine (number - 1)).map Diagnostic.message
  here := (c.problems.onLine number).map Diagnostic.message
  after := (c.problems.onLine (number + 1)).map Diagnostic.message
  lexical := (c.lexical.onLine number).map LexicalFailure.message

inductive Strategy
  | decompilerArtifacts
  | missingTerminator
  | missingQuote
  | curlyBraces
  deriving DecidableEq, Repr

/-- Decompilers write pseudocode behind two stars. Three forms become statements, any other line
that begins so is commented out. -/
def decompilerArtifacts (t : Text) : Verdict :=
  if Text.contains t "** continue;" then .edit (Text.replaceAll "** continue;" "continue;" t)
  else if Text.contains t "** case " then .edit (Text.replaceAll "** case " "case " t)
  else if Text.contains t "** GOTO " then .edit (Text.replaceAll "** GOTO " "break " t ++ [';'])
  else if Text.startsWith "** " t.trim then .commentOut
  else .leave

/-- The parser does not ask for a semicolon: it found some other token and lists all the assignment
operators that could have followed. -/
def asksForTerminator (message : Points) : Bool :=
  Text.contains message "Parse error. Found \"" && Text.contains message "expected one of" &&
    Text.contains message ">>>="

def missingTerminator (here : List Points) (t : Text) : Verdict :=
  match here with
  | [message] =>
    if asksForTerminator message && !t.trim.isEmpty && !Text.endsWith ";" t.trim then
      .edit (t ++ [';'])
    else .leave
  | _ => .leave

def reportsOpenQuote (message : Points) : Bool :=
  Text.contains message "Encountered: \"\\n\"" && Text.contains message "after : \"\\\""

def openFragment (message : Points) : Points :=
  ((Text.afterLast? "after : \"\\" message).getD []).dropLast

def literalLength (rest : Text) : Nat :=
  ((Text.find? ")" rest).or (Text.find? ";" rest)).getD rest.length

/-- A literal of filler characters that ends where the open one at `start` should have. Its two
quotes and the filler fill what the text before and behind it leaves of the line. -/
def closeLiteral (t : Text) (start : Nat) : Text :=
  let rest := t.drop (start + 1)
  let behind := rest.drop (literalLength rest)
  let filler := max 1 (t.length - start - behind.length - 2)
  t.take start ++ '"' :: List.replicate filler '?' ++ '"' :: behind

def fragmentStart? (t : Text) (fragment : Points) : Option Nat :=
  if fragment.isEmpty then none else Text.find? fragment t.points

def fragment? (lexical : List Points) : Option Points :=
  match lexical with
  | [message] => if reportsOpenQuote message then some (openFragment message) else none
  | _ => none

def missingQuote (lexical : List Points) (t : Text) : Verdict :=
  match (fragment? lexical).bind (fragmentStart? t) with
  | some start => .edit (closeLiteral t start)
  | none => .leave

def expectsClosing (message : Points) : Bool := Text.contains message "expected \"\x7d\""

def expectsOpening (message : Points) : Bool := Text.contains message "expected \"\x7b\""

/-- A line with problems is commented out, and so are the line after an expected closing brace and
the line before an expected opening one. A line with a problem about a brace is kept. -/
def curlyBraces (e : Evidence) : Verdict :=
  if !e.here.isEmpty && !e.here.any (fun m => expectsClosing m || expectsOpening m) then
    .commentOut
  else if e.before.any expectsClosing then .commentOut
  else if e.after.any expectsOpening then .commentOut
  else .leave

namespace Strategy

def all : List Strategy := [.decompilerArtifacts, .missingTerminator, .missingQuote, .curlyBraces]

def name : Strategy → Text
  | .decompilerArtifacts => "decompiler_artifacts"
  | .missingTerminator => "missing_terminator"
  | .missingQuote => "missing_quote"
  | .curlyBraces => "curly_braces"

def summary : Strategy → Text
  | .decompilerArtifacts => "Rewrite or comment out '** ...' decompiler pseudocode"
  | .missingTerminator => "Append ';' to an unfinished expression statement"
  | .missingQuote => "Close a string literal left open at end of line"
  | .curlyBraces => "Comment out lines around brace mismatches and other structural problems"

def ofName? (name : Text) : Option Strategy := all.find? (·.name == name)

def verdict (e : Evidence) (t : Text) : Strategy → Verdict
  | .decompilerArtifacts => Recovery.decompilerArtifacts t
  | .missingTerminator => Recovery.missingTerminator e.here t
  | .missingQuote => Recovery.missingQuote e.lexical t
  | .curlyBraces => Recovery.curlyBraces e

def notes (number : Int) (e : Evidence) (t : Text) : Strategy → List Record
  | .missingQuote =>
    match fragment? e.lexical with
    | some fragment =>
      if (fragmentStart? t fragment).isSome then []
      else [⟨.trace, .strategies, .concat ["Line ", .ofInt number, ": offending fragment ",
        fragment.quoted, " not found"]⟩]
    | none => []
  | _ => []

def firedRecord (number : Int) (s : Strategy) (d : Decision) : Record :=
  ⟨.debug, .strategies, .concat ["Line ", .ofInt number, ": ", s.name, " -> ", d.text]⟩

end Strategy

abbrev Pipeline := List Strategy

namespace Pipeline

def firstVerdict? (e : Evidence) (t : Text) (p : Pipeline) : Option (Strategy × Verdict) :=
  p.findSome? fun s =>
    match s.verdict e t with
    | .leave => none
    | v => some (s, v)

def notes (number : Int) (e : Evidence) (t : Text) : Pipeline → List Record
  | [] => []
  | s :: r =>
    match s.verdict e t with
    | .leave => s.notes number e t ++ notes number e t r
    | v => [s.firedRecord number v.decision]

def unknownNames (names : List Text) : List Text :=
  ((names.filter fun n => (Strategy.ofName? n).isNone).eraseDups).mergeSort Text.le

/-- The strategies of the given names, in the order of `Strategy.all`. Without names all of them. -/
def select : Option (List Text) → Pipeline
  | none => Strategy.all
  | some names => Strategy.all.filter (names.contains ·.name)

def selectNotes : Option (List Text) → List Record
  | none => []
  | some names =>
    match unknownNames names with
    | [] => []
    | unknown => [⟨.warning, .strategies,
        "Ignoring unknown recovery strategies: ".toList ++ .sepBy ", " unknown⟩]

end Pipeline

end ParseRepair.Recovery
