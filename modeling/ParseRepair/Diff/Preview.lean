import ParseRepair.Terminal.Paint
import ParseRepair.Text.Lines

namespace ParseRepair.Diff

open Terminal (Paint)

def linePaint : Text → Paint
  | '-' :: _ => [.bold, .red]
  | '+' :: _ => [.bold, .green]
  | '@' :: _ => [.cyan]
  | _ => [.bold, .white]

def escapeBreaks (line : Text) : Text :=
  line.flatMap fun c => if c == '\r' then ['\\', 'r'] else if c == '\n' then ['\\', 'n'] else [c]

def previewLine (line : Text) : Text := (linePaint line).apply (escapeBreaks line)

def lineNumber (n : Nat) : Text := Text.padLeft 4 '0' (.ofNat n) ++ ['|']

def previewLines (numbered : Bool) (lines : List Text) : Text :=
  Text.unlines ((lines.zipIdx 1).map fun (line, n) =>
    (if numbered then lineNumber n else []) ++ previewLine line)

def preview (numbered : Bool) (diff : Text) : Text := previewLines numbered (Text.displayLines diff)

end ParseRepair.Diff
