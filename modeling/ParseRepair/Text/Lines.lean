import ParseRepair.Text.Blank

namespace ParseRepair.Text

def consFirst (c : Char) : List Text → List Text
  | [] => [[c]]
  | l :: ls => (c :: l) :: ls

/-- The lines of a text, where CRLF is one break. A break ends a line, so a break at the end of the
text starts no further line. -/
def linesBy (isBreak : Char → Bool) : Text → List Text
  | [] => []
  | '\r' :: '\n' :: r => [] :: linesBy isBreak r
  | c :: r => if isBreak c then [] :: linesBy isBreak r else consFirst c (linesBy isBreak r)

def isLineEnd (c : Char) : Bool := c == '\r' || c == '\n'

def sourceLines (t : Text) : List Text := linesBy isLineEnd t

/-- Besides CR and LF, the separators that a text display starts a new line after. -/
def isDisplayBreak (c : Char) : Bool :=
  let n := c.toNat
  (0xA ≤ n && n ≤ 0xD) || (0x1C ≤ n && n ≤ 0x1E) || n == 0x85 || n == 0x2028 || n == 0x2029

def displayLines (t : Text) : List Text := linesBy isDisplayBreak t

def unlines (ls : List Text) : Text := ls.flatMap (· ++ ['\n'])

def normalizeBreaks : Text → Text
  | [] => []
  | '\r' :: '\n' :: r => '\n' :: normalizeBreaks r
  | c :: r => (if c == '\r' then '\n' else c) :: normalizeBreaks r

end ParseRepair.Text
