import ParseRepair.Text.Points

namespace ParseRepair

structure Position where
  line : Int
  column : Int
  deriving DecidableEq, Repr

structure Span where
  start : Position
  stop : Option Position := none
  deriving DecidableEq, Repr

/-- A problem that a parser reported. One that its lexer gave up on has no span. -/
structure Diagnostic where
  message : Points
  span : Option Span := none
  deriving DecidableEq, Repr

structure LexicalFailure where
  diagnostic : Diagnostic
  line : Int
  column : Int
  deriving DecidableEq, Repr

def Diagnostic.locatedAt (message : Points) (line : Int) (column : Int := 1) : Diagnostic :=
  ⟨message, some ⟨⟨line, column⟩, none⟩⟩

def LexicalFailure.message (f : LexicalFailure) : Points := f.diagnostic.message

end ParseRepair
