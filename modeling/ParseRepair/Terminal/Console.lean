import ParseRepair.Terminal.Paint

namespace ParseRepair.Terminal

structure Style where
  foreground : Option Nat := none
  bold : Option Bool := none
  underline : Option Bool := none
  deriving DecidableEq, Repr

namespace Style

def foregroundCode? (name : Text) : Option Nat :=
  (colours.find? (·.1 == name)).map Prod.snd
where
  colours : List (Text × Nat) :=
    [("black", 30), ("red", 31), ("green", 32), ("yellow", 33), ("blue", 34), ("magenta", 35),
      ("cyan", 36), ("white", 37), ("reset", 39), ("bright_black", 90), ("bright_red", 91),
      ("bright_green", 92), ("bright_yellow", 93), ("bright_blue", 94), ("bright_magenta", 95),
      ("bright_cyan", 96), ("bright_white", 97)]

def isEmpty (s : Style) : Bool := s.foreground.isNone && s.bold.isNone && s.underline.isNone

def codes (s : Style) : List Nat :=
  s.foreground.toList ++ (s.bold.map fun b => if b then 1 else 22).toList ++
    (s.underline.map fun b => if b then 4 else 24).toList

def apply (s : Style) (t : Text) : Text := s.codes.flatMap select ++ t ++ select 0

end Style

inductive Stream
  | out
  | err
  deriving DecidableEq, Repr

structure Console where
  color : Bool
  deriving DecidableEq, Repr

namespace Console

def warning : Style := { foreground := some 33 }

def failure : Style := { foreground := some 91 }

def styled (c : Console) (s : Style) (t : Text) : Text := if c.color then s.apply t else t

def shown (c : Console) (t : Text) : Text := if c.color then t else strip t

def ended (newline : Bool) (t : Text) : Text := if newline then t ++ ['\n'] else t

def message (c : Console) (s : Style) (newline : Bool) (t : Text) : Text :=
  c.shown (ended newline (if s.isEmpty then t else c.styled s t))

end Console

end ParseRepair.Terminal
