import ParseRepair.Text.Quoted
import ParseRepair.Text.Search

namespace ParseRepair

/-- A path as it was given, without empty parts and single dots. Double dots stay, for only the file
system knows what they lead to. -/
structure Path where
  /-- How many slashes it begins with: none, one or, in its own right, two. -/
  root : Nat
  parts : List Text
  deriving DecidableEq, Repr

namespace Path

def rootSize (t : Text) : Nat :=
  match (t.takeWhile (· == '/')).length with
  | 0 => 0
  | 2 => 2
  | _ => 1

def ofText (t : Text) : Path :=
  ⟨rootSize t, (Text.splitAt '/' t).filter fun p => !p.isEmpty && p != ['.']⟩

def isAbsolute (p : Path) : Bool := p.root != 0

def text (p : Path) : Text :=
  let t := List.replicate p.root '/' ++ Text.sepBy "/" p.parts
  if t.isEmpty then ['.'] else t

def name (p : Path) : Text := p.parts.getLastD []

def hasNull (p : Path) : Bool := p.parts.any fun part => part.any (· == '\x00')

def parent (p : Path) : Path := { p with parts := p.parts.dropLast }

end Path

end ParseRepair
