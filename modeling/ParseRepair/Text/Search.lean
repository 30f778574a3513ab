import ParseRepair.Text.Blank

namespace ParseRepair.Text

section Search

variable {α : Type} [DecidableEq α]

def stripStart? : List α → List α → Option (List α)
  | [], t => some t
  | _ :: _, [] => none
  | p :: ps, c :: cs => if p = c then stripStart? ps cs else none

def startsWith (p t : List α) : Bool := (stripStart? p t).isSome

def endsWith (p t : List α) : Bool := startsWith p.reverse t.reverse

def find? (p : List α) : List α → Option Nat
  | [] => if p.isEmpty then some 0 else none
  | c :: r => if startsWith p (c :: r) then some 0 else (find? p r).map (· + 1)

def contains (t p : List α) : Bool := (find? p t).isSome

def afterLast? (p : List α) : List α → Option (List α)
  | [] => stripStart? p []
  | c :: r => (afterLast? p r).or (stripStart? p (c :: r))

end Search

/-- Replaces the leftmost matches that do not overlap. `size` says how many characters a match that
begins here takes, `skip` counts those of the last match that are still to pass. -/
def replaceFrom (size : Text → Option Nat) (f : Text → Text) : Nat → Text → Text
  | _, [] => []
  | skip + 1, _ :: r => replaceFrom size f skip r
  | 0, c :: r =>
    match size (c :: r) with
    | some (n + 1) => f ((c :: r).take (n + 1)) ++ replaceFrom size f n r
    | _ => c :: replaceFrom size f 0 r

def replaceMatches (size : Text → Option Nat) (f : Text → Text) (t : Text) : Text :=
  replaceFrom size f 0 t

def replaceAll (p q t : Text) : Text :=
  replaceMatches (fun r => if startsWith p r then some p.length else none) (fun _ => q) t

def cutAt? (c : Char) : Text → Option (Text × Text)
  | [] => none
  | d :: r => if d = c then some ([], r) else (cutAt? c r).map fun (a, b) => (d :: a, b)

def splitAt (c : Char) : Text → List Text
  | [] => [[]]
  | d :: r =>
    if d = c then [] :: splitAt c r
    else match splitAt c r with
      | [] => [[d]]
      | p :: ps => (d :: p) :: ps

def le : Text → Text → Bool
  | [], _ => true
  | _ :: _, [] => false
  | a :: as, b :: bs => a.toNat < b.toNat || (a == b && le as bs)

end ParseRepair.Text
