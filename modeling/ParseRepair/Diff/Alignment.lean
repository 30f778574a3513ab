namespace ParseRepair.Diff

variable {α : Type} [DecidableEq α]

inductive Segment (α : Type)
  | same (xs : List α)
  | changed (old new : List α)
  deriving DecidableEq, Repr

namespace Segment

def old : Segment α → List α
  | same xs => xs
  | changed xs _ => xs

def new : Segment α → List α
  | same xs => xs
  | changed _ ys => ys

def isChanged : Segment α → Bool
  | same _ => false
  | changed _ _ => true

end Segment

structure Run where
  left : Nat
  right : Nat
  size : Nat
  deriving DecidableEq, Repr

/-- The lengths of the runs that end at an element and at each element of `ys`. `diagonal` has those
that end just before. Only elements that anchor are counted. -/
def nextRow (anchor : α → Bool) (x : α) : List Nat → List α → List Nat
  | d :: ds, y :: ys => (if x = y && anchor y then d + 1 else 0) :: nextRow anchor x ds ys
  | _, _ => []

def longerInRow (i : Nat) (best : Run) : Nat → List Nat → Run
  | _, [] => best
  | j, k :: ks => longerInRow i (if best.size < k then ⟨i + 1 - k, j + 1 - k, k⟩ else best) (j + 1) ks

def longestFrom (anchor : α → Bool) (ys : List α) : Nat → List Nat → Run → List α → Run
  | _, _, best, [] => best
  | i, row, best, x :: xs =>
    let row := nextRow anchor x (0 :: row) ys
    longestFrom anchor ys (i + 1) row (longerInRow i best 0 row) xs

def longest (anchor : α → Bool) (xs ys : List α) : Run :=
  longestFrom anchor ys 0 (ys.map fun _ => 0) ⟨0, 0, 0⟩ xs

def commonSize : List α → List α → Nat
  | x :: xs, y :: ys => if x = y then commonSize xs ys + 1 else 0
  | _, _ => 0

def runStart (anchor : α → Bool) (xs ys : List α) : Nat × Nat :=
  let r := longest anchor xs ys
  let back := commonSize (xs.take r.left).reverse (ys.take r.right).reverse
  (r.left - back, r.right - back)

def changed? (xs ys : List α) : List (Segment α) :=
  if xs.isEmpty && ys.isEmpty then [] else [.changed xs ys]

/-- Aligns two lists at their longest run, and then what is before the run and what is behind it. -/
def alignFrom (anchor : α → Bool) : Nat → List α → List α → List (Segment α)
  | 0, xs, ys => changed? xs ys
  | fuel + 1, xs, ys =>
    let (i, j) := runStart anchor xs ys
    let size := commonSize (xs.drop i) (ys.drop j)
    if size = 0 then changed? xs ys
    else alignFrom anchor fuel (xs.take i) (ys.take j) ++ .same ((xs.drop i).take size) ::
      alignFrom anchor fuel (xs.drop (i + size)) (ys.drop (j + size))

def joinSame : List (Segment α) → List (Segment α)
  | [] => []
  | .same xs :: r =>
    match joinSame r with
    | .same ys :: r => .same (xs ++ ys) :: r
    | r => .same xs :: r
  | s :: r => s :: joinSame r

def popular (ys : List α) : List α :=
  if ys.length < 200 then []
  else ys.eraseDups.filter fun y => ys.length / 100 + 1 < ys.count y

def align (xs ys : List α) : List (Segment α) :=
  let tooOften := popular ys
  joinSame (alignFrom (fun y => !tooOften.contains y) (xs.length + 1) xs ys)

end ParseRepair.Diff
