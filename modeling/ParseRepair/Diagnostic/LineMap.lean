namespace ParseRepair

/-- Lists by line number. Lines stand in the order in which they were first seen. -/
abbrev LineMap (α : Type) := List (Int × List α)

namespace LineMap

variable {α : Type}

def onLine (line : Int) : LineMap α → List α
  | [] => []
  | (n, xs) :: r => if n = line then xs else onLine line r

def add (line : Int) (x : α) : LineMap α → LineMap α
  | [] => [(line, [x])]
  | (n, xs) :: r => if n = line then (n, xs ++ [x]) :: r else (n, xs) :: add line x r

end LineMap

end ParseRepair
