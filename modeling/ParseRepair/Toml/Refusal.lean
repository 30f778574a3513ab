import ParseRepair.Text.Digits

namespace ParseRepair.Toml

/-- Why a document is refused though each of its lines can be read: a name is taken, a table is
described twice, a part would go to an indented table whose parts are scattered over the document,
too much lies in each other, or a year is too large to count days in. -/
inductive Refusal
  | taken (name : Text)
  | redefined
  | scattered
  | tooDeep
  | yearTooLarge (year : Nat)
  deriving DecidableEq, Repr

/-- How much may lie in each other. All of it is kept on the stack of the reader: the names of a key, the arrays
and the tables between braces, each of which takes a part of the room for values, and the tables in one that
grows. -/
structure Limits where
  keyNames : Nat
  values : Nat
  perArray : Nat
  perTable : Nat
  growth : Nat
  deriving DecidableEq, Repr

def shortYear : Nat := 0x7FFFFFFF

def longYear : Nat := 0x7FFFFFFFFFFFFFFF

def Refusal.message : Refusal → Text
  | .taken name => .concat ["Key \"", name, "\" already exists."]
  | .redefined => "Redefinition of an existing table"
  | .scattered => "'OutOfOrderTableProxy' object has no attribute 'trivia'"
  | .tooDeep => "maximum recursion depth exceeded"
  | .yearTooLarge year =>
    if longYear < year then "Python int too large to convert to C long"
    else "signed integer is greater than maximum"

end ParseRepair.Toml
