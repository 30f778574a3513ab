import ParseRepair.Diff.Alignment
import ParseRepair.Logging.Record
import ParseRepair.Text.Lines

namespace ParseRepair.Diff

open Logging

inductive Edit
  | keep (line : Text)
  | remove (line : Text)
  | insert (line : Text)
  deriving DecidableEq, Repr

namespace Edit

def old? : Edit → Option Text
  | keep l => some l
  | remove l => some l
  | insert _ => none

def new? : Edit → Option Text
  | keep l => some l
  | remove _ => none
  | insert l => some l

def text : Edit → Text
  | keep l => ' ' :: l
  | remove l => '-' :: l
  | insert l => '+' :: l

end Edit

structure Hunk where
  oldStart : Nat
  newStart : Nat
  edits : List Edit
  deriving DecidableEq, Repr

namespace Hunk

def old (h : Hunk) : List Text := h.edits.filterMap Edit.old?

def new (h : Hunk) : List Text := h.edits.filterMap Edit.new?

def append (h : Hunk) (edits : List Edit) : Hunk := { h with edits := h.edits ++ edits }

def keeping (h : Hunk) (lines : List Text) : Hunk := h.append (lines.map .keep)

/-- Lines are counted from one. No lines are said to stand behind the line in front of them. -/
def range (start count : Nat) : Text :=
  if count = 1 then .ofNat (start + 1)
  else .concat [.ofNat (if count = 0 then start else start + 1), ",", .ofNat count]

def header (h : Hunk) : Text :=
  .concat ["@@ -", range h.oldStart h.old.length, " +", range h.newStart h.new.length, " @@"]

def lines (h : Hunk) : List Text := h.header :: h.edits.map Edit.text

end Hunk

def context : Nat := 3

def leading (oldEnd newEnd : Nat) (lines : List Text) : Hunk :=
  let shown := lines.drop (lines.length - context)
  ⟨oldEnd - shown.length, newEnd - shown.length, shown.map .keep⟩

def editsOf (old new : List Text) : List Edit := old.map .remove ++ new.map .insert

/-- The hunks from a place on. `i` and `j` count the lines in front of the place, `current` is the
hunk that is being built. Two changes share a hunk unless more lines lie between them than would be
shown around both. -/
def hunksFrom : Nat → Nat → Option Hunk → List (Segment Text) → List Hunk
  | _, _, current, [] => current.toList
  | _, _, none, [.same _] => []
  | _, _, some h, [.same xs] => [h.keeping (xs.take context)]
  | i, j, none, .same xs :: r =>
    let (i, j) := (i + xs.length, j + xs.length)
    hunksFrom i j (some (leading i j xs)) r
  | i, j, some h, .same xs :: r =>
    let (i, j) := (i + xs.length, j + xs.length)
    if 2 * context < xs.length then
      h.keeping (xs.take context) :: hunksFrom i j (some (leading i j xs)) r
    else hunksFrom i j (some (h.keeping xs)) r
  | i, j, current, .changed old new :: r =>
    hunksFrom (i + old.length) (j + new.length)
      (some ((current.getD ⟨i, j, []⟩).append (editsOf old new))) r

def hunks (old new : List Text) : List Hunk := hunksFrom 0 0 none (align old new)

def fileLines (name : Text) : List Text :=
  [.concat ["--- ", name, " (original)"], .concat ["+++ ", name, " (patched)"]]

def unifiedLines (name : Text) (old new : List Text) : List Text :=
  match hunks old new with
  | [] => []
  | hs => fileLines name ++ hs.flatMap Hunk.lines

def diffLines (name old new : Text) : List Text :=
  unifiedLines name (Text.displayLines old) (Text.displayLines new)

def unified (name old new : Text) : Text := Text.unlines (diffLines name old new)

def sizeRecord (diff : List Text) : Record :=
  ⟨.trace, .differences, "Diff lines: ".toList ++ .ofNat diff.length⟩

end ParseRepair.Diff
