import ParseRepair.Diff.Unified
import ParseRepair.Proofs.Text.Digits
import ParseRepair.Proofs.Text.Search

namespace ParseRepair.Diff

open Text

structure Range where
  start : Nat
  count : Nat
  deriving DecidableEq, Repr

/-- The range that is said to begin at a line, counted from one. A range without lines stands behind the line
that it names. -/
def Range.of? (line count : Nat) : Option Range :=
  if count = 0 then some ⟨line, 0⟩
  else if line = 0 then none
  else some ⟨line - 1, count⟩

def readNumber? (t : Text) : Option (Nat × Text) :=
  let (digits, rest) := t.span isAsciiDigit
  if digits.isEmpty then none else some (ofDigits 10 (digits.filterMap decimalDigit?), rest)

def readRange? (t : Text) : Option (Range × Text) := do
  let (line, rest) ← readNumber? t
  match stripStart? "," rest with
  | none => (Range.of? line 1).map (·, rest)
  | some rest => do
    let (count, rest) ← readNumber? rest
    (Range.of? line count).map (·, rest)

def readHeader? (t : Text) : Option (Range × Range) := do
  let t ← stripStart? "@@ -" t
  let (old, t) ← readRange? t
  let t ← stripStart? " +" t
  let (new, t) ← readRange? t
  if t = " @@".toList then some (old, new) else none

def readEdit? : Text → Option Edit
  | ' ' :: l => some (.keep l)
  | '-' :: l => some (.remove l)
  | '+' :: l => some (.insert l)
  | _ => none

def Hunk.of? (old new : Range) (edits : List Edit) : Option Hunk :=
  if old.count = (edits.filterMap Edit.old?).length ∧ new.count = (edits.filterMap Edit.new?).length then
    some ⟨old.start, new.start, edits⟩
  else none

def readHunks? : List Text → Option (List Edit × List Hunk)
  | [] => some ([], [])
  | l :: ls => do
    let (edits, hunks) ← readHunks? ls
    match readEdit? l with
    | some e => some (e :: edits, hunks)
    | none => do
      let (old, new) ← readHeader? l
      let hunk ← Hunk.of? old new edits
      some ([], hunk :: hunks)

theorem readNumber?_ofNat (n : Nat) {rest : Text} (ends : EndsDigits rest) :
    readNumber? (ofNat n ++ rest) = some (n, rest) := by
  have some_digit : (ofNat n).isEmpty = false := by simpa using ofNat_ne_nil n
  rw [readNumber?, span_digits (isAsciiDigit_ofNat n) ends]
  simp only [some_digit, ofDigits_ofNat, Bool.false_eq_true, if_false]

theorem readRange?_range (start count : Nat) {rest : Text} (ends : EndsDigits rest)
    (plain : stripStart? "," rest = none) :
    readRange? (Hunk.range start count ++ rest) = some (⟨start, count⟩, rest) := by
  unfold Hunk.range
  split
  · rename_i single
    rw [single, readRange?, readNumber?_ofNat _ ends]
    simp only [Option.bind_eq_bind, Option.bind_some, plain]
    rfl
  · have comma : EndsDigits (",".toList ++ (ofNat count ++ rest)) := endsDigits_append _ (by decide)
    have behind : stripStart? "," (",".toList ++ (ofNat count ++ rest)) = some (ofNat count ++ rest) :=
      (stripStart?_eq_some_iff _ _ _).mpr rfl
    have shape (line : Nat) : Text.concat [.ofNat line, ",", .ofNat count] ++ rest =
        ofNat line ++ (",".toList ++ (ofNat count ++ rest)) := by
      simp [Text.concat]
    rw [shape, readRange?, readNumber?_ofNat _ comma]
    simp only [Option.bind_eq_bind, Option.bind_some, behind, readNumber?_ofNat _ ends]
    by_cases none_there : count = 0
    · simp [Range.of?, none_there]
    · simp [Range.of?, none_there]

theorem header_eq (h : Hunk) : h.header = "@@ -".toList ++ (Hunk.range h.oldStart h.old.length ++
    (" +".toList ++ (Hunk.range h.newStart h.new.length ++ " @@".toList))) := by
  simp [Hunk.header, Text.concat]

theorem readHeader?_header (h : Hunk) :
    readHeader? h.header = some (⟨h.oldStart, h.old.length⟩, ⟨h.newStart, h.new.length⟩) := by
  have first := readRange?_range h.oldStart h.old.length
    (endsDigits_append (t := " +") (Hunk.range h.newStart h.new.length ++ " @@".toList) (by decide)) rfl
  have second := readRange?_range h.newStart h.new.length (endsDigits_append (t := " @@") [] (by decide)) rfl
  have begins (p t : Text) : stripStart? p (p ++ t) = some t := (stripStart?_eq_some_iff p _ t).mpr rfl
  rw [List.append_nil] at second
  rw [header_eq, readHeader?]
  simp only [Option.bind_eq_bind, Option.bind_some, begins, first, second, if_true]

theorem readEdit?_text (e : Edit) : readEdit? e.text = some e := by
  cases e <;> rfl

theorem readEdit?_header (h : Hunk) : readEdit? h.header = none := rfl

theorem readHunks?_edits (es : List Edit) {ls : List Text} {edits : List Edit} {hunks : List Hunk}
    (rest : readHunks? ls = some (edits, hunks)) :
    readHunks? (es.map Edit.text ++ ls) = some (es ++ edits, hunks) := by
  induction es with
  | nil => exact rest
  | cons e es ih =>
    rw [List.map_cons, List.cons_append, readHunks?, ih]
    simp only [Option.bind_eq_bind, Option.bind_some, readEdit?_text, List.cons_append]

/-- Hunks are read as they were written. -/
theorem readHunks?_lines (hs : List Hunk) : readHunks? (hs.flatMap Hunk.lines) = some ([], hs) := by
  induction hs with
  | nil => rfl
  | cons h hs ih =>
    have edits := readHunks?_edits h.edits ih
    have counts : Hunk.of? ⟨h.oldStart, h.old.length⟩ ⟨h.newStart, h.new.length⟩ h.edits = some h :=
      if_pos ⟨rfl, rfl⟩
    rw [List.append_nil] at edits
    rw [List.flatMap_cons, Hunk.lines, List.cons_append, readHunks?, edits]
    simp only [Option.bind_eq_bind, Option.bind_some, readEdit?_header, readHeader?_header, counts]

end ParseRepair.Diff
