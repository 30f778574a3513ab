import Mathlib.Data.List.Forall2
import ParseRepair.Diagnostic.Document
import ParseRepair.Proofs.Json.Nesting
import ParseRepair.Proofs.Traced

namespace ParseRepair

namespace Value

variable {α : Type}

theorem isNull_iff (v : Value α) : v.isNull = true ↔ v = .null := by
  cases v <;> simp [isNull]

variable [DecidableEq α]

def Unset (key : List α) (fields : Fields α) : Prop :=
  lookup? key fields = none ∨ lookup? key fields = some .null

theorem setting?_eq_none_iff (key : List α) (fields : Fields α) : setting? key fields = none ↔ Unset key fields := by
  unfold setting? Unset
  cases lookup? key fields with
  | none => simp
  | some v => simp [Option.filter_some, isNull_iff]

theorem setting?_eq_some_iff (key : List α) (fields : Fields α) (v : Value α) :
    setting? key fields = some v ↔ lookup? key fields = some v ∧ v ≠ .null := by
  simp [setting?, Option.filter_eq_some_iff, ← isNull_iff]

end Value

open Value (lookup? Unset)

inductive Position.Form : Json.Value → Position → Prop
  | line {fields : Json.Value.Fields} {line : Int} (held : lookup? "line" fields = some (.int line))
    (noColumn : lookup? "column" fields = none) : Position.Form (.object fields) ⟨line, 1⟩
  | both {fields : Json.Value.Fields} {line column : Int} (held : lookup? "line" fields = some (.int line))
    (held' : lookup? "column" fields = some (.int column)) : Position.Form (.object fields) ⟨line, column⟩

inductive Span.Form : Json.Value → Span → Prop
  | begun {fields : Json.Value.Fields} {first : Json.Value} {start : Position}
    (held : lookup? "begin" fields = some first)
    (begins : Position.Form first start) (noEnd : Unset "end" fields) : Span.Form (.object fields) ⟨start, none⟩
  | ended {fields : Json.Value.Fields} {first last : Json.Value} {start stop : Position}
    (held : lookup? "begin" fields = some first) (begins : Position.Form first start)
    (held' : lookup? "end" fields = some last) (ends : Position.Form last stop) :
    Span.Form (.object fields) ⟨start, some stop⟩

/-- The value gives a diagnostic: a message with a span, with a line of its own, or with neither. -/
inductive Diagnostic.Form : Json.Value → Diagnostic → Prop
  | nested {fields : Json.Value.Fields} {message : Points} {v : Json.Value} {span : Span}
    (text : lookup? "message" fields = some (.text message)) (held : lookup? "span" fields = some v)
    (spans : Span.Form v span) : Diagnostic.Form (.object fields) ⟨message, some span⟩
  | flat {fields : Json.Value.Fields} {message : Points} {start : Position}
    (text : lookup? "message" fields = some (.text message)) (noSpan : Unset "span" fields)
    (begins : Position.Form (.object fields) start) : Diagnostic.Form (.object fields) ⟨message, some ⟨start, none⟩⟩
  | bare {fields : Json.Value.Fields} {message : Points} (text : lookup? "message" fields = some (.text message))
    (noSpan : Unset "span" fields) (noLine : Unset "line" fields) : Diagnostic.Form (.object fields) ⟨message, none⟩

section Form

variable {v : Json.Value}

theorem Position.Form.ne_null {p : Position} (form : Position.Form v p) : v ≠ .null := by
  cases form <;> exact fun same => nomatch same

theorem Position.Form.line_held {p : Position} {fields : Json.Value.Fields} (form : Position.Form (.object fields) p) :
    ∃ line, lookup? "line" fields = some (.int line) := by
  cases form with
  | line held => exact ⟨_, held⟩
  | both held => exact ⟨_, held⟩

theorem Span.Form.ne_null {s : Span} (form : Span.Form v s) : v ≠ .null := by
  cases form <;> exact fun same => nomatch same

theorem Position.ofValue_eq_ok_iff (p : Position) : Position.ofValue v = .ok p ↔ Position.Form v p := by
  constructor
  · intro read
    unfold Position.ofValue at read
    split at read
    · split at read
      · rename_i line held
        split at read
        · rename_i noColumn
          cases read
          exact .line held noColumn
        · rename_i column held'
          cases read
          exact .both held held'
        · cases read
      · cases read
    · cases read
  · intro form
    cases form with
    | line held noColumn => simp only [Position.ofValue, held, noColumn]
    | both held held' => simp only [Position.ofValue, held, held']

theorem Span.ofValue_eq_ok_iff (s : Span) : Span.ofValue v = .ok s ↔ Span.Form v s := by
  constructor
  · intro read
    unfold Span.ofValue at read
    split at read
    · split at read
      · cases read
      · rename_i first held
        obtain ⟨start, begins, read⟩ := except_bind_eq_ok_iff.mp read
        have begins := (Position.ofValue_eq_ok_iff start).mp begins
        split at read
        · rename_i noEnd
          cases read
          exact .begun held begins ((Value.setting?_eq_none_iff _ _).mp noEnd)
        · rename_i last held'
          obtain ⟨stop, ends, read⟩ := except_bind_eq_ok_iff.mp read
          cases read
          exact .ended held begins ((Value.setting?_eq_some_iff _ _ _).mp held').1
            ((Position.ofValue_eq_ok_iff stop).mp ends)
    · cases read
  · intro form
    cases form with
    | begun held begins noEnd =>
      have begins := (Position.ofValue_eq_ok_iff _).mpr begins
      have noEnd := (Value.setting?_eq_none_iff _ _).mpr noEnd
      simp only [Span.ofValue, held, begins, noEnd, bind, Except.bind]
    | ended held begins held' ends =>
      have begins := (Position.ofValue_eq_ok_iff _).mpr begins
      have held' := (Value.setting?_eq_some_iff _ _ _).mpr ⟨held', ends.ne_null⟩
      have ends := (Position.ofValue_eq_ok_iff _).mpr ends
      simp only [Span.ofValue, held, begins, held', ends, bind, Except.bind]

theorem Diagnostic.ofValue_eq_ok_iff (d : Diagnostic) : Diagnostic.ofValue v = .ok d ↔ Diagnostic.Form v d := by
  constructor
  · intro read
    unfold Diagnostic.ofValue at read
    split at read
    · split at read
      · rename_i message text
        split at read
        · rename_i held
          obtain ⟨span, spans, read⟩ := except_bind_eq_ok_iff.mp read
          cases read
          exact .nested text ((Value.setting?_eq_some_iff _ _ _).mp held).1 ((Span.ofValue_eq_ok_iff span).mp spans)
        · rename_i noSpan
          have noSpan := (Value.setting?_eq_none_iff _ _).mp noSpan
          split at read
          · obtain ⟨start, begins, read⟩ := except_bind_eq_ok_iff.mp read
            cases read
            exact .flat text noSpan ((Position.ofValue_eq_ok_iff start).mp begins)
          · rename_i noLine
            cases read
            exact .bare text noSpan ((Value.setting?_eq_none_iff _ _).mp noLine)
      · cases read
    · cases read
  · intro form
    cases form with
    | nested text held spans =>
      have held := (Value.setting?_eq_some_iff _ _ _).mpr ⟨held, spans.ne_null⟩
      have spans := (Span.ofValue_eq_ok_iff _).mpr spans
      simp only [Diagnostic.ofValue, text, held, spans, bind, Except.bind]
    | flat text noSpan begins =>
      obtain ⟨line, held⟩ := begins.line_held
      have noSpan := (Value.setting?_eq_none_iff _ _).mpr noSpan
      have someLine := (Value.setting?_eq_some_iff _ _ _).mpr ⟨held, fun same => nomatch same⟩
      have begins := (Position.ofValue_eq_ok_iff _).mpr begins
      simp only [Diagnostic.ofValue, text, noSpan, someLine, begins, bind, Except.bind]
    | bare text noSpan noLine =>
      have noSpan := (Value.setting?_eq_none_iff _ _).mpr noSpan
      have noLine := (Value.setting?_eq_none_iff _ _).mpr noLine
      simp only [Diagnostic.ofValue, text, noSpan, noLine]

end Form

namespace Diagnostic

end Diagnostic

end ParseRepair
