import ParseRepair.Diagnostic
import ParseRepair.Value.Spelling

namespace ParseRepair

namespace Diagnostic

inductive FormatError
  | notObject (entry : Json.Value)
  | noMessage (entry : Json.Value)
  | malformedSpan (span : Json.Value)
  | malformedPosition (position : Json.Value)
  | lineNotInteger (position : Json.Value)
  | columnNotInteger (position : Json.Value)

def FormatError.message : FormatError → Text
  | .notObject v => "Diagnostic entry must be an object: ".toList ++ v.spell
  | .noMessage v => "Diagnostic without a string 'message': ".toList ++ v.spell
  | .malformedSpan v => "Malformed 'span' in diagnostic: ".toList ++ v.spell
  | .malformedPosition v => "Malformed position: ".toList ++ v.spell
  | .lineNotInteger v => "Position 'line' must be an integer: ".toList ++ v.spell
  | .columnNotInteger v => "Position 'column' must be an integer: ".toList ++ v.spell

end Diagnostic

open Diagnostic (FormatError)

def Position.ofValue (v : Json.Value) : Except FormatError Position :=
  match v with
  | .object fields =>
    match Value.lookup? "line" fields with
    | some (.int line) =>
      match Value.lookup? "column" fields with
      | none => .ok ⟨line, 1⟩
      | some (.int column) => .ok ⟨line, column⟩
      | some _ => .error (.columnNotInteger v)
    | _ => .error (.lineNotInteger v)
  | _ => .error (.malformedPosition v)

def Value.setting? {α : Type} [DecidableEq α] (key : List α) (fields : Value.Fields α) : Option (Value α) :=
  (Value.lookup? key fields).filter (!·.isNull)

def Span.ofValue (v : Json.Value) : Except FormatError Span :=
  match v with
  | .object fields =>
    match Value.lookup? "begin" fields with
    | none => .error (.malformedSpan v)
    | some first => do
      let start ← Position.ofValue first
      match Value.setting? "end" fields with
      | none => .ok ⟨start, none⟩
      | some last => do
        let stop ← Position.ofValue last
        .ok ⟨start, some stop⟩
  | _ => .error (.malformedSpan v)

/-- A diagnostic has a message and at most one place: a span, or a line and a column of its own. The
span goes first. -/
def Diagnostic.ofValue (v : Json.Value) : Except FormatError Diagnostic :=
  match v with
  | .object fields =>
    match Value.lookup? "message" fields with
    | some (.text message) =>
      match Value.setting? "span" fields with
      | some span => do
        let span ← Span.ofValue span
        .ok ⟨message, some span⟩
      | none =>
        match Value.setting? "line" fields with
        | some _ => do
          let start ← Position.ofValue v
          .ok ⟨message, some ⟨start, none⟩⟩
        | none => .ok ⟨message, none⟩
    | _ => .error (.noMessage v)
  | _ => .error (.notObject v)

def Position.toValue (p : Position) : Json.Value :=
  .object [("line", .int p.line), ("column", .int p.column)]

def Span.toValue (s : Span) : Json.Value :=
  .object (("begin".toList, s.start.toValue) ::
    match s.stop with
    | none => []
    | some p => [("end".toList, p.toValue)])

def Diagnostic.toValue (d : Diagnostic) : Json.Value :=
  .object (("message".toList, .text d.message) ::
    match d.span with
    | none => []
    | some s => [("span".toList, s.toValue)])

end ParseRepair
