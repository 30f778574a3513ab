import ParseRepair.Proofs.Diagnostic.Form
import ParseRepair.Proofs.Json.Breaks
import ParseRepair.Proofs.Text.Utf8

namespace ParseRepair.Diagnostic

inductive FailureKind
  | form
  | integer
  | recursion
  | decoding
  deriving DecidableEq, Repr

def DocumentError.kind : DocumentError → FailureKind
  | .malformed .. | .noContainer | .notList | .entry _ => .form
  | .integer _ => .integer
  | .tooDeep _ => .recursion
  | .undecodable _ => .decoding

/-- Two readings give the same list, or both fail in the same kind of way. -/
inductive Alike : Except DocumentError (List Diagnostic) → Except DocumentError (List Diagnostic) → Prop
  | ok (ds : List Diagnostic) : Alike (.ok ds) (.ok ds)
  | error {e e' : DocumentError} (same : e.kind = e'.kind) : Alike (.error e) (.error e')

theorem Alike.symm {x y : Except DocumentError (List Diagnostic)} (alike : Alike x y) : Alike y x := by
  cases alike with
  | ok ds => exact .ok ds
  | error same => exact .error same.symm

section Depth

variable {depth : Nat} {t : Text}

end Depth

section File

variable {depth : Nat} {bytes : Utf8.Bytes} {t : Text}

end File

end ParseRepair.Diagnostic
