import ParseRepair.Recovery.Pass
import ParseRepair.Proofs.Diagnostic.Placement
import ParseRepair.Proofs.Recovery.Repair

namespace ParseRepair.Recovery

open Config (Settings)
open Diagnostic (failure?)

variable {s : Source} {ds : List Diagnostic} {settings : Settings}

def problemMessages (ds : List Diagnostic) (n : Int) : List Points :=
  (ds.filter (·.spanLine? == some n)).map Diagnostic.message

def failureMessages (ds : List Diagnostic) (n : Int) : List Points :=
  ((ds.filterMap failure?).filter (·.line == n)).map LexicalFailure.message

theorem ofLine_ofDiagnostics {c : Classified} (filed : (Classified.ofDiagnostics ds).outcome = .ok c)
    (n : Int) : Evidence.ofLine c n =
      ⟨problemMessages ds (n - 1), problemMessages ds n, problemMessages ds (n + 1), failureMessages ds n⟩ := by
  simp only [Evidence.ofLine, Classified.problems_ofDiagnostics filed,
    Classified.lexical_ofDiagnostics filed, problemMessages, failureMessages]

theorem patchSource_of_misplaced {e : IntegerError} (failed : (Classified.ofDiagnostics ds).outcome = .error e) :
    (patchSource s ds settings).outcome = .error (.integer e) := by
  simp only [patchSource, Traced.mapError, failed, bind, Traced.bind, Except.mapError]

theorem patchSource_of_filed {c : Classified} (filed : (Classified.ofDiagnostics ds).outcome = .ok c) :
    (patchSource s ds settings).outcome =
      (Repair.ofSource (.ofSettings settings) c s).outcome.mapError .source := by
  simp only [patchSource, Traced.mapError, filed, bind, Traced.bind, Traced.emitAll, Except.mapError]

theorem patchSource_eq_ok_iff (r : Repair) : (patchSource s ds settings).outcome = .ok r ↔
    ∃ c t, (Classified.ofDiagnostics ds).outcome = .ok c ∧ s.read = .ok t ∧
      r = Repair.ofText (.ofSettings settings) c t := by
  cases filed : (Classified.ofDiagnostics ds).outcome with
  | error e => simp [patchSource_of_misplaced filed]
  | ok c =>
    rw [patchSource_of_filed filed]
    cases read : s.read with
    | error e =>
      simp [Repair.ofSource, Traced.ofExcept, Source.lines, read, bind, Traced.bind, Except.mapError]
    | ok t =>
      rw [Repair.ofSource_outcome _ c s t read]
      simp [Except.mapError, eq_comm]

end ParseRepair.Recovery
