import ParseRepair.Proofs.Diagnostic.Location
import ParseRepair.Proofs.Recovery.Pass
import ParseRepair.Proofs.Text.Utf8
import ParseRepair.Proofs.Traced

namespace ParseRepair

namespace Classified

open Diagnostic

/-- `d` is the first diagnostic that cannot be filed, for a number of `count` digits. -/
def FirstOverlong (ds : List Diagnostic) (count : Nat) : Prop :=
  ∃ before d after, ds = before ++ d :: after ∧ (∀ d' ∈ before, ∀ n, ¬ d'.Overlong n) ∧ d.Overlong count

theorem ofDiagnostics_eq_error_iff {ds : List Diagnostic} {e : IntegerError} :
    (ofDiagnostics ds).outcome = .error e ↔ ∃ count, FirstOverlong ds count ∧ e = .tooManyDigits count := by
  rw [outcome_ofDiagnostics, addAll_eq_error_iff]
  simp only [placeable_iff, placement_eq_error_iff]
  constructor
  · rintro ⟨before, d, after, shape, earlier, count, long, same⟩
    exact ⟨count, ⟨before, d, after, shape, earlier, long⟩, same⟩
  · rintro ⟨count, ⟨before, d, after, shape, earlier, long⟩, same⟩
    exact ⟨before, d, after, shape, earlier, count, long, same⟩

theorem exists_ofDiagnostics_iff_short (ds : List Diagnostic) :
    (∃ c, (ofDiagnostics ds).outcome = .ok c) ↔ ∀ d ∈ ds, ∀ count, ¬ d.Overlong count := by
  rw [exists_ofDiagnostics_iff]
  simp only [placeable_iff]

end Classified

namespace Recovery

open Classified (FirstOverlong)
open Config (Settings)

def Source.Readable (s : Source) : Prop := ∃ t, s = .text t ∨ s = .bytes (Utf8.encode t)

theorem exists_read_iff (s : Source) : (∃ t, s.read = .ok t) ↔ s.Readable := by
  cases s with
  | text t => exact ⟨fun _ => ⟨t, .inl rfl⟩, fun _ => ⟨t, rfl⟩⟩
  | bytes b =>
    constructor
    · rintro ⟨t, read⟩
      exact ⟨t, .inr (congrArg Source.bytes (Utf8.decode_eq_ok_iff.mp (mapError_eq_ok_iff.mp read)))⟩
    · rintro ⟨t, same | same⟩
      · cases same
      · cases same
        exact ⟨t, Utf8.mapError_decode_encode _ t⟩
  | other v =>
    constructor
    · rintro ⟨t, read⟩
      cases read
    · rintro ⟨t, same | same⟩ <;> cases same

section

variable (s : Source) (ds : List Diagnostic) (settings : Settings)

theorem patchSource_of_placed {c : Classified} (filed : (Classified.ofDiagnostics ds).outcome = .ok c) :
    (patchSource s ds settings).outcome =
      (s.read.mapError .source).map (Repair.ofText (.ofSettings settings) c) := by
  rw [patchSource_of_filed filed]
  cases read : s.read with
  | error e =>
    simp only [Repair.ofSource, Traced.ofExcept, Source.lines, read, bind, Traced.bind, Except.mapError, Except.map,
      Functor.map]
  | ok t =>
    rw [Repair.ofSource_outcome _ c s t read]
    rfl

theorem patchSource_eq_integer_iff (e : IntegerError) : (patchSource s ds settings).outcome = .error (.integer e) ↔
    (Classified.ofDiagnostics ds).outcome = .error e := by
  cases filed : (Classified.ofDiagnostics ds).outcome with
  | error e' =>
    rw [patchSource_of_misplaced filed]
    simp only [Except.error.injEq, PatchError.integer.injEq]
  | ok c =>
    rw [patchSource_of_placed s ds settings filed]
    cases s.read <;> simp [Except.mapError, Except.map]

theorem patchSource_eq_source_iff (e : SourceError) : (patchSource s ds settings).outcome = .error (.source e) ↔
    (∃ c, (Classified.ofDiagnostics ds).outcome = .ok c) ∧ s.read = .error e := by
  cases filed : (Classified.ofDiagnostics ds).outcome with
  | error e' =>
    rw [patchSource_of_misplaced filed]
    simp
  | ok c =>
    rw [patchSource_of_placed s ds settings filed]
    cases s.read <;> simp [Except.mapError, Except.map]

/-- A pass fails on a source that cannot be read and, before it looks at the source, on a message that names a
place with too many digits. It fails on nothing else. -/
theorem patchSource_failures :
    (∀ e, (Classified.ofDiagnostics ds).outcome = .error e ↔
      ∃ count, FirstOverlong ds count ∧ e = .tooManyDigits count) ∧
    (∀ e, (patchSource s ds settings).outcome = .error (.integer e) ↔
      ∃ count, FirstOverlong ds count ∧ e = .tooManyDigits count) ∧
    ((∃ e, (patchSource s ds settings).outcome = .error (.source e)) ↔
      ¬ s.Readable ∧ ∀ d ∈ ds, ∀ count, ¬ d.Overlong count) ∧
    ((∃ r, (patchSource s ds settings).outcome = .ok r) ↔
      s.Readable ∧ ∀ d ∈ ds, ∀ count, ¬ d.Overlong count) := by
  refine ⟨fun e => Classified.ofDiagnostics_eq_error_iff, fun e => ?_, ?_, ?_⟩
  · rw [patchSource_eq_integer_iff, Classified.ofDiagnostics_eq_error_iff]
  · simp only [patchSource_eq_source_iff]
    rw [← Classified.exists_ofDiagnostics_iff_short, ← exists_read_iff, exists_and_left, and_comm]
    cases s.read <;> simp
  · simp only [patchSource_eq_ok_iff]
    rw [← Classified.exists_ofDiagnostics_iff_short, ← exists_read_iff]
    constructor
    · rintro ⟨r, c, t, filed, read, _⟩
      exact ⟨⟨t, read⟩, c, filed⟩
    · rintro ⟨⟨t, read⟩, c, filed⟩
      exact ⟨_, c, t, filed, read, rfl⟩

end

def farMessage : Text := .concat ["Lexical error at line ", List.replicate 4301 '1', ", column 1."]

theorem readable_is_not_enough : (Source.text "a").Readable ∧
    (patchSource (.text "a") [⟨farMessage, none⟩] {}).outcome = .error (.integer (.tooManyDigits 4301)) := by
  refine ⟨⟨_, .inl rfl⟩, ?_⟩
  decide +kernel

end Recovery

end ParseRepair
