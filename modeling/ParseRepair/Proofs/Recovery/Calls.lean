import ParseRepair.Proofs.Traced
import ParseRepair.Recovery.Pass

namespace ParseRepair.Recovery

open Config (Settings)

variable {ε τ α β : Type}

def calls (x : Traced Event (RecoveryError ε) α) : List Source := x.trace.filterMap Event.source?

/-- How a pass ends, and with which calls. The parser may know what it was given `earlier`. -/
inductive PassEnds (p : Parser ε τ) (earlier : List Source) (s : Source) (ds : List Diagnostic) (settings : Settings) :
    List Source → Except (RecoveryError ε) (Outcome τ) → Prop
  | unpatched {e : PatchError} (failed : (patchSource s ds settings).outcome = .error e) :
      PassEnds p earlier s ds settings [] (.error (.patch e))
  | raised {w : Repair} {e : ε} (made : (patchSource s ds settings).outcome = .ok w)
      (refused : p earlier (.text w.text) = .error e) :
      PassEnds p earlier s ds settings [.text w.text] (.error (.parser e))
  | answered {w : Repair} {r : ParseResult τ} (made : (patchSource s ds settings).outcome = .ok w)
      (parsed : p earlier (.text w.text) = .ok r) :
      PassEnds p earlier s ds settings [.text w.text] (.ok ⟨w, r⟩)

inductive ParseEnds (p : Parser ε τ) (s : Source) (settings : Settings) :
    List Source → Except (RecoveryError ε) (ParseResult τ) → Prop
  | raised {e : ε} (refused : p [] s = .error e) : ParseEnds p s settings [s] (.error (.parser e))
  | stands {r : ParseResult τ} (parsed : p [] s = .ok r) (tree : r.tree.isSome = true)
      (clean : r.diagnostics = []) : ParseEnds p s settings [s] (.ok r)
  | again {first : ParseResult τ} {cs : List Source} {result : Except (RecoveryError ε) (Outcome τ)}
      (parsed : p [] s = .ok first) (failed : first.tree.isSome = true → first.diagnostics ≠ [])
      (passes : PassEnds p [s] s first.diagnostics settings cs result) :
      ParseEnds p s settings (s :: cs) (result.map Outcome.result)

theorem successful_iff (r : ParseResult τ) : r.successful = true ↔ r.tree.isSome = true ∧ r.diagnostics = [] := by
  rw [ParseResult.successful, Bool.and_eq_true, List.isEmpty_iff]

section Calls

variable {x : Traced Event (RecoveryError ε) α} {f : α → Traced Event (RecoveryError ε) β}

theorem calls_bind_of_ok {a : α} (done : x.outcome = .ok a) : calls (x >>= f) = calls x ++ calls (f a) := by
  rw [Traced.bind_of_ok done, calls, calls, calls, List.filterMap_append]

theorem calls_bind_of_error {e : RecoveryError ε} (failed : x.outcome = .error e) : calls (x >>= f) = calls x := by
  rw [Traced.bind_of_error failed]
  rfl

theorem calls_log_bind (r : Logging.Record) (y : Traced Event (RecoveryError ε) β) :
    calls (Traced.emit (.log r) >>= fun _ => y) = calls y :=
  calls_bind_of_ok rfl

theorem outcome_log_bind (r : Logging.Record) (y : Traced Event (RecoveryError ε) β) :
    (Traced.emit (.log r) >>= fun _ => y).outcome = y.outcome :=
  Traced.outcome_bind_of_ok rfl

theorem calls_logged (y : Traced Logging.Record PatchError α) :
    calls ((y.mapTrace Event.log).mapError (RecoveryError.patch (ε := ε))) = [] := by
  show (y.trace.map Event.log).filterMap Event.source? = []
  rw [List.filterMap_map]
  exact List.filterMap_eq_nil_iff.mpr fun _ _ => rfl

theorem calls_call (p : Parser ε τ) (earlier : List Source) (s : Source) : calls (call p earlier s) = [s] := rfl

theorem outcome_call (p : Parser ε τ) (earlier : List Source) (s : Source) :
    (call p earlier s).outcome = (p earlier s).mapError .parser := rfl

end Calls

variable (p : Parser ε τ) (earlier : List Source) (s : Source) (ds : List Diagnostic) (settings : Settings)

theorem recover_ends : PassEnds p earlier s ds settings (calls (recover p earlier s ds settings))
    (recover p earlier s ds settings).outcome := by
  unfold recover
  have silent := calls_logged (ε := ε) (patchSource s ds settings)
  cases patched : (patchSource s ds settings).outcome with
  | error e =>
    have stopped : (((patchSource s ds settings).mapTrace Event.log).mapError (RecoveryError.patch (ε := ε))).outcome =
        .error (.patch e) := by
      rw [Traced.outcome_mapError, Traced.outcome_mapTrace, patched]
      rfl
    rw [calls_bind_of_error stopped, silent, Traced.bind_of_error stopped]
    exact .unpatched patched
  | ok w =>
    have made : (((patchSource s ds settings).mapTrace Event.log).mapError (RecoveryError.patch (ε := ε))).outcome =
        .ok w := by
      rw [Traced.outcome_mapError, Traced.outcome_mapTrace, patched]
      rfl
    rw [calls_bind_of_ok made, silent, List.nil_append, Traced.outcome_bind_of_ok made, calls_log_bind,
      outcome_log_bind]
    have answer := outcome_call p earlier (.text w.text)
    cases parsed : p earlier (.text w.text) with
    | error e =>
      rw [parsed] at answer
      rw [calls_bind_of_error answer, calls_call, Traced.bind_of_error answer]
      exact .raised patched parsed
    | ok r =>
      rw [parsed] at answer
      rw [calls_bind_of_ok answer, calls_call, Traced.outcome_bind_of_ok answer, calls_log_bind, outcome_log_bind]
      exact .answered patched parsed

theorem reparse_eq :
    calls (reparse p earlier s ds settings) = calls (recover p earlier s ds settings) ∧
      (reparse p earlier s ds settings).outcome = (recover p earlier s ds settings).outcome.map Outcome.result := by
  unfold reparse
  cases ended : (recover p earlier s ds settings).outcome with
  | error e =>
    rw [calls_bind_of_error ended, Traced.bind_of_error ended]
    exact ⟨rfl, rfl⟩
  | ok outcome =>
    rw [calls_bind_of_ok ended, Traced.outcome_bind_of_ok ended]
    exact ⟨List.append_nil _, rfl⟩

theorem parseWithRecovery_ends :
    ParseEnds p s settings (calls (parseWithRecovery p s settings)) (parseWithRecovery p s settings).outcome := by
  unfold parseWithRecovery
  have answer := outcome_call p [] s
  cases parsed : p [] s with
  | error e =>
    rw [parsed] at answer
    rw [calls_bind_of_error answer, calls_call, Traced.bind_of_error answer]
    exact .raised parsed
  | ok first =>
    rw [parsed] at answer
    rw [calls_bind_of_ok answer, calls_call, Traced.outcome_bind_of_ok answer]
    by_cases successful : first.successful = true
    · obtain ⟨tree, clean⟩ := (successful_iff first).mp successful
      rw [if_pos successful]
      exact .stands parsed tree clean
    · obtain ⟨sameCalls, sameEnd⟩ := reparse_eq p [s] s first.diagnostics settings
      have failed : first.tree.isSome = true → first.diagnostics ≠ [] :=
        fun tree clean => successful ((successful_iff first).mpr ⟨tree, clean⟩)
      rw [if_neg successful, calls_log_bind, outcome_log_bind, sameCalls, sameEnd]
      exact .again parsed failed (recover_ends p [s] s first.diagnostics settings)

section Unique

variable {p earlier s ds settings}

theorem PassEnds.unique {cs cs' : List Source} {result result' : Except (RecoveryError ε) (Outcome τ)}
    (passes : PassEnds p earlier s ds settings cs result) (passes' : PassEnds p earlier s ds settings cs' result') :
    cs = cs' ∧ result = result' := by
  cases passes with
  | unpatched failed =>
    cases passes' with
    | unpatched failed' =>
      cases failed.symm.trans failed'
      exact ⟨rfl, rfl⟩
    | raised made' _ => cases failed.symm.trans made'
    | answered made' _ => cases failed.symm.trans made'
  | raised made refused =>
    cases passes' with
    | unpatched failed' => cases made.symm.trans failed'
    | raised made' refused' =>
      cases made.symm.trans made'
      cases refused.symm.trans refused'
      exact ⟨rfl, rfl⟩
    | answered made' parsed' =>
      cases made.symm.trans made'
      cases refused.symm.trans parsed'
  | answered made parsed =>
    cases passes' with
    | unpatched failed' => cases made.symm.trans failed'
    | raised made' refused' =>
      cases made.symm.trans made'
      cases parsed.symm.trans refused'
    | answered made' parsed' =>
      cases made.symm.trans made'
      cases parsed.symm.trans parsed'
      exact ⟨rfl, rfl⟩

theorem ParseEnds.unique {cs cs' : List Source} {result result' : Except (RecoveryError ε) (ParseResult τ)}
    (parses : ParseEnds p s settings cs result) (parses' : ParseEnds p s settings cs' result') :
    cs = cs' ∧ result = result' := by
  cases parses with
  | raised refused =>
    cases parses' with
    | raised refused' =>
      cases refused.symm.trans refused'
      exact ⟨rfl, rfl⟩
    | stands parsed' _ _ => cases refused.symm.trans parsed'
    | again parsed' _ _ => cases refused.symm.trans parsed'
  | stands parsed tree clean =>
    cases parses' with
    | raised refused' => cases parsed.symm.trans refused'
    | stands parsed' _ _ =>
      cases parsed.symm.trans parsed'
      exact ⟨rfl, rfl⟩
    | again parsed' failed' _ =>
      cases parsed.symm.trans parsed'
      exact absurd clean (failed' tree)
  | again parsed failed passes =>
    cases parses' with
    | raised refused' => cases parsed.symm.trans refused'
    | stands parsed' tree' clean' =>
      cases parsed.symm.trans parsed'
      exact absurd clean' (failed tree')
    | again parsed' _ passes' =>
      cases parsed.symm.trans parsed'
      obtain ⟨rfl, rfl⟩ := passes.unique passes'
      exact ⟨rfl, rfl⟩

end Unique

/-- Whatever the parser does, it is asked once, and once more if it did not succeed and the source could be
repaired. Of a pass alone, with its report or without, there is one call. -/
theorem recovery_calls (p : Parser ε τ) (s : Source) (settings : Settings) :
    (∀ cs result, ParseEnds p s settings cs result ↔
      calls (parseWithRecovery p s settings) = cs ∧ (parseWithRecovery p s settings).outcome = result) ∧
    ∀ earlier ds,
      (∀ cs result, PassEnds p earlier s ds settings cs result ↔
        calls (recover p earlier s ds settings) = cs ∧ (recover p earlier s ds settings).outcome = result) ∧
      calls (reparse p earlier s ds settings) = calls (recover p earlier s ds settings) ∧
      (reparse p earlier s ds settings).outcome = (recover p earlier s ds settings).outcome.map Outcome.result := by
  refine ⟨?_, fun earlier ds => ⟨?_, reparse_eq p earlier s ds settings⟩⟩
  · intro cs result
    constructor
    · exact (parseWithRecovery_ends p s settings).unique
    · rintro ⟨rfl, rfl⟩
      exact parseWithRecovery_ends p s settings
  · intro cs result
    constructor
    · exact (recover_ends p earlier s ds settings).unique
    · rintro ⟨rfl, rfl⟩
      exact recover_ends p earlier s ds settings

end ParseRepair.Recovery
