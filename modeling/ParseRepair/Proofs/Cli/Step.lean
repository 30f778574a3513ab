import ParseRepair.Cli.Outcome
import ParseRepair.Proofs.Traced

namespace ParseRepair.Cli

open Logging
open Terminal (Console)

namespace Step

variable {α β : Type} {x : Step α} {f : α → Step β} {a : α} {n : Nat}

def printed (x : Step α) : Text := x.trace.flatMap Emission.out

structure Gives (x : Step α) (a : α) : Prop where
  outcome : x.outcome = .ok a
  silent : x.printed = []

/-- A step that ends a run, with a status, before anything is printed. -/
structure Stops (x : Step α) (n : Nat) : Prop where
  outcome : ∃ e, x.outcome = .error e ∧ e.status = n
  silent : x.printed = []

theorem printed_bind_of_ok (done : x.outcome = .ok a) : (x >>= f).printed = x.printed ++ (f a).printed := by
  rw [Traced.bind_of_ok done, printed, printed, printed, List.flatMap_append]

theorem Gives.printed_bind (gives : Gives x a) : (x >>= f).printed = (f a).printed := by
  rw [printed_bind_of_ok gives.outcome, gives.silent, List.nil_append]

theorem Gives.outcome_bind (gives : Gives x a) : (x >>= f).outcome = (f a).outcome :=
  Traced.outcome_bind_of_ok gives.outcome

theorem Stops.bind (stops : Stops x n) : Stops (x >>= f) n := by
  obtain ⟨⟨e, failed, status⟩, silent⟩ := stops
  rw [Traced.bind_of_error failed]
  exact ⟨⟨e, rfl, status⟩, silent⟩

theorem Gives.stops_bind (gives : Gives x a) (stops : Stops (f a) n) : Stops (x >>= f) n := by
  obtain ⟨⟨e, failed, status⟩, silent⟩ := stops
  refine ⟨⟨e, ?_, status⟩, ?_⟩
  · rw [gives.outcome_bind, failed]
  · rw [gives.printed_bind, silent]

theorem Gives.bind {b : β} (gives : Gives x a) (gives' : Gives (f a) b) : Gives (x >>= f) b :=
  ⟨gives.outcome_bind.trans gives'.outcome, gives.printed_bind.trans gives'.silent⟩

theorem gives_pure (a : α) : Gives (pure a) a := ⟨rfl, rfl⟩

theorem gives_log (r : Record) : Gives (log r) () := ⟨rfl, rfl⟩

theorem gives_warn (c : Console) (t : Text) : Gives (warn c t) () := ⟨rfl, rfl⟩

theorem gives_ofExcept {y : Except Ending α} (done : y = .ok a) : Gives (Traced.ofExcept y) a := ⟨done, rfl⟩

theorem stops_ofExcept {y : Except Ending α} {e : Ending} (failed : y = .error e) :
    Stops (Traced.ofExcept y) e.status := ⟨⟨e, failed, rfl⟩, rfl⟩

theorem stops_failed (code : ExitCode) (message : Text) : Stops (failed code message : Step α) code.number :=
  ⟨⟨_, rfl, rfl⟩, rfl⟩

section Logged

variable {ε : Type} {y : Traced Record ε α} (toEnding : ε → Ending)

theorem printed_logged : (logged toEnding y).printed = [] := by
  show ((y.trace.map Emission.log).flatMap Emission.out) = []
  rw [List.flatMap_map]
  exact List.flatMap_eq_nil_iff.mpr fun _ _ => rfl

theorem gives_logged (done : y.outcome = .ok a) : Gives (logged toEnding y) a := by
  refine ⟨?_, printed_logged toEnding⟩
  rw [logged, Traced.outcome_mapError, Traced.outcome_mapTrace, done]
  rfl

theorem stops_logged {e : ε} (failed : y.outcome = .error e) : Stops (logged toEnding y) (toEnding e).status := by
  refine ⟨⟨toEnding e, ?_, rfl⟩, printed_logged toEnding⟩
  rw [logged, Traced.outcome_mapError, Traced.outcome_mapTrace, failed]
  rfl

end Logged

theorem printed_forEach {g : β → Step Unit} (done : ∀ b, (g b).outcome = .ok ()) (bs : List β) :
    printed (Traced.forEach g bs) = bs.flatMap fun b => (g b).printed := by
  rw [Traced.forEach_eq (g := fun _ => ()) done, printed, List.flatMap_assoc]
  rfl

theorem gives_forEach {g : β → Step Unit} (each : ∀ b, Gives (g b) ()) (bs : List β) :
    Gives (Traced.forEach g bs) (bs.map fun _ => ()) := by
  refine ⟨?_, ?_⟩
  · rw [Traced.forEach_eq fun b => (each b).outcome]
  · rw [printed_forEach fun b => (each b).outcome]
    exact List.flatMap_eq_nil_iff.mpr fun b _ => (each b).silent

end Step

theorem status_of_stops {x : Step Unit} {n : Nat} (stops : x.Stops n) (h : Handler) (c : Console) :
    (Result.ofStep h c x).status = n ∧ (Result.ofStep h c x).out = [] := by
  obtain ⟨⟨e, failed, status⟩, silent⟩ := stops
  rw [Result.ofStep, failed]
  exact ⟨status, silent⟩

end ParseRepair.Cli
