import ParseRepair.Proofs.Cli.Stages

namespace ParseRepair.Cli

open Config (Settings)
open Recovery (Repair patchSource)
open Terminal (Console)

/-- A command line that asks for a pass. -/
structure Accepts (v : Invocation) (session : Session) (r : PatchRequest) : Prop where
  opened : (openSession v).outcome = .ok session
  request : ∃ words w, session.target = some (.patch, words) ∧
    (readWords (commandSynopsis v.program .patch) (commandHelp v.program .patch) PatchSwitch.help session.console
      patchSwitches true words).outcome = .ok w ∧
    PatchRequest.ofWords v.inputs.tree w = .ok r

section ReadWords

variable {σ : Type} [DecidableEq σ] {synopsis : Synopsis} {help : Text} {helpSwitch : σ} {c : Console}
  {ss : Switches σ} {mixed : Bool} {words : List Text} {w : Words σ}

theorem readWords_of_error {f : UsageFault} (sorted : ss.read mixed none words = .error f) :
    readWords synopsis help helpSwitch c ss mixed words = Traced.fail (.refused synopsis f) := by
  unfold readWords
  rw [sorted]
  rfl

theorem readWords_of_ok (sorted : ss.read mixed none words = .ok w) :
    readWords synopsis help helpSwitch c ss mixed words =
      if w.has helpSwitch then Step.print c false help >>= fun _ => Step.exit .success else pure w := by
  unfold readWords
  rw [sorted]
  exact Traced.ofExcept_ok_bind w

theorem readWords_gives (read : (readWords synopsis help helpSwitch c ss mixed words).outcome = .ok w) :
    readWords synopsis help helpSwitch c ss mixed words = pure w := by
  cases sorted : ss.read mixed none words with
  | error f =>
    rw [readWords_of_error sorted] at read
    cases read
  | ok u =>
    rw [readWords_of_ok sorted] at read ⊢
    split at read
    · cases read
    · rename_i no_help
      rw [if_neg no_help, Except.ok.inj read]

end ReadWords

theorem run_of_accepts {v : Invocation} {session : Session} {r : PatchRequest} (accepts : Accepts v session r) :
    run v = Result.ofStep session.handler session.console (runPatch v.inputs session.console r) := by
  obtain ⟨opened, words, w, target, read, request⟩ := accepts
  have whole : session.run v = runPatch v.inputs session.console r := by
    rw [Session.run, target]
    show readWords _ _ _ _ _ _ _ >>= _ = _
    rw [readWords_gives read]
    show Traced.ofExcept (.ok w) >>= _ = _
    rw [Traced.ofExcept_ok_bind, request]
    exact Traced.ofExcept_ok_bind r
  rw [run, opened]
  simp only [whole]

section Pass

variable {i : Inputs} {r : PatchRequest} (c : Console)

theorem runPatch_stops_of_inputs (source : r.source = stdinMark) (diagnostics : r.diagnostics = stdinMark) :
    (runPatch i c r).Stops ExitCode.usageError.number := by
  rw [runPatch, if_pos ⟨source, diagnostics⟩]
  exact (Step.stops_failed _ _).bind

section Sound

variable (two : ¬ (r.source = stdinMark ∧ r.diagnostics = stdinMark))

include two

theorem runPatch_stops_of_settings {n : Nat} (stops : (loadSettings i.limits i.tree r).Stops n) :
    (runPatch i c r).Stops n := by
  rw [runPatch, if_neg two]
  exact stops.bind

variable {s : Settings} (settled : (loadSettings i.limits i.tree r).outcome = .ok s)

include settled

theorem runPatch_stops_of_diagnostics {n : Nat} (stops : (readDiagnostics i r).Stops n) :
    (runPatch i c r).Stops n := by
  rw [runPatch, if_neg two]
  refine (loadSettings_gives settled).stops_bind ?_
  refine (Step.gives_forEach (fun _ => Step.gives_warn c _) _).stops_bind ?_
  exact stops.bind

variable {ds : List Diagnostic} (reads : ReadsDiagnostics i r ds)

include reads

theorem runPatch_stops_of_sourceFile {n : Nat} (stops : (readInput i .source r.source).Stops n) :
    (runPatch i c r).Stops n := by
  rw [runPatch, if_neg two]
  refine (loadSettings_gives settled).stops_bind ?_
  refine (Step.gives_forEach (fun _ => Step.gives_warn c _) _).stops_bind ?_
  refine (readDiagnostics_gives reads).stops_bind ?_
  exact stops.bind

theorem runPatch_stops_of_source {bytes : Utf8.Bytes} {n : Nat} (content : contentOf i r.source = .ok bytes)
    (stops : (Step.logged patchEnding (patchSource (.bytes bytes) ds s)).Stops n) :
    (runPatch i c r).Stops n := by
  rw [runPatch, if_neg two]
  refine (loadSettings_gives settled).stops_bind ?_
  refine (Step.gives_forEach (fun _ => Step.gives_warn c _) _).stops_bind ?_
  refine (readDiagnostics_gives reads).stops_bind ?_
  refine (readInput_gives .source content).stops_bind ?_
  exact stops.bind

end Sound

theorem printSummary_done (report : Recovery.Report) : (printSummary c report).outcome = .ok () := by
  unfold printSummary
  rw [Traced.forEach_eq (g := fun _ => ()) fun _ => rfl]
  rfl

theorem printRepair_done (s : Settings) (t : Text) (w : Repair) :
    (printRepair c r s (Utf8.encode t) w).outcome = .ok () := by
  unfold printRepair
  cases r.format with
  | source => rfl
  | json => rfl
  | diff =>
    simp only [Utf8.mapError_decode_encode, Traced.ofExcept_ok_bind, printDiff]
    rw [Traced.outcome_bind_of_ok (a := ()) rfl]
    split
    · rfl
    · rw [Traced.outcome_bind_of_ok (a := ()) rfl]
      exact printSummary_done c w.report

theorem runPatch_of_makes {s : Settings} {t : Text} {w : Repair} (makes : Makes i r s t w) :
    (runPatch i c r).outcome = (if w.report.changed then .error (.exit .wouldChange) else .ok ()) ∧
      (runPatch i c r).printed = (printRepair c r s (Utf8.encode t) w).printed := by
  obtain ⟨two, settled, content, ds, reads, made⟩ := makes
  have settings := loadSettings_gives settled
  have warnings := Step.gives_forEach (fun m => Step.gives_warn c ("Config: ".toList ++ m)) s.warnings
  have diagnostics := readDiagnostics_gives reads
  have source := readInput_gives .source content
  have repair := Step.gives_logged patchEnding made
  have shown := printRepair_done (r := r) c s t w
  rw [runPatch, if_neg two]
  constructor
  · rw [settings.outcome_bind, warnings.outcome_bind, diagnostics.outcome_bind, source.outcome_bind,
      repair.outcome_bind, Traced.outcome_bind_of_ok shown, (Step.gives_log _).outcome_bind]
    split <;> rfl
  · rw [settings.printed_bind, warnings.printed_bind, diagnostics.printed_bind, source.printed_bind,
      repair.printed_bind, Step.printed_bind_of_ok shown, (Step.gives_log _).printed_bind]
    have silent : (if w.report.changed = true then Step.exit .wouldChange else pure () : Step Unit).printed = [] := by
      split <;> rfl
    rw [silent, List.append_nil]

end Pass

end ParseRepair.Cli
