import ParseRepair.Proofs.Cli.Run

namespace ParseRepair.Cli

open Recovery (Repair)
open Terminal (Console)
open Text (sourceLines)

variable {i : Inputs} {r : PatchRequest}

theorem exists_firstFails (stage : Stage) (fails : ¬ Sound i r stage) : ∃ stage f, FirstFails i r stage f := by
  -- A stage that fails is the first one, or an earlier one fails.
  by_cases earlier : ∀ stage' : Stage, stage'.index < stage.index → Sound i r stage'
  · obtain ⟨f, failing⟩ := Classical.not_forall.mp fails
    exact ⟨stage, f, Classical.not_not.mp failing, earlier⟩
  · obtain ⟨stage', other⟩ := Classical.not_forall.mp earlier
    obtain ⟨before, fails'⟩ := Classical.not_imp.mp other
    exact exists_firstFails stage' fails'
termination_by stage.index

theorem two_inputs (sound : Sound i r .inputs) : ¬ (r.source = stdinMark ∧ r.diagnostics = stdinMark) :=
  fun ⟨source, diagnostics⟩ => sound _ (.inputs source diagnostics)

theorem exists_filed {ds : List Diagnostic} (sound : Sound i r .placement) (reads : ReadsDiagnostics i r ds) :
    ∃ c, (Classified.ofDiagnostics ds).outcome = .ok c := by
  cases filed : (Classified.ofDiagnostics ds).outcome with
  | error e => exact absurd (.placement reads filed) (sound _)
  | ok c => exact ⟨c, rfl⟩

theorem exists_content (sound : Sound i r .sourceFile) : ∃ bytes, contentOf i r.source = .ok bytes := by
  cases read : contentOf i r.source with
  | error e => exact absurd (.sourceFile read) (sound _)
  | ok bytes => exact ⟨bytes, rfl⟩

/-- All before the first failure is done in silence, and with it the run ends. -/
theorem runPatch_stops {stage : Stage} {f : Failure} (c : Console) (first : FirstFails i r stage f) :
    (runPatch i c r).Stops f.status := by
  obtain ⟨fails, earlier⟩ := first
  cases stage with
  | inputs =>
    obtain ⟨source, diagnostics⟩ := fails
    exact runPatch_stops_of_inputs c source diagnostics
  | settings =>
    cases fails with
    | settings failed =>
      exact runPatch_stops_of_settings c (two_inputs (earlier .inputs (by decide))) (loadSettings_stops failed)
  | diagnosticsFile =>
    obtain ⟨s, settled⟩ := settles_of_sound (earlier .settings (by decide))
    exact runPatch_stops_of_diagnostics c (two_inputs (earlier .inputs (by decide))) settled
      (readDiagnostics_stops (.inl rfl) fails)
  | document =>
    obtain ⟨s, settled⟩ := settles_of_sound (earlier .settings (by decide))
    exact runPatch_stops_of_diagnostics c (two_inputs (earlier .inputs (by decide))) settled
      (readDiagnostics_stops (.inr rfl) fails)
  | sourceFile =>
    obtain ⟨s, settled⟩ := settles_of_sound (earlier .settings (by decide))
    obtain ⟨ds, reads⟩ := reads_of_sound (earlier .diagnosticsFile (by decide)) (earlier .document (by decide))
    cases fails with
    | sourceFile failed =>
      exact runPatch_stops_of_sourceFile c (two_inputs (earlier .inputs (by decide))) settled reads
        (readInput_stops .source failed)
  | placement =>
    obtain ⟨s, settled⟩ := settles_of_sound (earlier .settings (by decide))
    obtain ⟨bytes, content⟩ := exists_content (earlier .sourceFile (by decide))
    cases fails with
    | placement reads failed =>
      exact runPatch_stops_of_source c (two_inputs (earlier .inputs (by decide))) settled reads content
        (Step.stops_logged patchEnding (Recovery.patchSource_of_misplaced failed))
  | source =>
    obtain ⟨s, settled⟩ := settles_of_sound (earlier .settings (by decide))
    obtain ⟨ds, reads⟩ := reads_of_sound (earlier .diagnosticsFile (by decide)) (earlier .document (by decide))
    cases fails with
    | source content noText =>
      -- The diagnostics are filed, so it is the source that the pass fails on.
      obtain ⟨e, failed⟩ := decode_of_noText noText
      have unread : (Recovery.Source.bytes _).read = .error (.undecodable e) :=
        mapError_eq_error_iff.mpr ⟨e, failed, rfl⟩
      have refused := (Recovery.patchSource_eq_source_iff _ ds s _).mpr
        ⟨exists_filed (earlier .placement (by decide)) reads, unread⟩
      exact runPatch_stops_of_source c (two_inputs (earlier .inputs (by decide))) settled reads content
        (Step.stops_logged patchEnding refused)

theorem makes_of_sound (sound : ∀ stage, Sound i r stage) : ∃ s t w, Makes i r s t w := by
  obtain ⟨s, settled⟩ := settles_of_sound (sound .settings)
  obtain ⟨ds, reads⟩ := reads_of_sound (sound .diagnosticsFile) (sound .document)
  obtain ⟨bytes, content⟩ := exists_content (sound .sourceFile)
  obtain ⟨c, filed⟩ := exists_filed (sound .placement) reads
  by_cases text : ∃ t, bytes = Utf8.encode t
  · obtain ⟨t, rfl⟩ := text
    have read : (Recovery.Source.bytes (Utf8.encode t)).read = .ok t := Utf8.mapError_decode_encode _ t
    exact ⟨s, t, _, two_inputs (sound .inputs), settled, content, ds, reads,
      (Recovery.patchSource_eq_ok_iff _).mpr ⟨c, t, filed, read, rfl⟩⟩
  · exact absurd (.source content (not_exists.mp text)) (sound .source _)

theorem changed_iff_line (m : Recovery.Method) (c : Classified) (t : Text) :
    (Repair.ofText m c t).report.changed = true ↔
      ∃ k : Nat, (sourceLines (Repair.ofText m c t).text)[k]? ≠ (sourceLines t)[k]? := by
  rw [Recovery.changed_ofText, ← Classical.not_forall, not_iff_not]
  constructor
  · intro same k
    rw [same, Text.sourceLines_withLineFeeds]
  · intro same
    have lines : sourceLines (Repair.ofText m c t).text = sourceLines t := List.ext_getElem? same
    rw [Repair.sourceLines_ofText] at lines
    rw [Repair.text_ofText, lines, Text.unlines_sourceLines]

theorem changed_of_makes {s : Config.Settings} {t : Text} {w : Repair} (makes : Makes i r s t w) :
    w.report.changed = true ↔ ∃ k : Nat, (sourceLines w.text)[k]? ≠ (sourceLines t)[k]? := by
  obtain ⟨ds, _, made⟩ := makes.repair
  obtain ⟨c, t', _, read, rfl⟩ := (Recovery.patchSource_eq_ok_iff w).mp made
  have same : t' = t := Except.ok.inj (read.symm.trans (Utf8.mapError_decode_encode _ t))
  subst same
  exact changed_iff_line _ c t'

theorem ofStep_of_makes {s : Config.Settings} {t : Text} {w : Repair} (h : Logging.Handler) (c : Console)
    (makes : Makes i r s t w) :
    (Result.ofStep h c (runPatch i c r)).status = (if w.report.changed then 2 else 0) ∧
      (Result.ofStep h c (runPatch i c r)).out = (printRepair c r s (Utf8.encode t) w).printed := by
  obtain ⟨outcome, printed⟩ := runPatch_of_makes c makes
  rw [Result.ofStep, outcome, ← printed]
  cases w.report.changed <;> exact ⟨rfl, rfl⟩

/-- The status of a pass is that of the first stage that fails, and then nothing is printed. If none fails, the
status says whether a line was changed. -/
theorem run_status {v : Invocation} {session : Session} {r : PatchRequest} (accepts : Accepts v session r) :
    ((∃ stage f, FirstFails v.inputs r stage f) ∨ ∀ stage, Sound v.inputs r stage) ∧
    (∀ stage f, FirstFails v.inputs r stage f → (run v).status = f.status ∧ (run v).out = []) ∧
    ((∀ stage, Sound v.inputs r stage) → ∃ s t w, Makes v.inputs r s t w ∧
      ((run v).status = 2 ∧ (∃ k : Nat, (sourceLines w.text)[k]? ≠ (sourceLines t)[k]?) ∨
        (run v).status = 0 ∧ ∀ k : Nat, (sourceLines w.text)[k]? = (sourceLines t)[k]?)) := by
  rw [run_of_accepts accepts]
  refine ⟨?_, fun stage f first => status_of_stops (runPatch_stops _ first) _ _, ?_⟩
  · by_cases sound : ∀ stage, Sound v.inputs r stage
    · exact .inr sound
    · obtain ⟨stage, fails⟩ := Classical.not_forall.mp sound
      exact .inl (exists_firstFails stage fails)
  · intro sound
    obtain ⟨s, t, w, makes⟩ := makes_of_sound sound
    refine ⟨s, t, w, makes, ?_⟩
    rw [(ofStep_of_makes _ _ makes).1]
    by_cases changed : w.report.changed = true
    · exact .inl ⟨if_pos changed, (changed_of_makes makes).mp changed⟩
    · refine .inr ⟨if_neg changed, fun k => ?_⟩
      by_contra differs
      exact changed ((changed_of_makes makes).mpr ⟨k, differs⟩)

def faultyRun : Invocation where
  program := "cli"
  arguments := ["--no-color", "patch", "a.java", "-d", "d.json", "--no-config"]
  logSetting := none
  inputs :=
    { tree :=
        { entry? := fun l =>
            if l = [] then some .directory
            else if l = ["d.json".toList] then some (.file [0xFF])
            else none
          current := [] }
      stdin := []
      depth := 990
      limits := ⟨490, 980, 2, 3, 75⟩ }

def faultyRequest : PatchRequest := ⟨"a.java", "d.json", .source, [], true, [], none⟩

theorem accepts_faultyRun : Accepts faultyRun
    ⟨30, ⟨30⟩, ⟨false⟩, some (.patch, ["a.java", "-d", "d.json", "--no-config"])⟩ faultyRequest :=
  ⟨rfl, _, ⟨[⟨.diagnostics, some "d.json"⟩, ⟨.noConfig, none⟩], ["a.java"]⟩, rfl, rfl, rfl⟩

theorem firstFails_faultyRun :
    FirstFails faultyRun.inputs faultyRequest .document (.reported .encodingError) where
  fails := by
    have noText (t : Text) : [0xFF] ≠ Utf8.encode t := by
      intro same
      have read := Utf8.decode_eq_ok_iff.mpr same
      cases read
    exact .undecodable rfl noText
  earlier stage before f fails := by
    cases fails with
    | inputs source diagnostics => cases source
    | settings failed => cases failed
    | diagnosticsFile failed => cases failed
    | undecodable | document | sourceFile | placement | source => exact absurd before (by decide)

theorem run_faultyRun :
    Accepts faultyRun ⟨30, ⟨30⟩, ⟨false⟩, some (.patch, ["a.java", "-d", "d.json", "--no-config"])⟩ faultyRequest ∧
      Fails faultyRun.inputs faultyRequest .sourceFile (.reported .fileNotFound) ∧
      (run faultyRun).status = 65 ∧ (run faultyRun).out = [] :=
  ⟨accepts_faultyRun, .sourceFile (e := .system ⟨.missing, "a.java"⟩) rfl,
    (run_status accepts_faultyRun).2.1 _ _ firstFails_faultyRun⟩

end ParseRepair.Cli
