import ParseRepair.Proofs.Cli.Run
import ParseRepair.Proofs.Config.Failure

namespace ParseRepair.Cli

open Config
open Files (Tree)

section Status

variable {limits : Toml.Limits} {tree : Tree} {path : Path} {e : LoadError}

theorem Failure.ofLoad_of_reported (reported : Reported limits tree path e) : ofLoad e = .reported .configError := by
  cases reported <;> rfl

theorem Failure.ofLoad_of_crashes (crashes : Crashes limits tree path e) : ofLoad e = .unreported := by
  cases crashes <;> rfl

theorem Failure.ofLoad_of_searchCrashes {start : Path} (crashes : SearchCrashes limits tree start e) :
    ofLoad e = .unreported := by
  cases crashes with
  | start | place | loop | candidate => rfl
  | file _ crashes => exact ofLoad_of_crashes crashes

theorem Failure.ofLoad_of_mergeCrashes {start : Option Path} {extra : List Path}
    (crashes : MergeCrashes limits tree start extra e) : ofLoad e = .unreported := by
  cases crashes with
  | search _ crashes => exact ofLoad_of_searchCrashes crashes
  | extra _ crashes => exact ofLoad_of_crashes crashes

end Status

theorem run_of_unsettled {v : Invocation} {session : Session} {r : PatchRequest} {e : LoadError}
    (accepts : Accepts v session r) (two : ¬ (r.source = stdinMark ∧ r.diagnostics = stdinMark))
    (failed : (loadMerged v.inputs.limits v.inputs.tree (searchStart v.inputs.tree r)
      (r.configFiles.map Path.ofText)).outcome = .error e) :
    (run v).status = (Failure.ofLoad e).status ∧ (run v).out = [] := by
  rw [run_of_accepts accepts]
  exact status_of_stops (runPatch_stops_of_settings _ two (loadSettings_stops failed)) _ _

/-- A settings file that cannot be read or is malformed is reported by its name, and a run that needs it ends
with the status for that. Only paths that the system refuses to look at or circles round, bytes that are no text
and failures of the reader itself go through. -/
theorem settings_failures (limits : Toml.Limits) (tree : Tree) :
    (∀ path, ((∃ table, loadDocument limits tree path = .ok (.object table)) ∨
      ∃ e, loadDocument limits tree path = .error e ∧ Reported limits tree path e ∧ path.text <:+: e.message) ↔
      ∀ e, ¬ Crashes limits tree path e) ∧
    (∀ path e, (loadLayer limits tree path).outcome = .error e ↔
      Reported limits tree path e ∨ Crashes limits tree path e) ∧
    (∀ start e, (discover limits tree start).outcome = .error e →
      (∃ path, Searched tree start path ∧ Reported limits tree path e) ∨ SearchCrashes limits tree start e) ∧
    (∀ start extra e, (loadMerged limits tree start extra).outcome = .error e →
      (∃ path, Consulted tree start extra path ∧ Reported limits tree path e) ∨
        MergeCrashes limits tree start extra e) ∧
    ∀ (v : Invocation) (session : Session) (r : PatchRequest) (e : LoadError),
      v.inputs.limits = limits → v.inputs.tree = tree →
      Accepts v session r → ¬ (r.source = stdinMark ∧ r.diagnostics = stdinMark) →
      (loadMerged limits tree (searchStart tree r) (r.configFiles.map Path.ofText)).outcome = .error e →
      (run v).out = [] ∧
        (((∃ path, Consulted tree (searchStart tree r) (r.configFiles.map Path.ofText) path ∧
            Reported limits tree path e) ∧ (run v).status = 78) ∨
          (MergeCrashes limits tree (searchStart tree r) (r.configFiles.map Path.ofText) e ∧ (run v).status = 1)) := by
  refine ⟨loadDocument_reports_iff limits tree, fun path e => ?_, fun start e failed => discover_eq_error failed,
    fun start extra e failed => loadMerged_eq_error failed, fun v session r e room same accepts two failed => ?_⟩
  · rw [loadLayer_eq_error_iff, loadDocument_eq_error_iff]
  · subst room same
    obtain ⟨status, silent⟩ := run_of_unsettled accepts two failed
    refine ⟨silent, ?_⟩
    rcases loadMerged_eq_error failed with ⟨path, consulted, reported⟩ | crashes
    · rw [Failure.ofLoad_of_reported reported] at status
      exact .inl ⟨⟨path, consulted, reported⟩, status⟩
    · rw [Failure.ofLoad_of_mergeCrashes crashes] at status
      exact .inr ⟨crashes, status⟩

def configuredRun (bytes : Utf8.Bytes) : Invocation where
  program := "cli"
  arguments := ["patch", "a.java", "-d", "d.json", "--no-config", "-c", "c.toml"]
  logSetting := none
  inputs :=
    { tree :=
        { entry? := fun l =>
            if l = [] then some .directory
            else if l = ["c.toml".toList] then some (.file bytes)
            else none
          current := [] }
      stdin := []
      depth := 990
      limits := ordinaryLimits }

def configuredRequest : PatchRequest := ⟨"a.java", "d.json", .source, ["c.toml"], true, [], none⟩

theorem accepts_configuredRun (bytes : Utf8.Bytes) : Accepts (configuredRun bytes)
    ⟨30, ⟨30⟩, ⟨true⟩, some (.patch, ["a.java", "-d", "d.json", "--no-config", "-c", "c.toml"])⟩ configuredRequest :=
  ⟨rfl, _, ⟨[⟨.diagnostics, some "d.json"⟩, ⟨.noConfig, none⟩, ⟨.config, some "c.toml"⟩], ["a.java"]⟩, rfl, rfl, rfl⟩

theorem settings_failures_malformed :
    (loadMerged ordinaryLimits (configuredRun (Utf8.encode "[tool")).inputs.tree none [⟨0, ["c.toml"]⟩]).outcome =
        .error (.invalid ⟨0, ["c.toml"]⟩) ∧
      (run (configuredRun (Utf8.encode "[tool"))).out = [] ∧
      (run (configuredRun (Utf8.encode "[tool"))).status = 78 := by
  have failed : (loadMerged ordinaryLimits (configuredRun (Utf8.encode "[tool")).inputs.tree none
      [⟨0, ["c.toml"]⟩]).outcome = .error (.invalid ⟨0, ["c.toml"]⟩) := by
    decide +kernel
  obtain ⟨silent, ⟨_, status⟩ | ⟨crashes, _⟩⟩ := (settings_failures _ _).2.2.2.2 _ _ _ _ rfl rfl
    (accepts_configuredRun _) (fun two => nomatch two.1) failed
  · exact ⟨failed, silent, status⟩
  · cases Failure.ofLoad_of_mergeCrashes crashes

theorem undecodable_settings_go_through :
    loadDocument ordinaryLimits (configuredRun [0xFF]).inputs.tree ⟨0, ["c.toml"]⟩ =
        .error (.undecodable ⟨0, 1, 0xFF, .invalidStart⟩) ∧
      (run (configuredRun [0xFF])).status = 1 := by
  have unread : (loadLayer ordinaryLimits (configuredRun [0xFF]).inputs.tree ⟨0, ["c.toml"]⟩).outcome =
      .error (.undecodable ⟨0, 1, 0xFF, .invalidStart⟩) := by
    decide +kernel
  have failed : (loadMerged ordinaryLimits (configuredRun [0xFF]).inputs.tree none [⟨0, ["c.toml"]⟩]).outcome =
      .error (.undecodable ⟨0, 1, 0xFF, .invalidStart⟩) := by
    decide +kernel
  exact ⟨(loadLayer_eq_error_iff _).mp unread,
    (run_of_unsettled (accepts_configuredRun _) (fun two => nomatch two.1) failed).1⟩

end ParseRepair.Cli
