import ParseRepair.Proofs.Cli.Status
import ParseRepair.Proofs.Json.Printer
import ParseRepair.Proofs.Terminal.Strip

namespace ParseRepair.Cli

open Config (Settings)
open Recovery (Repair)
open Terminal (Console HasControl strip)

section Shown

variable (c : Console)

theorem shown_eq_self_iff {t : Text} : c.shown t = t ↔ c.color = true ∨ ¬ HasControl t := by
  unfold Console.shown
  cases c.color with
  | true => simp
  | false => simp [Terminal.strip_eq_self_iff]

theorem shown_json (v : Json.Value) : c.shown (Json.print v ++ ['\n']) = Json.print v ++ ['\n'] := by
  have ascii : Json.Ascii (Json.print v ++ ['\n']) := (Json.ascii_printAt 0 v).append (by decide)
  refine (shown_eq_self_iff c).mpr (.inr (Terminal.not_hasControl_of_no_escape ?_))
  intro member
  exact absurd (ascii _ member) (by decide)

end Shown

theorem Makes.withFormat {i : Inputs} {r : PatchRequest} {s : Settings} {t : Text} {w : Repair}
    (makes : Makes i r s t w) (f : Format) : Makes i { r with format := f } s t w :=
  ⟨makes.inputs, makes.settings, makes.source, makes.repair⟩

/-- The text of a repair is printed as it is, except that a console without colours takes the control
sequences out of it. As a part of the JSON object it is complete on either console. -/
theorem run_prints {v : Invocation} {session : Session} {r : PatchRequest} {s : Settings} {t : Text} {w : Repair}
    (accepts : Accepts v session r) (makes : Makes v.inputs r s t w) :
    (r.format = .source →
      (run v).out = (if session.console.color then w.text else strip w.text) ∧
      ((run v).out = w.text ↔ session.console.color = true ∨ ¬ HasControl w.text)) ∧
    (r.format = .json →
      (run v).out = Json.print (payload (sourceName r) s w).points ++ ['\n'] ∧
      Value.get? "patched" (payload (sourceName r) s w) = some (.text w.text)) ∧
    ∀ f, Makes v.inputs { r with format := f } s t w := by
  rw [run_of_accepts accepts, (ofStep_of_makes _ _ makes).2]
  refine ⟨?_, ?_, makes.withFormat⟩
  · intro source
    have out : (printRepair session.console r s (Utf8.encode t) w).printed = session.console.shown w.text := by
      rw [printRepair, source]
      exact List.append_nil _
    rw [out]
    exact ⟨rfl, shown_eq_self_iff _⟩
  · intro json
    refine ⟨?_, rfl⟩
    have out : (printRepair session.console r s (Utf8.encode t) w).printed =
        session.console.shown (Json.print (payload (sourceName r) s w).points ++ ['\n']) := by
      rw [printRepair, json]
      exact List.append_nil _
    rw [out, shown_json]

def paintedRun (switches : List Text) : Invocation where
  program := "cli"
  arguments := switches ++ (["patch", "a.java", "-d", "d.json", "--no-config"] : List Text)
  logSetting := none
  inputs :=
    { tree :=
        { entry? := fun l =>
            if l = [] then some .directory
            else if l = ["a.java".toList] then some (.file (Utf8.encode "a\x1b[31mb\n"))
            else if l = ["d.json".toList] then some (.file (Utf8.encode "[]"))
            else none
          current := [] }
      stdin := []
      depth := 990
      limits := ⟨490, 980, 2, 3, 75⟩ }

def paintedRequest : PatchRequest := ⟨"a.java", "d.json", .source, [], true, [], none⟩

theorem accepts_paintedRun {switches : List Text} (either : switches = [] ∨ switches = ["--no-color".toList]) :
    Accepts (paintedRun switches)
      ⟨30, ⟨30⟩, ⟨switches.isEmpty⟩, some (.patch, ["a.java", "-d", "d.json", "--no-config"])⟩ paintedRequest := by
  refine ⟨?_, _, ⟨[⟨.diagnostics, some "d.json"⟩, ⟨.noConfig, none⟩], ["a.java"]⟩, rfl, rfl, rfl⟩
  rcases either with rfl | rfl
  · rfl
  · rfl

theorem makes_paintedRun (switches : List Text) : Makes (paintedRun switches).inputs paintedRequest
    ⟨none, true, [], []⟩ "a\x1b[31mb\n" ⟨"a\x1b[31mb\n", ⟨[]⟩⟩ where
  inputs := by decide
  settings := rfl
  source := rfl
  repair := ⟨[], ⟨"[]", rfl, rfl⟩, rfl⟩

theorem prints_paintedRun : HasControl "a\x1b[31mb\n" ∧ (run (paintedRun [])).out = "a\x1b[31mb\n".toList :=
  ⟨⟨"\x1b[31m", ⟨"31", 'm', rfl, List.all_eq_true.mp rfl, rfl⟩, "a", "b\n", rfl⟩,
    ((run_prints (accepts_paintedRun (.inl rfl)) (makes_paintedRun [])).1 rfl).1⟩

theorem plain_console_strips_source : ∃ session s w,
    Accepts (paintedRun ["--no-color"]) session paintedRequest ∧ paintedRequest.format = .source ∧
      Makes (paintedRun ["--no-color"]).inputs paintedRequest s "a\x1b[31mb\n" w ∧
      w.text = "a\x1b[31mb\n".toList ∧ (run (paintedRun ["--no-color"])).status = 0 ∧
      (run (paintedRun ["--no-color"])).out = "ab\n".toList :=
  ⟨_, _, _, accepts_paintedRun (.inr rfl), rfl, makes_paintedRun _, rfl, rfl, rfl⟩

end ParseRepair.Cli
