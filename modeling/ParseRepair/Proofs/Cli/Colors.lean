import ParseRepair.Proofs.Cli.Printed
import ParseRepair.Proofs.Cli.Switches
import ParseRepair.Proofs.Diff.Preview

namespace ParseRepair.Cli

open Config (Settings)
open Logging (Handler)
open Recovery (Patch Repair Report)
open Terminal (Apart Console strip)
open Text (OneLine unlines)

/-- The second run ends as the first, and prints what the first prints, less the control sequences in it. -/
structure Fades (colored plain : Result) : Prop where
  status : plain.status = colored.status
  out : plain.out = strip colored.out

structure Requests (v : Invocation) (words : List Text) (r : PatchRequest) : Prop where
  request : ∃ w, patchSwitches.read true none words = .ok w ∧ w.has .help = false ∧
    PatchRequest.ofWords v.inputs.tree w = .ok r

section Printing

variable (c : Console)

theorem shown_unlines (ls : List Text) : c.shown (unlines ls) = unlines (ls.map c.shown) := by
  unfold Console.shown
  cases c.color with
  | true => simp
  | false => exact Terminal.strip_unlines ls

theorem shown_line (l : Text) : c.shown (l ++ ['\n']) = c.shown l ++ ['\n'] := by
  have line := shown_unlines c [l]
  rwa [Text.unlines_cons, List.map_cons, Text.unlines_cons] at line

theorem printed_print (newline : Bool) (t : Text) :
    (Step.print c newline t).printed = c.shown (Console.ended newline t) :=
  List.append_nil _

theorem printed_printLine (l : Text) : (Step.printLine c l).printed = c.shown l ++ ['\n'] := by
  rw [Step.printLine, printed_print, Console.ended, if_pos rfl, shown_line]

def summaryLines (report : Report) : List Text :=
  [] :: .concat ["Patched ", .ofNat report.size, " line(s):"] :: report.patches.map (summaryLine c)

theorem printed_printSummary (report : Report) :
    (printSummary c report).printed = unlines ((summaryLines c report).map c.shown) := by
  have line (l : Text) : (Step.printLine c l).outcome = .ok () := rfl
  have patches : Step.printed (Traced.forEach (fun p => Step.printLine c (summaryLine c p)) report.patches) =
      unlines ((report.patches.map (summaryLine c)).map c.shown) := by
    rw [Step.printed_forEach (fun p => line _), unlines, List.map_map, List.flatMap_map]
    simp only [printed_printLine]
    rfl
  have last : (Traced.forEach (fun p => Step.printLine c (summaryLine c p)) report.patches).outcome =
      .ok (report.patches.map fun _ => ()) := by
    rw [Traced.forEach_eq fun _ => line _]
  unfold printSummary
  rw [Step.printed_bind_of_ok (line _), Step.printed_bind_of_ok (line _), Step.printed_bind_of_ok last, patches,
    printed_printLine, printed_printLine, summaryLines, List.map_cons, List.map_cons, Text.unlines_cons,
    Text.unlines_cons, List.append_assoc, List.append_assoc]
  exact congrArg (fun behind => c.shown [] ++ '\n' :: (_ ++ '\n' :: behind)) (List.append_nil _)

def diffLinesOn (ls : List Text) : List Text := if c.color then ls.map Diff.previewLine else ls

theorem printed_printDiff {name : Text} (before : Text) (w : Repair)
    (whole : OneLine name) :
    (printDiff c name before w).printed =
      if Diff.diffLines name before w.text = [] then []
      else unlines ((diffLinesOn c (Diff.diffLines name before w.text) ++ summaryLines c w.report).map c.shown) := by
  have lines_whole := Diff.oneLine_diffLines whole before w.text
  have log := Step.gives_log (Diff.sizeRecord (Diff.diffLines name before w.text))
  have lines : (if c.color then Diff.preview false (unlines (Diff.diffLines name before w.text))
      else unlines (Diff.diffLines name before w.text)) =
        unlines (diffLinesOn c (Diff.diffLines name before w.text)) := by
    rw [Diff.preview_unlines lines_whole, diffLinesOn]
    split <;> rfl
  unfold printDiff
  rw [log.printed_bind]
  by_cases nothing : Diff.diffLines name before w.text = []
  · rw [if_pos nothing, nothing]
    rfl
  · have some_line : (Diff.diffLines name before w.text).isEmpty = false := by simpa using nothing
    rw [if_neg nothing, some_line, if_neg Bool.false_ne_true]
    dsimp only
    rw [lines, Step.printed_bind_of_ok (a := ()) rfl,
      printed_print, Console.ended, if_neg Bool.false_ne_true, shown_unlines, printed_printSummary, List.map_append,
      Text.unlines_append]

theorem strip_summaryLine (p : Patch) : strip (summaryLine ⟨true⟩ p) = strip (summaryLine ⟨false⟩ p) := by
  obtain ⟨mark, behind, ends, stops⟩ : ∃ mark behind,
      (if p.preservesLength then [] else ", offsets drift by ".toList ++ signedText p.lengthDelta) ++ ")".toList =
        mark :: behind ∧ Terminal.Interrupts mark := by
    split
    · exact ⟨')', [], rfl, by decide⟩
    · exact ⟨',', _, rfl, by decide⟩
  have shape (c : Console) : summaryLine c p = .concat ["  line ", .ofInt p.line, ": ", p.strategy, " "] ++
      (['('] ++ ((if c.color then renderDecision p.decision p.decision.text else p.decision.text) ++
        mark :: behind)) := by
    rw [← ends]
    simp only [summaryLine, Text.concat, List.flatten_cons, List.flatten_nil, List.append_nil, List.append_assoc]
    rfl
  have opens : Apart ['('] := Terminal.apart_single (by decide) (by decide)
  have painted : Apart (renderDecision p.decision p.decision.text) := by
    have some_paint : decisionPaint p.decision ≠ [] := by
      cases p.decision <;> exact List.cons_ne_nil _ _
    exact Terminal.apart_paint (decisionPaint p.decision) p.decision.text some_paint
  rw [shape, shape, opens, opens, if_pos rfl, if_neg Bool.false_ne_true, painted.seals,
    Terminal.strip_append_interrupted _ _ stops, renderDecision, Terminal.strip_paint]

theorem fades_printDiff {name : Text} (before : Text) (w : Repair) (whole : OneLine name) :
    (printDiff ⟨false⟩ name before w).printed = strip (printDiff ⟨true⟩ name before w).printed := by
  have lines_whole := Diff.oneLine_diffLines whole before w.text
  rw [printed_printDiff _ before w whole, printed_printDiff _ before w whole]
  split
  · rfl
  · have colored (ls : List Text) : ls.map (Console.shown ⟨true⟩) = ls := List.map_id ls
    have stripped : Console.shown ⟨false⟩ = strip := rfl
    have diff : (diffLinesOn ⟨true⟩ (Diff.diffLines name before w.text)).map strip =
        (diffLinesOn ⟨false⟩ (Diff.diffLines name before w.text)).map strip := by
      rw [diffLinesOn, diffLinesOn, if_pos rfl, if_neg Bool.false_ne_true, Diff.strip_preview lines_whole]
    have summary : (summaryLines ⟨true⟩ w.report).map strip = (summaryLines ⟨false⟩ w.report).map strip := by
      have patches : w.report.patches.map (strip ∘ summaryLine ⟨true⟩) =
          w.report.patches.map (strip ∘ summaryLine ⟨false⟩) := List.map_congr_left fun p _ => strip_summaryLine p
      rw [summaryLines, summaryLines, List.map_cons, List.map_cons, List.map_cons, List.map_cons, List.map_map,
        List.map_map, patches]
    rw [colored, stripped, Terminal.strip_unlines, List.map_append, List.map_append, diff, summary]

theorem fades_printRepair (r : PatchRequest) (s : Settings) (t : Text) (w : Repair)
    (whole : OneLine r.source) :
    (printRepair ⟨false⟩ r s (Utf8.encode t) w).printed = strip (printRepair ⟨true⟩ r s (Utf8.encode t) w).printed := by
  have name : OneLine (sourceName r) := by
    unfold sourceName
    split
    · decide
    · exact whole
  unfold printRepair
  cases r.format with
  | source =>
    simp only [printed_print]
    rfl
  | diff =>
    simp only [Utf8.mapError_decode_encode, Traced.ofExcept_ok_bind]
    exact fades_printDiff t w name
  | json =>
    have unescaped := shown_json ⟨false⟩ (payload (sourceName r) s w).points
    simp only [printed_printLine, ← shown_line]
    rw [unescaped]
    exact unescaped.symm

end Printing

section Runs

variable {v : Invocation} {w : Words GroupSwitch} {words : List Text}

theorem fades_of_stops {x y : Step Unit} {n : Nat} (stops : x.Stops n) (stops' : y.Stops n) (h h' : Handler)
    (c c' : Console) : Fades (.ofStep h c x) (.ofStep h' c' y) := by
  obtain ⟨status, out⟩ := status_of_stops stops h c
  obtain ⟨status', out'⟩ := status_of_stops stops' h' c'
  refine ⟨status'.trans status.symm, ?_⟩
  rw [out, out']
  rfl

theorem fades_of_help {α : Type} (h : Handler) (help : Text) (f g : α → Step Unit) :
    Fades (.ofStep h ⟨true⟩ ((Step.print ⟨true⟩ false help >>= fun _ => Step.exit .success) >>= f))
      (.ofStep h ⟨false⟩ ((Step.print ⟨false⟩ false help >>= fun _ => Step.exit .success) >>= g)) := by
  refine ⟨rfl, ?_⟩
  show strip help ++ [] = strip (help ++ [])
  rw [List.append_nil, List.append_nil]

theorem fades_runPatch (i : Inputs) (h : Handler) (r : PatchRequest)
    (whole : OneLine r.source) :
    Fades (.ofStep h ⟨true⟩ (runPatch i ⟨true⟩ r)) (.ofStep h ⟨false⟩ (runPatch i ⟨false⟩ r)) := by
  by_cases sound : ∀ stage, Sound i r stage
  · obtain ⟨s, t, w, makes⟩ := makes_of_sound sound
    obtain ⟨status, out⟩ := ofStep_of_makes h ⟨true⟩ makes
    obtain ⟨status', out'⟩ := ofStep_of_makes h ⟨false⟩ makes
    refine ⟨status'.trans status.symm, ?_⟩
    rw [out, out', fades_printRepair r s t w whole]
  · obtain ⟨stage, fails⟩ := Classical.not_forall.mp sound
    obtain ⟨first, f, failure⟩ := exists_firstFails stage fails
    exact fades_of_stops (runPatch_stops _ failure) (runPatch_stops _ failure) _ _ _ _

theorem fades_runCommand (h : Handler) (whole : ∀ r, Requests v words r → OneLine r.source) :
    Fades (.ofStep h ⟨true⟩ (runCommand v ⟨true⟩ .patch words))
      (.ofStep h ⟨false⟩ (runCommand v ⟨false⟩ .patch words)) := by
  have shape (c : Console) : runCommand v c .patch words =
      readWords (commandSynopsis v.program .patch) (commandHelp v.program .patch) PatchSwitch.help c patchSwitches
        true words >>= fun w => Traced.ofExcept ((PatchRequest.ofWords v.inputs.tree w).mapError
          (requestEnding (commandSynopsis v.program .patch))) >>= runPatch v.inputs c := rfl
  rw [shape, shape]
  cases read : patchSwitches.read true none words with
  | error f =>
    rw [readWords_of_error read, readWords_of_error read]
    have stops : Step.Stops
        (Traced.fail (.refused (commandSynopsis v.program .patch) f) : Step (Words PatchSwitch)) 2 :=
      Step.stops_ofExcept rfl
    exact fades_of_stops stops.bind stops.bind _ _ _ _
  | ok w =>
    rw [readWords_of_ok read, readWords_of_ok read]
    cases asked : w.has .help with
    | true =>
      rw [if_pos rfl, if_pos rfl]
      exact fades_of_help h _ _ _
    | false =>
      rw [if_neg Bool.false_ne_true, if_neg Bool.false_ne_true, Traced.pure_bind, Traced.pure_bind]
      cases request : PatchRequest.ofWords v.inputs.tree w with
      | error f => exact fades_of_stops (Step.stops_ofExcept rfl).bind (Step.stops_ofExcept rfl).bind _ _ _ _
      | ok r =>
        have passes (c : Console) : Traced.ofExcept (Except.mapError (requestEnding (commandSynopsis v.program .patch))
            (.ok r)) >>= runPatch v.inputs c = runPatch v.inputs c r := Traced.ofExcept_ok_bind r
        rw [passes, passes]
        exact fades_runPatch v.inputs h r (whole r ⟨w, read, asked, request⟩)

/-- With `--no-color` in front of its command a run of `patch` ends as without, and prints the same less the
control sequences. -/
theorem run_noColor {args : List Text} (asks : AsksPatch v w words) (colored : w.has .noColor = false)
    (adds : AddsNoColor v.arguments args)
    (whole : ∀ r, Requests v words r → OneLine r.source) :
    Fades (run v) (run { v with arguments := args }) := by
  obtain ⟨front, rest, shape, rfl, member, switches⟩ := adds
  have read := asks.read
  rw [shape] at read
  obtain ⟨w', read', same, has⟩ := read_noColor switches read
  have noHelp : w'.has .help = false := by
    rw [same.has (by decide), asks.noHelp]
  have asks' : AsksPatch { v with arguments := front ++ rest } w' words :=
    ⟨read', noHelp, same.arguments.trans asks.command⟩
  have level : logLevel { v with arguments := front ++ rest } w' = logLevel v w := by
    simp only [logLevel, verbosityOf, same.count (show GroupSwitch.verbose ≠ .noColor by decide),
      same.count (show GroupSwitch.quiet ≠ .noColor by decide)]
  rw [run_of_asks asks, run_of_asks asks', level, colored, has member]
  cases (logLevel v w).outcome with
  | error e => exact ⟨rfl, rfl⟩
  | ok level => exact fades_runCommand (v := v) ⟨level⟩ whole

def diffWords : List Text := ["a.java", "-d", "d.json", "--no-config", "--format", "diff"]

def firstLineProblem : Text :=
  "[\x7b\"message\":\"x\",\"span\":\x7b\"begin\":\x7b\"line\":1,\"column\":1\x7d\x7d\x7d]"

def brokenRun : Invocation where
  program := "cli"
  arguments := "-v".toList :: Command.patch.name :: diffWords
  logSetting := none
  inputs :=
    { tree :=
        { entry? := fun l =>
            if l = [] then some .directory
            else if l = ["a.java".toList] then some (.file (Utf8.encode "a\x1b[31mb\x1b[3\n"))
            else if l = ["d.json".toList] then some (.file (Utf8.encode firstLineProblem))
            else none
          current := [] }
      stdin := []
      depth := 990
      limits := ⟨490, 980, 2, 3, 75⟩ }

theorem requests_brokenRun {r : PatchRequest} (requests : Requests brokenRun diffWords r) :
    r = ⟨"a.java", "d.json", .diff, [], true, [], none⟩ := by
  obtain ⟨w, read, _, request⟩ := requests
  obtain rfl : _ = w := Except.ok.inj (show patchSwitches.read true none _ = .ok _ from read)
  exact (Except.ok.inj request).symm

theorem addsNoColor_brokenRun :
    AddsNoColor brokenRun.arguments ("-v".toList :: noColorWord :: Command.patch.name :: diffWords) :=
  ⟨["-v".toList, noColorWord], Command.patch.name :: diffWords, rfl, rfl, by decide, by decide⟩

theorem noColor_brokenRun : Fades (run brokenRun)
    (run { brokenRun with arguments := "-v".toList :: noColorWord :: Command.patch.name :: diffWords }) :=
  run_noColor (w := ⟨[⟨.verbose, none⟩], Command.patch.name :: diffWords⟩) ⟨rfl, rfl, rfl⟩ rfl addsNoColor_brokenRun
    fun r requests => by rw [requests_brokenRun requests]; decide

end Runs

end ParseRepair.Cli
