import ParseRepair.Proofs.Cli.Run
import ParseRepair.Proofs.Logging.Setting

namespace ParseRepair.Cli

open Logging
open Logging.Level (Asks DigitRun LeftOpen Named NoNumber Numeral)
open Text (Digits)

/-- The switches before the command have been read, and there is no fault in the choice of a command. -/
structure Starts (v : Invocation) (w : Words GroupSwitch) (chosen : Option (Command × List Text)) : Prop where
  read : (readGroup v v.arguments).outcome = .ok w
  command : (target v w).outcome = .ok chosen

section Level

variable {v : Invocation} {w : Words GroupSwitch} {level : Level}

theorem logLevel_of_environment (asked : Level.ofEnvironment v.logSetting = .ok (some level)) :
    logLevel v w = pure level := by
  unfold logLevel
  rw [asked]
  exact Traced.ofExcept_ok_bind _

theorem logLevel_of_leftOpen (asked : Level.ofEnvironment v.logSetting = .ok none) :
    logLevel v w = match (verbosityOf w).level? with
      | some level => pure level
      | none => Step.failed .usageError Verbosity.conflictMessage := by
  unfold logLevel
  rw [asked]
  exact Traced.ofExcept_ok_bind _

theorem logLevel_of_error {e : IntegerError} (failed : Level.ofEnvironment v.logSetting = .error e) :
    (logLevel v w).outcome = .error (.crashed (.integer e)) := by
  unfold logLevel
  rw [failed]
  rfl

theorem logLevel_eq_ok_iff : (logLevel v w).outcome = .ok level ↔
    level ≠ 0 ∧ Asks v.logSetting level ∨ LeftOpen v.logSetting ∧ (verbosityOf w).level? = some level := by
  rw [← Level.ofEnvironment_eq_some_iff, ← Level.ofEnvironment_eq_none_iff]
  cases asked : Level.ofEnvironment v.logSetting with
  | error e => simp [logLevel_of_error asked]
  | ok said =>
    cases said with
    | some said => simp [logLevel_of_environment asked]
    | none =>
      rw [logLevel_of_leftOpen asked]
      cases (verbosityOf w).level? with
      | some level => simp
      | none => simp [Step.failed, Traced.fail]

theorem logLevel_eq_error_iff {e : Ending} : (logLevel v w).outcome = .error e ↔
    (∃ t cause, v.logSetting = some t ∧ NoNumber t cause ∧ e = .crashed (.integer cause)) ∨
      LeftOpen v.logSetting ∧ (0 < w.count .verbose ∧ 0 < w.count .quiet) ∧
        e = .failed .usageError Verbosity.conflictMessage := by
  have wrong : (∃ t cause, v.logSetting = some t ∧ NoNumber t cause ∧ e = .crashed (.integer cause)) ↔
      ∃ cause, Level.ofEnvironment v.logSetting = .error cause ∧ e = .crashed (.integer cause) := by
    simp only [Level.ofEnvironment_eq_error_iff]
    constructor
    · rintro ⟨t, cause, set, wrong, same⟩
      exact ⟨cause, ⟨t, set, wrong⟩, same⟩
    · rintro ⟨cause, ⟨t, set, wrong⟩, same⟩
      exact ⟨t, cause, set, wrong, same⟩
  have conflict : 0 < w.count .verbose ∧ 0 < w.count .quiet ↔ (verbosityOf w).level? = none :=
    (Verbosity.level?_eq_none_iff (v := verbosityOf w)).symm
  rw [wrong, conflict, ← Level.ofEnvironment_eq_none_iff]
  cases asked : Level.ofEnvironment v.logSetting with
  | error cause => simp [logLevel_of_error asked, eq_comm]
  | ok said =>
    cases said with
    | some said => simp [logLevel_of_environment asked]
    | none =>
      rw [logLevel_of_leftOpen asked]
      cases (verbosityOf w).level? with
      | some level => simp
      | none => simp [Step.failed, Traced.fail, eq_comm]

end Level

section Start

variable {v : Invocation} {w : Words GroupSwitch} {chosen : Option (Command × List Text)} {e : Ending}

theorem crash?_readWords {σ : Type} [DecidableEq σ] {synopsis : Synopsis} {help : Text} {helpSwitch : σ}
    {c : Terminal.Console} {ss : Switches σ} {mixed : Bool} {words : List Text}
    (failed : (readWords synopsis help helpSwitch c ss mixed words).outcome = .error e) : e.crash? = none := by
  cases sorted : ss.read mixed none words with
  | error f =>
    rw [readWords_of_error sorted] at failed
    cases failed
    rfl
  | ok w =>
    rw [readWords_of_ok sorted] at failed
    split at failed
    · cases failed
      rfl
    · cases failed

theorem crash?_resolve {word : Text} {rest : List Text} (failed : (resolve v word rest).outcome = .error e) :
    e.crash? = none := by
  unfold resolve at failed
  split at failed
  · cases failed
  dsimp only at failed
  split at failed
  · obtain unread | ⟨_, _, refused⟩ := Traced.bind_eq_error_iff.mp failed
    · exact crash?_readWords unread
    · cases refused
      rfl
  · cases failed
    rfl

theorem crash?_target (failed : (target v w).outcome = .error e) : e.crash? = none := by
  unfold target at failed
  split at failed
  · cases failed
  obtain unresolved | ⟨_, _, done⟩ := Traced.bind_eq_error_iff.mp failed
  · exact crash?_resolve unresolved
  · cases done

theorem openSession_of_starts (starts : Starts v w chosen) :
    (openSession v).outcome = (logLevel v w).outcome.map fun level => ⟨level, ⟨level⟩, ⟨!w.has .noColor⟩, chosen⟩ := by
  unfold openSession
  rw [Traced.outcome_bind_of_ok starts.read, Traced.outcome_bind_of_ok starts.command]
  cases leveled : (logLevel v w).outcome with
  | error e => rw [Traced.bind_of_error leveled, Except.map]
  | ok level =>
    rw [Traced.outcome_bind_of_ok leveled]
    rfl

theorem starts_of_crash {c : Crash} (failed : (openSession v).outcome = .error (.crashed c)) :
    ∃ w chosen, Starts v w chosen ∧ (logLevel v w).outcome = .error (.crashed c) := by
  unfold openSession at failed
  obtain unread | ⟨w, read, failed⟩ := Traced.bind_eq_error_iff.mp failed
  · cases crash?_readWords unread
  obtain unresolved | ⟨chosen, command, failed⟩ := Traced.bind_eq_error_iff.mp failed
  · cases crash?_target unresolved
  obtain unleveled | ⟨level, _, done⟩ := Traced.bind_eq_error_iff.mp failed
  · exact ⟨w, chosen, ⟨read, command⟩, unleveled⟩
  · cases done

theorem openSession_crash_iff {cause : IntegerError} :
    (openSession v).outcome = .error (.crashed (.integer cause)) ↔
      (∃ w chosen, Starts v w chosen) ∧ ∃ t, v.logSetting = some t ∧ NoNumber t cause := by
  constructor
  · intro failed
    obtain ⟨w, chosen, starts, unleveled⟩ := starts_of_crash failed
    refine ⟨⟨w, chosen, starts⟩, ?_⟩
    obtain ⟨t, _, set, wrong, ⟨⟩⟩ | ⟨_, _, ⟨⟩⟩ := logLevel_eq_error_iff.mp unleveled
    exact ⟨t, set, wrong⟩
  · rintro ⟨⟨w, chosen, starts⟩, t, set, wrong⟩
    rw [openSession_of_starts starts, logLevel_eq_error_iff.mpr (.inl ⟨t, cause, set, wrong, rfl⟩)]
    rfl

end Start

/-- Any text asks for a level of the log, or for none, or is a run of digits that is no number. Only the last kind
keeps the log from being set up, or a run from beginning. -/
theorem logSetting_read (t : Text) :
    (∀ level, Level.ofSetting t = .ok (some level) ↔ Named t level ∨ Numeral t level) ∧
    (Level.ofSetting t = .ok none ↔ (∀ level, ¬ Named t level) ∧ ¬ DigitRun t) ∧
    (∀ e, Level.ofSetting t = .error e ↔ NoNumber t e) ∧
    (Digits t → t.length ≤ digitLimit → Level.ofSetting t = .ok (some (Nat.ofDigitChars 10 t 0))) ∧
    (∀ setting e, Handler.default setting = .error e ↔ ∃ value, setting = some value ∧ NoNumber value e) ∧
    ∀ v e, (openSession v).outcome = .error (.crashed (.integer e)) ↔
      (∃ w chosen, Starts v w chosen) ∧ ∃ value, v.logSetting = some value ∧ NoNumber value e := by
  refine ⟨fun level => Level.ofSetting_eq_some_iff, Level.ofSetting_eq_none_iff,
    fun e => Level.ofSetting_eq_error_iff, fun digits short => Level.ofSetting_digits digits short, ?_⟩
  exact ⟨fun setting e => Handler.default_eq_error_iff, fun v e => openSession_crash_iff⟩

theorem logSetting_zeros :
    Digits "0042" ∧ "0042".toList.length ≤ digitLimit ∧ Level.ofSetting "0042" = .ok (some 42) := by
  have digits : Digits "0042" := ⟨by decide, List.all_eq_true.mp (by decide)⟩
  have short : "0042".toList.length ≤ digitLimit := by decide
  exact ⟨digits, short, (logSetting_read "0042").2.2.2.1 digits short⟩

def contraryRun (setting : Option Text) : Invocation where
  program := "cli"
  arguments := ["-v", "-q", "version"]
  logSetting := setting
  inputs := ⟨⟨fun l => if l = [] then some .directory else none, []⟩, [], 990, ⟨490, 980, 2, 3, 75⟩⟩

theorem starts_contraryRun (setting : Option Text) :
    Starts (contraryRun setting) ⟨[⟨.verbose, none⟩, ⟨.quiet, none⟩], ["version"]⟩ (some (.version, [])) :=
  ⟨rfl, rfl⟩

theorem superscript_crashes :
    (∀ level, ¬ Named "²" level ∧ ¬ Numeral "²" level) ∧
    Level.ofSetting "²" = .error (.invalid "²") ∧
    Handler.default (some "²") = .error (.invalid "²") ∧
    (openSession (contraryRun (some "²"))).outcome = .error (.crashed (.integer (.invalid "²"))) := by
  have run : DigitRun "²" := ⟨by decide, List.forall_mem_singleton.mpr (.inr (by decide))⟩
  have other (level : Level) : ¬ Numeral "²" level := fun numeral =>
    absurd (numeral.decimal '²' (by decide +kernel)) (by decide +kernel)
  exact ⟨fun level => ⟨Level.not_named_of_digitRun run level, other level⟩, rfl, rfl, rfl⟩

/-- The environment decides on the level of the log before the switches do, unless it asks for zero. -/
theorem openSession_level {v : Invocation} {w : Words GroupSwitch} {chosen : Option (Command × List Text)}
    (starts : Starts v w chosen) :
    (∀ level, (openSession v).outcome = .ok ⟨level, ⟨level⟩, ⟨!w.has .noColor⟩, chosen⟩ ↔
      level ≠ 0 ∧ Asks v.logSetting level ∨ LeftOpen v.logSetting ∧ (verbosityOf w).level? = some level) ∧
    ((openSession v).outcome = .error (.failed .usageError Verbosity.conflictMessage) ↔
      LeftOpen v.logSetting ∧ 0 < w.count .verbose ∧ 0 < w.count .quiet) ∧
    ∀ setting level, Handler.default setting = .ok ⟨level⟩ ↔
      level ≠ 0 ∧ Asks setting level ∨ LeftOpen setting ∧ level = Level.critical := by
  refine ⟨fun level => ?_, ?_, fun setting level => Handler.default_eq_ok_iff⟩
  · rw [openSession_of_starts starts, ← logLevel_eq_ok_iff]
    cases (logLevel v w).outcome <;> simp [Except.map]
  · have failed : (openSession v).outcome = .error (.failed .usageError Verbosity.conflictMessage) ↔
        (logLevel v w).outcome = .error (.failed .usageError Verbosity.conflictMessage) := by
      rw [openSession_of_starts starts]
      cases (logLevel v w).outcome <;> simp [Except.map]
    rw [failed, logLevel_eq_error_iff]
    simp

theorem level_of_contraryRun :
    Starts (contraryRun (some " 15 ")) ⟨[⟨.verbose, none⟩, ⟨.quiet, none⟩], ["version"]⟩ (some (.version, [])) ∧
    (openSession (contraryRun (some " 15 "))).outcome = .ok ⟨15, ⟨15⟩, ⟨true⟩, some (.version, [])⟩ := by
  have numeral : Numeral " 15 " 15 := ⟨by decide, List.all_eq_true.mp (by decide), by decide, by decide⟩
  have asks : Asks (some " 15 ") 15 := ⟨_, rfl, .inr numeral⟩
  have starts := starts_contraryRun (some " 15 ")
  exact ⟨starts, ((openSession_level starts).1 15).mpr (.inl ⟨by decide, asks⟩)⟩

theorem notset_gives_way :
    Level.ofSetting "NOTSET" = .ok (some 0) ∧
    (openSession (contraryRun (some "NOTSET"))).outcome = .error (.failed .usageError Verbosity.conflictMessage) ∧
    Handler.default (some "NOTSET") = .ok ⟨50⟩ :=
  ⟨rfl, rfl, rfl⟩

end ParseRepair.Cli
