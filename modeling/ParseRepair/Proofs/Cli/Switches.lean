import ParseRepair.Proofs.Cli.Run

namespace ParseRepair.Cli

open Logging (Level)

section Flags

variable {σ : Type} {ss : Switches σ} (flags : ∀ s ∈ ss, s.takesValue = false)

include flags

theorem takesValue_of_find? {name : Text} {s : Switch σ} (found : ss.find? name = some s) : s.takesValue = false :=
  flags s (List.mem_of_find?_eq_some found)

theorem pending_readLetters {letters : Text} {uses : List (Use σ)} {pending : Option (Pending σ)}
    (read : ss.readLetters letters = .ok (uses, pending)) : pending = none := by
  induction letters generalizing uses pending with
  | nil =>
    cases read
    rfl
  | cons c r ih =>
    rw [Switches.readLetters] at read
    split at read
    · cases read
    · rename_i s found
      rw [takesValue_of_find? flags found, if_neg Bool.false_ne_true] at read
      cases rest : ss.readLetters r with
      | error f =>
        rw [rest] at read
        cases read
      | ok read' =>
        obtain ⟨uses', pending'⟩ := read'
        rw [rest] at read
        cases read
        exact ih rest

theorem pending_readWord {word : Text} {uses : List (Use σ)} {pending : Option (Pending σ)}
    (read : ss.readWord word = .ok (uses, pending)) : pending = none := by
  unfold Switches.readWord at read
  dsimp only at read
  split at read
  · rename_i s found
    have flag : s.takesValue = false := by
      unfold Switches.long? at found
      split at found
      · cases found
      · exact takesValue_of_find? flags found
    rw [flag] at read
    split at read
    · contradiction
    · contradiction
    · cases read
    · cases read
      rfl
  · split at read
    · cases read
    · exact pending_readLetters flags read

theorem read_switch_eq_ok_iff {mixed : Bool} {word : Text} {rest : List Text} {w : Words σ}
    (isSwitch : Switches.isSwitch word = true) (goes_on : word ≠ "--") :
    ss.read mixed none (word :: rest) = .ok w ↔ ∃ uses w', ss.readWord word = .ok (uses, none) ∧
      ss.read mixed none rest = .ok w' ∧ w = { w' with uses := uses ++ w'.uses } := by
  rw [Switches.read, if_neg goes_on, if_pos isSwitch]
  cases read : ss.readWord word with
  | error f =>
    constructor
    · intro failed
      cases failed
    · rintro ⟨_, _, ⟨⟩, _⟩
  | ok letters =>
    obtain ⟨uses, pending⟩ := letters
    obtain rfl := pending_readWord flags read
    show (ss.read mixed none rest >>= fun w => Except.ok { w with uses := uses ++ w.uses }) = .ok w ↔ _
    cases later : ss.read mixed none rest with
    | error f =>
      constructor
      · intro failed
        cases failed
      · rintro ⟨_, _, _, ⟨⟩, _⟩
    | ok w' =>
      constructor
      · intro done
        cases done
        exact ⟨uses, w', rfl, rfl, rfl⟩
      · rintro ⟨_, _, ⟨⟩, ⟨⟩, rfl⟩
        rfl

end Flags

section NoColor

def noColorWord : Text := "--no-color"

/-- The second command line is the first with `--no-color`, once or more often, among the switches in front of
its command. -/
def AddsNoColor (args args' : List Text) : Prop :=
  ∃ front rest, args = front.filter (· ≠ noColorWord) ++ rest ∧ args' = front ++ rest ∧ noColorWord ∈ front ∧
    ∀ word ∈ front, Switches.isSwitch word = true ∧ word ≠ "--"

structure ButColor (w w' : Words GroupSwitch) : Prop where
  arguments : w'.arguments = w.arguments
  uses : w'.uses.filter (·.switch ≠ .noColor) = w.uses.filter (·.switch ≠ .noColor)

theorem groupSwitches_flags : ∀ s ∈ groupSwitches, s.takesValue = false := by
  decide

theorem readWord_noColor : groupSwitches.readWord noColorWord = .ok ([⟨.noColor, none⟩], none) := rfl

theorem read_noColor {front rest : List Text} {w : Words GroupSwitch}
    (switches : ∀ word ∈ front, Switches.isSwitch word = true ∧ word ≠ "--")
    (read : groupSwitches.read false none (front.filter (· ≠ noColorWord) ++ rest) = .ok w) :
    ∃ w', groupSwitches.read false none (front ++ rest) = .ok w' ∧ ButColor w w' ∧
      (noColorWord ∈ front → w'.has .noColor = true) := by
  induction front generalizing w with
  | nil => exact ⟨w, read, ⟨rfl, rfl⟩, fun member => absurd member List.not_mem_nil⟩
  | cons word front ih =>
    obtain ⟨isSwitch, goes_on⟩ := switches word List.mem_cons_self
    have later := fun {w} => @ih w fun word member => switches word (List.mem_cons_of_mem _ member)
    by_cases added : word = noColorWord
    · subst added
      rw [List.filter_cons_of_neg (by simp)] at read
      obtain ⟨w', read', same, _⟩ := later read
      refine ⟨_, (read_switch_eq_ok_iff groupSwitches_flags isSwitch goes_on).mpr
        ⟨_, w', readWord_noColor, read', rfl⟩, ⟨same.arguments, ?_⟩, fun _ => rfl⟩
      rw [← same.uses]
      rfl
    · rw [List.filter_cons_of_pos (by simpa using added), List.cons_append,
        read_switch_eq_ok_iff groupSwitches_flags isSwitch goes_on] at read
      obtain ⟨uses, rest', letters, read, rfl⟩ := read
      obtain ⟨w', read', same, has⟩ := later read
      refine ⟨_, (read_switch_eq_ok_iff groupSwitches_flags isSwitch goes_on).mpr ⟨uses, w', letters, read', rfl⟩,
        ⟨same.arguments, ?_⟩, ?_⟩
      · rw [List.filter_append, List.filter_append, same.uses]
      · intro member
        rcases List.mem_cons.mp member with here | member
        · exact absurd here.symm added
        · rw [Words.has, List.any_append, Bool.or_eq_true]
          exact .inr (has member)

theorem ButColor.uses_of {w w' : Words GroupSwitch} (same : ButColor w w') {s : GroupSwitch} (other : s ≠ .noColor) :
    w'.uses.filter (·.switch = s) = w.uses.filter (·.switch = s) := by
  have reduce (uses : List (Use GroupSwitch)) :
      (uses.filter (·.switch ≠ .noColor)).filter (·.switch = s) = uses.filter (·.switch = s) := by
    rw [List.filter_filter]
    apply List.filter_congr
    intro u _
    by_cases here : u.switch = s
    · simp [here, other]
    · simp [here]
  rw [← reduce, same.uses, reduce]

theorem ButColor.count {w w' : Words GroupSwitch} (same : ButColor w w') {s : GroupSwitch} (other : s ≠ .noColor) :
    w'.count s = w.count s :=
  congrArg List.length (same.uses_of other)

theorem ButColor.has {w w' : Words GroupSwitch} (same : ButColor w w') {s : GroupSwitch} (other : s ≠ .noColor) :
    w'.has s = w.has s := by
  have counted (w : Words GroupSwitch) : w.has s = true ↔ 0 < w.count s := by
    simp [Words.has, Words.count, List.length_pos_iff]
  rw [Bool.eq_iff_iff, counted, counted, same.count other]

end NoColor

section Session

structure AsksPatch (v : Invocation) (w : Words GroupSwitch) (words : List Text) : Prop where
  read : groupSwitches.read false none v.arguments = .ok w
  noHelp : w.has .help = false
  command : w.arguments = Command.patch.name :: words

variable {v : Invocation} {w : Words GroupSwitch} {words : List Text}

theorem openSession_of_asks (asks : AsksPatch v w words) : openSession v =
    logLevel v w >>= fun level => pure ⟨level, ⟨level⟩, ⟨!w.has .noColor⟩, some (.patch, words)⟩ := by
  have group : readGroup v v.arguments = pure w := by
    rw [readGroup, readWords_of_ok asks.read, asks.noHelp, if_neg Bool.false_ne_true]
  have command : target v w = pure (some (.patch, words)) := by
    unfold target
    rw [asks.command]
    rfl
  unfold openSession
  rw [group, Traced.pure_bind, command, Traced.pure_bind]

theorem trace_logLevel (v : Invocation) (w : Words GroupSwitch) : (logLevel v w).trace = [] := by
  unfold logLevel
  cases Level.ofEnvironment v.logSetting with
  | error e => rfl
  | ok said =>
    cases said with
    | some level => rfl
    | none =>
      show (Traced.ofExcept (.ok none) >>= _ : Step Level).trace = []
      rw [Traced.ofExcept_ok_bind]
      cases (verbosityOf w).level? <;> rfl

theorem run_of_asks (asks : AsksPatch v w words) :
    run v = match (logLevel v w).outcome with
      | .error e => .ofStep ⟨Level.critical⟩ plain ⟨[], .error e⟩
      | .ok level => .ofStep ⟨level⟩ ⟨!w.has .noColor⟩ (runCommand v ⟨!w.has .noColor⟩ .patch words) := by
  unfold run
  rw [openSession_of_asks asks]
  cases leveled : (logLevel v w).outcome with
  | error e =>
    rw [Traced.bind_of_error leveled, trace_logLevel]
  | ok level =>
    rw [Traced.bind_of_ok leveled]
    rfl

end Session

end ParseRepair.Cli
