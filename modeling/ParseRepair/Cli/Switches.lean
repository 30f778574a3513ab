import ParseRepair.Cli.Usage

namespace ParseRepair.Cli

variable {σ : Type}

structure Switch (σ : Type) where
  name : Text
  switch : σ
  takesValue : Bool := false
  deriving DecidableEq, Repr

structure Use (σ : Type) where
  switch : σ
  value : Option Text := none
  deriving DecidableEq, Repr

structure Pending (σ : Type) where
  name : Text
  switch : σ
  deriving DecidableEq, Repr

structure Words (σ : Type) where
  uses : List (Use σ) := []
  arguments : List Text := []
  deriving DecidableEq, Repr

abbrev Switches (σ : Type) := List (Switch σ)

namespace Switches

def find? (ss : Switches σ) (name : Text) : Option (Switch σ) :=
  List.find? (fun s => s.name == name) ss

def longNames (ss : Switches σ) : List Text :=
  (ss.map Switch.name).filter fun n => Text.startsWith "--" n

def long? (ss : Switches σ) (name : Text) : Option (Switch σ) :=
  if name.length = 2 && !Text.startsWith "--" name then none else ss.find? name

/-- Reads a word of several one-letter switches. The first one that takes a value takes the rest of
the word, or the next word if nothing is left. -/
def readLetters (ss : Switches σ) :
    Text → Except UsageFault (List (Use σ) × Option (Pending σ))
  | [] => .ok ([], none)
  | c :: r =>
    match ss.find? ['-', c] with
    | none => .error (.noSuchOption ['-', c] [])
    | some s =>
      if s.takesValue then
        if r.isEmpty then .ok ([], some ⟨s.name, s.switch⟩) else .ok ([⟨s.switch, some r⟩], none)
      else do
        let (uses, pending) ← ss.readLetters r
        .ok (⟨s.switch, none⟩ :: uses, pending)

def splitValue (word : Text) : Text × Option Text :=
  match Text.cutAt? '=' word with
  | some (name, value) => (name, some value)
  | none => (word, none)

def readWord (ss : Switches σ) (word : Text) :
    Except UsageFault (List (Use σ) × Option (Pending σ)) :=
  let (name, value) := splitValue word
  match ss.long? name with
  | some s =>
    match s.takesValue, value with
    | true, some v => .ok ([⟨s.switch, some v⟩], none)
    | true, none => .ok ([], some ⟨name, s.switch⟩)
    | false, some _ => .error (.takesNoValue name)
    | false, none => .ok ([⟨s.switch, none⟩], none)
  | none =>
    if Text.startsWith "--" word then
      .error (.noSuchOption name (similarNames name ss.longNames))
    else ss.readLetters (word.drop 1)

def isSwitch (word : Text) : Bool := Text.startsWith "-" word && 1 < word.length

/-- Sorts the words of a command line. Two hyphens end the switches, and so does the first other
word, unless switches may follow it (`mixed`). -/
def read (ss : Switches σ) (mixed : Bool) :
    Option (Pending σ) → List Text → Except UsageFault (Words σ)
  | none, [] => .ok {}
  | some p, [] => .error (.needsValue p.name)
  | some p, word :: r => do
    let w ← ss.read mixed none r
    .ok { w with uses := ⟨p.switch, some word⟩ :: w.uses }
  | none, word :: r =>
    if word = "--".toList then .ok { arguments := r }
    else if isSwitch word then do
      let (uses, pending) ← ss.readWord word
      let w ← ss.read mixed pending r
      .ok { w with uses := uses ++ w.uses }
    else if mixed then do
      let w ← ss.read mixed none r
      .ok { w with arguments := word :: w.arguments }
    else .ok { arguments := word :: r }

end Switches

namespace Words

variable [DecidableEq σ]

def has (w : Words σ) (s : σ) : Bool := w.uses.any (·.switch = s)

def count (w : Words σ) (s : σ) : Nat := (w.uses.filter (·.switch = s)).length

def values (w : Words σ) (s : σ) : List Text :=
  (w.uses.filter (·.switch = s)).filterMap Use.value

def switches (w : Words σ) : List σ := (w.uses.map Use.switch).eraseDups

end Words

end ParseRepair.Cli
