import ParseRepair.Proofs.Terminal.Strip
import ParseRepair.Proofs.Text.Digits
import ParseRepair.Proofs.Text.Lines

namespace ParseRepair.Terminal

open Text (replaceMatches unlines)

def Interrupts (c : Char) : Prop := isParameter c = false ∧ isLetter c = false ∧ c ≠ '['

instance (c : Char) : Decidable (Interrupts c) :=
  inferInstanceAs (Decidable (isParameter c = false ∧ isLetter c = false ∧ c ≠ '['))

/-- No control sequence begins in the text and goes on behind it. -/
def Seals (m : Text) : Prop := ∀ b, strip (m ++ b) = strip m ++ strip b

/-- No control sequence goes across one of the text's ends, whatever stands there. -/
def Apart (m : Text) : Prop := ∀ a b, strip (a ++ (m ++ b)) = strip a ++ (strip m ++ strip b)

/-- A text that does not show and takes no part in what does. -/
def Invisible (s : Text) : Prop := s = [] ∨ Apart s ∧ strip s = []

section Strip

theorem sequence?_of_no_escape {c : Char} (r : Text) (plain : c ≠ '\x1b') : sequence? (c :: r) = none := by
  unfold sequence?
  split
  · rename_i shape
    exact absurd (List.cons.inj shape).1 plain
  · rfl

theorem sequence?_append_interrupted (c : Char) (a : Text) {d : Char} (b : Text) (stops : Interrupts d) :
    sequence? (c :: (a ++ d :: b)) = sequence? (c :: a) := by
  obtain ⟨parameter, letter, bracket⟩ := stops
  by_cases escape : c = '\x1b'
  · subst escape
    cases a with
    | nil =>
      unfold sequence?
      split
      · rename_i shape
        exact absurd (List.cons.inj (List.cons.inj shape).2).1 bracket
      · rfl
    | cons e a =>
      by_cases opened : e = '['
      · subst opened
        have run : (a ++ d :: b).takeWhile isParameter = a.takeWhile isParameter := by
          rw [List.takeWhile_append, List.takeWhile_cons_of_neg (by simp [parameter])]
          split
          · rename_i all
            rw [List.append_nil, (List.takeWhile_prefix isParameter).eq_of_length all]
          · rfl
        have size := (List.takeWhile_prefix isParameter (l := a)).length_le
        simp only [List.cons_append, sequence?, run, List.drop_append_of_le_length size]
        cases a.drop (a.takeWhile isParameter).length with
        | nil => simp [letter]
        | cons l r => rfl
      · have unopened (r : Text) : sequence? ('\x1b' :: e :: r) = none := by
          unfold sequence?
          split
          · rename_i shape
            exact absurd (List.cons.inj (List.cons.inj shape).2).1 opened
          · rfl
        rw [List.cons_append, unopened, unopened]
  · rw [sequence?_of_no_escape _ escape, sequence?_of_no_escape _ escape]

theorem strip_append_interrupted (a : Text) {d : Char} (b : Text) (stops : Interrupts d) :
    strip (a ++ d :: b) = strip a ++ strip (d :: b) := by
  induction size : a.length using Nat.strongRecOn generalizing a with
  | ind n ih =>
    cases a with
    | nil => rfl
    | cons c a =>
      cases found : sequence? (c :: a) with
      | none =>
        have unmatched := sequence?_append_interrupted c a b stops
        rw [found] at unmatched
        rw [List.cons_append, strip_cons unmatched, strip_cons found, ih a.length (by simp [← size]) a rfl,
          List.cons_append]
      | some k =>
        obtain ⟨s, sequence, ⟨rest, shape⟩, _⟩ := controlSequence_of_sequence? found
        have shorter : rest.length < n := by
          obtain ⟨_, _, rfl, _⟩ := sequence
          rw [← size, ← shape, List.length_append, List.length_cons]
          omega
        rw [← shape, List.append_assoc, strip_control _ sequence, strip_control _ sequence, ih _ shorter rest rfl]

end Strip

section Apart

theorem Seals.apart {d : Char} {m : Text} (stops : Interrupts d) (seals : Seals (d :: m)) : Apart (d :: m) := by
  intro a b
  rw [List.cons_append, strip_append_interrupted a (m ++ b) stops, ← List.cons_append, seals b]

theorem strip_of_control {s : Text} (sequence : ControlSequence s) : strip s = [] := by
  have alone := strip_control [] sequence
  rwa [List.append_nil] at alone

theorem apart_of_control {s : Text} (sequence : ControlSequence s) : Apart s := by
  have seals : Seals s := fun b => by rw [strip_control b sequence, strip_of_control sequence, List.nil_append]
  obtain ⟨parameters, letter, rfl, _⟩ := sequence
  exact Seals.apart (d := '\x1b') (by decide) seals

theorem apart_single {c : Char} (stops : Interrupts c) (plain : c ≠ '\x1b') : Apart [c] := by
  refine Seals.apart stops ?_
  intro b
  rw [List.singleton_append, strip_cons (sequence?_of_no_escape b plain),
    strip_cons (sequence?_of_no_escape [] plain)]
  rfl

theorem Apart.seals {m : Text} (apart : Apart m) : Seals m := apart []

theorem Apart.strip_append {m : Text} (apart : Apart m) (a : Text) : strip (a ++ m) = strip a ++ strip m := by
  have whole := apart a []
  rwa [List.append_nil, strip_nil, List.append_nil] at whole

theorem Apart.append {m n : Text} (left : Apart m) (right : Apart n) : Apart (m ++ n) := by
  intro a b
  rw [List.append_assoc, left a (n ++ b), right.seals b, left.seals n, List.append_assoc]

theorem Apart.around {m n : Text} (left : Apart m) (t : Text) (right : Apart n) : Apart (m ++ (t ++ n)) := by
  intro a b
  rw [List.append_assoc, List.append_assoc, left a, right t b, left.seals, right.strip_append, List.append_assoc,
    List.append_assoc]

theorem apart_feed : Apart ['\n'] := apart_single (by decide) (by decide)

theorem strip_unlines (ls : List Text) : strip (unlines ls) = unlines (ls.map strip) := by
  induction ls with
  | nil => rfl
  | cons l ls ih =>
    have line := apart_feed l (unlines ls)
    rw [ih] at line
    rw [Text.unlines_cons, List.map_cons, Text.unlines_cons]
    exact line

end Apart

section Invisible

theorem invisible_nil : Invisible [] := .inl rfl

theorem invisible_of_control {s : Text} (sequence : ControlSequence s) : Invisible s :=
  .inr ⟨apart_of_control sequence, strip_of_control sequence⟩

variable {s : Text}

theorem Invisible.apart (invisible : Invisible s) (filled : s ≠ []) : Apart s := by
  rcases invisible with rfl | ⟨apart, _⟩
  · exact absurd rfl filled
  · exact apart

theorem Invisible.apart_append {m : Text} (invisible : Invisible s) (apart : Apart m) :
    Apart (s ++ m) ∧ strip (s ++ m) = strip m := by
  rcases invisible with rfl | ⟨own, empty⟩
  · exact ⟨apart, rfl⟩
  · refine ⟨own.append apart, ?_⟩
    rw [own.seals, empty, List.nil_append]

theorem Invisible.append_apart {m : Text} (invisible : Invisible s) (apart : Apart m) :
    Apart (m ++ s) ∧ strip (m ++ s) = strip m := by
  rcases invisible with rfl | ⟨own, empty⟩
  · rw [List.append_nil]
    exact ⟨apart, rfl⟩
  · refine ⟨apart.append own, ?_⟩
    rw [apart.seals, empty, List.append_nil]

theorem Invisible.append {s' : Text} (invisible : Invisible s) (invisible' : Invisible s') : Invisible (s ++ s') := by
  rcases invisible' with rfl | ⟨apart, empty⟩
  · rwa [List.append_nil]
  · obtain ⟨both, same⟩ := invisible.apart_append apart
    exact .inr ⟨both, same.trans empty⟩

theorem invisible_flatMap {α : Type} {f : α → Text} (each : ∀ x, Invisible (f x)) (xs : List α) :
    Invisible (xs.flatMap f) := by
  induction xs with
  | nil => exact invisible_nil
  | cons x xs ih => exact (each x).append ih

theorem Invisible.strip_left (invisible : Invisible s) (t : Text) : strip (s ++ t) = strip t := by
  rcases invisible with rfl | ⟨own, empty⟩
  · rfl
  · rw [own.seals, empty, List.nil_append]

theorem Invisible.strip_right (invisible : Invisible s) (t : Text) : strip (t ++ s) = strip t := by
  rcases invisible with rfl | ⟨own, empty⟩
  · rw [List.append_nil]
  · rw [own.strip_append, empty, List.append_nil]

end Invisible

/-- Matches that stand apart may be replaced by texts that stand apart and show the same. -/
theorem strip_replaceMatches {size : Text → Option Nat} {f : Text → Text}
    (each : ∀ t n, size t = some (n + 1) → ∃ m r, t = m ++ r ∧ n + 1 = m.length ∧ Apart m ∧ Apart (f m) ∧
      strip (f m) = strip m) (t : Text) : strip (replaceMatches size f t) = strip t := by
  -- In front of a match stand the characters since the last one, which may look like the beginning of a sequence.
  suffices whole : ∀ a, strip (a ++ replaceMatches size f t) = strip (a ++ t) from whole []
  induction length : t.length using Nat.strongRecOn generalizing t with
  | ind k ih =>
    intro a
    cases t with
    | nil => rfl
    | cons c t =>
      by_cases matched : ∃ n, size (c :: t) = some (n + 1)
      · obtain ⟨n, found⟩ := matched
        obtain ⟨m, r, shape, taken, apart, apart', same⟩ := each (c :: t) n found
        have filled : m ≠ [] := List.length_pos_iff.mp (by omega)
        have rest := ih r.length (by rw [← length, shape, List.length_append]; omega) r rfl []
        rw [shape, taken] at found
        rw [shape, Text.replaceMatches_match r filled found, apart' a, apart a, same]
        exact congrArg (fun shown => strip a ++ (strip m ++ shown)) rest
      · have rest := ih t.length (by simp [← length]) t rfl (a ++ [c])
        rw [List.append_assoc, List.append_assoc] at rest
        rw [Text.replaceMatches_cons (not_exists.mp matched)]
        exact rest

section Paint

theorem controlSequence_select (code : Nat) : ControlSequence (select code) := by
  refine ⟨Text.ofNat code, 'm', rfl, ?_, rfl⟩
  exact Text.forall_mem_ofNat code (List.all_eq_true.mp (by decide))

variable (p : Paint)

theorem Paint.invisible_start : Invisible p.start :=
  invisible_flatMap (fun r : Rendition => invisible_of_control (controlSequence_select r.on)) p

theorem Paint.invisible_stop : Invisible p.stop :=
  invisible_flatMap (fun r : Rendition => invisible_of_control (controlSequence_select r.off)) p

theorem strip_resume (t : Text) : strip (p.resume t) = strip t := by
  unfold Paint.resume
  induction p generalizing t with
  | nil => rfl
  | cons r p ih =>
    rw [List.foldl_cons, ih, Text.replaceAll]
    refine strip_replaceMatches ?_ t
    intro t n matched
    split at matched
    · rename_i begins
      obtain ⟨rest, rfl⟩ := (Text.startsWith_iff _ t).mp begins
      have off := apart_of_control (controlSequence_select r.off)
      obtain ⟨both, same⟩ := (invisible_of_control (controlSequence_select r.on)).append_apart off
      exact ⟨select r.off, rest, rfl, (Option.some.inj matched).symm, off, both, same⟩
    · cases matched

theorem strip_interrupt {size : Text → Option Nat}
    (each : ∀ t n, size t = some (n + 1) → ∃ m r, t = m ++ r ∧ n + 1 = m.length ∧ Apart m) (t : Text) :
    strip (p.interrupt size t) = strip t := by
  refine strip_replaceMatches ?_ t
  intro t n matched
  obtain ⟨m, r, shape, taken, apart⟩ := each t n matched
  obtain ⟨front, sameFront⟩ := p.invisible_stop.apart_append apart
  obtain ⟨both, same⟩ := p.invisible_start.append_apart front
  exact ⟨m, r, shape, taken, apart, both, same.trans sameFront⟩

theorem apart_of_resetPart? (t : Text) (n : Nat) (matched : Paint.resetPart? t = some (n + 1)) :
    ∃ m r, t = m ++ r ∧ n + 1 = m.length ∧ Apart m := by
  obtain ⟨r, begins, found⟩ := Option.bind_eq_some_iff.mp matched
  obtain ⟨inner, place, size⟩ := Option.bind_eq_some_iff.mp found
  obtain rfl := (Text.stripStart?_eq_some_iff _ _ _).mp begins
  obtain ⟨bound, ⟨behind, shape⟩, _⟩ := (Text.find?_eq_some_iff _ _ _).mp place
  have reset := apart_of_control (controlSequence_select 0)
  have line : r.takeWhile (· != '\n') = (r.takeWhile (· != '\n')).take inner ++ (select 0 ++ behind) := by
    rw [shape, List.take_append_drop]
  have whole : r = (r.takeWhile (· != '\n')).take inner ++ (select 0 ++ (behind ++ r.dropWhile (· != '\n'))) := by
    rw [← List.append_assoc (select 0), ← List.append_assoc, ← line, List.takeWhile_append_dropWhile]
  refine ⟨select 0 ++ ((r.takeWhile (· != '\n')).take inner ++ select 0), behind ++ r.dropWhile (· != '\n'), ?_, ?_,
    reset.around _ reset⟩
  · rw [List.append_assoc, List.append_assoc, ← whole]
  · rw [List.length_append, List.length_append, List.length_take, Nat.min_eq_left bound]
    have total : inner + 2 * (select 0).length = n + 1 := Option.some.inj size
    omega

theorem apart_of_lineBreak? (t : Text) (n : Nat) (matched : Paint.lineBreak? t = some (n + 1)) :
    ∃ m r, t = m ++ r ∧ n + 1 = m.length ∧ Apart m := by
  unfold Paint.lineBreak? at matched
  split at matched
  · rename_i r
    have apart : Apart ['\r'] := apart_single (by decide) (by decide)
    exact ⟨['\r', '\n'], r, rfl, (Option.some.inj matched).symm, apart.append apart_feed⟩
  · rename_i r
    exact ⟨['\n'], r, rfl, (Option.some.inj matched).symm, apart_feed⟩
  · cases matched

theorem strip_paint (t : Text) : strip (p.apply t) = strip t := by
  rw [Paint.apply, p.invisible_stop.strip_right, p.invisible_start.strip_left,
    strip_interrupt p apart_of_lineBreak?, strip_interrupt p apart_of_resetPart?, strip_resume]

theorem apart_paint (t : Text) (painted : p ≠ []) : Apart (p.apply t) := by
  have some_code (f : Rendition → Nat) : p.flatMap (fun r => select (f r)) ≠ [] := by
    cases p with
    | nil => exact absurd rfl painted
    | cons r p => exact List.cons_ne_nil _ _
  rw [Paint.apply, List.append_assoc]
  exact (p.invisible_start.apart (some_code Rendition.on)).around _ (p.invisible_stop.apart (some_code Rendition.off))

end Paint

end ParseRepair.Terminal
