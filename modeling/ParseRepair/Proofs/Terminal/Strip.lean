import Mathlib.Data.List.TakeDrop
import Mathlib.Data.List.TakeWhile
import ParseRepair.Proofs.Text.Search
import ParseRepair.Terminal.Console

namespace ParseRepair.Terminal

def ControlSequence (s : Text) : Prop :=
  ∃ parameters letter, s = '\x1b' :: '[' :: (parameters ++ [letter]) ∧
    (∀ c ∈ parameters, isParameter c = true) ∧ isLetter letter = true

theorem isParameter_of_isLetter {c : Char} (letter : isLetter c = true) : isParameter c = false := by
  have range : 0x41 ≤ c.toNat ∧ c.toNat ≤ 0x7A := by
    simp only [isLetter, Bool.or_eq_true, Bool.and_eq_true, decide_eq_true_eq] at letter
    rcases letter with ⟨low, high⟩ | ⟨low, high⟩
    · exact ⟨Nat.le_trans (by decide) (show 0x61 ≤ c.toNat from low), high⟩
    · exact ⟨low, Nat.le_trans (show c.toNat ≤ 0x5A from high) (by decide)⟩
  have no_digit : ¬ c ≤ '9' := fun small => absurd (show c.toNat ≤ 0x39 from small) (by omega)
  have no_mark (d : Char) (below : d.toNat < 0x41) : (c == d) = false := by
    rw [beq_eq_false_iff_ne]
    rintro rfl
    omega
  simp only [isParameter, no_mark ';' (by decide), no_mark '?' (by decide), no_digit, decide_false, Bool.and_false,
    Bool.or_self]

theorem sequence?_append {s : Text} (r : Text) (sequence : ControlSequence s) :
    sequence? (s ++ r) = some s.length := by
  obtain ⟨parameters, letter, rfl, each, last⟩ := sequence
  have run : (parameters ++ [letter] ++ r).takeWhile isParameter = parameters := by
    rw [List.append_assoc, List.takeWhile_append_of_pos each, List.singleton_append,
      List.takeWhile_cons_of_neg (by simp [isParameter_of_isLetter last]), List.append_nil]
  have rest : (parameters ++ [letter] ++ r).drop parameters.length = letter :: r := by
    rw [List.append_assoc, List.drop_left]
    rfl
  simp only [List.cons_append, sequence?, run, rest, last, if_true, List.length_cons, List.length_append,
    List.length_nil]

theorem controlSequence_of_sequence? {t : Text} {n : Nat} (found : sequence? t = some n) :
    ∃ s, ControlSequence s ∧ s <+: t ∧ n = s.length := by
  unfold sequence? at found
  split at found
  · rename_i r
    dsimp only at found
    split at found
    · rename_i letter rest shape
      split at found
      · rename_i last
        cases found
        refine ⟨'\x1b' :: '[' :: (r.takeWhile isParameter ++ [letter]),
          ⟨_, letter, rfl, fun _ member => List.mem_takeWhile_imp member, last⟩, ⟨rest, ?_⟩, by simp⟩
        have whole : r.takeWhile isParameter ++ letter :: rest = r := by
          rw [← shape]
          exact List.prefix_iff_eq_append.mp (List.takeWhile_prefix isParameter)
        simp [whole]
      · cases found
    · cases found
  · cases found

@[simp] theorem strip_nil : strip [] = [] := rfl

theorem strip_control {s : Text} (r : Text) (sequence : ControlSequence s) : strip (s ++ r) = strip r := by
  have filled : s ≠ [] := by
    obtain ⟨_, _, rfl, _⟩ := sequence
    exact List.cons_ne_nil _ _
  rw [strip, Text.replaceMatches_match r filled (sequence?_append r sequence)]
  rfl

theorem strip_cons {c : Char} {r : Text} (unmatched : sequence? (c :: r) = none) :
    strip (c :: r) = c :: strip r := by
  rw [strip, Text.replaceMatches_cons]
  · rfl
  · intro n matched
    rw [unmatched] at matched
    cases matched

theorem strip_of_none {t : Text} (absent : ∀ k, sequence? (t.drop k) = none) : strip t = t := by
  induction t with
  | nil => rfl
  | cons c r ih => rw [strip_cons (absent 0), ih fun k => absent (k + 1)]

theorem length_replaceFrom_le (skip : Nat) (t : Text) :
    (Text.replaceFrom sequence? (fun _ => []) skip t).length ≤ t.length := by
  induction skip, t using Text.replaceFrom.induct sequence? with
  | case1 skip => exact Nat.le_refl _
  | case2 skip c r ih =>
    rw [Text.replaceFrom]
    exact Nat.le_succ_of_le ih
  | case3 c r n matched ih =>
    rw [Text.replaceFrom, matched]
    exact Nat.le_succ_of_le ih
  | case4 c r none_here ih =>
    rw [Text.replaceFrom]
    split
    · rename_i n matched
      exact absurd matched (none_here n)
    · exact Nat.succ_le_succ ih

theorem length_strip_lt {t : Text} {k : Nat} (found : (sequence? (t.drop k)).isSome) :
    (strip t).length < t.length := by
  induction t generalizing k with
  | nil =>
    rw [List.drop_nil] at found
    cases found
  | cons c r ih =>
    cases here : sequence? (c :: r) with
    | none =>
      rw [strip_cons here]
      cases k with
      | zero =>
        rw [List.drop_zero, here] at found
        cases found
      | succ k => exact Nat.succ_lt_succ (ih found)
    | some n =>
      obtain ⟨s, sequence, ⟨rest, shape⟩, _⟩ := controlSequence_of_sequence? here
      have kept : (strip rest).length ≤ rest.length := length_replaceFrom_le 0 rest
      rw [← shape, strip_control rest sequence, List.length_append]
      obtain ⟨_, _, rfl, _⟩ := sequence
      rw [List.length_cons]
      omega

def HasControl (t : Text) : Prop := ∃ s, ControlSequence s ∧ s <:+: t

theorem hasControl_iff {t : Text} : HasControl t ↔ ∃ k, (sequence? (t.drop k)).isSome := by
  constructor
  · rintro ⟨s, sequence, before, after, rfl⟩
    refine ⟨before.length, ?_⟩
    rw [List.append_assoc, List.drop_left, sequence?_append after sequence]
    rfl
  · rintro ⟨k, found⟩
    obtain ⟨n, matched⟩ := Option.isSome_iff_exists.mp found
    obtain ⟨s, sequence, begins, _⟩ := controlSequence_of_sequence? matched
    exact ⟨s, sequence, begins.isInfix.trans (List.drop_suffix k t).isInfix⟩

theorem strip_eq_self_iff {t : Text} : strip t = t ↔ ¬ HasControl t := by
  constructor
  · intro same control
    obtain ⟨k, found⟩ := hasControl_iff.mp control
    have shorter := length_strip_lt found
    rw [same] at shorter
    exact Nat.lt_irrefl _ shorter
  · intro absent
    refine strip_of_none fun k => ?_
    rw [← Option.not_isSome_iff_eq_none]
    exact fun found => absent (hasControl_iff.mpr ⟨k, found⟩)

theorem not_hasControl_of_no_escape {t : Text} (absent : '\x1b' ∉ t) : ¬ HasControl t := by
  rintro ⟨s, ⟨_, _, rfl, _⟩, part⟩
  exact absent (part.subset List.mem_cons_self)

end ParseRepair.Terminal
