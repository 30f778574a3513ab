import ParseRepair.Recovery.Length
import ParseRepair.Proofs.Text.Lines

namespace ParseRepair.Recovery

open Text

@[simp] theorem length_commentOut (t : Text) : (commentOut t).length = t.length := by
  unfold commentOut
  split <;> simp

theorem unbroken_commentOut {t : Text} (whole : Unbroken t) : Unbroken (commentOut t) := by
  unfold commentOut
  split
  · rename_i a b r
    have rest : Unbroken r :=
      whole.mono fun c member => List.mem_cons_of_mem _ (List.mem_cons_of_mem _ member)
    exact Unbroken.cons (by decide) (Unbroken.cons (by decide) rest)
  · exact whole

theorem fitLength_same (pad : Bool) (old new : Text) (same : new.length = old.length) :
    fitLength pad old new = new := by
  have notLonger : ¬ old.length < new.length := by omega
  have noRoom : old.length - new.length = 0 := by omega
  simp [fitLength, notLonger, noRoom]

theorem length_fitLength_shorter (pad : Bool) (old new : Text) (shorter : new.length ≤ old.length) :
    (fitLength pad old new).length = if pad then old.length else new.length := by
  have notLonger : ¬ old.length < new.length := by omega
  cases pad with
  | false => simp [fitLength, notLonger]
  | true =>
    simp only [fitLength, if_neg notLonger, if_true, List.length_append, List.length_replicate]
    omega

theorem length_fitLength_longer (pad : Bool) (old new : Text) (extra : Nat)
    (longer : new.length = old.length + extra) :
    (fitLength pad old new).length =
      if (new.take extra).all isBlank then old.length else old.length + extra := by
  by_cases none_over : extra = 0
  · subst none_over
    rw [fitLength_same pad old new (by simpa using longer), longer]
    simp
  · have exceeds : old.length < new.length := by omega
    have count : surplus old new = extra := by simp only [surplus]; omega
    by_cases blank : (new.take extra).all isBlank = true
    · simp only [fitLength, if_pos exceeds, count, if_pos blank, List.length_drop]
      omega
    · rw [fitLength, if_pos exceeds, count, if_neg blank, if_neg blank, longer]

theorem unbroken_fitLength (pad : Bool) (old : Text) {new : Text} (whole : Unbroken new) :
    Unbroken (fitLength pad old new) := by
  unfold fitLength
  split
  · split
    · exact whole.mono (List.drop_subset _ _)
    · exact whole
  · split
    · exact (Unbroken.replicate _ (by decide)).append whole
    · exact whole

section Fitting

/-- The edits after which a line can get its old length again. -/
inductive Fittable (pad : Bool) (old new : Text) : Prop
  | same (length : new.length = old.length)
  | shorter (room : new.length < old.length) (padded : pad = true)
  | longer (extra : Nat) (exceeds : 0 < extra) (length : new.length = old.length + extra)
    (blank : ∀ c ∈ new.take extra, isBlank c = true)

variable {pad : Bool} {old new : Text}

theorem Fittable.blank (able : Fittable pad old new) :
    ∀ c ∈ new.take (new.length - old.length), isBlank c = true := by
  cases able with
  | same length => simp [length]
  | shorter room _ => simp [Nat.sub_eq_zero_of_le (Nat.le_of_lt room)]
  | longer extra _ length blank =>
    rw [length, Nat.add_sub_cancel_left]
    exact blank

theorem fitLength_of_fittable (able : Fittable pad old new) : fitLength pad old new =
    List.replicate (old.length - new.length) ' ' ++ new.drop (new.length - old.length) := by
  cases able with
  | same length => simp [fitLength_same pad old new length, length]
  | shorter room padded =>
    have notLonger : ¬ old.length < new.length := by omega
    have nothing_over : new.length - old.length = 0 := by omega
    rw [fitLength, if_neg notLonger, if_pos padded, nothing_over, List.drop_zero]
  | longer extra exceeds length blank =>
    have isLonger : old.length < new.length := by omega
    have no_room : old.length - new.length = 0 := by omega
    have cut : (new.take (surplus old new)).all isBlank = true := by
      rw [surplus, length, Nat.add_sub_cancel_left, List.all_eq_true]
      exact blank
    rw [fitLength, if_pos isLonger, if_pos cut, no_room, List.replicate_zero, List.nil_append, surplus]

theorem fitLength_of_not_fittable (unable : ¬ Fittable pad old new) : fitLength pad old new = new := by
  unfold fitLength
  split
  · rename_i isLonger
    split
    · rename_i cut
      refine absurd (.longer (surplus old new) ?_ ?_ (List.all_eq_true.mp cut)) unable
      · rw [surplus]
        omega
      · rw [surplus]
        omega
    · rfl
  · rename_i notLonger
    split
    · rename_i padded
      rcases Nat.lt_or_eq_of_le (Nat.le_of_not_lt notLonger) with room | length
      · exact absurd (.shorter room padded) unable
      · exact absurd (.same length) unable
    · rfl

theorem length_fitLength_eq_iff : (fitLength pad old new).length = old.length ↔ Fittable pad old new := by
  constructor
  · intro length
    by_cases able : Fittable pad old new
    · exact able
    · rw [fitLength_of_not_fittable able] at length
      exact .same length
  · intro able
    rw [fitLength_of_fittable able, List.length_append, List.length_replicate, List.length_drop]
    omega

theorem length_le_fitLength (padded : pad = true) : old.length ≤ (fitLength pad old new).length := by
  by_cases able : Fittable pad old new
  · exact Nat.le_of_eq (length_fitLength_eq_iff.mpr able).symm
  · rw [fitLength_of_not_fittable able]
    exact Nat.le_of_not_lt fun room => able (.shorter room padded)

theorem trimLeft_fitLength : trimLeft (fitLength pad old new) = trimLeft new := by
  by_cases able : Fittable pad old new
  · have spaces : ∀ c ∈ List.replicate (old.length - new.length) ' ', isBlank c = true := by
      intro c member
      rw [List.eq_of_mem_replicate member]
      rfl
    -- What is added is blank, and so is what is cut off.
    rw [fitLength_of_fittable able]
    calc trimLeft (List.replicate (old.length - new.length) ' ' ++ new.drop (new.length - old.length))
        = trimLeft (new.drop (new.length - old.length)) := List.dropWhile_append_of_pos spaces
      _ = trimLeft (new.take (new.length - old.length) ++ new.drop (new.length - old.length)) :=
        (List.dropWhile_append_of_pos able.blank).symm
      _ = trimLeft new := by rw [List.take_append_drop]
  · rw [fitLength_of_not_fittable able]

theorem getElem?_reverse_fitLength {d : Nat} (inside : d < new.length) (kept : d < (fitLength pad old new).length) :
    (fitLength pad old new).reverse[d]? = new.reverse[d]? := by
  by_cases able : Fittable pad old new
  · -- The end that the line keeps is an end of both texts.
    have before_end : d < (new.drop (new.length - old.length)).reverse.length := by
      rw [length_fitLength_eq_iff.mpr able] at kept
      rw [List.length_reverse, List.length_drop]
      omega
    have filled : (new.drop (new.length - old.length)).reverse <+: (fitLength pad old new).reverse := by
      rw [fitLength_of_fittable able, List.reverse_prefix]
      exact List.suffix_append _ _
    have whole : (new.drop (new.length - old.length)).reverse <+: new.reverse :=
      List.reverse_prefix.mpr (List.drop_suffix _ _)
    rw [List.prefix_iff_getElem?.mp filled d before_end, List.prefix_iff_getElem?.mp whole d before_end]
  · rw [fitLength_of_not_fittable able]

theorem fitLength_fitLength : fitLength pad old (fitLength pad old new) = fitLength pad old new := by
  by_cases able : Fittable pad old new
  · exact fitLength_same pad old _ (length_fitLength_eq_iff.mpr able)
  · rw [fitLength_of_not_fittable able, fitLength_of_not_fittable able]

end Fitting

structure Fitted (pad : Bool) (old new after : Text) : Prop where
  trimmed : trimLeft after = trimLeft new
  length : after.length = old.length ↔ Fittable pad old new
  repaired : Fittable pad old new →
    after = List.replicate (old.length - new.length) ' ' ++ new.drop (new.length - old.length)
  unrepaired : ¬ Fittable pad old new → after = new
  padded : pad = true → old.length ≤ after.length
  columns : ∀ d : Nat, d < new.length → d < after.length → after.reverse[d]? = new.reverse[d]?
  settled : fitLength pad old after = after

/-- An edit keeps all that it wrote, and the line gets its length back exactly if blanks on its left make up
for the difference. -/
theorem fitLength_fitted (pad : Bool) (old new : Text) : Fitted pad old new (fitLength pad old new) where
  trimmed := trimLeft_fitLength
  length := length_fitLength_eq_iff
  repaired := fitLength_of_fittable
  unrepaired := fitLength_of_not_fittable
  padded := length_le_fitLength
  columns _ := getElem?_reverse_fitLength
  settled := fitLength_fitLength

example : fitLength false "f(a)" "\t\u00a0f(b)" = "f(b)".toList ∧
    fitLength true "f(a)" " x f(b)" = " x f(b)".toList := by
  decide

end ParseRepair.Recovery
