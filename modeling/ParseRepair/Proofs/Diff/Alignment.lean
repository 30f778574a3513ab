import ParseRepair.Diff.Alignment

namespace ParseRepair.Diff

variable {α : Type}

def Covers (segments : List (Segment α)) (xs ys : List α) : Prop :=
  segments.flatMap Segment.old = xs ∧ segments.flatMap Segment.new = ys

theorem covers_changed? (xs ys : List α) : Covers (changed? xs ys) xs ys := by
  unfold changed?
  split
  · rename_i empty
    simp only [Bool.and_eq_true, List.isEmpty_iff] at empty
    exact ⟨empty.1.symm, empty.2.symm⟩
  · exact ⟨List.append_nil xs, List.append_nil ys⟩

theorem Covers.append {s r : List (Segment α)} {xs ys us vs : List α} (front : Covers s xs ys)
    (back : Covers r us vs) : Covers (s ++ r) (xs ++ us) (ys ++ vs) := by
  obtain ⟨rfl, rfl⟩ := front
  obtain ⟨rfl, rfl⟩ := back
  exact ⟨List.flatMap_append, List.flatMap_append⟩

theorem Covers.cons_same {r : List (Segment α)} {us vs : List α} (xs : List α) (back : Covers r us vs) :
    Covers (.same xs :: r) (xs ++ us) (xs ++ vs) := by
  obtain ⟨rfl, rfl⟩ := back
  exact ⟨rfl, rfl⟩

theorem flatMap_joinSame {β : Type} (f : Segment α → List β)
    (join : ∀ xs ys, f (.same (xs ++ ys)) = f (.same xs) ++ f (.same ys)) (segments : List (Segment α)) :
    (joinSame segments).flatMap f = segments.flatMap f := by
  induction segments with
  | nil => rfl
  | cons s r ih =>
    cases s with
    | changed old new => simp only [joinSame, List.flatMap_cons, ih]
    | same xs =>
      rw [joinSame, List.flatMap_cons, ← ih]
      split
      · rename_i ys rest joined
        rw [joined, List.flatMap_cons, List.flatMap_cons, join, List.append_assoc]
      · rw [List.flatMap_cons]

theorem eq_of_unchanged {segments : List (Segment α)} {xs ys : List α} (covers : Covers segments xs ys)
    (unchanged : ∀ s ∈ segments, s.isChanged = false) : xs = ys := by
  obtain ⟨rfl, rfl⟩ := covers
  have equal : ∀ s ∈ segments, s.old = s.new := by
    intro s member
    cases s with
    | same zs => rfl
    | changed old new => cases unchanged _ member
  rw [List.flatMap_def, List.flatMap_def, List.map_congr_left equal]

section Diagonal

variable (anchor : α → Bool) (xs : List α)

/-- How many anchoring elements stand in a row at the end of the first `i`. -/
def streak (i : Nat) : Nat := ((xs.take i).reverse.takeWhile anchor).length

theorem streak_succ {i : Nat} {x : α} (held : xs[i]? = some x) :
    streak anchor xs (i + 1) = if anchor x then streak anchor xs i + 1 else 0 := by
  rw [streak, List.take_add_one, held, Option.toList_some, List.reverse_append, List.reverse_singleton,
    List.singleton_append, List.takeWhile_cons]
  split <;> rfl

/-- A row of a list against itself: no run is longer than those on the diagonal that end with the same
elements. -/
structure Row (i : Nat) (row : List Nat) : Prop where
  size : row.length = xs.length
  above : ∀ j v : Nat, (0 :: row)[j]? = some v → v ≤ streak anchor xs i
  left : ∀ j v : Nat, (0 :: row)[j]? = some v → v ≤ streak anchor xs j
  diagonal : ∀ v : Nat, (0 :: row)[i]? = some v → v = streak anchor xs i

theorem row_zero : Row anchor xs 0 (xs.map fun _ => 0) := by
  have zero : ∀ j v : Nat, (0 :: xs.map fun _ => 0)[j]? = some v → v = 0 := by
    intro j v entry
    have member := List.mem_of_getElem? entry
    simp only [List.mem_cons, List.mem_map] at member
    rcases member with zero | ⟨_, _, zero⟩
    · exact zero
    · exact zero.symm
  refine ⟨List.length_map _, ?_, ?_, ?_⟩
  · intro j v entry
    rw [zero j v entry]
    exact Nat.zero_le _
  · intro j v entry
    rw [zero j v entry]
    exact Nat.zero_le _
  · intro v entry
    rw [zero 0 v entry]
    rfl

/-- The best run so far lies on the diagonal, and all on the diagonal so far are no longer. -/
structure Settled (i : Nat) (best : Run) : Prop where
  diagonal : best.left = best.right
  within : best.left ≤ i
  longest : ∀ k ≤ i, streak anchor xs k ≤ best.size

variable {anchor xs}

/-- The row is read from column `j` on. Off the diagonal a run is no longer than one that was met
before: in an earlier row if it ends left of the diagonal, in this row otherwise. -/
theorem settled_longerInRow {i j : Nat} {best : Run} {row ks : List Nat} (r : Row anchor xs (i + 1) row)
    (rest : ks = row.drop j) (inside : i < xs.length) (settled : Settled anchor xs i best)
    (passed : i < j → streak anchor xs (i + 1) ≤ best.size) :
    Settled anchor xs (i + 1) (longerInRow i best j ks) := by
  induction ks generalizing best j with
  | nil =>
    have ended : i < j := by
      have short := List.drop_eq_nil_iff.mp rest.symm
      rw [r.size] at short
      omega
    refine ⟨settled.diagonal, Nat.le_succ_of_le settled.within, ?_⟩
    intro k bound
    rcases Nat.le_succ_iff.mp bound with earlier | rfl
    · exact settled.longest k earlier
    · exact passed ended
  | cons k ks ih =>
    have entry : (0 :: row)[j + 1]? = some k := by
      rw [List.getElem?_cons_succ, ← List.head?_drop, ← rest]
      rfl
    have tail : ks = row.drop (j + 1) := by
      rw [← List.drop_drop, ← rest]
      rfl
    have above := r.above _ _ entry
    have left := r.left _ _ entry
    rw [longerInRow]
    by_cases longer : best.size < k
    -- A longer run than the best can end on the diagonal alone: to the left an earlier row had it, to
    -- the right this one.
    · have place : j = i := by
        rcases Nat.lt_trichotomy j i with before | here | behind
        · have met := settled.longest (j + 1) before
          omega
        · exact here
        · have met := passed behind
          omega
      subst place
      rw [if_pos longer]
      have exceeds : streak anchor xs (j + 1) ≤ k := Nat.le_of_eq (r.diagonal k entry).symm
      refine ih tail ⟨rfl, by simp only; omega, ?_⟩ fun _ => exceeds
      intro n bound
      have met := settled.longest n bound
      simp only
      omega
    · rw [if_neg longer]
      apply ih tail settled
      intro reached
      rcases Nat.lt_or_eq_of_le (Nat.le_of_lt_succ reached) with before | rfl
      · exact passed before
      · rw [← r.diagonal k entry]
        omega

variable [DecidableEq α]

theorem getElem?_nextRow (anchor : α → Bool) (x : α) (ds : List Nat) (ys : List α) (j v : Nat)
    (entry : (nextRow anchor x ds ys)[j]? = some v) :
    ∃ d y, ds[j]? = some d ∧ ys[j]? = some y ∧ v = if x = y ∧ anchor y then d + 1 else 0 := by
  induction ds generalizing ys j with
  | nil =>
    rw [nextRow] at entry
    · cases entry
    · rintro d ds y ys rest
      cases rest
  | cons d ds ih =>
    cases ys with
    | nil => cases entry
    | cons y ys =>
      cases j with
      | zero => exact ⟨d, y, rfl, rfl, by simpa [nextRow] using entry.symm⟩
      | succ j => exact ih ys j entry

theorem length_nextRow (anchor : α → Bool) (x : α) (ds : List Nat) (ys : List α) (long : ys.length ≤ ds.length) :
    (nextRow anchor x ds ys).length = ys.length := by
  induction ds generalizing ys with
  | nil =>
    have empty : ys = [] := List.length_eq_zero_iff.mp (Nat.le_zero.mp long)
    subst empty
    rfl
  | cons d ds ih =>
    cases ys with
    | nil => rfl
    | cons y ys => rw [nextRow, List.length_cons, ih ys (by simpa using long), List.length_cons]

theorem Row.next {i : Nat} {row : List Nat} {x : α} (r : Row anchor xs i row) (held : xs[i]? = some x) :
    Row anchor xs (i + 1) (nextRow anchor x (0 :: row) xs) := by
  have long : xs.length ≤ (0 :: row).length := by
    rw [List.length_cons, r.size]
    exact Nat.le_succ _
  refine ⟨length_nextRow anchor x _ xs long, ?_, ?_, ?_⟩
  · intro j v entry
    cases j with
    | zero =>
      cases entry
      exact Nat.zero_le _
    | succ j =>
      obtain ⟨d, y, before, other, rfl⟩ := getElem?_nextRow anchor x _ _ _ _ entry
      split
      · rename_i both
        obtain ⟨rfl, anchors⟩ := both
        rw [streak_succ anchor xs held, if_pos anchors]
        exact Nat.succ_le_succ (r.above j d before)
      · exact Nat.zero_le _
  · intro j v entry
    cases j with
    | zero =>
      cases entry
      exact Nat.zero_le _
    | succ j =>
      obtain ⟨d, y, before, other, rfl⟩ := getElem?_nextRow anchor x _ _ _ _ entry
      split
      · rename_i both
        rw [streak_succ anchor xs other, if_pos both.2]
        exact Nat.succ_le_succ (r.left j d before)
      · exact Nat.zero_le _
  · intro v entry
    obtain ⟨d, y, before, other, rfl⟩ := getElem?_nextRow anchor x _ _ _ _ entry
    obtain rfl : x = y := Option.some.inj (held.symm.trans other)
    rw [streak_succ anchor xs held, r.diagonal d before]
    simp only [true_and]

theorem settled_longestFrom {i : Nat} {row : List Nat} {best : Run} {rest : List α}
    (suffix : rest = xs.drop i) (r : Row anchor xs i row) (settled : Settled anchor xs i best) :
    Settled anchor xs (i + rest.length) (longestFrom anchor xs i row best rest) := by
  induction rest generalizing i row best with
  | nil => exact settled
  | cons x rest ih =>
    have held : xs[i]? = some x := by
      rw [← List.head?_drop, ← suffix]
      rfl
    have tail : rest = xs.drop (i + 1) := by
      rw [← List.drop_drop, ← suffix]
      rfl
    have inside := (List.getElem?_eq_some_iff.mp held).1
    have next := r.next held
    have done := ih tail next
      (settled_longerInRow next rfl inside settled fun before => absurd before (Nat.not_lt_zero i))
    rw [longestFrom, List.length_cons, Nat.add_comm rest.length 1, ← Nat.add_assoc]
    exact done

end Diagonal

variable [DecidableEq α]

theorem commonSize_self (xs : List α) : commonSize xs xs = xs.length := by
  induction xs with
  | nil => rfl
  | cons x xs ih => rw [commonSize, if_pos rfl, ih, List.length_cons]

theorem take_commonSize (xs ys : List α) : ys.take (commonSize xs ys) = xs.take (commonSize xs ys) := by
  induction xs generalizing ys with
  | nil => cases ys <;> rfl
  | cons x xs ih =>
    cases ys with
    | nil => rfl
    | cons y ys =>
      by_cases same : x = y
      · rw [commonSize, if_pos same, List.take_succ_cons, List.take_succ_cons, ih ys, same]
      · rw [commonSize, if_neg same, List.take_zero, List.take_zero]

theorem covers_alignFrom (anchor : α → Bool) (fuel : Nat) (xs ys : List α) :
    Covers (alignFrom anchor fuel xs ys) xs ys := by
  induction fuel generalizing xs ys with
  | zero => exact covers_changed? xs ys
  | succ fuel ih =>
    rw [alignFrom]
    generalize runStart anchor xs ys = start
    obtain ⟨i, j⟩ := start
    dsimp only
    split
    · exact covers_changed? xs ys
    · have shared := take_commonSize (xs.drop i) (ys.drop j)
      generalize commonSize (xs.drop i) (ys.drop j) = size at shared
      have whole := (ih (xs.take i) (ys.take j)).append
        ((ih (xs.drop (i + size)) (ys.drop (j + size))).cons_same ((xs.drop i).take size))
      have old : xs.take i ++ ((xs.drop i).take size ++ xs.drop (i + size)) = xs := by
        rw [← List.drop_drop, List.take_append_drop, List.take_append_drop]
      have new : ys.take j ++ ((xs.drop i).take size ++ ys.drop (j + size)) = ys := by
        rw [← shared, ← List.drop_drop, List.take_append_drop, List.take_append_drop]
      rwa [old, new] at whole

theorem covers_align (xs ys : List α) : Covers (align xs ys) xs ys := by
  obtain ⟨old, new⟩ := covers_alignFrom (fun y => !(popular ys).contains y) (xs.length + 1) xs ys
  refine ⟨?_, ?_⟩
  · rw [align, flatMap_joinSame _ fun _ _ => rfl, old]
  · rw [align, flatMap_joinSame _ fun _ _ => rfl, new]

theorem longest_self (anchor : α → Bool) (xs : List α) :
    (longest anchor xs xs).left = (longest anchor xs xs).right ∧ (longest anchor xs xs).left ≤ xs.length := by
  have start : Settled anchor xs 0 ⟨0, 0, 0⟩ := by
    refine ⟨rfl, Nat.le_refl 0, ?_⟩
    intro k bound
    obtain rfl : k = 0 := Nat.le_zero.mp bound
    exact Nat.le_refl 0
  have whole : xs = xs.drop 0 := rfl
  have done := settled_longestFrom whole (row_zero anchor xs) start
  exact ⟨done.diagonal, by simpa [longest] using done.within⟩

theorem runStart_self (anchor : α → Bool) (xs : List α) : runStart anchor xs xs = (0, 0) := by
  obtain ⟨diagonal, within⟩ := longest_self anchor xs
  have back : (xs.take (longest anchor xs xs).left).reverse.length = (longest anchor xs xs).left := by
    rw [List.length_reverse, List.length_take, Nat.min_eq_left within]
  simp only [runStart, ← diagonal, commonSize_self, back, Nat.sub_self]

theorem alignFrom_nil (anchor : α → Bool) (fuel : Nat) : alignFrom anchor fuel ([] : List α) [] = [] := by
  cases fuel <;> rfl

theorem align_self (xs : List α) (some_line : xs ≠ []) : align xs xs = [.same xs] := by
  have filled : xs.length ≠ 0 := by simpa using some_line
  simp only [align, alignFrom, runStart_self, List.drop_zero, commonSize_self, if_neg filled, List.take_zero,
    alignFrom_nil, List.nil_append, Nat.zero_add, List.drop_length, List.take_length, joinSame]

end ParseRepair.Diff
