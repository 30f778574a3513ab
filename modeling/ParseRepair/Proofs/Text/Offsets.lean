import ParseRepair.Proofs.Text.Lines

namespace ParseRepair.Text

def endLastLine (t : Text) : Text := if t = [] ∨ t.getLast? = some '\n' then t else t ++ ['\n']

def withLineFeeds (t : Text) : Text := endLastLine (normalizeBreaks t)

theorem endLastLine_feed (t : Text) : endLastLine ('\n' :: t) = '\n' :: endLastLine t := by
  cases t with
  | nil => rfl
  | cons c r => by_cases closed : (c :: r).getLast? = some '\n' <;> simp_all [endLastLine]

theorem endLastLine_cons (c : Char) (t : Text) (more : t ≠ []) :
    endLastLine (c :: t) = c :: endLastLine t := by
  cases t with
  | nil => exact absurd rfl more
  | cons d r => by_cases closed : (d :: r).getLast? = some '\n' <;> simp_all [endLastLine]

theorem endLastLine_single (c : Char) (inside : isLineEnd c = false) :
    endLastLine [c] = [c, '\n'] := by
  have noFeed : c ≠ '\n' := by
    intro same
    simp [same, isLineEnd] at inside
  simp [endLastLine, noFeed]

theorem normalizeBreaks_ne_nil (c : Char) (r : Text) : normalizeBreaks (c :: r) ≠ [] := by
  unfold normalizeBreaks
  split
  · contradiction
  · simp
  · simp

theorem sourceLines_ne_nil (c : Char) (r : Text) : sourceLines (c :: r) ≠ [] := by
  unfold sourceLines linesBy
  split
  · contradiction
  · simp
  · split
    · simp
    · cases linesBy isLineEnd _ <;> simp [consFirst]

theorem unlines_consFirst (c : Char) (ls : List Text) (some_line : ls ≠ []) :
    unlines (consFirst c ls) = c :: unlines ls := by
  cases ls with
  | nil => exact absurd rfl some_line
  | cons l ls => simp [consFirst]

theorem unlines_sourceLines (t : Text) : unlines (sourceLines t) = withLineFeeds t := by
  unfold withLineFeeds
  induction t using normalizeBreaks.induct with
  | case1 => rfl
  | case2 r ih =>
    rw [sourceLines_pair, unlines_cons, ih, normalizeBreaks, endLastLine_feed, List.nil_append]
  | case3 c r pair ih =>
    rw [normalizeBreaks.eq_3 c r pair]
    by_cases feed : c = '\n'
    · subst feed
      rw [sourceLines_feed, unlines_cons, ih]
      exact (endLastLine_feed _).symm
    · by_cases ret : c = '\r'
      · subst ret
        have alone : ∀ u, r ≠ '\n' :: u := fun u same => pair u rfl same
        rw [sourceLines_return r alone, unlines_cons, ih]
        exact (endLastLine_feed _).symm
      · have inside : isLineEnd c = false := by simp [isLineEnd, feed, ret]
        have kept : (if (c == '\r') = true then '\n' else c) = c := by simp [ret]
        rw [sourceLines_char c r inside, kept]
        cases r with
        | nil => exact (endLastLine_single c inside).symm
        | cons d u =>
          rw [unlines_consFirst c _ (sourceLines_ne_nil d u), ih,
            endLastLine_cons c _ (normalizeBreaks_ne_nil d u)]

theorem sourceLines_withLineFeeds (t : Text) : sourceLines (withLineFeeds t) = sourceLines t := by
  rw [← unlines_sourceLines]
  exact sourceLines_unlines _ fun l member => unbroken_of_mem_sourceLines member

def behindFeeds : Nat → Text → Nat
  | 0, _ => 0
  | _ + 1, [] => 0
  | k + 1, c :: r => (if c = '\n' then behindFeeds k r else behindFeeds (k + 1) r) + 1

/-- The offset of the first character of line `n`, counted from one. -/
def lineStart (n : Nat) (t : Text) : Nat := behindFeeds (n - 1) t

theorem behindFeeds_line (k : Nat) (l r : Text) (whole : '\n' ∉ l) :
    behindFeeds (k + 1) (l ++ '\n' :: r) = l.length + 1 + behindFeeds k r := by
  induction l with
  | nil =>
    simp only [List.nil_append, behindFeeds, if_pos, List.length_nil]
    omega
  | cons c l ih =>
    have head : c ≠ '\n' := fun same => whole (by simp [same])
    have tail : '\n' ∉ l := fun member => whole (List.mem_cons_of_mem _ member)
    simp only [List.cons_append, behindFeeds, if_neg head, ih tail, List.length_cons]
    omega

theorem behindFeeds_unlines (k : Nat) (ls : List Text) (whole : ∀ l ∈ ls, Unbroken l)
    (bound : k ≤ ls.length) : behindFeeds k (unlines ls) = (unlines (ls.take k)).length := by
  induction ls generalizing k with
  | nil =>
    have zero : k = 0 := by simpa using bound
    subst zero
    rfl
  | cons l ls ih =>
    cases k with
    | zero => simp [behindFeeds]
    | succ k =>
      have head := whole l List.mem_cons_self
      have tail := ih k (fun k member => whole k (List.mem_cons_of_mem _ member)) (by simpa using bound)
      rw [unlines_cons, behindFeeds_line k l _ head.no_feed, tail]
      simp only [List.take_succ_cons, unlines_cons, List.length_append, List.length_cons]
      omega

theorem lineStart_unlines (n : Nat) (ls : List Text) (whole : ∀ l ∈ ls, Unbroken l)
    (bound : n ≤ ls.length + 1) : lineStart n (unlines ls) = (unlines (ls.take (n - 1))).length :=
  behindFeeds_unlines (n - 1) ls whole (by omega)

end ParseRepair.Text
