import ParseRepair.Text.Search

namespace ParseRepair.Text

section Search

variable {α : Type}

def FirstAt (p t : List α) (i : Nat) : Prop := p <+: t.drop i ∧ ∀ j < i, ¬ p <+: t.drop j

theorem FirstAt.lt_length {p t : List α} {i : Nat} (first : FirstAt p t i) (some_char : p ≠ []) : i < t.length := by
  have size := first.1.length_le
  have filled := List.length_pos_iff.mpr some_char
  rw [List.length_drop] at size
  omega

def BehindLast (p t r : List α) : Prop := (p ++ r) <:+ t ∧ ∀ r', (p ++ r') <:+ t → r.length ≤ r'.length

theorem BehindLast.unique {p t r r' : List α} (last : BehindLast p t r) (last' : BehindLast p t r') : r = r' := by
  have size := Nat.le_antisymm (last.2 r' last'.1) (last'.2 r last.1)
  have behind : r <:+ t := (List.suffix_append p r).trans last.1
  have behind' : r' <:+ t := (List.suffix_append p r').trans last'.1
  exact (List.suffix_of_suffix_length_le behind behind' (Nat.le_of_eq size)).eq_of_length size

variable [DecidableEq α]

theorem stripStart?_eq_some_iff (p t r : List α) : stripStart? p t = some r ↔ t = p ++ r := by
  induction p generalizing t with
  | nil => simp [stripStart?]
  | cons a p ih =>
    cases t with
    | nil => simp [stripStart?]
    | cons c t =>
      by_cases same : a = c
      · subst same
        simp [stripStart?, ih]
      · have other : c ≠ a := fun h => same h.symm
        simp [stripStart?, same, other]

theorem startsWith_iff (p t : List α) : startsWith p t = true ↔ p <+: t := by
  unfold startsWith
  rw [Option.isSome_iff_exists]
  constructor
  · intro stripped
    obtain ⟨r, found⟩ := stripped
    exact ⟨r, ((stripStart?_eq_some_iff p t r).mp found).symm⟩
  · intro occurs
    obtain ⟨r, shape⟩ := occurs
    exact ⟨r, (stripStart?_eq_some_iff p t r).mpr shape.symm⟩

theorem not_prefix_of_startsWith {p t : List α} (elsewhere : ¬ startsWith p t = true) : ¬ p <+: t :=
  fun occurs => elsewhere ((startsWith_iff p t).mpr occurs)

theorem find?_eq_some_iff (p t : List α) (i : Nat) :
    find? p t = some i ↔ i ≤ t.length ∧ FirstAt p t i := by
  unfold FirstAt
  induction t generalizing i with
  | nil =>
    cases p with
    | nil =>
      simp only [find?, List.isEmpty_nil, if_true, Option.some.injEq, List.length_nil,
        List.drop_nil, List.prefix_refl, not_true, true_and]
      constructor
      · intro zero
        exact ⟨by omega, fun j before => absurd before (by omega)⟩
      · intro bound
        omega
    | cons a p => simp [find?]
  | cons c r ih =>
    by_cases here : startsWith p (c :: r) = true
    · have occurs := (startsWith_iff p (c :: r)).mp here
      rw [find?, if_pos here, Option.some.injEq]
      constructor
      · intro zero
        subst zero
        exact ⟨Nat.zero_le _, occurs, fun j before => absurd before (Nat.not_lt_zero j)⟩
      · intro position
        obtain ⟨_, _, first⟩ := position
        by_cases zero : i = 0
        · exact zero.symm
        · exact absurd occurs (first 0 (by omega))
    · have absent : ¬ p <+: c :: r := not_prefix_of_startsWith here
      rw [find?, if_neg here, Option.map_eq_some_iff]
      constructor
      · intro shifted
        obtain ⟨k, found, rfl⟩ := shifted
        obtain ⟨bound, occurs, first⟩ := (ih k).mp found
        refine ⟨by simpa using bound, occurs, ?_⟩
        intro j before
        cases j with
        | zero => exact absent
        | succ j => exact first j (by omega)
      · intro position
        obtain ⟨bound, occurs, first⟩ := position
        cases i with
        | zero => exact absurd occurs absent
        | succ k =>
          have later : ∀ j < k, ¬ p <+: r.drop j := fun j before => first (j + 1) (by omega)
          exact ⟨k, (ih k).mpr ⟨by simpa using bound, occurs, later⟩, rfl⟩

theorem find?_eq_some_iff_firstAt {p t : List α} {i : Nat} (some_char : p ≠ []) :
    find? p t = some i ↔ FirstAt p t i := by
  rw [find?_eq_some_iff]
  constructor
  · exact And.right
  · intro first
    exact ⟨Nat.le_of_lt (first.lt_length some_char), first⟩

theorem find?_bound {p t : List α} {i : Nat} (found : find? p t = some i) :
    i + p.length ≤ t.length := by
  obtain ⟨bound, occurs, _⟩ := (find?_eq_some_iff p t i).mp found
  have size := occurs.length_le
  rw [List.length_drop] at size
  omega

theorem find?_single (ch : α) (t : List α) :
    find? [ch] t = if ch ∈ t then some (t.idxOf ch) else none := by
  induction t with
  | nil => rfl
  | cons d r ih =>
    by_cases same : ch = d
    · subst same
      simp [find?, startsWith, stripStart?]
    · have other : (d == ch) = false := by simpa using fun h : d = ch => same h.symm
      by_cases later : ch ∈ r
      · simp [find?, startsWith, stripStart?, same, ih, later, List.idxOf_cons, other]
      · simp [find?, startsWith, stripStart?, same, ih, later]

theorem afterLast?_append {p t r : List α} (x : List α) (found : afterLast? p t = some r) :
    afterLast? p (x ++ t) = some r := by
  induction x with
  | nil => exact found
  | cons c x ih => rw [List.cons_append, afterLast?, ih, Option.some_or]

theorem afterLast?_eq_none_iff {p t : List α} : afterLast? p t = none ↔ ¬ p <:+: t := by
  induction t with
  | nil => cases p <;> simp [afterLast?, stripStart?]
  | cons c t ih =>
    have here : stripStart? p (c :: t) = none ↔ ¬ p <+: c :: t := by
      rw [← startsWith_iff, startsWith, Option.not_isSome_iff_eq_none]
    rw [afterLast?, Option.or_eq_none_iff, ih, here, List.infix_cons_iff, not_or, and_comm]

theorem afterLast?_eq_none {p t : List α} {c : α} (needed : c ∈ p) (missing : c ∉ t) : afterLast? p t = none :=
  afterLast?_eq_none_iff.mpr fun inside => missing (inside.subset needed)

/-- An occurrence is the last one if its first character does not come again in it and it does not
occur behind. -/
theorem afterLast?_self {a : α} {p t : List α} (once : a ∉ p) (last : afterLast? (a :: p) t = none) :
    afterLast? (a :: p) (a :: p ++ t) = some t := by
  have inside : ∀ {u : List α}, a ∉ u → afterLast? (a :: p) (u ++ t) = none := by
    intro u missing
    induction u with
    | nil => exact last
    | cons c u ih =>
      have other : a ≠ c := fun same => missing (by simp [same])
      have tail := ih fun member => missing (List.mem_cons_of_mem _ member)
      rw [List.cons_append, afterLast?, tail, Option.none_or, stripStart?, if_neg other]
  rw [List.cons_append, afterLast?, inside once, Option.none_or]
  exact (stripStart?_eq_some_iff _ _ _).mpr rfl

theorem behindLast_of_afterLast? {p t r : List α} (found : afterLast? p t = some r) : BehindLast p t r := by
  induction t generalizing r with
  | nil =>
    have shape := (stripStart?_eq_some_iff p [] r).mp found
    obtain ⟨rfl, rfl⟩ := List.append_eq_nil_iff.mp shape.symm
    exact ⟨List.suffix_refl _, fun r' _ => Nat.zero_le _⟩
  | cons c t ih =>
    rw [afterLast?, Option.or_eq_some_iff] at found
    rcases found with later | ⟨nowhere, here⟩
    · obtain ⟨occurs, last⟩ := ih later
      refine ⟨occurs.trans (List.suffix_cons c t), ?_⟩
      intro r' occurs'
      rcases List.suffix_cons_iff.mp occurs' with whole | inside
      -- An occurrence at the very beginning has more behind it than any other.
      · have short := occurs.length_le
        have long := congrArg List.length whole
        simp only [List.length_append, List.length_cons] at short long
        omega
      · exact last r' inside
    · have shape := (stripStart?_eq_some_iff p (c :: t) r).mp here
      refine ⟨shape ▸ List.suffix_refl _, ?_⟩
      intro r' occurs'
      rcases List.suffix_cons_iff.mp occurs' with whole | inside
      · exact Nat.le_of_eq (congrArg List.length (List.append_cancel_left (shape.symm.trans whole.symm)))
      · have absent := afterLast?_eq_none_iff.mp nowhere
        exact absurd ((List.prefix_append p r').isInfix.trans inside.isInfix) absent

theorem afterLast?_eq_some_iff {p t r : List α} : afterLast? p t = some r ↔ BehindLast p t r := by
  constructor
  · exact behindLast_of_afterLast?
  · intro last
    have occurs : p <:+: t := (List.prefix_append p r).isInfix.trans last.1.isInfix
    cases found : afterLast? p t with
    | none => exact absurd occurs (afterLast?_eq_none_iff.mp found)
    | some r' => rw [(behindLast_of_afterLast? found).unique last]

theorem contains_iff (t p : List α) : contains t p = true ↔ p <:+: t := by
  unfold contains
  induction t with
  | nil => cases p <;> simp [find?]
  | cons c r ih =>
    by_cases here : startsWith p (c :: r) = true
    · simp only [find?, if_pos here, Option.isSome_some, true_iff]
      exact ((startsWith_iff p (c :: r)).mp here).isInfix
    · rw [find?, if_neg here, Option.isSome_map, ih, List.infix_cons_iff]
      simp [not_prefix_of_startsWith here]

theorem infix_iff_exists_firstAt {p t : List α} (some_char : p ≠ []) : p <:+: t ↔ ∃ i, FirstAt p t i := by
  rw [← contains_iff, contains, Option.isSome_iff_exists]
  simp only [find?_eq_some_iff_firstAt some_char]

theorem contains_of_part {t u p : List α} (part : u <:+: t) (inside : contains u p = true) :
    contains t p = true :=
  (contains_iff t p).mpr (((contains_iff u p).mp inside).trans part)

theorem contains_of_contains {t p q : List α} (part : p <:+: q) (inside : contains t q = true) :
    contains t p = true :=
  (contains_iff t p).mpr (part.trans ((contains_iff t q).mp inside))

end Search

theorem trimLeft_suffix (t : Text) : trimLeft t <:+ t := List.dropWhile_suffix _

theorem trimRight_begin (t : Text) : trimRight t <+: t := by
  have suffix : t.reverse.dropWhile isBlank <:+ t.reverse := List.dropWhile_suffix _
  simpa [trimRight] using List.reverse_prefix.mpr suffix

theorem trim_part (t : Text) : trim t <:+: t :=
  (trimRight_begin (trimLeft t)).isInfix.trans (trimLeft_suffix t).isInfix

/-- The occurrences of `p`, each beginning behind the end of the one before. `skip` counts the
characters of the last one that are still to pass. -/
def countFrom (p : Text) : Nat → Text → Nat
  | _, [] => 0
  | skip + 1, _ :: r => countFrom p skip r
  | 0, c :: r => if startsWith p (c :: r) then countFrom p (p.length - 1) r + 1 else countFrom p 0 r

def occurrences (p t : Text) : Nat := countFrom p 0 t

theorem occurrences_pos {p t : Text} (present : contains t p = true) (some_char : p ≠ []) :
    0 < occurrences p t := by
  unfold occurrences
  induction t with
  | nil =>
    have empty := List.eq_nil_of_infix_nil ((contains_iff [] p).mp present)
    exact absurd empty some_char
  | cons c r ih =>
    by_cases here : startsWith p (c :: r) = true
    · rw [countFrom, if_pos here]
      omega
    · rw [countFrom, if_neg here]
      rw [contains_iff, List.infix_cons_iff] at present
      rcases present with occurs | later
      · exact absurd occurs (not_prefix_of_startsWith here)
      · exact ih ((contains_iff r p).mpr later)

theorem occurrences_eq_zero {p t : Text} (missing : contains t p = false) : occurrences p t = 0 := by
  have absent : ¬ p <:+: t := fun inside => by simp [(contains_iff t p).mpr inside] at missing
  unfold occurrences
  induction t with
  | nil => rfl
  | cons c r ih =>
    rw [List.infix_cons_iff, not_or] at absent
    have later : contains r p = false := by
      rw [← Bool.not_eq_true, contains_iff]
      exact absent.2
    have here : ¬ startsWith p (c :: r) = true := fun h => absent.1 ((startsWith_iff p _).mp h)
    rw [countFrom, if_neg here]
    exact ih later absent.2

theorem mem_replaceFrom {size : Text → Option Nat} {f : Text → Text} {skip : Nat} {t : Text} {c : Char}
    (member : c ∈ replaceFrom size f skip t) : c ∈ t ∨ ∃ u, c ∈ f u := by
  induction skip, t using replaceFrom.induct size with
  | case1 skip => exact absurd member List.not_mem_nil
  | case2 skip a r ih =>
    rw [replaceFrom] at member
    rcases ih member with member | put
    · exact .inl (List.mem_cons_of_mem _ member)
    · exact .inr put
  | case3 a r n matched ih =>
    rw [replaceFrom, matched] at member
    rcases List.mem_append.mp member with put | member
    · exact .inr ⟨_, put⟩
    · rcases ih member with member | put
      · exact .inl (List.mem_cons_of_mem _ member)
      · exact .inr put
  | case4 a r none_here ih =>
    rw [replaceFrom] at member
    split at member
    · rename_i n matched
      exact absurd matched (none_here n)
    · rcases List.mem_cons.mp member with rfl | member
      · exact .inl List.mem_cons_self
      · rcases ih member with member | put
        · exact .inl (List.mem_cons_of_mem _ member)
        · exact .inr put

theorem mem_replaceAll {p q t : Text} {c : Char} (member : c ∈ replaceAll p q t) : c ∈ t ∨ c ∈ q := by
  rcases mem_replaceFrom member with member | ⟨_, put⟩
  · exact .inl member
  · exact .inr put

theorem countP_replaceFrom (f : Char → Bool) (p q t : Text) (skip : Nat) (some_char : p ≠ []) :
    (replaceFrom (fun r => if startsWith p r then some p.length else none) (fun _ => q) skip t).countP f +
        (t.take skip).countP f + countFrom p skip t * p.countP f =
      t.countP f + countFrom p skip t * q.countP f := by
  induction t generalizing skip with
  | nil => cases skip <;> simp [replaceFrom, countFrom]
  | cons c r ih =>
    cases skip with
    | succ skip =>
      have tail := ih skip
      simp only [replaceFrom, countFrom, List.take_succ_cons, List.countP_cons]
      omega
    | zero =>
      by_cases here : startsWith p (c :: r) = true
      · obtain ⟨n, size⟩ : ∃ n, p.length = n + 1 :=
          ⟨p.length - 1, by have := List.length_pos_iff.mpr some_char; omega⟩
        have front : p = c :: r.take n := by
          have taken := List.prefix_iff_eq_take.mp ((startsWith_iff p (c :: r)).mp here)
          rwa [size, List.take_succ_cons] at taken
        have part : p.countP f = (r.take n).countP f + if f c then 1 else 0 := by
          rw [front, List.countP_cons]
        have tail := ih n
        simp only [replaceFrom, countFrom, here, if_true, size, List.countP_append, List.countP_cons,
          List.take_zero, List.countP_nil, Nat.add_sub_cancel, Nat.add_mul, Nat.one_mul] at tail ⊢
        omega
      · have tail := ih 0
        simp only [replaceFrom, countFrom, here, List.countP_cons, List.take_zero, List.countP_nil] at tail ⊢
        simp only [Bool.false_eq_true, if_false, List.countP_cons]
        omega

theorem countP_replaceAll (f : Char → Bool) (p q t : Text) (some_char : p ≠ []) :
    (replaceAll p q t).countP f + occurrences p t * p.countP f = t.countP f + occurrences p t * q.countP f := by
  have counted := countP_replaceFrom f p q t 0 some_char
  rw [List.take_zero, List.countP_nil, Nat.add_zero] at counted
  exact counted

theorem length_replaceAll (p q t : Text) (some_char : p ≠ []) :
    (replaceAll p q t).length + occurrences p t * p.length = t.length + occurrences p t * q.length := by
  have counted := countP_replaceAll (fun _ => true) p q t some_char
  simpa only [List.countP_true] using counted

theorem replaceFrom_pass (size : Text → Option Nat) (f : Text → Text) (n : Nat) (t : Text) :
    replaceFrom size f n t = replaceFrom size f 0 (t.drop n) := by
  induction t generalizing n with
  | nil => cases n <;> simp [replaceFrom]
  | cons c r ih =>
    cases n with
    | zero => rfl
    | succ n => exact ih n

section Matches

variable {size : Text → Option Nat} {f : Text → Text} {c : Char} {r : Text}

theorem replaceMatches_match {m : Text} (r : Text) (some_char : m ≠ []) (matched : size (m ++ r) = some m.length) :
    replaceMatches size f (m ++ r) = f m ++ replaceMatches size f r := by
  cases m with
  | nil => exact absurd rfl some_char
  | cons c m =>
    rw [List.cons_append, List.length_cons] at matched
    rw [List.cons_append, replaceMatches, replaceFrom, matched]
    show f (c :: (m ++ r).take m.length) ++ replaceFrom size f m.length (m ++ r) = _
    rw [replaceFrom_pass, List.take_left, List.drop_left, replaceMatches]

theorem replaceMatches_cons (unmatched : ∀ n, size (c :: r) ≠ some (n + 1)) :
    replaceMatches size f (c :: r) = c :: replaceMatches size f r := by
  rw [replaceMatches, replaceFrom]
  split
  · rename_i n matched
    exact absurd matched (unmatched n)
  · rfl

end Matches

theorem replaceAll_of_firstAt {p t : Text} {i : Nat} (q : Text) (some_char : p ≠ []) (first : FirstAt p t i) :
    replaceAll p q t = t.take i ++ (q ++ replaceAll p q (t.drop (i + p.length))) := by
  obtain ⟨here, earlier⟩ := first
  induction i generalizing t with
  | zero =>
    rw [List.drop_zero] at here
    cases t with
    | nil => exact absurd (List.prefix_nil.mp here) some_char
    | cons c r =>
      obtain ⟨n, size⟩ : ∃ n, p.length = n + 1 :=
        ⟨p.length - 1, by have := List.length_pos_iff.mpr some_char; omega⟩
      have matched := (startsWith_iff p (c :: r)).mpr here
      simp only [replaceAll, replaceMatches, replaceFrom, matched, if_true, size]
      rw [replaceFrom_pass, List.take_zero, List.nil_append, Nat.zero_add, List.drop_succ_cons]
  | succ i ih =>
    cases t with
    | nil =>
      rw [List.drop_nil] at here
      exact absurd (List.prefix_nil.mp here) some_char
    | cons c r =>
      have absent : ¬ startsWith p (c :: r) = true :=
        fun matched => earlier 0 (Nat.succ_pos i) ((startsWith_iff p (c :: r)).mp matched)
      have tail := ih (t := r) here fun j before => earlier (j + 1) (Nat.succ_lt_succ before)
      rw [List.take_succ_cons, List.cons_append, Nat.add_right_comm, List.drop_succ_cons, ← tail]
      simp only [replaceAll, replaceMatches, replaceFrom, absent]
      rfl

end ParseRepair.Text
