import ParseRepair.Json.Reader
import ParseRepair.Proofs.Diagnostic.Location
import ParseRepair.Proofs.Text.Digits

namespace ParseRepair.Json

open Text (isAsciiDigit)

variable {α β : Type}

def Behind (r t : Text) : Prop := r <:+ t ∧ r.length < t.length

section Behind

variable {r t u : Text}

theorem Behind.suffix (behind : Behind r t) : r <:+ t := behind.1

theorem Behind.mono (behind : Behind r u) (part : u <:+ t) : Behind r t :=
  ⟨behind.1.trans part, Nat.lt_of_lt_of_le behind.2 part.length_le⟩

theorem Behind.rest (behind : Behind r t) (part : u <:+ r) : Behind u t :=
  ⟨part.trans behind.1, Nat.lt_of_le_of_lt part.length_le behind.2⟩

theorem behind_cons (c : Char) (part : r <:+ t) : Behind r (c :: t) :=
  ⟨part.trans (List.suffix_cons c t), Nat.lt_succ_of_le part.length_le⟩

theorem behind_append {front : Text} (filled : front ≠ []) (part : r <:+ t) : Behind r (front ++ t) := by
  cases front with
  | nil => exact absurd rfl filled
  | cons c front => exact behind_cons c (part.trans (List.suffix_append front t))

theorem skipBlank_suffix (t : Text) : skipBlank t <:+ t := List.dropWhile_suffix _

theorem suffix_of_skipBlank {c : Char} (next : skipBlank r = c :: u) : u <:+ r := by
  refine (List.suffix_cons c u).trans ?_
  rw [← next]
  exact skipBlank_suffix r

end Behind

def isOpening (c : Char) : Bool := c == '[' || c == '{'

def openings (t : Text) : Nat := t.countP isOpening

/-- Why reading a part of a text can stop, where `depth` more containers may lie in each other. A number that
is too long to be read stands in the text. -/
inductive Halts (depth : Nat) (t : Text) : Stop → Prop
  | fault (f : Fault) (rest : Text) : Halts depth t (.fault f rest)
  | integer {run : Text} (inside : run <:+: t) (digits : ∀ c ∈ run, isAsciiDigit c = true)
    (long : digitLimit < run.length) : Halts depth t (.integer (.tooManyDigits run.length))
  | tooDeep (c : Container) (deep : depth < openings t) : Halts depth t (.tooDeep c)

inductive Ends (depth : Nat) (t : Text) : Except Stop (α × Text) → Prop
  | ok (a : α) {r : Text} (behind : Behind r t) : Ends depth t (.ok (a, r))
  | stop {s : Stop} (halts : Halts depth t s) : Ends depth t (.error s)

section Ends

variable {depth : Nat} {t u : Text} {s : Stop} {x : Except Stop (α × Text)}

theorem Halts.mono (halts : Halts depth u s) (part : u <:+ t) : Halts depth t s := by
  cases halts with
  | fault f rest => exact .fault f rest
  | integer inside digits long => exact .integer (inside.trans part.isInfix) digits long
  | tooDeep c deep => exact .tooDeep c (Nat.lt_of_lt_of_le deep part.sublist.countP_le)

theorem Halts.inside (halts : Halts depth u s) {c : Char} (opens : isOpening c = true) :
    Halts (depth + 1) (c :: u) s := by
  cases halts with
  | fault f rest => exact .fault f rest
  | integer inside digits long => exact .integer (inside.trans (List.suffix_cons c u).isInfix) digits long
  | tooDeep k deep =>
    refine .tooDeep k ?_
    rw [openings, List.countP_cons_of_pos opens]
    exact Nat.succ_lt_succ deep

theorem Ends.mono (ends : Ends depth u x) (part : u <:+ t) : Ends depth t x := by
  cases ends with
  | ok a behind => exact .ok a (behind.mono part)
  | stop halts => exact .stop (halts.mono part)

theorem Ends.inside (ends : Ends depth u x) {c : Char} (opens : isOpening c = true) :
    Ends (depth + 1) (c :: u) x := by
  cases ends with
  | ok a behind => exact .ok a (behind_cons c behind.suffix)
  | stop halts => exact .stop (halts.inside opens)

theorem Ends.behind {a : α} {r : Text} (ends : Ends depth t (.ok (a, r))) : Behind r t := by
  cases ends with
  | ok _ behind => exact behind

theorem Ends.halts (ends : Ends depth t (.error s : Except Stop (α × Text))) : Halts depth t s := by
  cases ends with
  | stop halts => exact halts

theorem Ends.bind {f : α × Text → Except Stop (β × Text)} (ends : Ends depth t x)
    (next : ∀ a r, Behind r t → Ends depth t (f (a, r))) : Ends depth t (x >>= f) := by
  cases ends with
  | ok a behind => exact next a _ behind
  | stop halts => exact .stop halts

theorem ends_fault (f : Fault) (rest : Text) : Ends depth t (.error (.fault f rest) : Except Stop (α × Text)) :=
  .stop (.fault f rest)

end Ends

section Number

theorem signed_suffix (t : Text) : (Decimal.signed t).2 <:+ t := by
  unfold Decimal.signed
  split
  · exact List.suffix_cons _ _
  · exact List.suffix_refl _

theorem anySign_suffix (t : Text) : (Decimal.anySign t).2 <:+ t := by
  unfold Decimal.anySign
  split
  · exact List.suffix_cons _ _
  · exact signed_suffix t

theorem digits_eq (t : Text) : Decimal.digits t = (t.takeWhile isAsciiDigit, t.dropWhile isAsciiDigit) :=
  List.span_eq_takeWhile_dropWhile _ _

theorem digits_suffix (t : Text) : (Decimal.digits t).2 <:+ t := by
  rw [digits_eq]
  exact List.dropWhile_suffix _

theorem fraction_suffix (t : Text) : (Decimal.fraction t).2 <:+ t := by
  unfold Decimal.fraction
  split
  · rename_i r
    split
    · exact List.suffix_refl _
    · exact (digits_suffix r).trans (List.suffix_cons _ _)
  · exact List.suffix_refl _

theorem power_suffix (t : Text) : (Decimal.power t).2 <:+ t := by
  unfold Decimal.power
  split
  · rename_i c r
    have rest : (Decimal.digits (Decimal.anySign r).2).2 <:+ c :: r :=
      ((digits_suffix _).trans (anySign_suffix r)).trans (List.suffix_cons c r)
    dsimp only
    split
    · split
      · exact List.suffix_refl _
      · exact rest
    · exact List.suffix_refl _
  · exact List.suffix_refl _

theorem whole?_eq_some {t w r : Text} (found : whole? t = some (w, r)) : t = w ++ r ∧ Text.Digits w := by
  unfold whole? at found
  split at found
  · cases found
    refine ⟨rfl, List.cons_ne_nil _ _, fun c zero => ?_⟩
    rw [List.mem_singleton.mp zero]
    rfl
  · rename_i other
    split at found
    · cases found
    · rename_i filled
      rw [digits_eq] at found filled
      cases found
      exact ⟨List.takeWhile_append_dropWhile.symm, Text.digits_takeWhile (by simpa using filled)⟩

theorem ends_number (depth : Nat) (t : Text) : Ends depth t (number t) := by
  unfold number
  dsimp only
  cases found : whole? (Decimal.signed t).2 with
  | none => exact ends_fault _ _
  | some parts =>
    obtain ⟨w, r⟩ := parts
    obtain ⟨shape, digits⟩ := whole?_eq_some found
    have behind : Behind r (Decimal.signed t).2 := by
      rw [shape]
      exact behind_append digits.1 (List.suffix_refl r)
    have rest : Behind (Decimal.power (Decimal.fraction r).2).2 t :=
      (behind.mono (signed_suffix t)).rest ((power_suffix _).trans (fraction_suffix r))
    have front : w <+: (Decimal.signed t).2 := by
      rw [shape]
      exact List.prefix_append w r
    have inside : w <:+: t := front.isInfix.trans (signed_suffix t).isInfix
    dsimp only
    split
    · rw [Text.toNat_digits digits]
      by_cases long : digitLimit < w.length
      · rw [if_pos long]
        exact .stop (.integer inside digits.2 long)
      · rw [if_neg long]
        exact .ok _ rest
    · exact .ok _ rest

end Number

section Tokens

variable (depth : Nat)

theorem keyword?_behind {t : Text} {v : Value} {r : Text} (found : keyword? t = some (v, r)) : Behind r t := by
  obtain ⟨⟨word, value⟩, known, found⟩ := List.exists_of_findSome?_eq_some found
  obtain ⟨rest, stripped, same⟩ := Option.map_eq_some_iff.mp found
  cases same
  rw [(Text.stripStart?_eq_some_iff _ _ _).mp stripped]
  have words : ∀ k ∈ keywords, k.1 ≠ [] := by decide
  exact behind_append (words _ known) (List.suffix_refl _)

theorem ends_units (opening t : Text) : Ends depth t (units opening t) := by
  fun_induction units opening t with
  | case1 => exact ends_fault _ _
  | case2 r => exact .ok _ (behind_cons _ (List.suffix_refl r))
  | case3 => exact ends_fault _ _
  | case4 a b c d e r n _ ih =>
    have part : e :: r <:+ '\\' :: 'u' :: a :: b :: c :: d :: e :: r := ⟨['\\', 'u', a, b, c, d], rfl⟩
    exact (ih.mono part).bind fun _ _ behind => .ok _ behind
  | case5 => exact ends_fault _ _
  | case6 => exact ends_fault _ _
  | case7 => exact ends_fault _ _
  | case8 c r _ _ _ _ ih =>
    exact (ih.mono ⟨['\\', c], rfl⟩).bind fun _ _ behind => .ok _ behind
  | case9 => exact ends_fault _ _
  | case10 c r _ _ _ _ _ _ ih =>
    exact (ih.mono (List.suffix_cons c r)).bind fun _ _ behind => .ok _ behind

theorem ends_string (opening t : Text) : Ends depth t (string opening t) :=
  (ends_units depth opening t).bind fun _ _ behind => .ok _ behind

theorem ends_name (t : Text) : Ends depth t (name t) := by
  unfold name
  split
  · rename_i r
    refine ((ends_string depth _ r).mono (List.suffix_cons _ r)).bind fun key rest behind => ?_
    dsimp only
    split
    · rename_i u colon
      exact .ok key (behind.rest ((skipBlank_suffix u).trans (suffix_of_skipBlank colon)))
    · exact ends_fault _ _
  · exact ends_fault _ _

end Tokens

section Values

mutual

theorem ends_value : ∀ (fuel depth : Nat) (t : Text), Ends depth t (value fuel depth t)
  | 0, _, _ => ends_fault _ _
  | fuel + 1, depth, t => by
    unfold value
    split
    · rename_i r
      exact ((ends_string depth _ r).mono (List.suffix_cons _ r)).bind fun _ _ behind => .ok _ behind
    · rename_i r
      cases depth with
      | zero => exact .stop (.tooDeep _ (by simp [openings, isOpening]))
      | succ depth =>
        rw [if_neg (Nat.succ_ne_zero depth)]
        split
        · rename_i u closed
          exact .ok _ (behind_cons _ (suffix_of_skipBlank closed))
        · have inside := (ends_items fuel depth (skipBlank r)).mono (skipBlank_suffix r)
          exact (inside.inside rfl).bind fun _ _ behind => .ok _ behind
    · rename_i r
      cases depth with
      | zero => exact .stop (.tooDeep _ (by simp [openings, isOpening]))
      | succ depth =>
        rw [if_neg (Nat.succ_ne_zero depth)]
        split
        · rename_i u closed
          exact .ok _ (behind_cons _ (suffix_of_skipBlank closed))
        · have inside := (ends_members fuel depth (skipBlank r)).mono (skipBlank_suffix r)
          exact (inside.inside rfl).bind fun _ _ behind => .ok _ behind
    · split
      · rename_i found
        exact .ok _ (keyword?_behind found)
      · exact ends_number depth _

theorem ends_items : ∀ (fuel depth : Nat) (t : Text), Ends depth t (items fuel depth t)
  | 0, _, _ => ends_fault _ _
  | fuel + 1, depth, t => by
    unfold items
    refine (ends_value fuel depth t).bind fun v r behind => ?_
    dsimp only
    split
    · rename_i u closed
      exact .ok _ (behind.rest (suffix_of_skipBlank closed))
    · rename_i u more
      have part := behind.rest ((skipBlank_suffix u).trans (suffix_of_skipBlank more))
      exact ((ends_items fuel depth (skipBlank u)).mono part.suffix).bind fun _ _ behind => .ok _ behind
    · exact ends_fault _ _

theorem ends_members : ∀ (fuel depth : Nat) (t : Text), Ends depth t (members fuel depth t)
  | 0, _, _ => ends_fault _ _
  | fuel + 1, depth, t => by
    unfold members
    refine (ends_name depth t).bind fun key u named => ?_
    refine ((ends_value fuel depth u).mono named.suffix).bind fun v r behind => ?_
    dsimp only
    split
    · rename_i w closed
      exact .ok _ (behind.rest (suffix_of_skipBlank closed))
    · rename_i w more
      have part := behind.rest ((skipBlank_suffix w).trans (suffix_of_skipBlank more))
      exact ((ends_members fuel depth (skipBlank w)).mono part.suffix).bind fun _ _ behind => .ok _ behind
    · exact ends_fault _ _

end

end Values

theorem document_halts {depth : Nat} {t : Text} {s : Stop} (stopped : document depth t = .error s) :
    Halts depth t s := by
  unfold document at stopped
  split at stopped
  · cases stopped
    exact .fault _ _
  · have ends := ends_value (2 * t.length + 2) depth (skipBlank t)
    cases found : value (2 * t.length + 2) depth (skipBlank t) with
    | ok p =>
      rw [found] at stopped
      simp only [bind, Except.bind] at stopped
      split at stopped
      · cases stopped
      · cases stopped
        exact .fault _ _
    | error s' =>
      rw [found] at stopped ends
      cases stopped
      exact ends.halts.mono (skipBlank_suffix t)

/-- A text that is not read is malformed, or it holds too long a number, or it has more containers than may
lie in each other. -/
theorem read_eq_error {depth : Nat} {t : Text} {e : Error} (failed : Json.read depth t = .error e) :
    (∃ f place, e = .malformed f place) ∨
      (∃ run, run <:+: t ∧ (∀ c ∈ run, isAsciiDigit c = true) ∧ digitLimit < run.length ∧
        e = .integer (.tooManyDigits run.length)) ∨
      ∃ c, depth < openings t ∧ e = .tooDeep c := by
  unfold Json.read at failed
  cases stopped : document depth t with
  | ok v =>
    rw [stopped] at failed
    cases failed
  | error s =>
    rw [stopped] at failed
    cases document_halts stopped with
    | fault f rest =>
      cases failed
      exact .inl ⟨_, _, rfl⟩
    | integer inside digits long =>
      cases failed
      exact .inr (.inl ⟨_, inside, digits, long, rfl⟩)
    | tooDeep c deep =>
      cases failed
      exact .inr (.inr ⟨c, deep, rfl⟩)

end ParseRepair.Json
