import ParseRepair.Proofs.Text.Digits
import ParseRepair.Proofs.Text.Search

namespace ParseRepair

namespace Text

section Points

theorem char_injective : Function.Injective Point.char := fun _ _ same => Point.char.inj same

@[simp]
theorem points_append (t u : Text) : points (t ++ u) = t.points ++ u.points := List.map_append

@[simp]
theorem points_cons (c : Char) (t : Text) : points (c :: t) = .char c :: t.points := rfl

@[simp]
theorem points_nil : points [] = [] := rfl

@[simp]
theorem length_points (t : Text) : t.points.length = t.length := List.length_map _

theorem points_dropLast (t : Text) : points t.dropLast = t.points.dropLast := List.map_dropLast

end Points

section Search

variable (p t : Text)

theorem stripStart?_points : stripStart? p.points t.points = (stripStart? p t).map points := by
  induction p generalizing t with
  | nil => rfl
  | cons c p ih =>
    cases t with
    | nil => rfl
    | cons d t =>
      by_cases same : c = d
      · simp only [points_cons, stripStart?, same, if_true, ih]
      · have other : Point.char c ≠ .char d := fun h => same (char_injective h)
        simp only [points_cons, stripStart?, if_neg same, if_neg other, Option.map_none]

theorem startsWith_points : startsWith p.points t.points = startsWith p t := by
  rw [startsWith, startsWith, stripStart?_points, Option.isSome_map]

theorem find?_points : find? p.points t.points = find? p t := by
  induction t with
  | nil =>
    cases p with
    | nil => rfl
    | cons c p => rfl
  | cons d t ih =>
    have here := startsWith_points p (d :: t)
    rw [points_cons] at here
    rw [points_cons, find?, find?, here, ih]

theorem contains_points : contains t.points p.points = contains t p := by rw [contains, contains, find?_points]

theorem afterLast?_points : afterLast? p.points t.points = (afterLast? p t).map points := by
  induction t with
  | nil => exact stripStart?_points p []
  | cons d t ih =>
    have here := stripStart?_points p (d :: t)
    rw [points_cons] at here
    rw [points_cons, afterLast?, afterLast?, here, ih, Option.map_or]

end Search

def Digits (ds : Text) : Prop := ds ≠ [] ∧ ∀ c ∈ ds, isAsciiDigit c = true

theorem digits_takeWhile {t : Text} (filled : (t.takeWhile isAsciiDigit).isEmpty = false) :
    Digits (t.takeWhile isAsciiDigit) :=
  ⟨by simpa using filled, fun _ member => List.mem_takeWhile_imp member⟩

end Text

namespace Points

open Text (isAsciiDigit)

def EndsDigits (t : Points) : Prop := ∀ c r, t = .char c :: r → isAsciiDigit c = false

theorem endsDigits_cons {p : Point} (other : ∀ c, p = .char c → isAsciiDigit c = false) (r : Points) :
    EndsDigits (p :: r) := by
  intro c u same
  cases same
  exact other c rfl

theorem digits_char (c : Char) (r : Points) : digits (.char c :: r) =
    if isAsciiDigit c then (c :: (digits r).1, (digits r).2) else ([], .char c :: r) := rfl

theorem digits_append {ds : Text} (each : ∀ c ∈ ds, isAsciiDigit c = true) {r : Points} (ends : EndsDigits r) :
    digits (ds.points ++ r) = (ds, r) := by
  induction ds with
  | nil =>
    cases r with
    | nil => rfl
    | cons p r =>
      cases p with
      | half n => rfl
      | char c => exact if_neg (by rw [ends c r rfl]; exact Bool.false_ne_true)
  | cons c ds ih =>
    have tail := ih fun d member => each d (List.mem_cons_of_mem c member)
    rw [Text.points_cons, List.cons_append, digits_char, if_pos (each c List.mem_cons_self), tail]

theorem digits_spec (t : Points) :
    t = t.digits.1.points ++ t.digits.2 ∧ (∀ c ∈ t.digits.1, isAsciiDigit c = true) ∧ t.digits.2.EndsDigits := by
  fun_induction digits t with
  | case1 c r digit ih =>
    obtain ⟨shape, each, ends⟩ := ih
    refine ⟨?_, List.forall_mem_cons.mpr ⟨digit, each⟩, ends⟩
    rw [Text.points_cons, List.cons_append, ← shape]
  | case2 c r other =>
    refine ⟨rfl, fun _ member => absurd member List.not_mem_nil, endsDigits_cons ?_ r⟩
    intro d same
    cases same
    simpa using other
  | case3 t other =>
    refine ⟨rfl, fun _ member => absurd member List.not_mem_nil, ?_⟩
    intro c r same
    exact absurd same (other c r)

end Points

end ParseRepair
