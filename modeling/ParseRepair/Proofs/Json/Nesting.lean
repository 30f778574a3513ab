import Mathlib.Data.Nat.Find
import ParseRepair.Proofs.Json.Fuel

namespace ParseRepair.Json

variable {α β : Type}

/-- A reading, and the same reading with more room: they differ only where the first one wants more. -/
inductive Widens : Except Stop α → Except Stop α → Prop
  | same (x : Except Stop α) : Widens x x
  | tooDeep (c : Container) (x : Except Stop α) : Widens (.error (.tooDeep c)) x

theorem Widens.bind {x y : Except Stop α} {f g : α → Except Stop β} (widens : Widens x y)
    (next : ∀ a, Widens (f a) (g a)) : Widens (x >>= f) (y >>= g) := by
  cases widens with
  | same x =>
    cases x with
    | ok a => exact next a
    | error s => exact .same _
  | tooDeep c x => exact .tooDeep c _

section Values

mutual

theorem value_widens : ∀ (fuel depth : Nat) (t : Text), Widens (value fuel depth t) (value fuel (depth + 1) t)
  | 0, _, _ => .same _
  | fuel + 1, depth, t => by
    cases begins t with
    | string r => exact .same _
    | plain quote bracket brace =>
      rw [value_plain quote bracket brace, value_plain quote bracket brace]
      exact .same _
    | emptyList closed =>
      cases depth with
      | zero => exact .tooDeep _ _
      | succ depth =>
        rw [value_emptyList closed, value_emptyList closed]
        exact .same _
    | @list r filled =>
      cases depth with
      | zero => exact .tooDeep _ _
      | succ depth =>
        rw [value_filledList filled, value_filledList filled]
        exact (items_widens fuel depth (skipBlank r)).bind fun _ => .same _
    | emptyObject closed =>
      cases depth with
      | zero => exact .tooDeep _ _
      | succ depth =>
        rw [value_emptyObject closed, value_emptyObject closed]
        exact .same _
    | @object r filled =>
      cases depth with
      | zero => exact .tooDeep _ _
      | succ depth =>
        rw [value_filledObject filled, value_filledObject filled]
        exact (members_widens fuel depth (skipBlank r)).bind fun _ => .same _

theorem items_widens : ∀ (fuel depth : Nat) (t : Text), Widens (items fuel depth t) (items fuel (depth + 1) t)
  | 0, _, _ => .same _
  | fuel + 1, depth, t => by
    rw [items, items]
    refine (value_widens fuel depth t).bind fun p => ?_
    dsimp only
    split
    · exact .same _
    · exact (items_widens fuel depth _).bind fun _ => .same _
    · exact .same _

theorem members_widens : ∀ (fuel depth : Nat) (t : Text), Widens (members fuel depth t) (members fuel (depth + 1) t)
  | 0, _, _ => .same _
  | fuel + 1, depth, t => by
    rw [members, members]
    refine (Widens.same (name t)).bind fun k => ?_
    refine (value_widens fuel depth k.2).bind fun p => ?_
    dsimp only
    split
    · exact .same _
    · exact (members_widens fuel depth _).bind fun _ => .same _
    · exact .same _

end

end Values

section Document

variable {depth : Nat} {t : Text}

theorem document_widens (depth : Nat) (t : Text) : Widens (document depth t) (document (depth + 1) t) := by
  unfold document
  split
  · exact .same _
  · exact (value_widens _ depth _).bind fun _ => .same _

def Followed (depth : Nat) (t : Text) : Prop := ∀ c, Json.read depth t ≠ .error (.tooDeep c)

theorem read_succ (followed : Followed depth t) : Json.read (depth + 1) t = Json.read depth t := by
  have widens := document_widens depth t
  unfold Followed at followed
  unfold Json.read at followed ⊢
  generalize document depth t = x at widens followed ⊢
  generalize document (depth + 1) t = y at widens ⊢
  cases widens with
  | same x => rfl
  | tooDeep c x => exact absurd rfl (followed c)

theorem read_of_followed {more : Nat} (followed : Followed depth t) (wide : depth ≤ more) :
    Json.read more t = Json.read depth t := by
  induction more, wide using Nat.le_induction with
  | base => rfl
  | succ more _ ih =>
    have still : Followed more t := by rwa [Followed, ih]
    rw [read_succ still, ih]

theorem followed_openings (t : Text) : Followed (openings t) t := by
  intro c stopped
  rcases read_eq_error stopped with ⟨_, _, ⟨⟩⟩ | ⟨_, _, _, _, ⟨⟩⟩ | ⟨_, deep, _⟩
  exact Nat.lt_irrefl _ deep

instance : Decidable (Followed depth t) :=
  decidable_of_iff ((match Json.read depth t with
      | .error (.tooDeep _) => false
      | _ => true) = true) <| by
    unfold Followed
    split
    · rename_i c stopped
      simp [stopped]
    · rename_i other
      simpa using other

theorem exists_followed (t : Text) : ∃ depth, Followed depth t := ⟨_, followed_openings t⟩

/-- How many containers lie in each other in a text, as far as it is read: the least room in which the reader
can follow them. -/
def nesting (t : Text) : Nat := Nat.find (exists_followed t)

theorem followed_iff : Followed depth t ↔ nesting t ≤ depth := by
  constructor
  · exact Nat.find_min' (exists_followed t)
  · intro wide c stopped
    have least : Followed (nesting t) t := Nat.find_spec (exists_followed t)
    rw [read_of_followed least wide] at stopped
    exact least c stopped

theorem nesting_le_openings (t : Text) : nesting t ≤ openings t := followed_iff.mp (followed_openings t)

end Document

end ParseRepair.Json
