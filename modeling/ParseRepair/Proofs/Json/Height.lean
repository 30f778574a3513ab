import Mathlib.Data.List.Induction
import ParseRepair.Proofs.Json.Nesting
import ParseRepair.Proofs.Json.Printer
import ParseRepair.Proofs.Traced

namespace ParseRepair

namespace Value

variable {α : Type}

mutual

/-- How many containers lie in each other in a value. -/
def height : Value α → Nat
  | .list items => itemsHeight items + 1
  | .object fields => fieldsHeight fields + 1
  | _ => 0

def itemsHeight : List (Value α) → Nat
  | [] => 0
  | v :: r => max v.height (itemsHeight r)

def fieldsHeight : List (List α × Value α) → Nat
  | [] => 0
  | (_, v) :: r => max v.height (fieldsHeight r)

end

theorem itemsHeight_le_iff {n : Nat} (vs : List (Value α)) : itemsHeight vs ≤ n ↔ ∀ v ∈ vs, v.height ≤ n := by
  induction vs with
  | nil => simp [itemsHeight]
  | cons v vs ih => rw [itemsHeight, Nat.max_le, ih, List.forall_mem_cons]

theorem fieldsHeight_le_iff {n : Nat} (fields : Fields α) :
    fieldsHeight fields ≤ n ↔ ∀ f ∈ fields, f.2.height ≤ n := by
  induction fields with
  | nil => simp [fieldsHeight]
  | cons f fields ih => rw [fieldsHeight, Nat.max_le, ih, List.forall_mem_cons]

section Put

variable [DecidableEq α] {p : Value α → Prop}

theorem forall_put {v : Value α} (first : p v) (key : List α) {fields : Fields α} (each : ∀ f ∈ fields, p f.2) :
    ∀ f ∈ put key v fields, p f.2 := by
  induction fields with
  | nil => exact List.forall_mem_singleton.mpr first
  | cons f fields ih =>
    rw [List.forall_mem_cons] at each
    by_cases here : f.1 = key
    · obtain ⟨_, w⟩ := f
      cases here
      rw [put_cons_same]
      exact List.forall_mem_cons.mpr ⟨first, each.2⟩
    · rw [put_cons_other v here]
      exact List.forall_mem_cons.mpr ⟨each.1, ih each.2⟩

theorem forall_ofMembers {members : Fields α} (each : ∀ m ∈ members, p m.2) : ∀ f ∈ ofMembers members, p f.2 := by
  rw [ofMembers_eq]
  induction members using List.reverseRecOn with
  | nil => exact each
  | append_singleton members m ih =>
    rw [List.forall_mem_append, List.forall_mem_singleton] at each
    rw [List.foldl_append]
    exact forall_put each.2 m.1 (ih each.1)

end Put

end Value

namespace Json

theorem height_keyword {t r : Text} {v : Value} (found : keyword? t = some (v, r)) : v.height = 0 := by
  obtain ⟨⟨w, u⟩, known, rest⟩ := List.exists_of_findSome?_eq_some found
  obtain ⟨_, _, same⟩ := Option.map_eq_some_iff.mp rest
  cases same
  have flat : ∀ k ∈ keywords, k.2.height = 0 := by
    simp [keywords, Value.height]
  exact flat _ known

theorem height_number {t r : Text} {v : Value} (read : number t = .ok (v, r)) : v.height = 0 := by
  unfold number at read
  dsimp only at read
  split at read
  · cases read
  split at read
  · split at read
    · cases read
      rfl
    · cases read
  · cases read
    rfl

theorem height_plain {fuel depth : Nat} {t r : Text} {v : Value} (quote : ∀ r, t ≠ '"' :: r)
    (bracket : ∀ r, t ≠ '[' :: r) (brace : ∀ r, t ≠ '{' :: r) (read : value (fuel + 1) depth t = .ok (v, r)) :
    v.height = 0 := by
  rw [value_plain quote bracket brace] at read
  cases found : keyword? t with
  | some p =>
    rw [found] at read
    cases read
    exact height_keyword found
  | none =>
    rw [found] at read
    exact height_number read

mutual

theorem height_value : ∀ {fuel depth : Nat} {t r : Text} {v : Value}, value fuel depth t = .ok (v, r) →
    v.height ≤ depth
  | 0, _, _, _, _, read => nomatch read
  | fuel + 1, depth, t, rest, v, read => by
    cases begins t with
    | string u =>
      obtain ⟨_, _, read⟩ := except_bind_eq_ok_iff.mp read
      cases read
      exact Nat.zero_le depth
    | plain quote bracket brace =>
      rw [height_plain quote bracket brace read]
      exact Nat.zero_le depth
    | emptyList closed =>
      cases depth with
      | zero => cases read
      | succ depth =>
        rw [value_emptyList closed] at read
        cases read
        exact Nat.succ_le_succ (Nat.zero_le depth)
    | list filled =>
      cases depth with
      | zero => cases read
      | succ depth =>
        rw [value_filledList filled] at read
        obtain ⟨⟨vs, _⟩, items, read⟩ := except_bind_eq_ok_iff.mp read
        cases read
        exact Nat.succ_le_succ ((Value.itemsHeight_le_iff vs).mpr (height_items items))
    | emptyObject closed =>
      cases depth with
      | zero => cases read
      | succ depth =>
        rw [value_emptyObject closed] at read
        cases read
        exact Nat.succ_le_succ (Nat.zero_le depth)
    | object filled =>
      cases depth with
      | zero => cases read
      | succ depth =>
        rw [value_filledObject filled] at read
        obtain ⟨⟨ms, _⟩, members, read⟩ := except_bind_eq_ok_iff.mp read
        cases read
        have each := Value.forall_ofMembers (p := fun v => v.height ≤ depth) (height_members members)
        exact Nat.succ_le_succ ((Value.fieldsHeight_le_iff _).mpr each)

theorem height_items : ∀ {fuel depth : Nat} {t r : Text} {vs : List Value}, items fuel depth t = .ok (vs, r) →
    ∀ v ∈ vs, v.height ≤ depth
  | 0, _, _, _, _, read => nomatch read
  | fuel + 1, depth, t, rest, vs, read => by
    rw [items] at read
    obtain ⟨⟨v, r⟩, first, read⟩ := except_bind_eq_ok_iff.mp read
    have head := height_value first
    dsimp only at read
    split at read
    · cases read
      exact List.forall_mem_singleton.mpr head
    · obtain ⟨⟨ws, _⟩, others, read⟩ := except_bind_eq_ok_iff.mp read
      cases read
      exact List.forall_mem_cons.mpr ⟨head, height_items others⟩
    · cases read

theorem height_members : ∀ {fuel depth : Nat} {t r : Text} {ms : Value.Fields}, members fuel depth t = .ok (ms, r) →
    ∀ m ∈ ms, m.2.height ≤ depth
  | 0, _, _, _, _, read => nomatch read
  | fuel + 1, depth, t, rest, ms, read => by
    rw [members] at read
    obtain ⟨⟨key, u⟩, _, read⟩ := except_bind_eq_ok_iff.mp read
    obtain ⟨⟨v, r⟩, first, read⟩ := except_bind_eq_ok_iff.mp read
    have head := height_value first
    dsimp only at read
    split at read
    · cases read
      exact List.forall_mem_singleton.mpr head
    · obtain ⟨⟨ws, _⟩, others, read⟩ := except_bind_eq_ok_iff.mp read
      cases read
      exact List.forall_mem_cons.mpr ⟨head, height_members others⟩
    · cases read

end

section Document

variable {depth : Nat} {t : Text} {v : Value}

theorem height_le_of_read (read : Json.read depth t = .ok v) : v.height ≤ depth := by
  unfold Json.read at read
  split at read
  · rename_i found
    cases read
    unfold document at found
    split at found
    · cases found
    · obtain ⟨⟨w, r⟩, inside, found⟩ := except_bind_eq_ok_iff.mp found
      dsimp only at found
      split at found
      · cases found
        exact height_value inside
      · cases found
  · cases read
  · cases read
  · cases read

theorem followed_of_read (read : Json.read depth t = .ok v) : Followed depth t := by
  intro c stopped
  rw [read] at stopped
  cases stopped

/-- A member whose key comes again is read and then dropped, so the value may be less deep than its text. -/
theorem height_le_nesting (read : Json.read depth t = .ok v) : v.height ≤ nesting t := by
  have least : Followed (nesting t) t := followed_iff.mpr (Nat.le_refl _)
  rw [read_of_followed least (followed_iff.mp (followed_of_read read))] at read
  exact height_le_of_read read

theorem Fits.mono {more : Nat} (fits : Fits depth v) (wide : depth ≤ more) : Fits more v := by
  induction fits generalizing more with
  | null => exact .null
  | bool b => exact .bool b
  | int n short => exact .int n short
  | text unpaired => exact .text unpaired
  | list _ ih =>
    obtain ⟨more, rfl⟩ := exists_succ (Nat.succ_pos _) wide
    exact .list fun v member => ih v member (Nat.le_of_succ_le_succ wide)
  | object distinct keys _ ih =>
    obtain ⟨more, rfl⟩ := exists_succ (Nat.succ_pos _) wide
    exact .object distinct keys fun f member => ih f member (Nat.le_of_succ_le_succ wide)

theorem Fits.of_height (fits : Fits depth v) : Fits v.height v := by
  induction fits with
  | null => exact .null
  | bool b => exact .bool b
  | int n short => exact .int n short
  | text unpaired => exact .text unpaired
  | @list _ vs _ ih =>
    have bound := (Value.itemsHeight_le_iff vs).mp (Nat.le_refl _)
    exact .list fun v member => (ih v member).mono (bound v member)
  | @object _ fields distinct keys _ ih =>
    have bound := (Value.fieldsHeight_le_iff fields).mp (Nat.le_refl _)
    exact .object distinct keys fun f member => (ih f member).mono (bound f member)

/-- A printed value takes as much room as there are containers in each other in it. -/
theorem nesting_print (fits : Fits depth v) : nesting (Json.print v) = v.height := by
  have read := read_print fits.of_height
  exact Nat.le_antisymm (followed_iff.mp (followed_of_read read)) (height_le_nesting read)

end Document

end Json

end ParseRepair
