import ParseRepair.Proofs.Json.Ends
import ParseRepair.Proofs.Json.Reader

namespace ParseRepair.Json

inductive Begins : Text → Prop
  | string (r : Text) : Begins ('"' :: r)
  | emptyList {r u : Text} (closed : skipBlank r = ']' :: u) : Begins ('[' :: r)
  | list {r : Text} (filled : ∀ u, skipBlank r ≠ ']' :: u) : Begins ('[' :: r)
  | emptyObject {r u : Text} (closed : skipBlank r = '}' :: u) : Begins ('{' :: r)
  | object {r : Text} (filled : ∀ u, skipBlank r ≠ '}' :: u) : Begins ('{' :: r)
  | plain {t : Text} (quote : ∀ r, t ≠ '"' :: r) (bracket : ∀ r, t ≠ '[' :: r) (brace : ∀ r, t ≠ '{' :: r) : Begins t

theorem begins (t : Text) : Begins t := by
  by_cases quote : ∃ r, t = '"' :: r
  · obtain ⟨r, rfl⟩ := quote
    exact .string r
  by_cases bracket : ∃ r, t = '[' :: r
  · obtain ⟨r, rfl⟩ := bracket
    by_cases closed : ∃ u, skipBlank r = ']' :: u
    · obtain ⟨u, closed⟩ := closed
      exact .emptyList closed
    · exact .list (not_exists.mp closed)
  by_cases brace : ∃ r, t = '{' :: r
  · obtain ⟨r, rfl⟩ := brace
    by_cases closed : ∃ u, skipBlank r = '}' :: u
    · obtain ⟨u, closed⟩ := closed
      exact .emptyObject closed
    · exact .object (not_exists.mp closed)
  exact .plain (not_exists.mp quote) (not_exists.mp bracket) (not_exists.mp brace)

theorem length_skipBlank_le (t : Text) : (skipBlank t).length ≤ t.length := (skipBlank_suffix t).length_le

mutual

/-- With two steps for each character, no value ends for want of fuel. -/
theorem value_fuel : ∀ (fuel fuel' depth : Nat) (t : Text), 2 * t.length < fuel → 2 * t.length < fuel' →
    value fuel depth t = value fuel' depth t
  | 0, _, _, _, bound, _ => absurd bound (Nat.not_lt_zero _)
  | _ + 1, 0, _, _, _, bound => absurd bound (Nat.not_lt_zero _)
  | fuel + 1, fuel' + 1, depth, t, bound, bound' => by
    cases begins t with
    | string r => rfl
    | plain quote bracket brace => rw [value_plain quote bracket brace, value_plain quote bracket brace]
    | emptyList closed =>
      cases depth with
      | zero => rfl
      | succ depth => rw [value_emptyList closed, value_emptyList closed]
    | @list r filled =>
      cases depth with
      | zero => rfl
      | succ depth =>
        have shorter := length_skipBlank_le r
        rw [List.length_cons] at bound bound'
        rw [value_filledList filled, value_filledList filled,
          items_fuel fuel fuel' depth (skipBlank r) (by omega) (by omega)]
    | emptyObject closed =>
      cases depth with
      | zero => rfl
      | succ depth => rw [value_emptyObject closed, value_emptyObject closed]
    | @object r filled =>
      cases depth with
      | zero => rfl
      | succ depth =>
        have shorter := length_skipBlank_le r
        rw [List.length_cons] at bound bound'
        rw [value_filledObject filled, value_filledObject filled,
          members_fuel fuel fuel' depth (skipBlank r) (by omega) (by omega)]

theorem items_fuel : ∀ (fuel fuel' depth : Nat) (t : Text), 2 * t.length + 1 < fuel → 2 * t.length + 1 < fuel' →
    items fuel depth t = items fuel' depth t
  | 0, _, _, _, bound, _ => absurd bound (Nat.not_lt_zero _)
  | _ + 1, 0, _, _, _, bound => absurd bound (Nat.not_lt_zero _)
  | fuel + 1, fuel' + 1, depth, t, bound, bound' => by
    have ends := ends_value fuel' depth t
    rw [items, items, value_fuel fuel fuel' depth t (by omega) (by omega)]
    cases found : value fuel' depth t with
    | error s => rfl
    | ok p =>
      obtain ⟨v, r⟩ := p
      rw [found] at ends
      simp only [bind, Except.bind]
      split
      · rfl
      · rename_i u more
        have part := ends.behind.rest ((skipBlank_suffix u).trans (suffix_of_skipBlank more))
        have shorter := part.2
        rw [items_fuel fuel fuel' depth (skipBlank u) (by omega) (by omega)]
      · rfl

theorem members_fuel : ∀ (fuel fuel' depth : Nat) (t : Text), 2 * t.length + 1 < fuel → 2 * t.length + 1 < fuel' →
    members fuel depth t = members fuel' depth t
  | 0, _, _, _, bound, _ => absurd bound (Nat.not_lt_zero _)
  | _ + 1, 0, _, _, _, bound => absurd bound (Nat.not_lt_zero _)
  | fuel + 1, fuel' + 1, depth, t, bound, bound' => by
    have named := ends_name depth t
    rw [members, members]
    cases spelled : name t with
    | error s => rfl
    | ok p =>
      obtain ⟨key, u⟩ := p
      rw [spelled] at named
      have shorter := named.behind.2
      have ends := ends_value fuel' depth u
      simp only [bind, Except.bind]
      rw [value_fuel fuel fuel' depth u (by omega) (by omega)]
      cases found : value fuel' depth u with
      | error s => rfl
      | ok p =>
        obtain ⟨v, r⟩ := p
        rw [found] at ends
        simp only
        split
        · rfl
        · rename_i w more
          have part := ends.behind.rest ((skipBlank_suffix w).trans (suffix_of_skipBlank more))
          have shorter' := part.2
          rw [members_fuel fuel fuel' depth (skipBlank w) (by omega) (by omega)]
        · rfl

end

end ParseRepair.Json
