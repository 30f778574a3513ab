import ParseRepair.Recovery.Strategy
import ParseRepair.Proofs.Text.Points

namespace ParseRepair.Recovery

open Text

def literalEnd (rest : Text) : Nat := if ')' ∈ rest then rest.idxOf ')' else rest.idxOf ';'

theorem literalLength_eq (rest : Text) : literalLength rest = literalEnd rest := by
  have parenthesis := Text.find?_single ')' rest
  have semicolon := Text.find?_single ';' rest
  unfold literalLength literalEnd
  rw [show ((")" : String) : Text) = [')'] from rfl, show ((";" : String) : Text) = [';'] from rfl,
    parenthesis, semicolon]
  by_cases first : ')' ∈ rest
  · simp [first]
  · by_cases second : ';' ∈ rest
    · simp [first, second]
    · rw [if_neg first, if_neg first, if_neg second, List.idxOf_eq_length second]
      rfl

theorem literalEnd_le (rest : Text) : literalEnd rest ≤ rest.length := by
  unfold literalEnd
  split
  · exact List.idxOf_le_length
  · exact List.idxOf_le_length

theorem head_behind_literal {rest w : Text} {c : Char} (behind : rest.drop (literalEnd rest) = c :: w) :
    c = ')' ∨ c = ';' := by
  have held : rest[literalEnd rest]? = some c := by
    rw [← List.head?_drop, behind]
    rfl
  by_cases first : ')' ∈ rest
  · rw [literalEnd, if_pos first] at held
    obtain ⟨_, found⟩ := List.getElem?_eq_some_iff.mp held
    rw [List.getElem_idxOf] at found
    exact .inl found.symm
  · rw [literalEnd, if_neg first] at held
    obtain ⟨_, found⟩ := List.getElem?_eq_some_iff.mp held
    rw [List.getElem_idxOf] at found
    exact .inr found.symm

/-- What the quotes and the text around the literal leave of the line is one less than the literal took. -/
theorem closeLiteral_eq (t : Text) {start : Nat} (inside : start < t.length) :
    closeLiteral t start = t.take start ++ '"' :: (List.replicate (max 1 (literalEnd (t.drop (start + 1)) - 1)) '?' ++
      '"' :: (t.drop (start + 1)).drop (literalEnd (t.drop (start + 1)))) := by
  have bound := literalEnd_le (t.drop (start + 1))
  have left : t.length - start - ((t.drop (start + 1)).drop (literalEnd (t.drop (start + 1)))).length - 2 =
      literalEnd (t.drop (start + 1)) - 1 := by
    simp only [List.length_drop] at bound ⊢
    omega
  simp only [closeLiteral, literalLength_eq, left, List.append_assoc, List.cons_append]

theorem length_closeLiteral (t : Text) (start : Nat) (inside : start < t.length) :
    (closeLiteral t start).length = t.length + (2 - literalEnd (t.drop (start + 1))) := by
  have bound := literalEnd_le (t.drop (start + 1))
  rw [List.length_drop] at bound
  simp only [closeLiteral_eq t inside, List.length_append, List.length_cons, List.length_replicate, List.length_take,
    List.length_drop]
  omega

theorem take_closeLiteral (t : Text) (start n : Nat) (inside : start < t.length) (early : n ≤ start) :
    (closeLiteral t start).take n = t.take n := by
  have room : n ≤ (t.take start).length := by
    rw [List.length_take]
    omega
  unfold closeLiteral
  simp only [List.append_assoc]
  rw [List.take_append_of_le_length room, List.take_take, Nat.min_eq_left early]

theorem quote_mem_closeLiteral (t : Text) (start n : Nat) (inside : start < t.length) (late : start < n) :
    '"' ∈ (closeLiteral t start).take n := by
  have front : (t.take start).length = start := by
    rw [List.length_take]
    omega
  have at_start : (closeLiteral t start)[start]? = some '"' := by
    unfold closeLiteral
    simp only [List.append_assoc]
    rw [List.getElem?_append_right (Nat.le_of_eq front), front, Nat.sub_self]
    rfl
  apply List.mem_of_getElem? (i := start)
  rw [List.getElem?_take_of_lt late, at_start]

theorem blank_front_closeLiteral (t : Text) (start short : Nat) (inside : start < t.length) :
    ((closeLiteral t start).take short).all isBlank = true ↔
      short = 0 ∨ short ≤ start ∧ ∀ ch ∈ t.take short, isBlank ch = true := by
  by_cases early : short ≤ start
  · rw [take_closeLiteral t start short inside early, List.all_eq_true]
    constructor
    · intro blank
      exact .inr ⟨early, blank⟩
    · intro room
      rcases room with rfl | ⟨_, blank⟩
      · intro ch member
        simp at member
      · exact blank
  · have quote := quote_mem_closeLiteral t start short inside (by omega)
    constructor
    · intro blank
      exact absurd (List.all_eq_true.mp blank _ quote) (by decide)
    · intro room
      rcases room with rfl | ⟨within, _⟩
      · exact absurd (Nat.zero_le start) early
      · exact absurd within early

end ParseRepair.Recovery
