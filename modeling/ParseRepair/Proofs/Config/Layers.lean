import Mathlib.Data.List.Induction
import ParseRepair.Config.Settings

namespace ParseRepair.Config

variable {α : Type}

/-- What the last of the layers says that sets something, and nothing if none does. -/
def Prevails (field : Layer → Option α) (layers : List Layer) : Option α → Prop
  | none => ∀ l ∈ layers, field l = none
  | some a => ∃ below l above, layers = below ++ l :: above ∧ field l = some a ∧ ∀ k ∈ above, field k = none

structure Effective (layers : List Layer) (s : Settings) : Prop where
  strategies : Prevails Layer.strategies layers s.strategies
  pad : ∃ p, Prevails Layer.pad layers p ∧ s.pad = p.getD true
  files : s.files = layers.flatMap Layer.files
  warnings : s.warnings = layers.flatMap Layer.warnings

theorem concat_eq_append_cons {ls below above : List Layer} {l k : Layer}
    (shape : ls ++ [l] = below ++ k :: above) :
    (above = [] ∧ k = l) ∨ ∃ rest, above = rest ++ [l] ∧ ls = below ++ k :: rest := by
  rcases List.eq_nil_or_concat above with rfl | ⟨rest, top, rfl⟩
  · obtain ⟨_, same⟩ := List.append_inj' shape rfl
    cases same
    exact .inl ⟨rfl, rfl⟩
  · rw [List.concat_eq_append, ← List.cons_append, ← List.append_assoc] at shape
    obtain ⟨front, same⟩ := List.append_inj' shape rfl
    cases same
    exact .inr ⟨rest, List.concat_eq_append, front⟩

theorem prevails_concat_of_set {field : Layer → Option α} {l : Layer} {a : α} (set : field l = some a)
    (ls : List Layer) (v : Option α) : Prevails field (ls ++ [l]) v ↔ v = some a := by
  constructor
  · intro prevails
    cases v with
    | none =>
      have unset := prevails l (by simp)
      rw [set] at unset
      cases unset
    | some b =>
      obtain ⟨below, k, above, shape, found, unset⟩ := prevails
      rcases concat_eq_append_cons shape with ⟨_, rfl⟩ | ⟨rest, rfl, _⟩
      · rw [← found, set]
      · rw [unset l (by simp)] at set
        cases set
  · rintro rfl
    exact ⟨ls, l, [], rfl, set, fun k none_above => absurd none_above List.not_mem_nil⟩

theorem prevails_concat_of_unset {field : Layer → Option α} {l : Layer} (unset : field l = none)
    (ls : List Layer) (v : Option α) : Prevails field (ls ++ [l]) v ↔ Prevails field ls v := by
  cases v with
  | none => simp [Prevails, unset, or_imp, forall_and]
  | some b =>
    constructor
    · rintro ⟨below, k, above, shape, found, quiet⟩
      rcases concat_eq_append_cons shape with ⟨_, rfl⟩ | ⟨rest, rfl, front⟩
      · rw [unset] at found
        cases found
      · exact ⟨below, k, rest, front, found, fun m member => quiet m (by simp [member])⟩
    · rintro ⟨below, k, above, rfl, found, quiet⟩
      refine ⟨below, k, above ++ [l], by simp, found, ?_⟩
      intro m member
      rcases List.mem_append.mp member with member | last
      · exact quiet m member
      · rw [List.mem_singleton.mp last]
        exact unset

namespace Layer

theorem merge_assoc (a b c : Layer) : (a.merge b).merge c = a.merge (b.merge c) := by
  simp only [merge, Option.or_assoc, List.append_assoc]

theorem empty_merge (l : Layer) : merge {} l = l := by
  simp only [merge, Option.or_none, List.nil_append]

theorem merge_empty (l : Layer) : l.merge {} = l := by
  simp only [merge, Option.none_or, List.append_nil]

instance : Std.Associative merge := ⟨merge_assoc⟩

def stack (layers : List Layer) : Layer := layers.foldl merge {}

theorem foldl_merge (l : Layer) (ls : List Layer) : ls.foldl merge l = l.merge (stack ls) :=
  calc ls.foldl merge l = ls.foldl merge (l.merge {}) := by rw [merge_empty]
    _ = l.merge (stack ls) := List.foldl_assoc

theorem stack_append (below above : List Layer) : stack (below ++ above) = (stack below).merge (stack above) := by
  rw [stack, List.foldl_append, foldl_merge]
  rfl

theorem stack_concat (ls : List Layer) (l : Layer) : stack (ls ++ [l]) = (stack ls).merge l := by
  rw [stack, List.foldl_append]
  rfl

theorem prevails_stack (field : Layer → Option α) (empty : field {} = none)
    (stacked : ∀ l k, field (merge l k) = (field k).or (field l)) (ls : List Layer) (v : Option α) :
    Prevails field ls v ↔ v = field (stack ls) := by
  induction ls using List.reverseRecOn with
  | nil =>
    rw [show stack [] = {} from rfl, empty]
    cases v with
    | none => simp [Prevails]
    | some a => simp [Prevails]
  | append_singleton ls l ih =>
    rw [stack_concat, stacked]
    cases said : field l with
    | none => rw [prevails_concat_of_unset said, ih, Option.none_or]
    | some a => rw [prevails_concat_of_set said, Option.some_or]

theorem files_stack (ls : List Layer) : (stack ls).files = ls.flatMap files := by
  induction ls using List.reverseRecOn with
  | nil => rfl
  | append_singleton ls l ih => simp [stack_concat, merge, ih]

theorem warnings_stack (ls : List Layer) : (stack ls).warnings = ls.flatMap warnings := by
  induction ls using List.reverseRecOn with
  | nil => rfl
  | append_singleton ls l ih => simp [stack_concat, merge, ih]

end Layer

section Freezing

theorem freeze_thaw (s : Settings) : s.thaw.freeze = s := rfl

theorem freeze_merge_congr {l k : Layer} (same : l.freeze = k.freeze) (upper : Layer) :
    (l.merge upper).freeze = (k.merge upper).freeze := by
  simp only [Layer.freeze, Settings.mk.injEq] at same
  obtain ⟨strategies, pad, files, warnings⟩ := same
  -- A flag above hides what is below. Without one, only the defaults below count, and these agree.
  have pads : (upper.pad.or l.pad).getD true = (upper.pad.or k.pad).getD true := by
    cases upper.pad with
    | none => simpa only [Option.none_or] using pad
    | some b => rfl
  simp only [Layer.freeze, Layer.merge, strategies, pads, files, warnings]

/-- A stack may be frozen and thawed after any of its layers. -/
theorem freeze_stack_append (below above : List Layer) :
    (Layer.stack (below ++ above)).freeze = (above.foldl Layer.merge (Layer.stack below).freeze.thaw).freeze := by
  rw [Layer.stack_append, Layer.foldl_merge]
  exact freeze_merge_congr (freeze_thaw (Layer.stack below).freeze).symm _

example : (Layer.merge { pad := some false } {}).freeze.pad = false ∧
    (Layer.merge { pad := some false } (Layer.freeze {}).thaw).freeze.pad = true := by
  decide

end Freezing

theorem effective_iff (ls : List Layer) (s : Settings) : Effective ls s ↔ s = (Layer.stack ls).freeze := by
  have strategies := Layer.prevails_stack Layer.strategies rfl (fun _ _ => rfl) ls
  have pad := Layer.prevails_stack Layer.pad rfl (fun _ _ => rfl) ls
  constructor
  · intro effective
    obtain ⟨p, prevails, said⟩ := effective.pad
    rw [(pad p).mp prevails] at said
    cases s
    simp only [Layer.freeze, Settings.mk.injEq]
    exact ⟨(strategies _).mp effective.strategies, said, effective.files.trans (Layer.files_stack ls).symm,
      effective.warnings.trans (Layer.warnings_stack ls).symm⟩
  · rintro rfl
    exact ⟨(strategies _).mpr rfl, ⟨_, (pad _).mpr rfl, rfl⟩, Layer.files_stack ls, Layer.warnings_stack ls⟩

end ParseRepair.Config
