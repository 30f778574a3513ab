import Mathlib.Algebra.Order.Ring.Int
import ParseRepair.Recovery.Repair
import ParseRepair.Proofs.Recovery.Length
import ParseRepair.Proofs.Recovery.Strategy

namespace ParseRepair.Recovery

open Text

/-- `s` is the first strategy of the pipeline that does not leave the line alone. -/
def Pipeline.Fires (p : Pipeline) (e : Evidence) (t : Text) (s : Strategy) : Prop :=
  ∃ earlier later, p = earlier ++ s :: later ∧
    (∀ other ∈ earlier, other.verdict e t = .leave) ∧ s.verdict e t ≠ .leave

theorem Pipeline.Fires.fired {p : Pipeline} {e : Evidence} {t : Text} {s : Strategy}
    (fires : p.Fires e t s) : s.verdict e t ≠ .leave := by
  obtain ⟨_, _, _, _, fired⟩ := fires
  exact fired

section

variable {p : Pipeline} {e : Evidence} {t : Text} {k s : Strategy}

theorem fires_cons_of_leave (silent : k.verdict e t = .leave) :
    Pipeline.Fires (k :: p) e t s ↔ p.Fires e t s := by
  constructor
  · intro fires
    obtain ⟨earlier, later, shape, quiet, fired⟩ := fires
    cases earlier with
    | nil =>
      obtain ⟨same, _⟩ := List.cons.inj shape
      rw [← same] at fired
      exact absurd silent fired
    | cons a earlier =>
      obtain ⟨_, rest⟩ := List.cons.inj shape
      exact ⟨earlier, later, rest, fun other member => quiet other (List.mem_cons_of_mem _ member), fired⟩
  · intro fires
    obtain ⟨earlier, later, shape, quiet, fired⟩ := fires
    refine ⟨k :: earlier, later, by rw [shape]; rfl, ?_, fired⟩
    intro other member
    rcases List.mem_cons.mp member with rfl | member
    · exact silent
    · exact quiet other member

theorem fires_cons_of_fired (fired : k.verdict e t ≠ .leave) : Pipeline.Fires (k :: p) e t s ↔ s = k := by
  constructor
  · intro fires
    obtain ⟨earlier, later, shape, quiet, _⟩ := fires
    cases earlier with
    | nil => exact (List.cons.inj shape).1.symm
    | cons a earlier =>
      obtain ⟨same, _⟩ := List.cons.inj shape
      exact absurd (quiet k (by rw [same]; exact List.mem_cons_self)) fired
  · intro same
    subst same
    exact ⟨[], p, rfl, fun other member => absurd member List.not_mem_nil, fired⟩

theorem firstVerdict?_cons_of_leave (silent : k.verdict e t = .leave) :
    Pipeline.firstVerdict? e t (k :: p) = p.firstVerdict? e t := by
  simp [Pipeline.firstVerdict?, silent]

theorem firstVerdict?_cons_of_fired (fired : k.verdict e t ≠ .leave) :
    Pipeline.firstVerdict? e t (k :: p) = some (k, k.verdict e t) := by
  cases verdict : k.verdict e t with
  | leave => exact absurd verdict fired
  | commentOut => simp [Pipeline.firstVerdict?, verdict]
  | edit u => simp [Pipeline.firstVerdict?, verdict]

end

theorem firstVerdict?_eq_some_iff (p : Pipeline) (e : Evidence) (t : Text) (s : Strategy) (v : Verdict) :
    p.firstVerdict? e t = some (s, v) ↔ p.Fires e t s ∧ v = s.verdict e t := by
  induction p with
  | nil =>
    constructor
    · intro found
      cases found
    · intro fires
      obtain ⟨⟨earlier, later, shape, _⟩, _⟩ := fires
      exact absurd shape.symm (List.append_ne_nil_of_right_ne_nil _ (List.cons_ne_nil _ _))
  | cons k p ih =>
    by_cases silent : k.verdict e t = .leave
    · rw [firstVerdict?_cons_of_leave silent, fires_cons_of_leave silent, ih]
    · rw [firstVerdict?_cons_of_fired silent, fires_cons_of_fired silent, Option.some.injEq, Prod.mk.injEq]
      constructor
      · intro same
        obtain ⟨rfl, rfl⟩ := same
        exact ⟨rfl, rfl⟩
      · intro same
        obtain ⟨rfl, rfl⟩ := same
        exact ⟨rfl, rfl⟩

theorem decision_ne_none {v : Verdict} (fired : v ≠ .leave) : v.decision ≠ .none := by
  cases v with
  | leave => exact absurd rfl fired
  | commentOut => simp [Verdict.decision]
  | edit t => simp [Verdict.decision]

namespace Line

variable (m : Method) (e : Evidence) (l : Line)

def outcome (s : Strategy) : Text := apply m.pad l.text (s.verdict e l.text)

theorem repair?_eq_some_iff (p : Patch) : l.repair? m e = some p ↔
    ∃ s, m.pipeline.Fires e l.text s ∧ l.outcome m e s ≠ l.text ∧
      p = ⟨l.number, s.name, (s.verdict e l.text).decision, l.text, l.outcome m e s⟩ := by
  unfold repair?
  simp only [Option.bind_eq_bind, Option.bind_eq_some_iff]
  constructor
  · intro found
    obtain ⟨⟨s, v⟩, first, recorded⟩ := found
    obtain ⟨fired, rfl⟩ := (firstVerdict?_eq_some_iff _ _ _ _ _).mp first
    dsimp only at recorded
    split at recorded
    · cases recorded
    · rename_i changed
      exact ⟨s, fired, changed, (Option.some.inj recorded).symm⟩
  · intro found
    obtain ⟨s, fired, changed, rfl⟩ := found
    refine ⟨(s, s.verdict e l.text), (firstVerdict?_eq_some_iff _ _ _ _ _).mpr ⟨fired, rfl⟩, ?_⟩
    exact if_neg changed

variable {m e l}

theorem repaired_of_some {p : Patch} (changed : l.repair? m e = some p) : l.repaired m e = p.after := by
  simp [repaired, changed]

theorem repaired_of_none (kept : l.repair? m e = none) : l.repaired m e = l.text := by
  simp [repaired, kept]

theorem repaired_of_fires {s : Strategy} (fires : m.pipeline.Fires e l.text s) :
    l.repaired m e = l.outcome m e s := by
  have first := (firstVerdict?_eq_some_iff m.pipeline e l.text s _).mpr ⟨fires, rfl⟩
  by_cases kept : l.outcome m e s = l.text
  · have none_recorded : l.repair? m e = none := by
      simp only [repair?, first, Option.bind_eq_bind, Option.bind_some]
      exact if_pos kept
    rw [repaired_of_none none_recorded, kept]
  · have recorded : l.repair? m e =
        some ⟨l.number, s.name, (s.verdict e l.text).decision, l.text, l.outcome m e s⟩ :=
      (repair?_eq_some_iff m e l _).mpr ⟨s, fires, kept, rfl⟩
    rw [repaired_of_some recorded]

theorem before_of_repair? {p : Patch} (changed : l.repair? m e = some p) : p.before = l.text := by
  obtain ⟨s, _, _, rfl⟩ := (repair?_eq_some_iff m e l p).mp changed
  rfl

theorem line_of_repair? {p : Patch} (changed : l.repair? m e = some p) : p.line = l.number := by
  obtain ⟨s, _, _, rfl⟩ := (repair?_eq_some_iff m e l p).mp changed
  rfl

theorem repair?_eq_none_iff : l.repair? m e = none ↔ l.repaired m e = l.text := by
  constructor
  · exact repaired_of_none
  · intro same
    cases found : l.repair? m e with
    | none => rfl
    | some p =>
      obtain ⟨s, _, changed, shape⟩ := (repair?_eq_some_iff m e l p).mp found
      have after : l.repaired m e = l.outcome m e s := by rw [repaired_of_some found, shape]
      exact absurd (after.symm.trans same) changed

theorem length_repaired : ((l.repaired m e).length : Int) =
    l.text.length + ((l.repair? m e).toList.map Patch.lengthDelta).sum := by
  cases found : l.repair? m e with
  | none => simp [repaired_of_none found]
  | some p =>
    have before := before_of_repair? found
    simp only [repaired_of_some found, Option.toList_some, List.map_cons, List.map_nil,
      List.sum_cons, List.sum_nil, Patch.lengthDelta, before]
    omega

end Line

theorem unbroken_edit {e : Evidence} {t u : Text} {s : Strategy} (whole : Unbroken t)
    (edit : Edits e t s u) : Unbroken u := by
  have replaced (p q : Text) (clean : Unbroken q) : Unbroken (replaceAll p q t) := by
    intro c member
    rcases mem_replaceAll member with member | put
    · exact whole c member
    · exact clean c put
  have ended {v : Text} (clean : Unbroken v) : Unbroken (v ++ [';']) :=
    clean.append (by decide)
  cases edit with
  | continues => exact replaced _ _ (by decide)
  | cases => exact replaced _ _ (by decide)
  | jumps => exact ended (replaced _ _ (by decide))
  | terminator => exact ended whole
  | literal message start =>
    have front : Unbroken (t.take start) := whole.mono (List.take_subset _ _)
    have back (n : Nat) : Unbroken ((t.drop (start + 1)).drop n) :=
      (whole.mono (List.drop_subset _ _)).mono (List.drop_subset _ _)
    have filler (n : Nat) : Unbroken (List.replicate n '?') := Unbroken.replicate n (by decide)
    have quote : isLineEnd '"' = false := by decide
    exact (front.append (Unbroken.cons quote (filler _))).append (Unbroken.cons quote (back _))

theorem unbroken_repaired {m : Method} {e : Evidence} {l : Line} (whole : Unbroken l.text) :
    Unbroken (l.repaired m e) := by
  cases found : l.repair? m e with
  | none =>
    rw [Line.repaired_of_none found]
    exact whole
  | some p =>
    obtain ⟨s, _, _, shape⟩ := (Line.repair?_eq_some_iff m e l p).mp found
    rw [Line.repaired_of_some found, shape]
    show Unbroken (l.outcome m e s)
    unfold Line.outcome
    cases verdict : s.verdict e l.text with
    | leave => exact whole
    | commentOut => exact unbroken_commentOut whole
    | edit u => exact unbroken_fitLength _ _ (unbroken_edit whole (edits_of_verdict verdict))

end ParseRepair.Recovery
