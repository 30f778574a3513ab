import ParseRepair.Proofs.Recovery.Line
import ParseRepair.Proofs.Text.Offsets

namespace ParseRepair.Recovery

open Text

namespace Line

theorem numbered_eq_mapIdx (ls : List Text) : numbered ls = ls.mapIdx fun i t => ⟨i + 1, t⟩ := by
  apply List.ext_getElem?
  intro i
  rw [List.getElem?_mapIdx, numbered, List.getElem?_map, List.getElem?_zipIdx, Option.map_map,
    Nat.add_comm]
  rfl

theorem getElem?_numbered (ls : List Text) (i : Nat) :
    (numbered ls)[i]? = ls[i]?.map fun t => ⟨i + 1, t⟩ := by
  rw [numbered_eq_mapIdx, List.getElem?_mapIdx]

@[simp] theorem length_numbered (ls : List Text) : (numbered ls).length = ls.length := by
  rw [numbered_eq_mapIdx, List.length_mapIdx]

@[simp] theorem map_text_numbered (ls : List Text) : (numbered ls).map Line.text = ls := by
  apply List.ext_getElem?
  intro i
  rw [List.getElem?_map, getElem?_numbered, Option.map_map]
  cases ls[i]? <;> rfl

theorem mem_numbered (ls : List Text) (l : Line) :
    l ∈ numbered ls ↔ 1 ≤ l.number ∧ ls[l.number - 1]? = some l.text := by
  rw [List.mem_iff_getElem?]
  constructor
  · intro placed
    obtain ⟨i, found⟩ := placed
    rw [getElem?_numbered] at found
    obtain ⟨t, held, rfl⟩ := Option.map_eq_some_iff.mp found
    exact ⟨Nat.le_add_left 1 i, held⟩
  · intro placed
    obtain ⟨positive, held⟩ := placed
    refine ⟨l.number - 1, ?_⟩
    rw [getElem?_numbered, held, Option.map_some, Nat.sub_add_cancel positive]

theorem number_le {ls : List Text} {l : Line} (member : l ∈ numbered ls) : l.number ≤ ls.length := by
  obtain ⟨positive, held⟩ := (mem_numbered ls l).mp member
  obtain ⟨bound, _⟩ := List.getElem?_eq_some_iff.mp held
  omega

theorem increasing_numbered (ls : List Text) :
    (numbered ls).Pairwise fun l k => l.number < k.number := by
  rw [numbered_eq_mapIdx, List.pairwise_iff_getElem]
  intro i j _ _ before
  simpa using before

theorem filter_numbered (ls : List Text) (n : Nat) :
    (numbered ls).filter (fun l => decide (l.number < n)) = (numbered ls).take (n - 1) := by
  have early : ∀ l ∈ (numbered ls).take (n - 1), decide (l.number < n) = true := by
    intro l member
    obtain ⟨i, found⟩ := List.mem_iff_getElem?.mp member
    rw [List.getElem?_take] at found
    split at found
    · rw [getElem?_numbered] at found
      obtain ⟨t, _, rfl⟩ := Option.map_eq_some_iff.mp found
      simp only [decide_eq_true_eq]
      omega
    · cases found
  have late : ∀ l ∈ (numbered ls).drop (n - 1), ¬ decide (l.number < n) = true := by
    intro l member
    obtain ⟨i, found⟩ := List.mem_iff_getElem?.mp member
    rw [List.getElem?_drop, getElem?_numbered] at found
    obtain ⟨t, _, rfl⟩ := Option.map_eq_some_iff.mp found
    simp only [decide_eq_true_eq]
    omega
  calc (numbered ls).filter _
      = ((numbered ls).take (n - 1) ++ (numbered ls).drop (n - 1)).filter _ := by
        rw [List.take_append_drop]
    _ = (numbered ls).take (n - 1) := by
        rw [List.filter_append, List.filter_eq_self.mpr early, List.filter_eq_nil_iff.mpr late,
          List.append_nil]

end Line

theorem mem_numbered_unique {ls : List Text} {l k : Line} (left : l ∈ Line.numbered ls)
    (right : k ∈ Line.numbered ls) (same : l.number = k.number) : l = k := by
  have first := ((Line.mem_numbered ls l).mp left).2
  have second := ((Line.mem_numbered ls k).mp right).2
  rw [same, second] at first
  cases l
  cases k
  simp_all

namespace Repair

theorem ofLines_cons (m : Method) (c : Classified) (l : Line) (ls : List Line) :
    ofLines m c (l :: ls) =
      ⟨l.repaired m (.ofLine c l.number) ++ '\n' :: (ofLines m c ls).text,
        ⟨(l.repair? m (.ofLine c l.number)).toList ++ (ofLines m c ls).report.patches⟩⟩ := by
  simp only [ofLines, List.map_cons, unlines_cons, List.filterMap_cons]
  cases l.repair? m (.ofLine c l.number) <;> rfl

theorem length_ofLines (m : Method) (c : Classified) (ls : List Line) :
    ((ofLines m c ls).text.length : Int) = (unlines (ls.map Line.text)).length +
      ((ofLines m c ls).report.patches.map Patch.lengthDelta).sum := by
  induction ls with
  | nil => rfl
  | cons l ls ih =>
    have step := Line.length_repaired (m := m) (e := .ofLine c l.number) (l := l)
    rw [ofLines_cons, List.map_cons, unlines_cons, List.map_append, List.sum_append]
    simp only [List.length_append, List.length_cons]
    omega

def ofText (m : Method) (c : Classified) (t : Text) : Repair := ofLines m c (Line.numbered (sourceLines t))

def linesAfter (m : Method) (c : Classified) (t : Text) : List Text :=
  (Line.numbered (sourceLines t)).map fun l => l.repaired m (.ofLine c l.number)

theorem ofSource_outcome (m : Method) (c : Classified) (s : Source) (t : Text) (read : s.read = .ok t) :
    (ofSource m c s).outcome = .ok (ofText m c t) := by
  simp only [ofSource, ofText, Source.lines, read, Traced.ofExcept, Traced.emitAll, bind, Traced.bind,
    Functor.map, Except.map, pure]

variable (m : Method) (c : Classified) (t : Text)

theorem text_ofText : (ofText m c t).text = unlines (linesAfter m c t) := rfl

theorem length_linesAfter : (linesAfter m c t).length = (sourceLines t).length := by
  simp [linesAfter]

theorem getElem?_linesAfter (i : Nat) : (linesAfter m c t)[i]? =
    (sourceLines t)[i]?.map fun u => Line.repaired m (.ofLine c (i + 1 : Nat)) ⟨i + 1, u⟩ := by
  rw [linesAfter, List.getElem?_map, Line.getElem?_numbered, Option.map_map]
  rfl

theorem unbroken_linesAfter : ∀ l ∈ linesAfter m c t, Unbroken l := by
  intro u member
  obtain ⟨l, origin, rfl⟩ := List.mem_map.mp member
  have held := List.mem_of_getElem? ((Line.mem_numbered _ l).mp origin).2
  exact unbroken_repaired (unbroken_of_mem_sourceLines held)

theorem sourceLines_ofText : sourceLines (ofText m c t).text = linesAfter m c t :=
  sourceLines_unlines _ (unbroken_linesAfter m c t)

theorem mem_patches (p : Patch) : p ∈ (ofText m c t).report.patches ↔
    ∃ l ∈ Line.numbered (sourceLines t), l.repair? m (.ofLine c l.number) = some p := by
  simp [ofText, ofLines, List.mem_filterMap]

theorem place_of_patch {p : Patch} (recorded : p ∈ (ofText m c t).report.patches) :
    1 ≤ p.line ∧ p.line ≤ (sourceLines t).length := by
  obtain ⟨l, origin, changed⟩ := (mem_patches m c t p).mp recorded
  have place := Line.line_of_repair? changed
  have positive := ((Line.mem_numbered _ l).mp origin).1
  have bound := Line.number_le origin
  omega

theorem texts_of_patch {p : Patch} (recorded : p ∈ (ofText m c t).report.patches) :
    (sourceLines t)[(p.line - 1).toNat]? = some p.before ∧
      (linesAfter m c t)[(p.line - 1).toNat]? = some p.after := by
  obtain ⟨l, origin, changed⟩ := (mem_patches m c t p).mp recorded
  obtain ⟨positive, held⟩ := (Line.mem_numbered _ l).mp origin
  have place := Line.line_of_repair? changed
  have index : (p.line - 1).toNat = l.number - 1 := by omega
  rw [index, getElem?_linesAfter, held, Option.map_some, Nat.sub_add_cancel positive,
    Line.before_of_repair? changed, ← Line.repaired_of_some changed]
  exact ⟨rfl, rfl⟩

theorem maker_of_patch {p : Patch} (recorded : p ∈ (ofText m c t).report.patches) :
    ∃ s, m.pipeline.Fires (.ofLine c p.line) p.before s ∧ p.strategy = s.name ∧
      p.decision = (s.verdict (.ofLine c p.line) p.before).decision ∧ p.decision ≠ .none := by
  obtain ⟨l, origin, changed⟩ := (mem_patches m c t p).mp recorded
  obtain ⟨s, fires, _, shape⟩ := (Line.repair?_eq_some_iff m _ l p).mp changed
  rw [Line.line_of_repair? changed, Line.before_of_repair? changed]
  refine ⟨s, fires, by rw [shape], by rw [shape], ?_⟩
  rw [shape]
  exact decision_ne_none fires.fired

theorem exists_patch_iff (i : Nat) (positive : 1 ≤ i) (bound : i ≤ (sourceLines t).length) :
    (∃ p ∈ (ofText m c t).report.patches, p.line = i) ↔
      (linesAfter m c t)[i - 1]? ≠ (sourceLines t)[i - 1]? := by
  have held : (sourceLines t)[i - 1]? = some (sourceLines t)[i - 1] := List.getElem?_eq_getElem (by omega)
  let l : Line := ⟨i, (sourceLines t)[i - 1]⟩
  have origin : l ∈ Line.numbered (sourceLines t) := (Line.mem_numbered _ l).mpr ⟨positive, held⟩
  have after : (linesAfter m c t)[i - 1]? = some (l.repaired m (.ofLine c l.number)) := by
    rw [getElem?_linesAfter, held, Option.map_some, Nat.sub_add_cancel positive]
  have recorded : (∃ p ∈ (ofText m c t).report.patches, p.line = i) ↔
      l.repair? m (.ofLine c l.number) ≠ none := by
    constructor
    · intro some_patch
      obtain ⟨p, member, place⟩ := some_patch
      obtain ⟨k, other, changed⟩ := (mem_patches m c t p).mp member
      have number := Line.line_of_repair? changed
      have position : k.number = i := by omega
      have same : k = l := mem_numbered_unique other origin position
      subst same
      simp [changed]
    · intro some_change
      obtain ⟨p, changed⟩ := Option.ne_none_iff_exists'.mp some_change
      exact ⟨p, (mem_patches m c t p).mpr ⟨l, origin, changed⟩, Line.line_of_repair? changed⟩
  rw [recorded, after, held, ne_eq, Line.repair?_eq_none_iff, ne_eq, Option.some.injEq]

theorem increasing_patches : (ofText m c t).report.patches.Pairwise fun p q => p.line < q.line := by
  simp only [ofText, ofLines]
  rw [List.pairwise_filterMap]
  refine (Line.increasing_numbered (sourceLines t)).imp ?_
  intro l k before p first q second
  rw [Line.line_of_repair? first, Line.line_of_repair? second]
  omega

theorem filter_patches (n : Nat) :
    (ofText m c t).report.patches.filter (fun p => decide (p.line < (n : Int))) =
      (ofLines m c ((Line.numbered (sourceLines t)).take (n - 1))).report.patches := by
  rw [← Line.filter_numbered]
  simp only [ofText, ofLines]
  rw [List.filter_filterMap, List.filterMap_filter]
  congr 1
  funext l
  cases found : l.repair? m (.ofLine c l.number) with
  | none => simp
  | some p =>
    have place := Line.line_of_repair? found
    by_cases early : l.number < n
    · simp [Option.filter, place, early]
    · simp [Option.filter, place, early]

end Repair

end ParseRepair.Recovery
