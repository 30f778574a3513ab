import ParseRepair.Proofs.Recovery.Repair

namespace ParseRepair.Recovery

open Text

/-- Two lines with the same lexical failures, the same problems and the same problems on both
neighbours. -/
structure SameAround (c c' : Classified) (i j : Int) : Prop where
  before : c.problems.onLine (i - 1) = c'.problems.onLine (j - 1)
  here : c.problems.onLine i = c'.problems.onLine j
  after : c.problems.onLine (i + 1) = c'.problems.onLine (j + 1)
  lexical : c.lexical.onLine i = c'.lexical.onLine j

def SameOn (c c' : Classified) (k : Int) : Prop :=
  c.problems.onLine k = c'.problems.onLine k ∧ c.lexical.onLine k = c'.lexical.onLine k

structure SameOutcome (r r' : Repair) (i j : Nat) : Prop where
  line : (sourceLines r.text)[i - 1]? = (sourceLines r'.text)[j - 1]?
  there : ∀ p ∈ r.report.patches, p.line = i → { p with line := j } ∈ r'.report.patches
  back : ∀ p ∈ r'.report.patches, p.line = j → { p with line := i } ∈ r.report.patches

def Mentions (fragment : Text) (ds : List Diagnostic) : Prop := ∃ d ∈ ds, fragment.points <:+: d.message

theorem Evidence.ofLine_eq {c c' : Classified} {i j : Int} (around : SameAround c c' i j) :
    Evidence.ofLine c i = Evidence.ofLine c' j := by
  simp only [Evidence.ofLine, around.before, around.here, around.after, around.lexical]

theorem Line.repair?_renumber {m : Method} {e : Evidence} {u : Text} {p : Patch} (i j : Nat)
    (changed : Line.repair? m e ⟨i, u⟩ = some p) :
    Line.repair? m e ⟨j, u⟩ = some { p with line := j } := by
  obtain ⟨s, fires, differs, rfl⟩ := (Line.repair?_eq_some_iff m e _ p).mp changed
  exact (Line.repair?_eq_some_iff m e _ _).mpr ⟨s, fires, differs, rfl⟩

theorem Line.repaired_renumber (m : Method) (e : Evidence) (u : Text) (i j : Nat) :
    Line.repaired m e ⟨i, u⟩ = Line.repaired m e ⟨j, u⟩ := by
  cases found : Line.repair? m e ⟨i, u⟩ with
  | some p =>
    have moved := Line.repair?_renumber i j found
    rw [Line.repaired_of_some found, Line.repaired_of_some moved]
  | none =>
    cases other : Line.repair? m e ⟨j, u⟩ with
    | none => rw [Line.repaired_of_none found, Line.repaired_of_none other]
    | some p =>
      have moved := Line.repair?_renumber j i other
      rw [found] at moved
      cases moved

theorem Line.reason_of_repaired {m : Method} {e : Evidence} {l : Line} (changed : l.repaired m e ≠ l.text) :
    Reason e l.text := by
  cases found : l.repair? m e with
  | none => exact absurd (Line.repaired_of_none found) changed
  | some p =>
    obtain ⟨s, fires, _, _⟩ := (Line.repair?_eq_some_iff m e l p).mp found
    exact reason_of_verdict fires.fired

section

variable {m : Method} {c c' : Classified} {t t' : Text}

theorem patch_moves {i j : Nat} {u : Text} {p : Patch} (held : (sourceLines t)[i - 1]? = some u)
    (positive' : 1 ≤ j) (held' : (sourceLines t')[j - 1]? = some u)
    (same : Evidence.ofLine c i = Evidence.ofLine c' j)
    (recorded : p ∈ (Repair.ofText m c t).report.patches) (place : p.line = i) :
    { p with line := j } ∈ (Repair.ofText m c' t').report.patches := by
  obtain ⟨⟨number, text⟩, origin, changed⟩ := (Repair.mem_patches m c t p).mp recorded
  obtain ⟨_, text_held⟩ := (Line.mem_numbered _ _).mp origin
  have number_eq := Line.line_of_repair? changed
  have index : number = i := by
    rw [place] at number_eq
    exact (Int.ofNat_inj.mp number_eq).symm
  subst index
  have text_eq : text = u := Option.some.inj (text_held.symm.trans held)
  subst text_eq
  have moved := Line.repair?_renumber number j changed
  rw [same] at moved
  exact (Repair.mem_patches m c' t' _).mpr ⟨⟨j, text⟩, (Line.mem_numbered _ _).mpr ⟨positive', held'⟩, moved⟩

theorem sameOutcome_of_around {i j : Nat} (positive : 1 ≤ i) (bound : i ≤ (sourceLines t).length)
    (positive' : 1 ≤ j) (same_text : (sourceLines t)[i - 1]? = (sourceLines t')[j - 1]?)
    (around : SameAround c c' i j) :
    SameOutcome (Repair.ofText m c t) (Repair.ofText m c' t') i j := by
  have same := Evidence.ofLine_eq around
  have held : (sourceLines t)[i - 1]? = some (sourceLines t)[i - 1] := List.getElem?_eq_getElem (by omega)
  have held' := same_text.symm.trans held
  refine ⟨?_, ?_, ?_⟩
  · rw [Repair.sourceLines_ofText, Repair.sourceLines_ofText, Repair.getElem?_linesAfter,
      Repair.getElem?_linesAfter, held, held', Option.map_some, Option.map_some,
      Nat.sub_add_cancel positive, Nat.sub_add_cancel positive', same, Line.repaired_renumber _ _ _ i j]
  · intro p recorded place
    exact patch_moves held positive' held' same recorded place
  · intro p recorded place
    exact patch_moves held' positive held same.symm recorded place

end

structure Local (c c' : Classified) (source source' : Text) (r r' : Repair) : Prop where
  around : ∀ i j : Nat, 1 ≤ i → i ≤ (sourceLines source).length → 1 ≤ j → j ≤ (sourceLines source').length →
    (sourceLines source)[i - 1]? = (sourceLines source')[j - 1]? → SameAround c c' i j → SameOutcome r r' i j
  diagnostics : ∀ n : Int, source = source' → (∀ k, k ≠ n → SameOn c c' k) →
    ∀ i : Nat, 1 ≤ i → i ≤ (sourceLines source).length → (i < n - 1 ∨ n + 1 < i) → SameOutcome r r' i i
  texts : ∀ n : Nat, c = c' → (sourceLines source).length = (sourceLines source').length →
    (∀ k, 1 ≤ k → k ≠ n → (sourceLines source)[k - 1]? = (sourceLines source')[k - 1]?) →
    ∀ i, 1 ≤ i → i ≤ (sourceLines source).length → i ≠ n → SameOutcome r r' i i

/-- A line without a mark that no diagnostic points at. -/
structure Quiet (c : Classified) (i : Int) (u : Text) : Prop where
  unmarked : ¬ ("** " : Text) <:+: u
  here : c.problems.onLine i = []
  before : ¬ Mentions "expected \"\x7d\"" (c.problems.onLine (i - 1))
  after : ¬ Mentions "expected \"\x7b\"" (c.problems.onLine (i + 1))
  lexical : (c.lexical.onLine i).length ≠ 1

theorem Quiet.no_reason {c : Classified} {i : Int} {u : Text} (quiet : Quiet c i u) :
    ¬ Reason (.ofLine c i) u := by
  intro reason
  cases reason with
  | mark marked => exact quiet.unmarked ((contains_iff _ _).mp marked)
  | problem some_problem =>
    apply some_problem
    rw [Evidence.ofLine, quiet.here]
    rfl
  | closing message member expects =>
    obtain ⟨d, held, rfl⟩ := List.mem_map.mp member
    exact quiet.before ⟨d, held, (contains_iff _ _).mp expects⟩
  | opening message member expects =>
    obtain ⟨d, held, rfl⟩ := List.mem_map.mp member
    exact quiet.after ⟨d, held, (contains_iff _ _).mp expects⟩
  | lexical only =>
    rw [Evidence.ofLine, List.length_map] at only
    exact quiet.lexical only

theorem local_ofText (m : Method) (c c' : Classified) (t t' : Text) :
    Local c c' t t' (Repair.ofText m c t) (Repair.ofText m c' t') where
  around i j positive bound positive' _ same_text around :=
    sameOutcome_of_around positive bound positive' same_text around
  diagnostics n same_source elsewhere i positive bound distant := by
    subst same_source
    have around : SameAround c c' i i :=
      ⟨(elsewhere (i - 1) (by omega)).1, (elsewhere i (by omega)).1, (elsewhere (i + 1) (by omega)).1,
        (elsewhere i (by omega)).2⟩
    exact sameOutcome_of_around positive bound positive rfl around
  texts n same_diagnostics _ elsewhere i positive bound other := by
    subst same_diagnostics
    exact sameOutcome_of_around positive bound positive (elsewhere i positive other) ⟨rfl, rfl, rfl, rfl⟩

theorem kept_of_quiet (m : Method) (c : Classified) (t u : Text) (i : Nat) (positive : 1 ≤ i)
    (held : (sourceLines t)[i - 1]? = some u) (quiet : Quiet c i u) :
    (sourceLines (Repair.ofText m c t).text)[i - 1]? = some u := by
  rw [Repair.sourceLines_ofText, Repair.getElem?_linesAfter, held, Option.map_some,
    Nat.sub_add_cancel positive, Option.some.injEq]
  by_cases same : Line.repaired m (.ofLine c i) ⟨i, u⟩ = u
  · exact same
  · exact absurd (Line.reason_of_repaired same) quiet.no_reason

/-- What happens to a line is decided by its text, by its diagnostics and by the problems of its
neighbours. A line that nothing points at stays as it is. -/
theorem ofSource_local (m : Method) (c c' : Classified) (s s' : Source) (t t' : Text)
    (read : s.read = .ok t) (read' : s'.read = .ok t') :
    ∃ r r', (Repair.ofSource m c s).outcome = .ok r ∧ (Repair.ofSource m c' s').outcome = .ok r' ∧
      Local c c' t t' r r' ∧
      ∀ (i : Nat) (u : Text), 1 ≤ i → (sourceLines t)[i - 1]? = some u → Quiet c i u →
        (sourceLines r.text)[i - 1]? = some u :=
  ⟨_, _, Repair.ofSource_outcome m c s t read, Repair.ofSource_outcome m c' s' t' read',
    local_ofText m c c' t t', fun i u positive held quiet => kept_of_quiet m c t u i positive held quiet⟩

theorem local_of_shift :
    (Source.text "a\nxyz\nb").read = .ok "a\nxyz\nb".toList ∧ (Source.text "xyz").read = .ok "xyz".toList ∧
      ∃ r r', (Repair.ofSource {} ⟨[(2, [.locatedAt "odd" 2])], []⟩ (.text "a\nxyz\nb")).outcome = .ok r ∧
        (Repair.ofSource {} ⟨[(1, [.locatedAt "odd" 2])], []⟩ (.text "xyz")).outcome = .ok r' ∧
        SameOutcome r r' 2 1 ∧ (sourceLines r.text)[2]? = some "b".toList := by
  obtain ⟨r, r', ran, ran', local_runs, quiet_lines⟩ := ofSource_local {}
    ⟨[(2, [.locatedAt "odd" 2])], []⟩ ⟨[(1, [.locatedAt "odd" 2])], []⟩
    (.text "a\nxyz\nb") (.text "xyz") _ _ rfl rfl
  refine ⟨rfl, rfl, r, r', ran, ran', ?_, ?_⟩
  · exact local_runs.around 2 1 (by decide) (by decide) (by decide) (by decide) rfl ⟨rfl, rfl, rfl, rfl⟩
  · have calm : Quiet ⟨[(2, [.locatedAt "odd" 2])], []⟩ 3 "b" :=
      ⟨by decide, rfl, by unfold Mentions; decide, by unfold Mentions; decide, by decide⟩
    exact quiet_lines 3 "b" (by decide) rfl calm

end ParseRepair.Recovery
