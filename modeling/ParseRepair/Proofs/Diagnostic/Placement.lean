import ParseRepair.Diagnostic.Placement

namespace ParseRepair

namespace LineMap

variable {α : Type}

theorem onLine_add (m : LineMap α) (k n : Int) (x : α) :
    (m.add k x).onLine n = m.onLine n ++ if k = n then [x] else [] := by
  induction m with
  | nil =>
    by_cases same : k = n
    · simp [add, onLine, same]
    · simp [add, onLine, same]
  | cons entry m ih =>
    obtain ⟨j, xs⟩ := entry
    by_cases found : j = k
    · subst found
      by_cases same : j = n
      · simp [add, onLine, same]
      · simp [add, onLine, same]
    · by_cases here : j = n
      · subst here
        have other : ¬ k = j := fun same => found same.symm
        simp [add, onLine, found, other]
      · simp [add, onLine, found, here, ih]

end LineMap

namespace Diagnostic

def spanLine? (d : Diagnostic) : Option Int := d.span.map (·.start.line)

def failure? (d : Diagnostic) : Option LexicalFailure :=
  match d.placement with
  | .ok (.lexical f) => some f
  | _ => none

/-- No run of digits in the message is too long for the place it names. -/
def Placeable (d : Diagnostic) : Prop := ∃ p, d.placement = .ok p

theorem placement_of_span {d : Diagnostic} {s : Span} (spanned : d.span = some s) :
    d.placement = .ok (.structural s.start.line) := by
  simp [placement, spanned]

theorem placement_of_no_span {d : Diagnostic} (bare : d.span = none) :
    d.placement = d.locate.map fun
      | some f => .lexical f
      | none => .nowhere := by
  unfold placement
  rw [bare]
  cases d.locate with
  | error e => rfl
  | ok found => cases found <;> rfl

theorem placement_cases {d : Diagnostic} {p : Placement} (placed : d.placement = .ok p) :
    (∃ s, d.span = some s ∧ p = .structural s.start.line) ∨
      (∃ f, d.span = none ∧ d.locate = .ok (some f) ∧ p = .lexical f) ∨
      (d.span = none ∧ d.locate = .ok none ∧ p = .nowhere) := by
  cases spanned : d.span with
  | some s =>
    rw [placement_of_span spanned] at placed
    cases placed
    exact .inl ⟨s, rfl, rfl⟩
  | none =>
    rw [placement_of_no_span spanned] at placed
    cases located : d.locate with
    | error e =>
      rw [located] at placed
      cases placed
    | ok found =>
      rw [located] at placed
      cases found with
      | some f =>
        cases placed
        exact .inr (.inl ⟨f, rfl, rfl, rfl⟩)
      | none =>
        cases placed
        exact .inr (.inr ⟨rfl, rfl, rfl⟩)

end Diagnostic

namespace Classified

open Diagnostic

theorem onLine_add {d : Diagnostic} {p : Placement} (c : Classified) (placed : d.placement = .ok p)
    (n : Int) :
    (c.add d p).problems.onLine n = c.problems.onLine n ++ [d].filter (·.spanLine? == some n) ∧
      (c.add d p).lexical.onLine n =
        c.lexical.onLine n ++ ([d].filterMap failure?).filter (·.line == n) := by
  rcases placement_cases placed with ⟨s, spanned, rfl⟩ | ⟨f, bare, _, rfl⟩ | ⟨bare, _, rfl⟩
  · have none_filed : d.failure? = none := by simp [failure?, placed]
    by_cases same : s.start.line = n
    · simp [add, LineMap.onLine_add, spanLine?, spanned, same, none_filed]
    · simp [add, LineMap.onLine_add, spanLine?, spanned, same, none_filed]
  · have filed : d.failure? = some f := by simp [failure?, placed]
    by_cases same : f.line = n
    · simp [add, LineMap.onLine_add, spanLine?, bare, same, filed]
    · simp [add, LineMap.onLine_add, spanLine?, bare, same, filed]
  · have none_filed : d.failure? = none := by simp [failure?, placed]
    simp [add, spanLine?, bare, none_filed]

theorem addAll_cons {c : Classified} {d : Diagnostic} {p : Placement} (ds : List Diagnostic)
    (placed : d.placement = .ok p) : (addAll c (d :: ds)).outcome = (addAll (c.add d p) ds).outcome := by
  simp [addAll, placed, Traced.ofExcept, Traced.emitAll, bind, Traced.bind]

/-- Under each line stand the diagnostics that belong there, in the order in which they came. -/
theorem onLine_addAll {c c' : Classified} {ds : List Diagnostic} (filed : (addAll c ds).outcome = .ok c')
    (n : Int) :
    c'.problems.onLine n = c.problems.onLine n ++ ds.filter (·.spanLine? == some n) ∧
      c'.lexical.onLine n = c.lexical.onLine n ++ (ds.filterMap failure?).filter (·.line == n) := by
  induction ds generalizing c with
  | nil =>
    cases filed
    simp
  | cons d ds ih =>
    cases placed : d.placement with
    | error e =>
      simp [addAll, placed, Traced.ofExcept, bind, Traced.bind] at filed
    | ok p =>
      rw [addAll_cons ds placed] at filed
      obtain ⟨problems, lexical⟩ := ih filed
      obtain ⟨first, first'⟩ := onLine_add c placed n
      constructor
      · rw [problems, first, List.append_assoc, ← List.filter_append, List.singleton_append]
      · rw [lexical, first', List.append_assoc, ← List.filter_append, ← List.filterMap_append,
          List.singleton_append]

theorem addAll_of_error {c : Classified} {d : Diagnostic} {e : IntegerError} (ds : List Diagnostic)
    (failed : d.placement = .error e) : (addAll c (d :: ds)).outcome = .error e := by
  simp [addAll, failed, Traced.ofExcept, bind, Traced.bind]

theorem addAll_eq_error_iff {c : Classified} {ds : List Diagnostic} {e : IntegerError} :
    (addAll c ds).outcome = .error e ↔ ∃ before d after, ds = before ++ d :: after ∧
      (∀ d' ∈ before, d'.Placeable) ∧ d.placement = .error e := by
  induction ds generalizing c with
  | nil =>
    constructor
    · intro failed
      cases failed
    · rintro ⟨before, d, after, shape, _⟩
      cases before <;> cases shape
  | cons first ds ih =>
    simp only [List.cons_eq_append_iff]
    cases placed : first.placement with
    | error e' =>
      rw [addAll_of_error ds placed]
      constructor
      · intro same
        cases same
        exact ⟨[], first, ds, .inl ⟨rfl, rfl⟩, fun _ member => absurd member List.not_mem_nil, placed⟩
      · rintro ⟨before, d, after, ⟨rfl, shape⟩ | ⟨before, rfl, rfl⟩, earlier, failed⟩
        · obtain ⟨rfl, _⟩ := List.cons.inj shape
          rw [placed] at failed
          cases failed
          rfl
        · obtain ⟨p, placed'⟩ := earlier first List.mem_cons_self
          rw [placed] at placed'
          cases placed'
    | ok p =>
      rw [addAll_cons ds placed, ih]
      constructor
      · rintro ⟨before, d, after, rfl, earlier, failed⟩
        refine ⟨first :: before, d, after, .inr ⟨before, rfl, rfl⟩, ?_, failed⟩
        exact List.forall_mem_cons.mpr ⟨⟨p, placed⟩, earlier⟩
      · rintro ⟨before, d, after, ⟨rfl, shape⟩ | ⟨before, rfl, rfl⟩, earlier, failed⟩
        · obtain ⟨rfl, _⟩ := List.cons.inj shape
          rw [placed] at failed
          cases failed
        · exact ⟨before, d, after, rfl, (List.forall_mem_cons.mp earlier).2, failed⟩

theorem exists_addAll_iff (c : Classified) (ds : List Diagnostic) :
    (∃ c', (addAll c ds).outcome = .ok c') ↔ ∀ d ∈ ds, d.Placeable := by
  induction ds generalizing c with
  | nil => simp [addAll, pure]
  | cons d ds ih =>
    rw [List.forall_mem_cons]
    cases placed : d.placement with
    | error e => simp [addAll, placed, Placeable, Traced.ofExcept, bind, Traced.bind]
    | ok p =>
      rw [addAll_cons ds placed, ih]
      simp [Placeable, placed]

theorem outcome_ofDiagnostics (ds : List Diagnostic) :
    (ofDiagnostics ds).outcome = (addAll {} ds).outcome := by
  cases filed : (addAll {} ds).outcome with
  | error e => simp [ofDiagnostics, filed, bind, Traced.bind]
  | ok c => simp [ofDiagnostics, filed, bind, Traced.bind, Traced.emit, pure]

theorem exists_ofDiagnostics_iff (ds : List Diagnostic) :
    (∃ c, (ofDiagnostics ds).outcome = .ok c) ↔ ∀ d ∈ ds, d.Placeable := by
  rw [outcome_ofDiagnostics]
  exact exists_addAll_iff {} ds

section

variable {ds : List Diagnostic} {c : Classified} (filed : (ofDiagnostics ds).outcome = .ok c)

include filed

theorem problems_ofDiagnostics (n : Int) : c.problems.onLine n = ds.filter (·.spanLine? == some n) := by
  rw [outcome_ofDiagnostics] at filed
  exact (onLine_addAll filed n).1

theorem lexical_ofDiagnostics (n : Int) :
    c.lexical.onLine n = (ds.filterMap failure?).filter (·.line == n) := by
  rw [outcome_ofDiagnostics] at filed
  exact (onLine_addAll filed n).2

end

end Classified

end ParseRepair
