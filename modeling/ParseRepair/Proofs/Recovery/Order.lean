import ParseRepair.Proofs.Recovery.Pass

namespace ParseRepair

def Diagnostic.dropped (d : Diagnostic) : Bool := d.placement = .ok .nowhere

def Diagnostic.outline (d : Diagnostic) : Diagnostic :=
  match d.span with
  | some s => .locatedAt d.message s.start.line
  | none => d

namespace Recovery

open Config (Settings)
open Diagnostic (failure?)

/-- Both enable all strategies, or both name the same of them, whatever else they name. -/
def SameStrategies : Option (List Text) → Option (List Text) → Prop
  | none, none => True
  | some names, some names' => ∀ s : Strategy, s.name ∈ names ↔ s.name ∈ names'
  | _, _ => False

structure Evidence.Same (e e' : Evidence) : Prop where
  before : e.before.Perm e'.before
  here : e.here.Perm e'.here
  after : e.after.Perm e'.after
  lexical : e.lexical.Perm e'.lexical

theorem eq_of_perm_of_short {α : Type} {xs ys : List α} (perm : xs.Perm ys) (short : xs.length ≤ 1) :
    xs = ys := by
  match xs, short with
  | [], _ => exact (List.nil_perm.mp perm).symm
  | [x], _ => exact (List.singleton_perm.mp perm)

theorem missingTerminator_of_many {here : List Points} (t : Text) (many : 1 < here.length) :
    missingTerminator here t = .leave := by
  match here, many with
  | _ :: _ :: _, _ => rfl

theorem missingQuote_of_many {lexical : List Points} (t : Text) (many : 1 < lexical.length) :
    missingQuote lexical t = .leave := by
  match lexical, many with
  | _ :: _ :: _, _ => rfl

/-- A list of messages is asked for its only member, or whether some member has a property. Neither
depends on their order. -/
theorem verdict_same {e e' : Evidence} (same : e.Same e') (t : Text) (s : Strategy) :
    s.verdict e t = s.verdict e' t := by
  cases s with
  | decompilerArtifacts => rfl
  | missingTerminator =>
    show missingTerminator e.here t = missingTerminator e'.here t
    by_cases short : e.here.length ≤ 1
    · rw [eq_of_perm_of_short same.here short]
    · have many : 1 < e'.here.length := by
        rw [← same.here.length_eq]
        omega
      rw [missingTerminator_of_many t (by omega), missingTerminator_of_many t many]
  | missingQuote =>
    show missingQuote e.lexical t = missingQuote e'.lexical t
    by_cases short : e.lexical.length ≤ 1
    · rw [eq_of_perm_of_short same.lexical short]
    · have many : 1 < e'.lexical.length := by
        rw [← same.lexical.length_eq]
        omega
      rw [missingQuote_of_many t (by omega), missingQuote_of_many t many]
  | curlyBraces =>
    have nothing : e.here.isEmpty = e'.here.isEmpty := same.here.isEmpty_eq
    have braces := same.here.any_eq (f := fun m => expectsClosing m || expectsOpening m)
    have closing := same.before.any_eq (f := expectsClosing)
    have opening := same.after.any_eq (f := expectsOpening)
    simp only [Strategy.verdict, curlyBraces, nothing, braces, closing, opening]

theorem repair?_same {e e' : Evidence} (same : e.Same e') (m : Method) (l : Line) :
    l.repair? m e = l.repair? m e' := by
  have verdicts : m.pipeline.firstVerdict? e l.text = m.pipeline.firstVerdict? e' l.text := by
    unfold Pipeline.firstVerdict?
    congr 1
    funext s
    rw [verdict_same same]
  unfold Line.repair?
  rw [verdicts]

theorem ofLines_same {c c' : Classified} (same : ∀ n, (Evidence.ofLine c n).Same (.ofLine c' n))
    (m : Method) (ls : List Line) : Repair.ofLines m c ls = Repair.ofLines m c' ls := by
  have records (l : Line) : l.repair? m (.ofLine c l.number) = l.repair? m (.ofLine c' l.number) :=
    repair?_same (same l.number) m l
  unfold Repair.ofLines Line.repaired
  simp only [records]

section

variable (ds : List Diagnostic)

theorem outline_of_no_span {d : Diagnostic} (bare : d.span = none) : d.outline = d := by
  simp [Diagnostic.outline, bare]

theorem message_outline (d : Diagnostic) : d.outline.message = d.message := by
  cases spanned : d.span with
  | none => rw [outline_of_no_span spanned]
  | some s => simp [Diagnostic.outline, spanned, Diagnostic.locatedAt]

theorem spanLine?_outline (d : Diagnostic) : d.outline.spanLine? = d.spanLine? := by
  cases spanned : d.span with
  | none => rw [outline_of_no_span spanned]
  | some s => simp [Diagnostic.outline, spanned, Diagnostic.locatedAt, Diagnostic.spanLine?]

theorem placement_outline (d : Diagnostic) : d.outline.placement = d.placement := by
  cases spanned : d.span with
  | none => rw [outline_of_no_span spanned]
  | some s => simp [Diagnostic.outline, spanned, Diagnostic.locatedAt, Diagnostic.placement]

theorem failure?_of_span {d : Diagnostic} {s : Span} (spanned : d.span = some s) : d.failure? = none := by
  simp [failure?, Diagnostic.placement_of_span spanned]

theorem failure?_outline (d : Diagnostic) : d.outline.failure? = d.failure? := by
  cases spanned : d.span with
  | none => rw [outline_of_no_span spanned]
  | some s =>
    have spanned' : d.outline.span = some ⟨⟨s.start.line, 1⟩, none⟩ := by
      simp [Diagnostic.outline, spanned, Diagnostic.locatedAt]
    rw [failure?_of_span spanned, failure?_of_span spanned']

theorem problemMessages_outline (n : Int) :
    problemMessages (ds.map Diagnostic.outline) n = problemMessages ds n := by
  unfold problemMessages
  rw [List.filter_map, List.map_map]
  simp only [Function.comp_def, spanLine?_outline, message_outline]

theorem failureMessages_outline (n : Int) :
    failureMessages (ds.map Diagnostic.outline) n = failureMessages ds n := by
  unfold failureMessages
  rw [List.filterMap_map]
  simp only [Function.comp_def, failure?_outline]

theorem problemMessages_kept (n : Int) :
    problemMessages (ds.filter (!·.dropped)) n = problemMessages ds n := by
  unfold problemMessages
  rw [List.filter_filter]
  congr 1
  apply List.filter_congr
  intro d _
  cases spanned : d.span with
  | none => simp [Diagnostic.spanLine?, spanned]
  | some s => simp [Diagnostic.dropped, Diagnostic.placement_of_span spanned]

theorem failureMessages_kept (n : Int) :
    failureMessages (ds.filter (!·.dropped)) n = failureMessages ds n := by
  unfold failureMessages
  rw [List.filterMap_filter]
  congr 3
  funext d
  by_cases lost : d.placement = .ok .nowhere
  · simp [Diagnostic.dropped, failure?, lost]
  · simp [Diagnostic.dropped, lost]

theorem placeable_kept :
    (∀ d ∈ (ds.filter (!·.dropped)).map Diagnostic.outline, d.Placeable) ↔ ∀ d ∈ ds, d.Placeable := by
  simp only [List.forall_mem_map, List.mem_filter, Diagnostic.Placeable, placement_outline]
  constructor
  · intro kept d member
    by_cases lost : d.placement = .ok .nowhere
    · exact ⟨_, lost⟩
    · exact kept d ⟨member, by simpa [Diagnostic.dropped] using lost⟩
  · intro all d member
    exact all d member.1

end

/-- The same problems in any order. What a pass drops, and the columns and ends of spans, may
differ. -/
def SameProblems (ds ds' : List Diagnostic) : Prop :=
  ((ds.filter (!·.dropped)).map Diagnostic.outline).Perm ((ds'.filter (!·.dropped)).map Diagnostic.outline)

instance (ds ds' : List Diagnostic) : Decidable (SameProblems ds ds') :=
  inferInstanceAs (Decidable (List.Perm _ _))

theorem select_same {names names' : Option (List Text)} (same : SameStrategies names names') :
    Pipeline.select names = Pipeline.select names' := by
  cases names with
  | none =>
    cases names' with
    | none => rfl
    | some names' => exact same.elim
  | some names =>
    cases names' with
    | none => exact same.elim
    | some names' =>
      unfold Pipeline.select
      apply List.filter_congr
      intro s _
      rw [Bool.eq_iff_iff, List.contains_iff_mem, List.contains_iff_mem]
      exact same s

theorem ofLine_same {ds ds' : List Diagnostic} {c c' : Classified} (same : SameProblems ds ds')
    (filed : (Classified.ofDiagnostics ds).outcome = .ok c)
    (filed' : (Classified.ofDiagnostics ds').outcome = .ok c') (n : Int) :
    (Evidence.ofLine c n).Same (.ofLine c' n) := by
  have problems (k : Int) : (problemMessages ds k).Perm (problemMessages ds' k) := by
    rw [← problemMessages_kept ds, ← problemMessages_kept ds', ← problemMessages_outline,
      ← problemMessages_outline (ds'.filter _)]
    exact (same.filter _).map _
  have failures : (failureMessages ds n).Perm (failureMessages ds' n) := by
    rw [← failureMessages_kept ds, ← failureMessages_kept ds', ← failureMessages_outline,
      ← failureMessages_outline (ds'.filter _)]
    exact ((same.filterMap _).filter _).map _
  rw [ofLine_ofDiagnostics filed, ofLine_ofDiagnostics filed']
  exact ⟨problems _, problems _, problems _, failures⟩

theorem exists_ofDiagnostics_same {ds ds' : List Diagnostic} (same : SameProblems ds ds') :
    (∃ c, (Classified.ofDiagnostics ds).outcome = .ok c) ↔
      ∃ c, (Classified.ofDiagnostics ds').outcome = .ok c := by
  rw [Classified.exists_ofDiagnostics_iff, Classified.exists_ofDiagnostics_iff, ← placeable_kept ds,
    ← placeable_kept ds']
  constructor
  · intro placed d member
    exact placed d (same.mem_iff.mpr member)
  · intro placed d member
    exact placed d (same.mem_iff.mp member)

theorem patchSource_same {s : Source} {ds ds' : List Diagnostic} {settings settings' : Settings} {r : Repair}
    (samePad : settings.pad = settings'.pad)
    (sameNames : SameStrategies settings.strategies settings'.strategies) (same : SameProblems ds ds')
    (ran : (patchSource s ds settings).outcome = .ok r) : (patchSource s ds' settings').outcome = .ok r := by
  obtain ⟨c, t, filed, read, rfl⟩ := (patchSource_eq_ok_iff r).mp ran
  obtain ⟨c', filed'⟩ := (exists_ofDiagnostics_same same).mp ⟨c, filed⟩
  have method : Method.ofSettings settings = .ofSettings settings' := by
    rw [Method.ofSettings, Method.ofSettings, samePad, select_same sameNames]
  refine (patchSource_eq_ok_iff _).mpr ⟨c', t, filed', read, ?_⟩
  rw [method]
  exact ofLines_same (ofLine_same same filed filed') _ _

theorem SameStrategies.symm {names names' : Option (List Text)} (same : SameStrategies names names') :
    SameStrategies names' names := by
  cases names with
  | none =>
    cases names' with
    | none => trivial
    | some names' => exact same.elim
  | some names =>
    cases names' with
    | none => exact same.elim
    | some names' => exact fun s => (same s).symm

/-- The result of a pass depends neither on the order of the diagnostics nor on the order in which
strategies are named, and on no more of a span than the line on which it begins. -/
theorem patchSource_order (s : Source) (ds ds' : List Diagnostic) (settings settings' : Settings)
    (samePad : settings.pad = settings'.pad)
    (sameNames : SameStrategies settings.strategies settings'.strategies) (same : SameProblems ds ds') :
    (∃ r, (patchSource s ds settings).outcome = .ok r ∧ (patchSource s ds' settings').outcome = .ok r) ∨
      ∃ e e', (patchSource s ds settings).outcome = .error e ∧
        (patchSource s ds' settings').outcome = .error e' := by
  cases ran : (patchSource s ds settings).outcome with
  | ok r => exact .inl ⟨r, rfl, patchSource_same samePad sameNames same ran⟩
  | error e =>
    cases ran' : (patchSource s ds' settings').outcome with
    | error e' => exact .inr ⟨e, e', rfl, rfl⟩
    | ok r' =>
      have other := patchSource_same samePad.symm sameNames.symm (List.Perm.symm same) ran'
      rw [ran] at other
      cases other

def mixedProblems : List Diagnostic :=
  [⟨"odd", some ⟨⟨2, 5⟩, some ⟨3, 1⟩⟩⟩, ⟨"at line 9", none⟩, .locatedAt "expected \"\x7d\"" 2 7,
    ⟨"at line 1, column 4: Encountered: \"\\n\", after : \"\\\"b\"", none⟩]

def shuffledProblems : List Diagnostic :=
  [⟨"at line 1, column 4: Encountered: \"\\n\", after : \"\\\"b\"", none⟩,
    .locatedAt "expected \"\x7d\"" 2 1, .locatedAt "odd" 2 6]

theorem order_of_mixedProblems :
    SameStrategies (some ["curly_braces", "missing_quote"]) (some ["missing_quote", "?", "curly_braces"]) ∧
      SameProblems mixedProblems shuffledProblems ∧
      ∃ r,
        (patchSource (.text "a(\"b\ncd\nef") mixedProblems
          ⟨some ["curly_braces", "missing_quote"], true, [], []⟩).outcome = .ok r ∧
        (patchSource (.text "a(\"b\ncd\nef") shuffledProblems
          ⟨some ["missing_quote", "?", "curly_braces"], true, [], ["w"]⟩).outcome = .ok r ∧
        r.text = "a(\"?\"\ncd\n//\n".toList := by
  have names : SameStrategies (some ["curly_braces", "missing_quote"])
      (some ["missing_quote", "?", "curly_braces"]) := by
    intro s
    cases s <;> decide
  have problems : SameProblems mixedProblems shuffledProblems := by decide +kernel
  have text : (patchSource (.text "a(\"b\ncd\nef") mixedProblems
      ⟨some ["curly_braces", "missing_quote"], true, [], []⟩).outcome.toOption.map Repair.text =
        some "a(\"?\"\ncd\n//\n".toList := by
    decide +kernel
  refine ⟨names, problems, ?_⟩
  rcases patchSource_order (.text "a(\"b\ncd\nef") mixedProblems shuffledProblems
    ⟨some ["curly_braces", "missing_quote"], true, [], []⟩
    ⟨some ["missing_quote", "?", "curly_braces"], true, [], ["w"]⟩ rfl names problems with
      ⟨r, ran, ran'⟩ | ⟨e, e', failed, _⟩
  · rw [ran] at text
    exact ⟨r, ran, ran', Option.some.inj text⟩
  · rw [failed] at text
    cases text

end Recovery

end ParseRepair
