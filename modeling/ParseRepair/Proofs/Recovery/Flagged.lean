import ParseRepair.Proofs.Recovery.Drift
import ParseRepair.Proofs.Recovery.Geometry
import ParseRepair.Proofs.Recovery.Order

namespace ParseRepair.Recovery

open Config (Settings)
open Text

/-- A problem on a line, about no brace and no missing terminator. -/
structure Generic (d : Diagnostic) : Prop where
  placed : d.span ≠ none
  noClosing : ¬ points "expected \"\x7d\"" <:+: d.message
  noOpening : ¬ points "expected \"\x7b\"" <:+: d.message
  noTerminator : ¬ (points "Parse error. Found \"" <:+: d.message ∧ points "expected one of" <:+: d.message ∧
    points ">>>=" <:+: d.message)

def Flagged (ds : List Diagnostic) (n : Int) : Prop := ∃ d ∈ ds, d.spanLine? = some n

instance (ds : List Diagnostic) (n : Int) : Decidable (Flagged ds n) :=
  inferInstanceAs (Decidable (∃ d ∈ ds, _))

def commentedLines (ds : List Diagnostic) (ls : List Text) : List Text :=
  ls.mapIdx fun i l => if Flagged ds (i + 1 : Nat) ∧ 2 ≤ l.length then '/' :: '/' :: l.drop 2 else l

theorem commentOut_eq (t : Text) : commentOut t = if 2 ≤ t.length then '/' :: '/' :: t.drop 2 else t := by
  match t with
  | [] => rfl
  | [_] => rfl
  | _ :: _ :: _ => simp [commentOut]

theorem commentOut_ne_iff (t : Text) : commentOut t ≠ t ↔ 2 ≤ t.length ∧ ¬ ("//" : Text) <+: t := by
  match t with
  | [] => simp [commentOut]
  | [_] => simp [commentOut]
  | a :: b :: r =>
    have front : ("//" : Text) <+: a :: b :: r ↔ '/' = a ∧ '/' = b := by
      simp [List.cons_prefix_cons]
    rw [front]
    simp [commentOut]

structure Evidence.Generic (e : Evidence) : Prop where
  before : ∀ message ∈ e.before, expectsClosing message = false
  here : ∀ message ∈ e.here, asksForTerminator message = false ∧
    (expectsClosing message || expectsOpening message) = false
  after : ∀ message ∈ e.after, expectsOpening message = false
  lexical : e.lexical = []

section Line

variable {e : Evidence} {t : Text}

theorem leave_of_generic (generic : e.Generic) (unmarked : ¬ ("** " : Text) <:+: t) {s : Strategy}
    (other : s ≠ .curlyBraces) : s.verdict e t = .leave := by
  cases s with
  | decompilerArtifacts => exact decompilerArtifacts_of_unmarked unmarked
  | missingTerminator =>
    cases verdict : Strategy.missingTerminator.verdict e t with
    | leave => rfl
    | commentOut => cases comments_of_verdict verdict
    | edit u =>
      cases edits_of_verdict verdict with
      | terminator message only asked =>
        have member : message ∈ e.here := by simp [only]
        rw [(generic.here message member).1] at asked
        cases asked
  | missingQuote =>
    have nothing : fragment? e.lexical = none := by
      rw [generic.lexical]
      rfl
    simp only [Strategy.verdict, missingQuote, nothing, Option.bind_none]
  | curlyBraces => exact absurd rfl other

theorem curlyBraces_of_generic (generic : e.Generic) :
    Strategy.curlyBraces.verdict e t = if e.here = [] then .leave else .commentOut := by
  have braces : e.here.any (fun m => expectsClosing m || expectsOpening m) = false := by
    rw [List.any_eq_false]
    exact fun message member => by simp [(generic.here message member).2]
  have closing : e.before.any expectsClosing = false := by
    rw [List.any_eq_false]
    exact fun message member => by simp [generic.before message member]
  have opening : e.after.any expectsOpening = false := by
    rw [List.any_eq_false]
    exact fun message member => by simp [generic.after message member]
  by_cases calm : e.here = []
  · simp [Strategy.verdict, curlyBraces, calm, closing, opening]
  · simp [Strategy.verdict, curlyBraces, calm, braces]

variable {m : Method} {l : Line}

theorem repaired_of_generic (generic : e.Generic) (unmarked : ¬ ("** " : Text) <:+: l.text)
    (whole : m.pipeline = Strategy.all) :
    l.repaired m e = if e.here = [] then l.text else commentOut l.text := by
  have braces := curlyBraces_of_generic (t := l.text) generic
  by_cases calm : e.here = []
  · rw [if_pos calm] at braces ⊢
    by_contra changed
    obtain ⟨p, found⟩ := Option.ne_none_iff_exists'.mp (mt Line.repair?_eq_none_iff.mp changed)
    obtain ⟨s, fires, _⟩ := (Line.repair?_eq_some_iff m e l p).mp found
    by_cases last : s = .curlyBraces
    · rw [last] at fires
      exact fires.fired braces
    · exact fires.fired (leave_of_generic generic unmarked last)
  · rw [if_neg calm] at braces ⊢
    have fires : m.pipeline.Fires e l.text .curlyBraces := by
      refine ⟨[.decompilerArtifacts, .missingTerminator, .missingQuote], [], whole, ?_, ?_⟩
      · intro other member
        apply leave_of_generic generic unmarked
        intro same
        rw [same] at member
        exact absurd member (by decide)
      · rw [braces]
        exact Verdict.noConfusion
    rw [Line.repaired_of_fires fires, Line.outcome, braces]
    rfl

theorem maker_of_generic {p : Patch} (generic : e.Generic) (unmarked : ¬ ("** " : Text) <:+: l.text)
    (changed : l.repair? m e = some p) : p.strategy = Strategy.curlyBraces.name ∧ p.decision = .lineComment := by
  obtain ⟨s, fires, _, rfl⟩ := (Line.repair?_eq_some_iff m e l p).mp changed
  have fired := fires.fired
  by_cases last : s = .curlyBraces
  · subst last
    rw [curlyBraces_of_generic generic] at fired ⊢
    by_cases calm : e.here = []
    · rw [if_pos calm] at fired
      exact absurd rfl fired
    · rw [if_neg calm]
      exact ⟨rfl, rfl⟩
  · exact absurd (leave_of_generic generic unmarked last) fired

end Line

section Diagnostics

variable {ds : List Diagnostic} {c : Classified}

theorem filed_of_generic (generic : ∀ d ∈ ds, Generic d) : ∃ c, (Classified.ofDiagnostics ds).outcome = .ok c := by
  rw [Classified.exists_ofDiagnostics_iff]
  intro d member
  obtain ⟨s, spanned⟩ := Option.ne_none_iff_exists'.mp (generic d member).placed
  exact ⟨_, Diagnostic.placement_of_span spanned⟩

theorem mem_problemMessages {n : Int} {message : Points} (member : message ∈ problemMessages ds n) :
    ∃ d ∈ ds, d.message = message := by
  obtain ⟨d, kept, same⟩ := List.mem_map.mp member
  exact ⟨d, (List.mem_filter.mp kept).1, same⟩

theorem generic_evidence (generic : ∀ d ∈ ds, Generic d) (filed : (Classified.ofDiagnostics ds).outcome = .ok c)
    (n : Int) : (Evidence.ofLine c n).Generic := by
  have plain (k : Int) (message : Points) (member : message ∈ problemMessages ds k) :
      expectsClosing message = false ∧ expectsOpening message = false ∧ asksForTerminator message = false := by
    obtain ⟨d, origin, rfl⟩ := mem_problemMessages member
    obtain ⟨_, noClosing, noOpening, noTerminator⟩ := generic d origin
    simp only [expectsClosing, expectsOpening, asksForTerminator, ← Bool.not_eq_true, Bool.and_eq_true, contains_iff,
      and_assoc]
    exact ⟨noClosing, noOpening, noTerminator⟩
  have failures : failureMessages ds n = [] := by
    unfold failureMessages
    rw [List.filterMap_eq_nil_iff.mpr]
    · rfl
    · intro d member
      obtain ⟨s, spanned⟩ := Option.ne_none_iff_exists'.mp (generic d member).placed
      exact failure?_of_span spanned
  rw [ofLine_ofDiagnostics filed]
  refine ⟨fun message member => (plain _ message member).1, fun message member => ?_,
    fun message member => (plain _ message member).2.1, failures⟩
  obtain ⟨closing, opening, terminator⟩ := plain _ message member
  rw [closing, opening]
  exact ⟨terminator, rfl⟩

theorem here_eq_nil_iff (filed : (Classified.ofDiagnostics ds).outcome = .ok c) (n : Int) :
    (Evidence.ofLine c n).here = [] ↔ ¬ Flagged ds n := by
  rw [ofLine_ofDiagnostics filed]
  simp [problemMessages, Flagged, List.filter_eq_nil_iff]

end Diagnostics

structure Commented (ds : List Diagnostic) (source : Text) (r : Repair) : Prop where
  text : r.text = unlines (commentedLines ds (sourceLines source))
  length : r.text.length = (withLineFeeds source).length
  steady : r.report.driftingLines = []
  increasing : (r.report.patches.map Patch.line).Pairwise (· < ·)
  recorded : ∀ n : Int, n ∈ r.report.patches.map Patch.line ↔ ∃ (i : Nat) (l : Text), n = (i + 1 : Nat) ∧
    (sourceLines source)[i]? = some l ∧ Flagged ds n ∧ 2 ≤ l.length ∧ ¬ ("//" : Text) <+: l
  maker : ∀ p ∈ r.report.patches, p.strategy = "curly_braces".toList ∧ p.decision = .lineComment

section Pass

variable {m : Method} {ds : List Diagnostic} {c : Classified} {t : Text}
  (generic : ∀ d ∈ ds, Generic d) (filed : (Classified.ofDiagnostics ds).outcome = .ok c)
  (unmarked : ∀ l ∈ sourceLines t, ¬ ("** " : Text) <:+: l)

include generic filed unmarked

theorem maker_of_flags {p : Patch} (recorded : p ∈ (Repair.ofText m c t).report.patches) :
    p.strategy = Strategy.curlyBraces.name ∧ p.decision = .lineComment := by
  obtain ⟨l, origin, changed⟩ := (Repair.mem_patches m c t p).mp recorded
  have held := List.mem_of_getElem? ((Line.mem_numbered _ l).mp origin).2
  exact maker_of_generic (generic_evidence generic filed _) (unmarked _ held) changed

theorem steady_of_flags : (Repair.ofText m c t).report.driftingLines = [] := by
  rw [Report.driftingLines, List.map_eq_nil_iff, List.filter_eq_nil_iff]
  intro p recorded
  obtain ⟨l, origin, changed⟩ := (Repair.mem_patches m c t p).mp recorded
  have drift := drift_of_repair? changed (maker_of_flags generic filed unmarked recorded).1
  have kept : p.lengthDelta = 0 := drift
  simp [Patch.preservesLength, kept]

variable (whole : m.pipeline = Strategy.all)

include whole

theorem repaired_of_flags {i : Nat} {u : Text} (held : (sourceLines t)[i]? = some u) :
    Line.repaired m (.ofLine c (i + 1 : Nat)) ⟨i + 1, u⟩ = if Flagged ds (i + 1 : Nat) then commentOut u else u := by
  have clean : ¬ ("** " : Text) <:+: u := unmarked u (List.mem_of_getElem? held)
  rw [repaired_of_generic (generic_evidence generic filed _) clean whole]
  by_cases flagged : Flagged ds (i + 1 : Nat)
  · rw [if_pos flagged, if_neg (mt (here_eq_nil_iff filed _).mp (not_not_intro flagged))]
  · rw [if_neg flagged, if_pos ((here_eq_nil_iff filed _).mpr flagged)]

theorem linesAfter_of_flags : Repair.linesAfter m c t = commentedLines ds (sourceLines t) := by
  apply List.ext_getElem?
  intro i
  rw [Repair.getElem?_linesAfter, commentedLines, List.getElem?_mapIdx]
  cases held : (sourceLines t)[i]? with
  | none => rfl
  | some u =>
    rw [Option.map_some, Option.map_some, repaired_of_flags generic filed unmarked whole held, commentOut_eq, ite_and]

theorem recorded_of_flags (n : Int) : n ∈ (Repair.ofText m c t).report.patches.map Patch.line ↔
    ∃ (i : Nat) (l : Text), n = (i + 1 : Nat) ∧ (sourceLines t)[i]? = some l ∧ Flagged ds n ∧ 2 ≤ l.length ∧
      ¬ ("//" : Text) <+: l := by
  have differs {i : Nat} {l : Text} (held : (sourceLines t)[i]? = some l) :
      (∃ p ∈ (Repair.ofText m c t).report.patches, p.line = (i + 1 : Nat)) ↔
        Flagged ds (i + 1 : Nat) ∧ 2 ≤ l.length ∧ ¬ ("//" : Text) <+: l := by
    obtain ⟨bound, _⟩ := List.getElem?_eq_some_iff.mp held
    rw [Repair.exists_patch_iff m c t (i + 1) (Nat.succ_pos i) bound, Nat.add_sub_cancel, Repair.getElem?_linesAfter,
      held, Option.map_some, repaired_of_flags generic filed unmarked whole held, ne_eq, Option.some.injEq,
      ite_eq_right_iff, Classical.not_imp, ← commentOut_ne_iff]
  rw [List.mem_map]
  constructor
  · intro some_patch
    obtain ⟨p, recorded, rfl⟩ := some_patch
    obtain ⟨positive, bound⟩ := Repair.place_of_patch m c t recorded
    obtain ⟨i, place⟩ : ∃ i : Nat, p.line = (i + 1 : Nat) := ⟨(p.line - 1).toNat, by omega⟩
    have held : (sourceLines t)[i]? = some (sourceLines t)[i] := List.getElem?_eq_getElem (by omega)
    rw [place]
    exact ⟨i, _, rfl, held, (differs held).mp ⟨p, recorded, place⟩⟩
  · intro some_line
    obtain ⟨i, l, rfl, held, flagged⟩ := some_line
    exact (differs held).mpr flagged

end Pass

/-- Problems about no brace and no missing terminator comment out the lines that they begin on, as far as
these have room for it, and nothing else. -/
theorem patchSource_flagged (s : Source) (t : Text) (ds : List Diagnostic) (settings : Settings)
    (read : s.read = .ok t) (every : settings.strategies = none) (generic : ∀ d ∈ ds, Generic d)
    (unmarked : ∀ l ∈ sourceLines t, ¬ ("** " : Text) <:+: l) :
    ∃ r, (patchSource s ds settings).outcome = .ok r ∧ Commented ds t r := by
  obtain ⟨c, filed⟩ := filed_of_generic generic
  have whole : (Method.ofSettings settings).pipeline = Strategy.all := by
    show Pipeline.select settings.strategies = _
    rw [every]
    rfl
  have steady := steady_of_flags (m := .ofSettings settings) generic filed unmarked
  refine ⟨_, (patchSource_eq_ok_iff _).mpr ⟨c, t, filed, read, rfl⟩, ?_⟩
  exact
    { text := by rw [Repair.text_ofText, linesAfter_of_flags generic filed unmarked whole]
      length := length_of_steady _ c t steady
      steady := steady
      increasing := List.pairwise_map.mpr (Repair.increasing_patches _ c t)
      recorded := recorded_of_flags generic filed unmarked whole
      maker := fun p recorded => maker_of_flags generic filed unmarked recorded }

def strayProblems : List Diagnostic :=
  [.locatedAt "odd" 2 7, .locatedAt "odd" 1, .locatedAt "odd" 2, .locatedAt "odd" 0,
    .locatedAt "expected one of" 3, .locatedAt "odd" (-1), .locatedAt "odd" 6]

theorem flagged_of_strayProblems :
    (Source.text "a\r\n  b();\n//c\nd();").read = .ok "a\r\n  b();\n//c\nd();".toList ∧
      (∀ d ∈ strayProblems, Generic d) ∧ (∀ l ∈ sourceLines "a\r\n  b();\n//c\nd();", ¬ ("** " : Text) <:+: l) ∧
      ∃ r, (patchSource (.text "a\r\n  b();\n//c\nd();") strayProblems ⟨none, false, [], []⟩).outcome = .ok r ∧
        Commented strayProblems "a\r\n  b();\n//c\nd();" r ∧ r.text = "a\n//b();\n//c\nd();\n".toList := by
  have plain : ∀ d ∈ strayProblems, d.span ≠ none ∧ ¬ points "expected \"\x7d\"" <:+: d.message ∧
      ¬ points "expected \"\x7b\"" <:+: d.message ∧ ¬ points ">>>=" <:+: d.message := by
    decide +kernel
  have generic : ∀ d ∈ strayProblems, Generic d := by
    intro d member
    obtain ⟨placed, noClosing, noOpening, noAssignment⟩ := plain d member
    exact ⟨placed, noClosing, noOpening, fun all => noAssignment all.2.2⟩
  have unmarked : ∀ l ∈ sourceLines "a\r\n  b();\n//c\nd();", ¬ ("** " : Text) <:+: l := by decide +kernel
  obtain ⟨r, ran, commented⟩ := patchSource_flagged (.text "a\r\n  b();\n//c\nd();") _ strayProblems
    ⟨none, false, [], []⟩ rfl rfl generic unmarked
  refine ⟨rfl, generic, unmarked, r, ran, commented, ?_⟩
  rw [commented.text]
  decide +kernel

end ParseRepair.Recovery
