import Mathlib.Algebra.GroupWithZero.Nat
import Mathlib.Data.List.Induction
import Mathlib.Data.List.Nodup
import ParseRepair.Proofs.Diagnostic.Placement
import ParseRepair.Proofs.Traced

namespace ParseRepair

namespace LineMap

variable {α : Type}

def lines (m : LineMap α) : List Int := m.map Prod.fst

def members (m : LineMap α) : List α := m.flatMap Prod.snd

def size (m : LineMap α) : Nat := (m.map fun entry => entry.2.length).sum

/-- Each line holds what it holds in the first map and behind it what it holds in the second one. The lines of the
first map come first. -/
def unite (m m' : LineMap α) : LineMap α :=
  (m.lines ++ m'.lines.filter (· ∉ m.lines)).map fun n => (n, m.onLine n ++ m'.onLine n)

section FirstSeen

variable (ns : List Int)

theorem eraseDups_concat (n : Int) :
    (ns ++ [n]).eraseDups = if n ∈ ns then ns.eraseDups else ns.eraseDups ++ [n] := by
  rw [List.eraseDups_append, List.removeAll]
  by_cases seen : n ∈ ns
  · simp [seen]
  · simp [seen, List.eraseDups_cons]

theorem nodup_eraseDups : ns.eraseDups.Nodup := by
  induction ns using List.reverseRecOn with
  | nil => exact List.nodup_nil
  | append_singleton ns n ih =>
    rw [eraseDups_concat]
    split
    · exact ih
    · rename_i unseen
      refine List.nodup_append.mpr ⟨ih, List.nodup_singleton n, ?_⟩
      intro k member k' last same
      rw [same, List.mem_singleton.mp last, List.mem_eraseDups] at member
      exact unseen member

theorem filter_eraseDups (p : Int → Bool) : (ns.filter p).eraseDups = ns.eraseDups.filter p := by
  induction ns using List.reverseRecOn with
  | nil => rfl
  | append_singleton ns n ih =>
    rw [List.filter_append, eraseDups_concat]
    by_cases kept : p n = true
    · rw [List.filter_singleton, kept, cond_true, eraseDups_concat, ih]
      by_cases seen : n ∈ ns
      · simp [seen, kept]
      · simp [seen, kept]
    · by_cases seen : n ∈ ns
      · simp [seen, kept, ih]
      · simp [seen, kept, ih]

end FirstSeen

theorem perm_filter_or {p q : α → Bool} {xs : List α} (apart : ∀ x ∈ xs, p x = true → q x = false) :
    (xs.filter p ++ xs.filter q).Perm (xs.filter fun x => p x || q x) := by
  have first : (xs.filter fun x => p x || q x).filter p = xs.filter p := by
    rw [List.filter_filter]
    exact List.filter_congr fun x _ => by cases p x <;> simp
  have second : (xs.filter fun x => p x || q x).filter (!p ·) = xs.filter q := by
    rw [List.filter_filter]
    refine List.filter_congr fun x member => ?_
    have other := apart x member
    cases picked : p x
    · simp
    · simp [other picked]
  rw [← first, ← second]
  exact List.filter_append_perm p _

section Entries

variable {m : LineMap α} {n : Int}

theorem onLine_of_not_mem (missing : n ∉ m.lines) : m.onLine n = [] := by
  induction m with
  | nil => rfl
  | cons entry m ih =>
    obtain ⟨k, xs⟩ := entry
    have elsewhere : n ≠ k ∧ n ∉ LineMap.lines m := by simpa [lines] using missing
    rw [onLine, if_neg elsewhere.1.symm]
    exact ih elsewhere.2

theorem onLine_of_mem {xs : List α} (distinct : m.lines.Nodup) (member : (n, xs) ∈ m) : m.onLine n = xs := by
  induction m with
  | nil => exact absurd member List.not_mem_nil
  | cons entry m ih =>
    obtain ⟨k, ys⟩ := entry
    obtain ⟨fresh, distinct⟩ := List.nodup_cons.mp distinct
    rcases List.mem_cons.mp member with here | later
    · cases here
      exact if_pos rfl
    · have other : k ≠ n := by
        intro same
        exact fresh (List.mem_map.mpr ⟨_, later, same.symm⟩)
      rw [onLine, if_neg other]
      exact ih distinct later

theorem eq_map_lines (distinct : m.lines.Nodup) : m = m.lines.map fun n => (n, m.onLine n) := by
  rw [lines, List.map_map]
  refine (List.map_id m).symm.trans (List.map_congr_left ?_)
  rintro ⟨n, xs⟩ member
  exact congrArg (Prod.mk n) (onLine_of_mem distinct member).symm

theorem members_eq (distinct : m.lines.Nodup) : m.members = m.lines.flatMap m.onLine := by
  rw [members, lines, List.flatMap_map]
  refine List.flatMap_congr ?_
  rintro ⟨n, xs⟩ member
  exact (onLine_of_mem distinct member).symm

theorem length_members (m : LineMap α) : m.members.length = m.size := List.length_flatMap

theorem eq_of_lines {m m' : LineMap α} (distinct : m.lines.Nodup) (lines : m'.lines = m.lines)
    (held : ∀ n, m'.onLine n = m.onLine n) : m' = m := by
  have distinct' : m'.lines.Nodup := by rwa [lines]
  calc
    m' = m'.lines.map fun n => (n, m'.onLine n) := eq_map_lines distinct'
    _ = m.lines.map fun n => (n, m.onLine n) := by simp only [lines, held]
    _ = m := (eq_map_lines distinct).symm

end Entries

section Lines

variable (m m' : LineMap α) (n : Int)

theorem lines_add (x : α) : (m.add n x).lines = if n ∈ m.lines then m.lines else m.lines ++ [n] := by
  induction m with
  | nil => simp [add, lines]
  | cons entry m ih =>
    obtain ⟨k, xs⟩ := entry
    by_cases found : k = n
    · simp [add, lines, found]
    · have other : ¬ n = k := fun same => found same.symm
      unfold lines at ih ⊢
      by_cases later : n ∈ m.map Prod.fst
      · simp [add, found, ih, later]
      · simp [add, found, other, ih, later]

theorem onLine_map (ns : List Int) (f : Int → List α) :
    onLine n (ns.map fun n => (n, f n)) = if n ∈ ns then f n else [] := by
  induction ns with
  | nil => rfl
  | cons k ns ih =>
    by_cases here : k = n
    · simp [onLine, here]
    · have other : ¬ n = k := fun same => here same.symm
      simp only [List.map_cons, onLine, here, if_false, ih, List.mem_cons, other, false_or]

theorem lines_unite : (m.unite m').lines = m.lines ++ m'.lines.filter (· ∉ m.lines) := by
  rw [unite, lines, List.map_map]
  exact List.map_id _

theorem onLine_unite : (m.unite m').onLine n = m.onLine n ++ m'.onLine n := by
  rw [unite, onLine_map]
  split
  · rfl
  · rename_i missing
    rw [List.mem_append, List.mem_filter, decide_eq_true_eq, not_or] at missing
    have missing' : n ∉ m'.lines := fun member => missing.2 ⟨member, missing.1⟩
    rw [onLine_of_not_mem missing.1, onLine_of_not_mem missing', List.append_nil]

end Lines

/-- The lists under the lines are the members that belong there, in their order, and the lines stand in the order in
which they are first seen. -/
structure Groups (m : LineMap α) (line? : α → Option Int) (xs : List α) : Prop where
  held : ∀ n, m.onLine n = xs.filter (line? · == some n)
  order : m.lines = (xs.filterMap line?).eraseDups

theorem perm_flatMap {line? : α → Option Int} {xs : List α} {ns : List Int} (distinct : ns.Nodup) :
    (ns.flatMap fun n => xs.filter (line? · == some n)).Perm (xs.filter fun x => (line? x).any (· ∈ ns)) := by
  induction ns with
  | nil => simp
  | cons n ns ih =>
    obtain ⟨fresh, distinct⟩ := List.nodup_cons.mp distinct
    have apart : ∀ x ∈ xs, (line? x == some n) = true → (line? x).any (· ∈ ns) = false := by
      intro x _ here
      rw [beq_iff_eq.mp here]
      simpa using fresh
    rw [List.flatMap_cons]
    refine ((ih distinct).append_left _).trans ((perm_filter_or apart).trans (List.Perm.of_eq ?_))
    refine List.filter_congr fun x _ => ?_
    cases line? x with
    | none => rfl
    | some k => simp [Bool.beq_eq_decide_eq]

namespace Groups

variable {m m' : LineMap α} {line? : α → Option Int} {xs ys : List α}

theorem distinct (groups : Groups m line? xs) : m.lines.Nodup := by
  rw [groups.order]
  exact nodup_eraseDups _

theorem filled (groups : Groups m line? xs) : ∀ entry ∈ m, entry.2 ≠ [] := by
  rintro ⟨n, held⟩ member
  have seen : n ∈ m.lines := List.mem_map_of_mem member
  rw [groups.order, List.mem_eraseDups, List.mem_filterMap] at seen
  obtain ⟨x, member', line⟩ := seen
  rw [← onLine_of_mem groups.distinct member, groups.held]
  exact List.ne_nil_of_mem (List.mem_filter.mpr ⟨member', beq_iff_eq.mpr line⟩)

theorem unique (groups : Groups m line? xs) (groups' : Groups m' line? xs) : m' = m :=
  eq_of_lines groups.distinct (groups'.order.trans groups.order.symm)
    fun n => (groups'.held n).trans (groups.held n).symm

theorem unite (groups : Groups m line? xs) (groups' : Groups m' line? ys) :
    Groups (m.unite m') line? (xs ++ ys) where
  held n := by rw [onLine_unite, groups.held, groups'.held, List.filter_append]
  order := by
    rw [lines_unite, groups.order, groups'.order, List.filterMap_append, List.eraseDups_append, List.removeAll,
      filter_eraseDups]
    congr 1
    refine List.filter_congr fun n _ => ?_
    rw [decide_not, List.elem_eq_mem]
    simp only [List.mem_eraseDups]

theorem perm_members (groups : Groups m line? xs) : m.members.Perm (xs.filter fun x => (line? x).isSome) := by
  have collected : m.members = m.lines.flatMap fun n => xs.filter (line? · == some n) := by
    rw [members_eq groups.distinct]
    exact List.flatMap_congr fun n _ => groups.held n
  have seen : ∀ x ∈ xs, (line? x).any (· ∈ m.lines) = (line? x).isSome := by
    intro x member
    cases line : line? x with
    | none => rfl
    | some n =>
      rw [groups.order]
      simpa using ⟨x, member, line⟩
  rw [collected, ← List.filter_congr seen]
  exact perm_flatMap groups.distinct

end Groups

end LineMap

namespace Diagnostic

def located? (d : Diagnostic) : Option LexicalFailure := d.locate.toOption.join

/-- A diagnostic without a span whose text places it nowhere. -/
def Lost (d : Diagnostic) : Prop := d.span = none ∧ d.locate = .ok none

instance (d : Diagnostic) : Decidable d.Lost := inferInstanceAs (Decidable (_ ∧ _))

inductive Bucket
  | structural (line : Int)
  | lexical (line : Int)
  deriving DecidableEq, Repr

def bucket? (d : Diagnostic) : Option Bucket :=
  match d.spanLine? with
  | some line => some (.structural line)
  | none => d.located?.map fun f => .lexical f.line

section

variable {d : Diagnostic}

theorem locate_of_span {s : Span} (spanned : d.span = some s) : d.locate = .ok none := by
  rw [locate, spanned]
  rfl

theorem diagnostic_of_locate {f : LexicalFailure} (placed : d.locate = .ok (some f)) : f.diagnostic = d := by
  unfold locate at placed
  split at placed
  · cases placed
  · split at placed
    · cases placed
    · obtain ⟨line, _, placed⟩ := except_bind_eq_ok_iff.mp placed
      obtain ⟨column, _, placed⟩ := except_bind_eq_ok_iff.mp placed
      cases placed
      rfl

theorem located?_eq_some_iff {f : LexicalFailure} : d.located? = some f ↔ d.locate = .ok (some f) := by
  rw [located?]
  rcases d.locate with _ | _ | _ <;> simp [Except.toOption]

theorem located?_of_span {s : Span} (spanned : d.span = some s) : d.located? = none := by
  rw [located?, locate_of_span spanned]
  rfl

theorem failure?_eq_located? (d : Diagnostic) : d.failure? = d.located? := by
  cases spanned : d.span with
  | some s => rw [failure?, placement_of_span spanned, located?_of_span spanned]
  | none =>
    rw [failure?, placement_of_no_span spanned, located?]
    rcases d.locate with _ | _ | _ <;> rfl

theorem bucket?_of_span {s : Span} (spanned : d.span = some s) : d.bucket? = some (.structural s.start.line) := by
  simp [bucket?, spanLine?, spanned]

theorem bucket?_of_no_span (bare : d.span = none) : d.bucket? = d.located?.map fun f => .lexical f.line := by
  simp [bucket?, spanLine?, bare]

theorem bucket?_eq_none_iff (placeable : d.Placeable) : d.bucket? = none ↔ d.Lost := by
  obtain ⟨p, placed⟩ := placeable
  rcases placement_cases placed with ⟨s, spanned, rfl⟩ | ⟨f, bare, located, rfl⟩ | ⟨bare, located, rfl⟩
  · simp [bucket?_of_span spanned, Lost, spanned]
  · simp [bucket?_of_no_span bare, located?_eq_some_iff.mpr located, Lost, located]
  · simp [bucket?_of_no_span bare, located?, Except.toOption, Lost, bare, located]

end

theorem map_diagnostic (p : LexicalFailure → Bool) (ds : List Diagnostic) :
    ((ds.filterMap located?).filter p).map LexicalFailure.diagnostic = ds.filter fun d => d.located?.any p := by
  induction ds with
  | nil => rfl
  | cons d ds ih =>
    cases located : d.located? with
    | none => simp [located, ih]
    | some f =>
      have own := diagnostic_of_locate (located?_eq_some_iff.mp located)
      by_cases picked : p f = true
      · simp [located, picked, ih, own]
      · simp [located, picked, ih]

end Diagnostic

namespace Classified

open Diagnostic LineMap

def bucket (c : Classified) : Bucket → List Diagnostic
  | .structural line => c.problems.onLine line
  | .lexical line => (c.lexical.onLine line).map LexicalFailure.diagnostic

def unite (c c' : Classified) : Classified := ⟨c.problems.unite c'.problems, c.lexical.unite c'.lexical⟩

theorem lines_add {c : Classified} {d : Diagnostic} {p : Placement} {ns ns' : List Int}
    (placed : d.placement = .ok p) (problems : c.problems.lines = ns.eraseDups)
    (lexical : c.lexical.lines = ns'.eraseDups) :
    (c.add d p).problems.lines = (ns ++ [d].filterMap spanLine?).eraseDups ∧
      (c.add d p).lexical.lines = (ns' ++ ([d].filterMap located?).map (·.line)).eraseDups := by
  rcases placement_cases placed with ⟨s, spanned, rfl⟩ | ⟨f, bare, located, rfl⟩ | ⟨bare, located, rfl⟩
  · simp [add, LineMap.lines_add, problems, lexical, spanLine?, spanned, located?_of_span spanned, eraseDups_concat,
      List.mem_eraseDups]
  · simp [add, LineMap.lines_add, problems, lexical, spanLine?, bare, located?_eq_some_iff.mpr located,
      eraseDups_concat, List.mem_eraseDups]
  · simp [add, problems, lexical, spanLine?, bare, located?, located, Except.toOption]

theorem lines_addAll {c c' : Classified} {ds : List Diagnostic} {ns ns' : List Int}
    (filed : (addAll c ds).outcome = .ok c') (problems : c.problems.lines = ns.eraseDups)
    (lexical : c.lexical.lines = ns'.eraseDups) :
    c'.problems.lines = (ns ++ ds.filterMap spanLine?).eraseDups ∧
      c'.lexical.lines = (ns' ++ (ds.filterMap located?).map (·.line)).eraseDups := by
  induction ds generalizing c ns ns' with
  | nil =>
    cases filed
    simpa using ⟨problems, lexical⟩
  | cons d ds ih =>
    cases placed : d.placement with
    | error e =>
      rw [addAll_of_error ds placed] at filed
      cases filed
    | ok p =>
      rw [addAll_cons ds placed] at filed
      obtain ⟨problems, lexical⟩ := lines_add placed problems lexical
      obtain ⟨problems, lexical⟩ := ih filed problems lexical
      rw [problems, lexical, List.append_assoc, List.append_assoc, ← List.filterMap_append, ← List.map_append,
        ← List.filterMap_append, List.singleton_append]
      exact ⟨rfl, rfl⟩

section Filed

variable {ds : List Diagnostic} {c : Classified} (filed : (ofDiagnostics ds).outcome = .ok c)

include filed

theorem groups_problems : c.problems.Groups spanLine? ds where
  held := problems_ofDiagnostics filed
  order := by
    rw [outcome_ofDiagnostics] at filed
    exact (@lines_addAll _ _ _ [] [] filed rfl rfl).1

theorem groups_lexical : c.lexical.Groups (fun f => some f.line) (ds.filterMap located?) where
  held n := by
    rw [lexical_ofDiagnostics filed, funext failure?_eq_located?]
    simp
  order := by
    rw [outcome_ofDiagnostics] at filed
    rw [List.filterMap_eq_map']
    exact (@lines_addAll _ _ _ [] [] filed rfl rfl).2

theorem bucket_eq (b : Bucket) : c.bucket b = ds.filter (·.bucket? == some b) := by
  cases b with
  | structural n =>
    rw [bucket, problems_ofDiagnostics filed]
    refine List.filter_congr fun d _ => ?_
    cases spanned : d.span with
    | some s => simp [bucket?_of_span spanned, spanLine?, spanned]
    | none => cases located : d.located? <;> simp [bucket?_of_no_span spanned, spanLine?, spanned, located]
  | lexical n =>
    rw [bucket, lexical_ofDiagnostics filed, funext failure?_eq_located?, map_diagnostic]
    refine List.filter_congr fun d _ => ?_
    cases spanned : d.span with
    | some s => simp [bucket?_of_span spanned, located?_of_span spanned]
    | none => cases located : d.located? <;> simp [bucket?_of_no_span spanned, located]

theorem placeable_of_mem {d : Diagnostic} (member : d ∈ ds) : d.Placeable :=
  (exists_ofDiagnostics_iff ds).mp ⟨c, filed⟩ d member

theorem perm_members : (c.problems.members ++ c.lexical.members.map LexicalFailure.diagnostic ++
    ds.filter (·.Lost)).Perm ds := by
  have problems := (groups_problems filed).perm_members
  have lexical := (groups_lexical filed).perm_members.map LexicalFailure.diagnostic
  rw [map_diagnostic] at lexical
  -- A diagnostic has one of three properties: a span, a place in its text, or neither of them.
  have apart : ∀ d ∈ ds, d.spanLine?.isSome = true → d.located?.any (fun f => (some f.line).isSome) = false := by
    intro d _ spanned
    obtain ⟨s, spanned, _⟩ := Option.map_eq_some_iff.mp (Option.some_get spanned).symm
    rw [located?_of_span spanned]
    rfl
  have apart' : ∀ d ∈ ds, (d.spanLine?.isSome || d.located?.any (fun f => (some f.line).isSome)) = true →
      decide d.Lost = false := by
    intro d _ placed
    rw [decide_eq_false_iff_not]
    rintro ⟨bare, nowhere⟩
    simp [spanLine?, bare, located?, nowhere, Except.toOption] at placed
  have all : ∀ d ∈ ds,
      (d.spanLine?.isSome || d.located?.any (fun f => (some f.line).isSome) || decide d.Lost) = true := by
    intro d member
    obtain ⟨p, placed⟩ := placeable_of_mem filed member
    rcases placement_cases placed with ⟨s, spanned, _⟩ | ⟨f, bare, located, _⟩ | ⟨bare, located, _⟩
    · simp [spanLine?, spanned]
    · simp [located?_eq_some_iff.mpr located]
    · simp [Lost, bare, located]
  have two := (problems.append lexical).trans (perm_filter_or apart)
  have three := (two.append_right _).trans (perm_filter_or apart')
  rwa [List.filter_eq_self.mpr all] at three

theorem mem_bucket_iff {d : Diagnostic} {b : Bucket} : d ∈ c.bucket b ↔ d ∈ ds ∧ d.bucket? = some b := by
  rw [bucket_eq filed, List.mem_filter, beq_iff_eq]

theorem lost_iff {d : Diagnostic} (member : d ∈ ds) : d.Lost ↔ ∀ b, d ∉ c.bucket b := by
  rw [← bucket?_eq_none_iff (placeable_of_mem filed member), Option.eq_none_iff_forall_ne_some]
  simp only [mem_bucket_iff filed, member, true_and, ne_eq]

theorem exists_unique_bucket {d : Diagnostic} (member : d ∈ ds) (kept : ¬ d.Lost) : ∃! b, d ∈ c.bucket b := by
  rw [← bucket?_eq_none_iff (placeable_of_mem filed member)] at kept
  obtain ⟨b, home⟩ := Option.ne_none_iff_exists'.mp kept
  refine ⟨b, (mem_bucket_iff filed).mpr ⟨member, home⟩, ?_⟩
  intro b' member'
  exact Option.some.inj (((mem_bucket_iff filed).mp member').2.symm.trans home)

theorem size_add_size : c.problems.size + c.lexical.size + (ds.filter (·.Lost)).length = ds.length := by
  have whole := (perm_members filed).length_eq
  rwa [List.length_append, List.length_append, List.length_map, length_members, length_members] at whole

end Filed

section Concatenation

variable {ds ds' : List Diagnostic} {c c' : Classified}

theorem unite_of_filed {c'' : Classified} (filed : (ofDiagnostics ds).outcome = .ok c)
    (filed' : (ofDiagnostics ds').outcome = .ok c') (both : (ofDiagnostics (ds ++ ds')).outcome = .ok c'') :
    c'' = c.unite c' := by
  have problems := ((groups_problems filed).unite (groups_problems filed')).unique (groups_problems both)
  have lexical := (groups_lexical filed).unite (groups_lexical filed')
  rw [← List.filterMap_append] at lexical
  have lexical := lexical.unique (groups_lexical both)
  cases c''
  exact congrArg₂ Classified.mk problems lexical

theorem ofDiagnostics_append_iff {c'' : Classified} : (ofDiagnostics (ds ++ ds')).outcome = .ok c'' ↔
    ∃ c c', (ofDiagnostics ds).outcome = .ok c ∧ (ofDiagnostics ds').outcome = .ok c' ∧ c'' = c.unite c' := by
  constructor
  · intro both
    have placeable := (exists_ofDiagnostics_iff _).mp ⟨c'', both⟩
    rw [List.forall_mem_append] at placeable
    obtain ⟨c, filed⟩ := (exists_ofDiagnostics_iff ds).mpr placeable.1
    obtain ⟨c', filed'⟩ := (exists_ofDiagnostics_iff ds').mpr placeable.2
    exact ⟨c, c', filed, filed', unite_of_filed filed filed' both⟩
  · rintro ⟨c, c', filed, filed', rfl⟩
    have placeable := (exists_ofDiagnostics_iff ds).mp ⟨c, filed⟩
    have placeable' := (exists_ofDiagnostics_iff ds').mp ⟨c', filed'⟩
    obtain ⟨c'', both⟩ := (exists_ofDiagnostics_iff (ds ++ ds')).mpr
      (List.forall_mem_append.mpr ⟨placeable, placeable'⟩)
    rw [both, unite_of_filed filed filed' both]

end Concatenation

/-- Every diagnostic goes under the line that it belongs to, in the order in which they came, and only one that names
no place is left out. Two lists filed one behind the other are the two maps of both, line by line. -/
theorem ofDiagnostics_partition (ds : List Diagnostic) :
    (∀ c, (ofDiagnostics ds).outcome = .ok c →
      c.problems.Groups spanLine? ds ∧ c.lexical.Groups (fun f => some f.line) (ds.filterMap located?) ∧
      (∀ entry ∈ c.problems, entry.2 ≠ []) ∧ (∀ entry ∈ c.lexical, entry.2 ≠ []) ∧
      (∀ d ∈ ds, (d.Lost ↔ ∀ b, d ∉ c.bucket b) ∧ (¬ d.Lost → ∃! b, d ∈ c.bucket b)) ∧
      (c.problems.members ++ c.lexical.members.map LexicalFailure.diagnostic ++ ds.filter (·.Lost)).Perm ds ∧
      c.problems.size + c.lexical.size + (ds.filter (·.Lost)).length = ds.length) ∧
    ∀ ds' c'', (ofDiagnostics (ds ++ ds')).outcome = .ok c'' ↔ ∃ c c', (ofDiagnostics ds).outcome = .ok c ∧
      (ofDiagnostics ds').outcome = .ok c' ∧ c'' = c.unite c' := by
  refine ⟨fun c filed => ?_, fun ds' c'' => ofDiagnostics_append_iff⟩
  have problems := groups_problems filed
  have lexical := groups_lexical filed
  refine ⟨problems, lexical, problems.filled, lexical.filled, fun d member => ?_, perm_members filed,
    size_add_size filed⟩
  exact ⟨lost_iff filed member, exists_unique_bucket filed member⟩

def interleaved : List Diagnostic :=
  [.locatedAt "odd" 2 5, ⟨"at line 9", none⟩, ⟨"at line 2, column 7", none⟩, .locatedAt "end" 1, .locatedAt "odd" 2 5,
    ⟨"at line 1, column 3", none⟩, ⟨"at line 2, column 8", none⟩]

def interleavedMaps : Classified where
  problems := [(2, [.locatedAt "odd" 2 5, .locatedAt "odd" 2 5]), (1, [.locatedAt "end" 1])]
  lexical :=
    [(2, [⟨⟨"at line 2, column 7", none⟩, 2, 7⟩, ⟨⟨"at line 2, column 8", none⟩, 2, 8⟩]),
      (1, [⟨⟨"at line 1, column 3", none⟩, 1, 3⟩])]

theorem partition_of_interleaved : (ofDiagnostics interleaved).outcome = .ok interleavedMaps ∧
    interleavedMaps.problems.lines = ([2, 1, 2].eraseDups : List Int) ∧
    (∃! b, .locatedAt "odd" 2 5 ∈ interleavedMaps.bucket b) ∧
    (∀ b, ⟨"at line 9", none⟩ ∉ interleavedMaps.bucket b) ∧
    interleavedMaps.problems.size + interleavedMaps.lexical.size + 1 = interleaved.length := by
  have filed : (ofDiagnostics interleaved).outcome = .ok interleavedMaps := by decide +kernel
  obtain ⟨problems, _, _, _, kept, _, sizes⟩ := (ofDiagnostics_partition interleaved).1 _ filed
  have lines : interleaved.filterMap spanLine? = [2, 1, 2] := by decide
  have lost : (interleaved.filter (·.Lost)).length = 1 := by decide +kernel
  refine ⟨filed, lines ▸ problems.order, ?_, ?_, lost ▸ sizes⟩
  · exact (kept (.locatedAt "odd" 2 5) (by decide)).2 (by decide)
  · exact (kept ⟨"at line 9", none⟩ (by decide)).1.mp (by decide +kernel)

end Classified

end ParseRepair
