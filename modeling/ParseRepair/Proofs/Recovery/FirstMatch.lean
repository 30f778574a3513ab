import ParseRepair.Proofs.Recovery.Line

namespace ParseRepair.Recovery

open Text

/-- The line that all strategies of a run share. Each finds it as the one before has left it. -/
structure Draft where
  number : Int
  text : Text
  deriving DecidableEq, Repr

abbrev Turn := StateM Draft Decision

namespace Draft

def write (t : Text) : StateM Draft Unit := modify fun l => { l with text := t }

def cleanArtifacts : Turn := do
  let t := (← get).text
  if contains t "** continue;" then
    write (replaceAll "** continue;" "continue;" t)
    return .textEdit
  if contains t "** case " then
    write (replaceAll "** case " "case " t)
    return .textEdit
  if contains t "** GOTO " then
    write (replaceAll "** GOTO " "break " t ++ [';'])
    return .textEdit
  if startsWith "** " t.trim then
    return .lineComment
  return .none

def endStatement (c : Classified) : Turn := do
  let l ← get
  match c.problems.onLine l.number with
  | [d] =>
    if !asksForTerminator d.message then
      return .none
    if l.text.trim.isEmpty || endsWith ";" l.text.trim then
      return .none
    write (l.text ++ [';'])
    return .textEdit
  | _ => return .none

def closeQuote (c : Classified) : Turn := do
  let l ← get
  match c.lexical.onLine l.number with
  | [f] =>
    if !reportsOpenQuote f.message then
      return .none
    match fragmentStart? l.text (openFragment f.message) with
    | some start =>
      write (closeLiteral l.text start)
      return .textEdit
    | none => return .none
  | _ => return .none

def commentBraces (c : Classified) : Turn := do
  let l ← get
  let here := c.problems.onLine l.number
  if !here.isEmpty && !here.any (fun d => expectsClosing d.message || expectsOpening d.message) then
    return .lineComment
  if (c.problems.onLine (l.number - 1)).any (fun d => expectsClosing d.message) then
    return .lineComment
  if (c.problems.onLine (l.number + 1)).any (fun d => expectsOpening d.message) then
    return .lineComment
  return .none

end Draft

def Strategy.turn (c : Classified) : Strategy → Turn
  | .decompilerArtifacts => Draft.cleanArtifacts
  | .missingTerminator => Draft.endStatement c
  | .missingQuote => Draft.closeQuote c
  | .curlyBraces => Draft.commentBraces c

def Pipeline.run (c : Classified) : Pipeline → StateM Draft (Option Strategy × Decision)
  | [] => return (none, .none)
  | s :: p => do
    let d ← s.turn c
    if d ≠ .none then
      return (some s, d)
    Pipeline.run c p

def Verdict.on (v : Verdict) (l : Draft) : Decision × Draft := (v.decision, ⟨l.number, v.textAfter l.text⟩)

section Turns

variable (c : Classified) (l : Draft)

theorem run_cleanArtifacts : Draft.cleanArtifacts.run l = (decompilerArtifacts l.text).on l := by
  unfold Draft.cleanArtifacts decompilerArtifacts
  simp only [bind, StateT.bind, StateT.run, get, getThe, MonadStateOf.get, StateT.get, pure]
  split
  · rfl
  split
  · rfl
  split
  · rfl
  split
  · rfl
  · rfl

theorem run_endStatement :
    (Draft.endStatement c).run l = (missingTerminator (Evidence.ofLine c l.number).here l.text).on l := by
  unfold Draft.endStatement missingTerminator Evidence.ofLine
  simp only [bind, StateT.bind, StateT.run, get, getThe, MonadStateOf.get, StateT.get, pure]
  rcases c.problems.onLine l.number with _ | ⟨d, _ | ⟨other, more⟩⟩
  · rfl
  · simp only [List.map_cons, List.map_nil]
    cases asksForTerminator d.message with
    | false => rfl
    | true =>
      cases l.text.trim.isEmpty with
      | true => rfl
      | false => cases endsWith ";" l.text.trim <;> rfl
  · rfl

theorem run_closeQuote :
    (Draft.closeQuote c).run l = (missingQuote (Evidence.ofLine c l.number).lexical l.text).on l := by
  unfold Draft.closeQuote missingQuote fragment? Evidence.ofLine
  simp only [bind, StateT.bind, StateT.run, get, getThe, MonadStateOf.get, StateT.get, pure]
  rcases c.lexical.onLine l.number with _ | ⟨f, _ | ⟨other, more⟩⟩
  · rfl
  · simp only [List.map_cons, List.map_nil]
    by_cases open_quote : reportsOpenQuote f.message = true
    · simp only [open_quote, Bool.not_true, Bool.false_eq_true, if_false, if_true, Option.bind_some]
      cases fragmentStart? l.text (openFragment f.message) <;> rfl
    · simp only [open_quote, Bool.not_false, if_true]
      rfl
  · rfl

theorem run_commentBraces :
    (Draft.commentBraces c).run l = (curlyBraces (.ofLine c l.number)).on l := by
  unfold Draft.commentBraces curlyBraces Evidence.ofLine
  simp only [bind, StateT.bind, StateT.run, get, getThe, MonadStateOf.get, StateT.get, pure, List.isEmpty_map,
    List.any_map, Function.comp_def]
  split
  · rfl
  split
  · rfl
  split
  · rfl
  · rfl

/-- No strategy writes to the line unless it decides on an edit, and it reads what it finds there once. -/
theorem run_turn (s : Strategy) : (s.turn c).run l = (s.verdict (.ofLine c l.number) l.text).on l := by
  cases s with
  | decompilerArtifacts => exact run_cleanArtifacts l
  | missingTerminator => exact run_endStatement c l
  | missingQuote => exact run_closeQuote c l
  | curlyBraces => exact run_commentBraces c l

end Turns

section Run

variable (c : Classified) (l : Draft)

def Strategy.decides (s : Strategy) : Decision := ((s.turn c).run l).1

def Strategy.leaves (s : Strategy) : Draft := ((s.turn c).run l).2

def Pipeline.stopsAt (s : Strategy) : (Option Strategy × Decision) × Draft :=
  ((some s, s.decides c l), s.leaves c l)

variable {c l} {s : Strategy} {p q : Pipeline}

theorem decides_eq (s : Strategy) : s.decides c l = (s.verdict (.ofLine c l.number) l.text).decision := by
  rw [Strategy.decides, run_turn]
  rfl

theorem leaves_eq (s : Strategy) :
    s.leaves c l = ⟨l.number, (s.verdict (.ofLine c l.number) l.text).textAfter l.text⟩ := by
  rw [Strategy.leaves, run_turn]
  rfl

theorem decides_eq_none_iff : s.decides c l = .none ↔ s.verdict (.ofLine c l.number) l.text = .leave := by
  rw [decides_eq]
  constructor
  · intro silent
    by_contra fired
    exact decision_ne_none fired silent
  · intro silent
    rw [silent]
    rfl

theorem leaves_of_silent (silent : s.decides c l = .none) : s.leaves c l = l := by
  rw [leaves_eq, decides_eq_none_iff.mp silent]
  rfl

theorem number_leaves (s : Strategy) : (s.leaves c l).number = l.number := by
  rw [leaves_eq]

theorem text_leaves (noEdit : s.decides c l ≠ .textEdit) : (s.leaves c l).text = l.text := by
  rw [decides_eq] at noEdit
  rw [leaves_eq]
  cases verdict : s.verdict (.ofLine c l.number) l.text with
  | leave => rfl
  | commentOut => rfl
  | edit t =>
    rw [verdict] at noEdit
    exact absurd rfl noEdit

theorem run_cons : (Pipeline.run c (s :: p)).run l =
    if s.decides c l ≠ .none then Pipeline.stopsAt c l s else (Pipeline.run c p).run (s.leaves c l) := by
  show (if ((s.turn c).run l).1 ≠ .none then _ else _ : StateM Draft _).run ((s.turn c).run l).2 = _
  unfold Strategy.decides
  split
  · rfl
  · rfl

theorem run_cons_of_fired (fired : s.decides c l ≠ .none) :
    (Pipeline.run c (s :: p)).run l = Pipeline.stopsAt c l s := by
  rw [run_cons, if_pos fired]

theorem run_cons_of_silent (silent : s.decides c l = .none) :
    (Pipeline.run c (s :: p)).run l = (Pipeline.run c p).run l := by
  rw [run_cons, if_neg (not_not_intro silent), leaves_of_silent silent]

theorem run_append_of_silent (silent : ∀ k ∈ q, k.decides c l = .none) :
    (Pipeline.run c (q ++ p)).run l = (Pipeline.run c p).run l := by
  induction q with
  | nil => rfl
  | cons k q ih =>
    have first := silent k List.mem_cons_self
    have rest := ih fun other member => silent other (List.mem_cons_of_mem _ member)
    rw [List.cons_append, run_cons_of_silent first, rest]

theorem run_of_first (silent : ∀ k ∈ q, k.decides c l = .none) (fired : s.decides c l ≠ .none) :
    (Pipeline.run c (q ++ s :: p)).run l = Pipeline.stopsAt c l s := by
  rw [run_append_of_silent silent, run_cons_of_fired fired]

theorem run_of_silent (silent : ∀ k ∈ p, k.decides c l = .none) :
    (Pipeline.run c p).run l = ((none, .none), l) := by
  have handed := run_append_of_silent (p := []) silent
  rw [List.append_nil] at handed
  exact handed

variable (c l p)

theorem exists_first : (∀ k ∈ p, k.decides c l = .none) ∨ ∃ before s after, p = before ++ s :: after ∧
    (∀ k ∈ before, k.decides c l = .none) ∧ s.decides c l ≠ .none := by
  cases found : p.find? (·.decides c l ≠ .none) with
  | none =>
    have silent := List.find?_eq_none.mp found
    exact .inl fun k member => by simpa using silent k member
  | some s =>
    obtain ⟨fired, before, after, shape, silent⟩ := List.find?_eq_some_iff_append.mp found
    exact .inr ⟨before, s, after, shape, fun k member => by simpa using silent k member, by simpa using fired⟩

theorem run_eq_firstVerdict? : (Pipeline.run c p).run l =
    match p.firstVerdict? (.ofLine c l.number) l.text with
    | some (s, v) => ((some s, v.decision), ⟨l.number, v.textAfter l.text⟩)
    | none => ((none, .none), l) := by
  induction p with
  | nil => rfl
  | cons k p ih =>
    by_cases silent : k.decides c l = .none
    · rw [run_cons_of_silent silent, firstVerdict?_cons_of_leave (decides_eq_none_iff.mp silent), ih]
    · have fired := mt decides_eq_none_iff.mpr silent
      rw [run_cons_of_fired silent, firstVerdict?_cons_of_fired fired, Pipeline.stopsAt, decides_eq, leaves_eq]

end Run

/-- A run over the shared line, told by what each strategy does if it alone gets the line. -/
structure FirstMatch (c : Classified) (l : Draft) (p : Pipeline) (result : (Option Strategy × Decision) × Draft) :
    Prop where
  first :
    (∃ before s after, p = before ++ s :: after ∧ (∀ k ∈ before, k.decides c l = .none) ∧
      s.decides c l ≠ .none ∧ result = ((some s, s.decides c l), s.leaves c l) ∧
      ∀ before' after', before'.Sublist before → after'.Sublist after →
        (Pipeline.run c (before' ++ s :: after')).run l = result) ∨
    ((∀ k ∈ p, k.decides c l = .none) ∧ result = ((none, .none), l) ∧
      ∀ q, q.Sublist p → (Pipeline.run c q).run l = result)
  number : result.2.number = l.number
  untouched : result.1.2 ≠ .textEdit → result.2.text = l.text
  verdict : result = match p.firstVerdict? (.ofLine c l.number) l.text with
    | some (s, v) => ((some s, v.decision), ⟨l.number, v.textAfter l.text⟩)
    | none => ((none, .none), l)

/-- Strategies that share a line do to it what the first of them that has something to do would do alone,
and the others might as well be left out. -/
theorem run_firstMatch (c : Classified) (l : Draft) (p : Pipeline) :
    FirstMatch c l p ((Pipeline.run c p).run l) := by
  have verdict := run_eq_firstVerdict? c l p
  rcases exists_first c l p with silent | ⟨before, s, after, rfl, silent, fired⟩
  · have result := run_of_silent silent
    have fewer (q : Pipeline) (part : q.Sublist p) : (Pipeline.run c q).run l = (Pipeline.run c p).run l := by
      rw [result]
      exact run_of_silent fun k member => silent k (part.subset member)
    refine ⟨.inr ⟨silent, result, fewer⟩, ?_, ?_, verdict⟩
    · rw [result]
    · rw [result]
      exact fun _ => rfl
  · have result := run_of_first (p := after) silent fired
    have fewer (before' after' : Pipeline) (part : before'.Sublist before) (_ : after'.Sublist after) :
        (Pipeline.run c (before' ++ s :: after')).run l = (Pipeline.run c (before ++ s :: after)).run l := by
      rw [result]
      exact run_of_first (fun k member => silent k (part.subset member)) fired
    refine ⟨.inl ⟨before, s, after, rfl, silent, fired, result, fewer⟩, ?_, ?_, verdict⟩
    · rw [result]
      exact number_leaves s
    · rw [result]
      exact text_leaves

example : (Pipeline.run ⟨[(7, [.locatedAt "odd" 7])], []⟩ [.missingQuote, .decompilerArtifacts, .curlyBraces]).run
    ⟨7, "  ** GOTO a"⟩ = ((some .decompilerArtifacts, .textEdit), ⟨7, "  break a;"⟩) := by
  rfl

end ParseRepair.Recovery
