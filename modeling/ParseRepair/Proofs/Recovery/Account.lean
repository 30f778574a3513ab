import ParseRepair.Proofs.Recovery.Repair

namespace ParseRepair.Recovery

open Text

namespace Report

def applyTo (r : Report) (ls : List Text) : List Text :=
  r.patches.foldl (fun ls p => ls.set (p.line - 1).toNat p.after) ls

def undoOn (r : Report) (ls : List Text) : List Text :=
  r.patches.foldl (fun ls p => ls.set (p.line - 1).toNat p.before) ls

theorem sum_countIn (name : Text) (counts : List (Text × Nat)) :
    ((countIn name counts).map Prod.snd).sum = (counts.map Prod.snd).sum + 1 := by
  induction counts with
  | nil => rfl
  | cons entry counts ih =>
    obtain ⟨other, k⟩ := entry
    by_cases same : other = name
    · simp only [countIn, if_pos same, List.map_cons, List.sum_cons]
      omega
    · simp only [countIn, if_neg same, List.map_cons, List.sum_cons, ih]
      omega

theorem sum_foldl_countIn (ps : List Patch) (counts : List (Text × Nat)) :
    ((ps.foldl (fun counts p => countIn p.strategy counts) counts).map Prod.snd).sum =
      (counts.map Prod.snd).sum + ps.length := by
  induction ps generalizing counts with
  | nil => rfl
  | cons p ps ih =>
    rw [List.foldl_cons, ih, sum_countIn, List.length_cons]
    omega

theorem sum_byStrategy (r : Report) : (r.byStrategy.map Prod.snd).sum = r.size := by
  rw [byStrategy, sum_foldl_countIn, size]
  exact Nat.zero_add _

end Report

theorem set_after_front (front rest : List Text) (old new : Text) :
    (front ++ old :: rest).set front.length new = front ++ new :: rest := by
  rw [List.set_append_right _ _ (Nat.le_refl _), Nat.sub_self]
  rfl

/-- Replacing the recorded lines one after the other leads from the old text of every line to its new
one, if a line without a record has the same text on both sides. -/
theorem foldl_set_patches (record : Line → Option Patch) (put : Patch → Text) (old new : Line → Text)
    (kept : ∀ l, record l = none → old l = new l)
    (replaced : ∀ l p, record l = some p → p.line = l.number ∧ put p = new l)
    (ls : List Line) (front : List Text)
    (numbers : ∀ i l, ls[i]? = some l → l.number = front.length + i + 1) :
    (ls.filterMap record).foldl (fun ts p => ts.set (p.line - 1).toNat (put p)) (front ++ ls.map old) =
      front ++ ls.map new := by
  induction ls generalizing front with
  | nil => rfl
  | cons l ls ih =>
    have number : l.number = front.length + 1 := numbers 0 l rfl
    have rest : ∀ i k, ls[i]? = some k → k.number = (front ++ [new l]).length + i + 1 := by
      intro i k found
      have next := numbers (i + 1) k found
      rw [List.length_append, List.length_singleton]
      omega
    have onward := ih (front ++ [new l]) rest
    rw [List.append_assoc, List.append_assoc, List.singleton_append, List.singleton_append] at onward
    cases recorded : record l with
    | none =>
      rw [List.filterMap_cons_none recorded, List.map_cons, List.map_cons, kept l recorded]
      exact onward
    | some p =>
      obtain ⟨place, text⟩ := replaced l p recorded
      have index : (p.line - 1).toNat = front.length := by omega
      rw [List.filterMap_cons_some recorded, List.foldl_cons, List.map_cons, List.map_cons, index,
        set_after_front, text]
      exact onward

/-- What the record of a repair says of its source and of its text. -/
structure Account (m : Method) (c : Classified) (source : Text) (r : Repair) : Prop where
  count : (sourceLines r.text).length = (sourceLines source).length
  increasing : (r.report.patches.map Patch.line).Pairwise (· < ·)
  within : ∀ p ∈ r.report.patches, 1 ≤ p.line ∧ p.line ≤ (sourceLines source).length
  complete : ∀ i : Nat, 1 ≤ i → i ≤ (sourceLines source).length →
    ((∃ p ∈ r.report.patches, p.line = i) ↔ (sourceLines r.text)[i - 1]? ≠ (sourceLines source)[i - 1]?)
  exact : ∀ p ∈ r.report.patches,
    (sourceLines source)[(p.line - 1).toNat]? = some p.before ∧
    (sourceLines r.text)[(p.line - 1).toNat]? = some p.after ∧
    ∃ s, m.pipeline.Fires (.ofLine c p.line) p.before s ∧ p.strategy = s.name ∧
      p.decision = (s.verdict (.ofLine c p.line) p.before).decision ∧ p.decision ≠ .none
  applied : unlines (r.report.applyTo (sourceLines source)) = r.text
  undone : unlines (r.report.undoOn (sourceLines r.text)) = withLineFeeds source
  changed : r.report.changed = true ↔ r.text ≠ withLineFeeds source
  counted : (r.report.byStrategy.map Prod.snd).sum = r.report.size

section

variable (m : Method) (c : Classified) (t : Text)

theorem number_at {ls : List Text} {i : Nat} {l : Line} (found : (Line.numbered ls)[i]? = some l) :
    l.number = ([] : List Text).length + i + 1 := by
  rw [Line.getElem?_numbered] at found
  obtain ⟨u, _, rfl⟩ := Option.map_eq_some_iff.mp found
  rw [List.length_nil, Nat.zero_add]

theorem applyTo_ofText : (Repair.ofText m c t).report.applyTo (sourceLines t) = Repair.linesAfter m c t := by
  have kept (l : Line) (none_here : l.repair? m (.ofLine c l.number) = none) :
      l.text = l.repaired m (.ofLine c l.number) := (Line.repaired_of_none none_here).symm
  have replaced (l : Line) (p : Patch) (some_here : l.repair? m (.ofLine c l.number) = some p) :
      p.line = l.number ∧ p.after = l.repaired m (.ofLine c l.number) :=
    ⟨Line.line_of_repair? some_here, (Line.repaired_of_some some_here).symm⟩
  have result := foldl_set_patches _ Patch.after Line.text _ kept replaced
    (Line.numbered (sourceLines t)) [] fun _ _ found => number_at found
  rw [List.nil_append, List.nil_append, Line.map_text_numbered] at result
  exact result

theorem undoOn_ofText : (Repair.ofText m c t).report.undoOn (Repair.linesAfter m c t) = sourceLines t := by
  have kept (l : Line) (none_here : l.repair? m (.ofLine c l.number) = none) :
      l.repaired m (.ofLine c l.number) = l.text := Line.repaired_of_none none_here
  have replaced (l : Line) (p : Patch) (some_here : l.repair? m (.ofLine c l.number) = some p) :
      p.line = l.number ∧ p.before = l.text :=
    ⟨Line.line_of_repair? some_here, Line.before_of_repair? some_here⟩
  have result := foldl_set_patches _ Patch.before _ Line.text kept replaced
    (Line.numbered (sourceLines t)) [] fun _ _ found => number_at found
  rw [List.nil_append, List.nil_append, Line.map_text_numbered] at result
  exact result

theorem changed_ofText : (Repair.ofText m c t).report.changed = true ↔
    (Repair.ofText m c t).text ≠ withLineFeeds t := by
  constructor
  · intro changed same
    have some_patch : (Repair.ofText m c t).report.patches ≠ [] := by simpa [Report.changed] using changed
    obtain ⟨p, recorded⟩ := List.exists_mem_of_ne_nil _ some_patch
    obtain ⟨positive, bound⟩ := Repair.place_of_patch m c t recorded
    have differs := (Repair.exists_patch_iff m c t p.line.toNat (by omega) (by omega)).mp
      ⟨p, recorded, by omega⟩
    rw [← Repair.sourceLines_ofText, same, sourceLines_withLineFeeds] at differs
    exact differs rfl
  · intro differs
    cases changed : (Repair.ofText m c t).report.changed with
    | true => rfl
    | false =>
      have none_made : (Repair.ofText m c t).report.patches = [] := by simpa [Report.changed] using changed
      have applied := applyTo_ofText m c t
      rw [Report.applyTo, none_made, List.foldl_nil] at applied
      rw [Repair.text_ofText, ← applied, unlines_sourceLines] at differs
      exact absurd rfl differs

theorem account_ofText : Account m c t (Repair.ofText m c t) where
  count := by rw [Repair.sourceLines_ofText, Repair.length_linesAfter]
  increasing := List.pairwise_map.mpr (Repair.increasing_patches m c t)
  within _ recorded := Repair.place_of_patch m c t recorded
  complete i positive bound := by
    rw [Repair.sourceLines_ofText]
    exact Repair.exists_patch_iff m c t i positive bound
  exact p recorded := by
    obtain ⟨before, after⟩ := Repair.texts_of_patch m c t recorded
    rw [Repair.sourceLines_ofText]
    exact ⟨before, after, Repair.maker_of_patch m c t recorded⟩
  applied := by rw [applyTo_ofText, Repair.text_ofText]
  undone := by rw [Repair.sourceLines_ofText, undoOn_ofText, unlines_sourceLines]
  changed := changed_ofText m c t
  counted := Report.sum_byStrategy _

end

/-- The record of a repair tells exactly which lines it changed, how, and by which strategy. -/
theorem ofSource_account (m : Method) (c : Classified) (s : Source) (t : Text) (read : s.read = .ok t) :
    ∃ r, (Repair.ofSource m c s).outcome = .ok r ∧ Account m c t r :=
  ⟨_, Repair.ofSource_outcome m c s t read, account_ofText m c t⟩

theorem account_of_problems :
    (Source.text "a\rbcd\n** case x").read = .ok "a\rbcd\n** case x".toList ∧
      ∃ r, (Repair.ofSource ⟨[.curlyBraces, .decompilerArtifacts, .curlyBraces], true⟩
          ⟨[(1, [.locatedAt "odd" 1]), (2, [.locatedAt "odd" 2])], []⟩
          (.text "a\rbcd\n** case x")).outcome = .ok r ∧
        Account ⟨[.curlyBraces, .decompilerArtifacts, .curlyBraces], true⟩
          ⟨[(1, [.locatedAt "odd" 1]), (2, [.locatedAt "odd" 2])], []⟩ "a\rbcd\n** case x" r ∧
        r.text = "a\n//d\n   case x\n" := by
  obtain ⟨r, ran, account⟩ := ofSource_account ⟨[.curlyBraces, .decompilerArtifacts, .curlyBraces], true⟩
    ⟨[(1, [.locatedAt "odd" 1]), (2, [.locatedAt "odd" 2])], []⟩ (.text "a\rbcd\n** case x") _ rfl
  have text : (Repair.ofSource ⟨[.curlyBraces, .decompilerArtifacts, .curlyBraces], true⟩
      ⟨[(1, [.locatedAt "odd" 1]), (2, [.locatedAt "odd" 2])], []⟩
      (.text "a\rbcd\n** case x")).outcome.toOption.map Repair.text =
        some "a\n//d\n   case x\n".toList := by
    decide +kernel
  rw [ran] at text
  exact ⟨rfl, r, ran, account, Option.some.inj text⟩

end ParseRepair.Recovery
