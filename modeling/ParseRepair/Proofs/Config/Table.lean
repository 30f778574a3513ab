import ParseRepair.Config.Table

namespace ParseRepair.Config

/-- What a table says under a key, where `written` is how a value of the right kind is written. A value
of another kind sets nothing, and that is a misuse. -/
inductive Says {α : Type} (key : Text) (written : α → Value) (misuse : Misuse) (fields : Value.Fields) :
    Option α → List Misuse → Prop
  | unset (missing : Value.lookup? key fields = none ∨ Value.lookup? key fields = some .null) :
    Says key written misuse fields none []
  | set (a : α) (held : Value.lookup? key fields = some (written a)) : Says key written misuse fields (some a) []
  | illTyped (v : Value) (held : Value.lookup? key fields = some v) (present : v ≠ .null)
    (other : ∀ a, v ≠ written a) : Says key written misuse fields none [misuse]

def namesValue (names : List Text) : Value := .list (names.map .text)

def warningText (source : Text) (m : Misuse) : Text := .concat [source, ": ", m.text]

inductive MakesLayer (source : Text) (table : Value.Fields) : Layer → Prop
  | settings (recovery : Value.Fields)
    (held : Value.lookup? "recovery" table = some (.object recovery) ∨
      Value.lookup? "recovery" table = none ∧ recovery = [])
    {strategies : Option (List Text)} {pad : Option Bool} {misuses misuses' : List Misuse}
    (names : Says "strategies" namesValue .strategiesNotNames recovery strategies misuses)
    (padding : Says "pad-shortened-lines" .bool .padNotBoolean recovery pad misuses') :
    MakesLayer source table ⟨strategies, pad, [], misuses.map (warningText source) ++ misuses'.map (warningText source)⟩
  | notTable (v : Value) (held : Value.lookup? "recovery" table = some v) (other : ∀ fields, v ≠ .object fields) :
    MakesLayer source table ⟨none, none, [], [warningText source .recoveryNotTable]⟩

theorem textsOf_eq_some_iff (items : List Value) (names : List Text) :
    textsOf items = some names ↔ items = names.map .text := by
  induction items generalizing names with
  | nil => cases names <;> simp [textsOf]
  | cons v items ih =>
    cases v with
    | text t =>
      cases names with
      | nil => simp [textsOf]
      | cons name names =>
        simp only [textsOf, Option.map_eq_map, Option.map_eq_some_iff, ih, List.map_cons, List.cons.injEq,
          Value.text.injEq]
        constructor
        · rintro ⟨_, rfl, rfl, rfl⟩
          exact ⟨rfl, rfl⟩
        · rintro ⟨rfl, rfl⟩
          exact ⟨names, rfl, rfl, rfl⟩
    | _ => cases names <;> simp [textsOf]

theorem strategiesOf_eq_some_iff (v : Value) (names : List Text) :
    strategiesOf v = some names ↔ v = namesValue names := by
  cases v with
  | list items => simp [strategiesOf, namesValue, textsOf_eq_some_iff]
  | _ => simp [strategiesOf, namesValue]

theorem padOf_eq_some_iff (v : Value) (b : Bool) : padOf v = some b ↔ v = .bool b := by
  cases v <;> simp [padOf]

theorem says_setting {α : Type} (key : Text) (misuse : Misuse) {read : Value → Option α} {written : α → Value}
    (exact_reader : ∀ v a, read v = some a ↔ v = written a) (some_value : ∀ a, written a ≠ .null)
    (fields : Value.Fields) (got : Option α) (misuses : List Misuse) :
    Says key written misuse fields got misuses ↔ setting key read misuse fields = (got, misuses) := by
  constructor
  · intro told
    cases told with
    | unset missing =>
      rcases missing with missing | missing
      · rw [setting, missing]
      · rw [setting, missing]
    | set a held =>
      have present := some_value a
      have found := (exact_reader (written a) a).mpr rfl
      simp [setting, held, found]
    | illTyped v held present other =>
      have unread : read v = none := by
        cases found : read v with
        | none => rfl
        | some a => exact absurd ((exact_reader v a).mp found) (other a)
      simp [setting, held, unread]
  · intro made
    unfold setting at made
    split at made
    · rename_i missing
      cases made
      exact .unset (.inl missing)
    · rename_i missing
      cases made
      exact .unset (.inr missing)
    · rename_i v present held
      split at made
      · rename_i a found
        cases made
        rw [(exact_reader v a).mp found] at held
        exact .set a held
      · rename_i unread
        cases made
        refine .illTyped v held present ?_
        intro a same
        rw [(exact_reader v a).mpr same] at unread
        cases unread

theorem ofTable_of_recovery {table recovery : Value.Fields} (source : Text)
    (held : (Value.lookup? "recovery" table).getD (.object []) = .object recovery) :
    Layer.ofTable source table =
      ⟨(setting "strategies" strategiesOf .strategiesNotNames recovery).1,
        (setting "pad-shortened-lines" padOf .padNotBoolean recovery).1, [],
        (setting "strategies" strategiesOf .strategiesNotNames recovery).2.map (warningText source) ++
          (setting "pad-shortened-lines" padOf .padNotBoolean recovery).2.map (warningText source)⟩ := by
  rw [← List.map_append]
  simp only [Layer.ofTable, readTable, held]
  rfl

theorem ofTable_of_notTable {table : Value.Fields} {v : Value} (source : Text)
    (held : Value.lookup? "recovery" table = some v) (other : ∀ fields, v ≠ .object fields) :
    Layer.ofTable source table = ⟨none, none, [], [warningText source .recoveryNotTable]⟩ := by
  cases v with
  | object fields => exact absurd rfl (other fields)
  | _ =>
    simp only [Layer.ofTable, readTable, held, Option.getD_some]
    rfl

theorem makesLayer_iff (source : Text) (table : Value.Fields) (l : Layer) :
    MakesLayer source table l ↔ l = Layer.ofTable source table := by
  have names (recovery : Value.Fields) := says_setting "strategies" .strategiesNotNames
    strategiesOf_eq_some_iff (fun _ same => nomatch same) recovery
  have padding (recovery : Value.Fields) := says_setting "pad-shortened-lines" .padNotBoolean
    padOf_eq_some_iff (fun _ same => nomatch same) recovery
  constructor
  · intro makes
    cases makes with
    | settings recovery held names' padding' =>
      have table_of : (Value.lookup? "recovery" table).getD (.object []) = .object recovery := by
        rcases held with held | ⟨missing, rfl⟩
        · rw [held, Option.getD_some]
        · rw [missing, Option.getD_none]
      rw [ofTable_of_recovery source table_of, (names recovery _ _).mp names', (padding recovery _ _).mp padding']
    | notTable v held other => exact (ofTable_of_notTable source held other).symm
  · rintro rfl
    have made (recovery : Value.Fields) := fun held =>
      @MakesLayer.settings source table recovery held _ _ _ _ ((names recovery _ _).mpr rfl)
        ((padding recovery _ _).mpr rfl)
    cases held : Value.lookup? "recovery" table with
    | none =>
      have nothing : (Value.lookup? "recovery" table).getD (.object []) = .object [] := by
        rw [held, Option.getD_none]
      rw [ofTable_of_recovery source nothing]
      exact made [] (.inr ⟨held, rfl⟩)
    | some v =>
      by_cases whole : ∃ recovery, v = .object recovery
      · obtain ⟨recovery, rfl⟩ := whole
        rw [ofTable_of_recovery source (by rw [held, Option.getD_some])]
        exact made recovery (.inl held)
      · have other : ∀ fields, v ≠ .object fields := fun fields same => whole ⟨fields, same⟩
        rw [ofTable_of_notTable source held other]
        exact .notTable v held other

section Written

def writtenFields (s : Settings) : Value.Fields :=
  ("pad-shortened-lines".toList, .bool s.pad) ::
    match s.strategies with
    | none => []
    | some names => [("strategies".toList, namesValue names)]

theorem says_writtenStrategies (s : Settings) :
    Says "strategies" namesValue .strategiesNotNames (writtenFields s) s.strategies [] := by
  cases chosen : s.strategies with
  | none =>
    refine .unset (.inl ?_)
    rw [writtenFields, chosen]
    rfl
  | some names =>
    refine .set names ?_
    rw [writtenFields, chosen]
    rfl

theorem says_writtenPadding (s : Settings) :
    Says "pad-shortened-lines" .bool .padNotBoolean (writtenFields s) (some s.pad) [] := .set s.pad rfl

theorem makesLayer_toTable (source : Text) (s : Settings) :
    ∃ table, s.toTable = .object table ∧ MakesLayer source table ⟨s.strategies, some s.pad, [], []⟩ :=
  ⟨_, rfl, .settings (writtenFields s) (.inl rfl) (says_writtenStrategies s) (says_writtenPadding s)⟩

theorem toTable_eq_iff (s s' : Settings) :
    s.toTable = s'.toTable ↔ s.strategies = s'.strategies ∧ s.pad = s'.pad := by
  constructor
  · intro same
    obtain ⟨table, written, makes⟩ := makesLayer_toTable [] s
    obtain ⟨table', written', makes'⟩ := makesLayer_toTable [] s'
    -- The two tables are one, and it makes one layer.
    have tables : table = table' := Value.object.inj (written.symm.trans (same.trans written'))
    have layers := ((makesLayer_iff [] table _).mp makes).trans (tables ▸ (makesLayer_iff [] table' _).mp makes').symm
    simp only [Layer.mk.injEq, Option.some.injEq] at layers
    exact ⟨layers.1, layers.2.1⟩
  · rintro ⟨strategies, pad⟩
    simp only [Settings.toTable, strategies, pad]

end Written

end ParseRepair.Config
