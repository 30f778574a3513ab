import ParseRepair.Proofs.Config.Layers
import ParseRepair.Proofs.Config.Table
import ParseRepair.Recovery.Pass

namespace ParseRepair.Recovery

open Config

/-- What a layer takes over from settings: the layer has no warnings, and a pass cannot tell the frozen layer
from the settings. -/
structure Restores (l : Layer) (s : Settings) : Prop where
  quiet : l.warnings = []
  strategies : l.freeze.strategies = s.strategies
  pad : l.freeze.pad = s.pad
  repairs : ∀ source ds, patchSource source ds l.freeze = patchSource source ds s

theorem patchSource_congr {s s' : Settings} (strategies : s.strategies = s'.strategies) (pad : s.pad = s'.pad)
    (source : Source) (ds : List Diagnostic) : patchSource source ds s = patchSource source ds s' := by
  simp only [patchSource, Method.ofSettings, strategies, pad]

theorem restores_toTable (name : Text) (s : Settings) :
    ∃ table, s.toTable = .object table ∧ Restores (Layer.ofTable name table) s := by
  obtain ⟨table, written, makes⟩ := makesLayer_toTable name s
  refine ⟨table, written, ?_⟩
  rw [← (makesLayer_iff name table _).mp makes]
  exact ⟨rfl, rfl, rfl, patchSource_congr rfl rfl⟩

/-- Layers are merged in any grouping, settings come back from a layer and from a table, and a stack of
layers can be frozen on the way. -/
theorem settings_algebra :
    (∀ a b c : Layer, (a.merge b).merge c = a.merge (b.merge c)) ∧
    (∀ l : Layer, Layer.merge {} l = l ∧ l.merge {} = l) ∧
    (∀ s : Settings, s.thaw.freeze = s) ∧
    (∀ (name : Text) (s : Settings),
      ∃ table, s.toTable = .object table ∧ Restores (Layer.ofTable name table) s) ∧
    (∀ s s' : Settings, s.toTable = s'.toTable ↔ s.strategies = s'.strategies ∧ s.pad = s'.pad) ∧
    ∀ below above : List Layer,
      (Layer.stack (below ++ above)).freeze = (above.foldl Layer.merge (Layer.stack below).freeze.thaw).freeze :=
  ⟨Layer.merge_assoc, fun l => ⟨Layer.empty_merge l, Layer.merge_empty l⟩, freeze_thaw, restores_toTable,
    toTable_eq_iff, freeze_stack_append⟩

end ParseRepair.Recovery
