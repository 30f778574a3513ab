import ParseRepair.Cli.Patch
import ParseRepair.Proofs.Config.Loading

namespace ParseRepair.Cli

open Config
open Files (Entry Tree)

structure OfWords (r : PatchRequest) (l : Layer) : Prop where
  strategies : (r.strategies = [] ∧ l.strategies = none) ∨ (r.strategies ≠ [] ∧ l.strategies = some r.strategies)
  pad : l.pad = r.pad
  files : l.files = []
  warnings : l.warnings = []

/-- The settings that files and a command line make: the files that a search from `start` finds are read,
then the extra ones, and the command line comes last. -/
def Settles (limits : Toml.Limits) (tree : Tree) (start : Option Path) (extra : List Path) (r : PatchRequest)
    (s : Settings) : Prop :=
  ∃ found layers words, Discovers limits tree start found ∧ Contributes limits tree (found ++ extra) layers ∧
    OfWords r words ∧ Effective (layers ++ [words]) s

theorem ofWords_iff (r : PatchRequest) (l : Layer) : OfWords r l ↔ l = overrides r := by
  constructor
  · intro words
    obtain ⟨strategies, pad, files, warnings⟩ := words
    cases l
    simp only at strategies pad files warnings
    subst pad files warnings
    rcases strategies with ⟨none_named, rfl⟩ | ⟨named, rfl⟩
    · simp [overrides, none_named]
    · simp [overrides, named]
  · rintro rfl
    refine ⟨?_, rfl, rfl, rfl⟩
    by_cases none_named : r.strategies = []
    · exact .inl ⟨none_named, by simp [overrides, none_named]⟩
    · exact .inr ⟨none_named, by simp [overrides, none_named]⟩

theorem settles_iff (limits : Toml.Limits) (tree : Tree) (start : Option Path) (extra : List Path) (r : PatchRequest)
    (s : Settings) :
    Settles limits tree start extra r s ↔
      ∃ lower, (loadMerged limits tree start extra).outcome = .ok lower ∧ s = (lower.merge (overrides r)).freeze := by
  simp only [Settles, ofWords_iff, effective_iff, loadMerged_eq_ok_iff]
  constructor
  · rintro ⟨found, layers, words, discovers, contributes, rfl, rfl⟩
    exact ⟨Layer.stack layers, ⟨found, layers, discovers, contributes, rfl⟩, by rw [Layer.stack_concat]⟩
  · rintro ⟨lower, ⟨found, layers, discovers, contributes, rfl⟩, rfl⟩
    exact ⟨found, layers, _, discovers, contributes, rfl, by rw [Layer.stack_concat]⟩

theorem loadSettings_eq_ok_iff (limits : Toml.Limits) (tree : Tree) (r : PatchRequest) (s : Settings) :
    (loadSettings limits tree r).outcome = .ok s ↔
      ∃ lower, (loadMerged limits tree (searchStart tree r) (r.configFiles.map Path.ofText)).outcome = .ok lower ∧
        s = (lower.merge (overrides r)).freeze := by
  unfold loadSettings
  simp only [Traced.bind_eq_ok_iff, Step.logged, Traced.outcome_mapError, Traced.outcome_mapTrace,
    mapError_eq_ok_iff, Traced.outcome_pure, Except.ok.injEq]
  simp only [eq_comm (a := s)]

/-- Settings are made exactly if all files involved load, and then each of them is what the last layer
says that sets it, or else its default. -/
theorem settings_effective (limits : Toml.Limits) (tree : Tree) (start : Option Path) (extra : List Path)
    (r : PatchRequest) (s : Settings) :
    ((∃ lower, (loadMerged limits tree start extra).outcome = .ok lower ∧ s = (lower.merge (overrides r)).freeze) ↔
      Settles limits tree start extra r s) ∧
    ((loadSettings limits tree r).outcome = .ok s ↔
      Settles limits tree (searchStart tree r) (r.configFiles.map Path.ofText) r s) :=
  ⟨(settles_iff limits tree start extra r s).symm,
    (loadSettings_eq_ok_iff limits tree r s).trans (settles_iff limits tree _ _ r s).symm⟩

def layeredTree : Tree where
  entry? l :=
    if l = [] ∨ l = ["w".toList] then some .directory
    else if l = [sharedName] then some (.file (Utf8.encode "root = true\n[tool.sourcemend]\nrecovery = 1\n"))
    else if l = ["w".toList, ownName] then
      some (.file (Utf8.encode "[recovery]\nstrategies = []\npad-shortened-lines = 3\n"))
    else if l = ["w".toList, "x.toml".toList] then
      some (.file (Utf8.encode "[recovery]\npad-shortened-lines = false\n"))
    else none
  current := ["w"]

theorem settled_by_threeFiles :
    Settles ⟨490, 980, 2, 3, 75⟩ layeredTree (some ⟨1, ["w"]⟩) [⟨0, ["x.toml"]⟩]
      ⟨"-", "d.json", .source, ["x.toml"], false, [], none⟩
      ⟨some [], false, [⟨1, [sharedName]⟩, ⟨1, ["w", ownName]⟩, ⟨0, ["x.toml"]⟩],
        ["/pyproject.toml: [recovery] must be a table",
          "/w/sourcemend.toml: 'pad-shortened-lines' must be a boolean"]⟩ := by
  refine (settings_effective ⟨490, 980, 2, 3, 75⟩ layeredTree (some ⟨1, ["w"]⟩) [⟨0, ["x.toml"]⟩] _ _).1.mp ?_
  have loaded : (loadMerged ⟨490, 980, 2, 3, 75⟩ layeredTree (some ⟨1, ["w"]⟩) [⟨0, ["x.toml"]⟩]).outcome.toOption =
      some ⟨some [], some false, [⟨1, [sharedName]⟩, ⟨1, ["w", ownName]⟩, ⟨0, ["x.toml"]⟩],
        ["/pyproject.toml: [recovery] must be a table",
          "/w/sourcemend.toml: 'pad-shortened-lines' must be a boolean"]⟩ := by
    decide +kernel
  cases outcome : (loadMerged ⟨490, 980, 2, 3, 75⟩ layeredTree (some ⟨1, ["w"]⟩) [⟨0, ["x.toml"]⟩]).outcome with
  | error e =>
    rw [outcome] at loaded
    cases loaded
  | ok lower =>
    rw [outcome] at loaded
    exact ⟨lower, rfl, by rw [Option.some.inj loaded]; rfl⟩

end ParseRepair.Cli
