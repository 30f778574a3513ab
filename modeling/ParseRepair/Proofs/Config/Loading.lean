import Mathlib.Data.List.Infix
import ParseRepair.Config.Loading
import ParseRepair.Proofs.Config.Layers
import ParseRepair.Proofs.Config.Table
import ParseRepair.Proofs.Traced

namespace ParseRepair.Config

open Files (Location Tree)

variable {limits : Toml.Limits} {tree : Tree} {path : Path}

section File

def OwnPart (document : Value) (table : Value.Fields) : Prop :=
  ∃ tool, Value.get? "tool" document = some tool ∧ Value.get? "sourcemend" tool = some (.object table)

inductive HasTable (path : Path) (document : Value) : Option Value.Fields → Prop
  | own (table : Value.Fields) (name : path.name ≠ sharedName) (whole : document = .object table) :
    HasTable path document (some table)
  | shared (table : Value.Fields) (name : path.name = sharedName) (part : OwnPart document table) :
    HasTable path document (some table)
  | missing (name : path.name = sharedName) (nothing : ∀ table, ¬ OwnPart document table) :
    HasTable path document none

def Loads (limits : Toml.Limits) (tree : Tree) (path : Path) (table : Option Value.Fields) : Prop :=
  ∃ document, loadDocument limits tree path = .ok document ∧ HasTable path document table

theorem object_of_read {t : Text} {document : Value} (read : Toml.read limits t = .ok document) :
    ∃ table, document = .object table := by
  rw [Toml.read] at read
  cases body : Toml.topLevel limits (2 * (Toml.statements limits (t.length + 1) t).length + 2) []
      (Toml.statements limits (t.length + 1) t) with
  | error e =>
    rw [body] at read
    cases read
  | ok b =>
    rw [body] at read
    obtain ⟨table, _, rfl⟩ : ∃ table,
        Toml.Body.fields limits (2 * b.levels) b = .ok table ∧ .object table = document := by
      have value := mapError_eq_ok_iff.mp read
      cases fields : Toml.Body.fields limits (2 * b.levels) b with
      | error e =>
        rw [Toml.Body.value, fields] at value
        cases value
      | ok table =>
        rw [Toml.Body.value, fields] at value
        exact ⟨table, rfl, Except.ok.inj value⟩
    exact ⟨table, rfl⟩

theorem object_of_loadDocument {document : Value} (loaded : loadDocument limits tree path = .ok document) :
    ∃ table, document = .object table := by
  unfold loadDocument at loaded
  cases bytes : (tree.read path).mapError (LoadError.ofAccess path) with
  | error e =>
    rw [bytes] at loaded
    cases loaded
  | ok bytes' =>
    cases text : (Utf8.decode bytes').mapError LoadError.undecodable with
    | error e =>
      simp only [bytes, text, bind, Except.bind] at loaded
      cases loaded
    | ok t =>
      simp only [bytes, text, bind, Except.bind] at loaded
      exact object_of_read (mapError_eq_ok_iff.mp loaded)

theorem ownPart_iff (document : Value) (table : Value.Fields) :
    OwnPart document table ↔
      Value.get? "sourcemend" ((Value.get? "tool" document).getD (.object [])) = some (.object table) := by
  unfold OwnPart
  cases Value.get? "tool" document with
  | none =>
    constructor
    · rintro ⟨tool, found, _⟩
      cases found
    · intro found
      cases found
  | some tool =>
    constructor
    · rintro ⟨held, same, part⟩
      cases same
      exact part
    · exact fun part => ⟨tool, rfl, part⟩

theorem tableIn?_of_shared (name : path.name = sharedName) (document : Value) (v : Value) :
    tableIn? path document = some v ↔ ∃ table, OwnPart document table ∧ v = .object table := by
  have shared : (path.name != sharedName) = false := by simpa using name
  simp only [ownPart_iff, tableIn?, shared, Bool.false_eq_true, if_false]
  split
  · rename_i table found
    constructor
    · intro same
      exact ⟨table, found, (Option.some.inj same).symm⟩
    · rintro ⟨table', part, rfl⟩
      exact found.symm.trans part
  · rename_i other
    constructor
    · exact fun none_there => nomatch none_there
    · rintro ⟨table, found, _⟩
      exact absurd found (other table)

theorem hasTable_iff {document : Value} (object : ∃ table, document = .object table)
    (table : Option Value.Fields) :
    HasTable path document table ↔ table = (tableIn? path document).map fieldsOf := by
  by_cases name : path.name = sharedName
  · constructor
    · intro has
      cases has with
      | own table other whole => exact absurd name other
      | shared table _ part =>
        rw [(tableIn?_of_shared name document _).mpr ⟨table, part, rfl⟩]
        rfl
      | missing _ nothing =>
        cases found : tableIn? path document with
        | none => rfl
        | some v =>
          obtain ⟨table, part, _⟩ := (tableIn?_of_shared name document v).mp found
          exact absurd part (nothing table)
    · rintro rfl
      cases found : tableIn? path document with
      | none =>
        refine .missing name fun table part => ?_
        rw [(tableIn?_of_shared name document _).mpr ⟨table, part, rfl⟩] at found
        cases found
      | some v =>
        obtain ⟨table, part, rfl⟩ := (tableIn?_of_shared name document v).mp found
        exact .shared table name part
  · obtain ⟨whole, rfl⟩ := object
    have own : (path.name != sharedName) = true := by simpa using name
    rw [tableIn?, if_pos own]
    constructor
    · intro has
      cases has with
      | own table _ same => rw [← Value.object.inj same]; rfl
      | shared table shared _ => exact absurd shared name
      | missing shared _ => exact absurd shared name
    · rintro rfl
      exact .own whole name rfl

theorem outcome_extractTable {ε : Type} (path : Path) (document : Value) :
    (extractTable (ε := ε) path document).outcome = .ok (tableIn? path document) := by
  unfold extractTable
  cases tableIn? path document <;> rfl

theorem loadTable_eq_ok_iff (table : Option Value.Fields) :
    (loadTable limits tree path).outcome = .ok table ↔ Loads limits tree path table := by
  unfold Loads loadTable
  rw [Traced.bind_eq_ok_iff]
  constructor
  · rintro ⟨document, loaded, extracted⟩
    rw [Traced.outcome_bind_of_ok (outcome_extractTable path document)] at extracted
    exact ⟨document, loaded, (hasTable_iff (object_of_loadDocument loaded) table).mpr (Except.ok.inj extracted).symm⟩
  · rintro ⟨document, loaded, has⟩
    refine ⟨document, loaded, ?_⟩
    rw [Traced.outcome_bind_of_ok (outcome_extractTable path document),
      (hasTable_iff (object_of_loadDocument loaded) table).mp has]
    rfl

end File

section Layers

/-- The layers of some settings files, in order. A file without a table of ours makes none. -/
inductive Contributes (limits : Toml.Limits) (tree : Tree) : List Path → List Layer → Prop
  | nil : Contributes limits tree [] []
  | bare {path : Path} {paths : List Path} {layers : List Layer} (loads : Loads limits tree path none)
    (rest : Contributes limits tree paths layers) :
    Contributes limits tree (path :: paths) layers
  | layer {path : Path} {table : Value.Fields} {l : Layer} {paths : List Path} {layers : List Layer}
    (loads : Loads limits tree path (some table)) (makes : MakesLayer path.text table l)
    (rest : Contributes limits tree paths layers) :
    Contributes limits tree (path :: paths) ({ l with files := [path] } :: layers)

theorem loadLayer_eq_ok_iff (found : Option Layer) : (loadLayer limits tree path).outcome = .ok found ↔
    ∃ table, Loads limits tree path table ∧
      found = table.map fun table => { Layer.ofTable path.text table with files := [path] } := by
  unfold loadLayer
  rw [Traced.outcome_bind_of_ok (Traced.outcome_emit _), Traced.bind_eq_ok_iff]
  constructor
  · rintro ⟨table, loaded, made⟩
    refine ⟨table, (loadTable_eq_ok_iff table).mp loaded, ?_⟩
    cases table with
    | none => exact (Except.ok.inj made).symm
    | some table => exact (Except.ok.inj made).symm
  · rintro ⟨table, loads, rfl⟩
    refine ⟨table, (loadTable_eq_ok_iff table).mpr loads, ?_⟩
    cases table <;> rfl

theorem mergeFiles_eq_ok_iff (base : Layer) (paths : List Path) (l : Layer) :
    (mergeFiles limits tree base paths).outcome = .ok l ↔
      ∃ layers, Contributes limits tree paths layers ∧ l = layers.foldl Layer.merge base := by
  induction paths generalizing base with
  | nil =>
    constructor
    · intro done
      exact ⟨[], .nil, (Except.ok.inj done).symm⟩
    · rintro ⟨layers, contributes, rfl⟩
      cases contributes
      rfl
  | cons path paths ih =>
    rw [mergeFiles, Traced.bind_eq_ok_iff]
    constructor
    · rintro ⟨found, loaded, merged⟩
      obtain ⟨table, loads, rfl⟩ := (loadLayer_eq_ok_iff found).mp loaded
      cases table with
      | none =>
        obtain ⟨layers, contributes, rfl⟩ := (ih base).mp merged
        exact ⟨layers, .bare loads contributes, rfl⟩
      | some table =>
        obtain ⟨layers, contributes, rfl⟩ := (ih _).mp merged
        exact ⟨_ :: layers, .layer loads ((makesLayer_iff _ _ _).mpr rfl) contributes, rfl⟩
    · rintro ⟨layers, contributes, rfl⟩
      cases contributes with
      | bare loads rest => exact ⟨_, (loadLayer_eq_ok_iff _).mpr ⟨none, loads, rfl⟩, (ih base).mpr ⟨_, rest, rfl⟩⟩
      | @layer _ table _ _ layers loads makes rest =>
        obtain rfl := (makesLayer_iff _ _ _).mp makes
        exact ⟨_, (loadLayer_eq_ok_iff _).mpr ⟨some table, loads, rfl⟩, (ih _).mpr ⟨layers, rest, rfl⟩⟩

end Layers

section Discovery

def IsRoot (table : Value.Fields) : Prop := Value.lookup? "root" table = some (.bool true)

inductive InDirectory (limits : Toml.Limits) (tree : Tree) (directory : Location) :
    List Text → List (Path × Value.Fields) → Prop
  | nil : InDirectory limits tree directory [] []
  | absent {name : Text} {names : List Text} {files : List (Path × Value.Fields)}
    (noFile : tree.isFile (Location.path (directory ++ [name])) = .ok false)
    (rest : InDirectory limits tree directory names files) : InDirectory limits tree directory (name :: names) files
  | bare {name : Text} {names : List Text} {files : List (Path × Value.Fields)}
    (isFile : tree.isFile (Location.path (directory ++ [name])) = .ok true)
    (loads : Loads limits tree (Location.path (directory ++ [name])) none)
    (rest : InDirectory limits tree directory names files) : InDirectory limits tree directory (name :: names) files
  | file {name : Text} {names : List Text} {files : List (Path × Value.Fields)} {table : Value.Fields}
    (isFile : tree.isFile (Location.path (directory ++ [name])) = .ok true)
    (loads : Loads limits tree (Location.path (directory ++ [name])) (some table))
    (rest : InDirectory limits tree directory names files) :
    InDirectory limits tree directory (name :: names) ((Location.path (directory ++ [name]), table) :: files)

/-- The settings files in directories that lie one above the other, the nearest first, up to the first
directory with a root. The files of the directory furthest up stand first. -/
inductive Upward (limits : Toml.Limits) (tree : Tree) : List Location → List Path → Prop
  | top : Upward limits tree [] []
  | stop {directory : Location} {directories : List Location} {files : List (Path × Value.Fields)}
    (here : InDirectory limits tree directory [sharedName, ownName] files) (root : ∃ f ∈ files, IsRoot f.2) :
    Upward limits tree (directory :: directories) (files.map Prod.fst)
  | further {directory : Location} {directories : List Location} {files : List (Path × Value.Fields)}
    {above : List Path} (here : InDirectory limits tree directory [sharedName, ownName] files)
    (noRoot : ∀ f ∈ files, ¬ IsRoot f.2) (rest : Upward limits tree directories above) :
    Upward limits tree (directory :: directories) (above ++ files.map Prod.fst)

/-- The settings files that a search finds, if one is made. A start that is no directory stands for its
parent. -/
inductive Discovers (limits : Toml.Limits) (tree : Tree) : Option Path → List Path → Prop
  | skipped : Discovers limits tree none []
  | directory {start : Path} {l : Location} {found : List Path} (isDirectory : tree.isDirectory start = .ok true)
    (location : tree.resolve start = .ok l) (upward : Upward limits tree l.inits.reverse found) :
    Discovers limits tree (some start) found
  | parent {start : Path} {l : Location} {found : List Path} (isDirectory : tree.isDirectory start = .ok false)
    (location : tree.resolve start.parent = .ok l) (upward : Upward limits tree l.inits.reverse found) :
    Discovers limits tree (some start) found

theorem isRoot_iff (table : Value.Fields) : isRoot table = true ↔ IsRoot table := by
  unfold isRoot IsRoot
  split
  · rename_i b found
    rw [found, Option.some.injEq, Value.bool.injEq]
  · rename_i other
    exact iff_of_false Bool.false_ne_true (other true)

theorem any_isRoot_iff (files : List (Path × Value.Fields)) :
    files.any (isRoot ·.2) = true ↔ ∃ f ∈ files, IsRoot f.2 := by
  simp only [List.any_eq_true, isRoot_iff]

theorem searchNames_eq_ok_iff (directory : Location) (names : List Text) (found : List Path × Bool) :
    (searchNames limits tree directory names).outcome = .ok found ↔
      ∃ files, InDirectory limits tree directory names files ∧
        found = (files.map Prod.fst, files.any (isRoot ·.2)) := by
  induction names generalizing found with
  | nil =>
    constructor
    · intro done
      exact ⟨[], .nil, (Except.ok.inj done).symm⟩
    · rintro ⟨files, inside, rfl⟩
      cases inside
      rfl
  | cons name names ih =>
    simp only [searchNames, Traced.bind_eq_ok_iff, Traced.outcome_ofExcept, mapError_eq_ok_iff]
    constructor
    · rintro ⟨isFile, tested, searched⟩
      cases isFile with
      | false =>
        simp only [Bool.false_eq_true, if_false, Traced.bind_eq_ok_iff] at searched
        obtain ⟨_, same, _, rest, done⟩ := searched
        cases same
        obtain ⟨files, inside, rfl⟩ := (ih _).mp rest
        exact ⟨files, .absent tested inside, (Except.ok.inj done).symm⟩
      | true =>
        simp only [if_true, Traced.bind_eq_ok_iff] at searched
        obtain ⟨table, loaded, _, rest, done⟩ := searched
        obtain ⟨files, inside, rfl⟩ := (ih _).mp rest
        have loads := (loadTable_eq_ok_iff table).mp loaded
        cases table with
        | none => exact ⟨files, .bare tested loads inside, (Except.ok.inj done).symm⟩
        | some table => exact ⟨_ :: files, .file tested loads inside, (Except.ok.inj done).symm⟩
    · rintro ⟨files, inside, rfl⟩
      cases inside with
      | absent noFile rest =>
        refine ⟨false, noFile, ?_⟩
        simp only [Bool.false_eq_true, if_false, Traced.bind_eq_ok_iff]
        exact ⟨none, rfl, _, (ih _).mpr ⟨files, rest, rfl⟩, rfl⟩
      | bare isFile loads rest =>
        refine ⟨true, isFile, ?_⟩
        simp only [if_true, Traced.bind_eq_ok_iff]
        exact ⟨none, (loadTable_eq_ok_iff none).mpr loads, _, (ih _).mpr ⟨files, rest, rfl⟩, rfl⟩
      | @file _ _ files table isFile loads rest =>
        refine ⟨true, isFile, ?_⟩
        simp only [if_true, Traced.bind_eq_ok_iff]
        exact ⟨some table, (loadTable_eq_ok_iff _).mpr loads, _, (ih _).mpr ⟨files, rest, rfl⟩, rfl⟩

theorem searchUpward_eq_ok_iff (directories : List Location) (found : List Path) :
    (searchUpward limits tree directories).outcome = .ok found ↔ Upward limits tree directories found := by
  induction directories generalizing found with
  | nil =>
    constructor
    · intro done
      cases done
      exact .top
    · intro upward
      cases upward
      rfl
  | cons directory directories ih =>
    rw [searchUpward, Traced.bind_eq_ok_iff]
    constructor
    · rintro ⟨_, searched, done⟩
      obtain ⟨files, inside, rfl⟩ := (searchNames_eq_ok_iff directory _ _).mp searched
      cases root : files.any (isRoot ·.2) with
      | true =>
        simp only [root, if_true] at done
        cases done
        exact .stop inside ((any_isRoot_iff files).mp root)
      | false =>
        simp only [root, Bool.false_eq_true, if_false, Traced.bind_eq_ok_iff] at done
        obtain ⟨above, rest, same⟩ := done
        cases same
        refine .further inside (fun f member isRoot => ?_) ((ih above).mp rest)
        rw [(any_isRoot_iff files).mpr ⟨f, member, isRoot⟩] at root
        cases root
    · intro upward
      cases upward with
      | stop here root =>
        refine ⟨_, (searchNames_eq_ok_iff directory _ _).mpr ⟨_, here, rfl⟩, ?_⟩
        simp only [(any_isRoot_iff _).mpr root, if_true]
        rfl
      | @further _ _ files above here noRoot rest =>
        refine ⟨_, (searchNames_eq_ok_iff directory _ _).mpr ⟨_, here, rfl⟩, ?_⟩
        have unstopped : files.any (isRoot ·.2) = false := by
          rw [← Bool.not_eq_true, any_isRoot_iff]
          rintro ⟨f, member, isRoot⟩
          exact noRoot f member isRoot
        simp only [unstopped, Bool.false_eq_true, if_false, Traced.bind_eq_ok_iff]
        exact ⟨above, (ih above).mpr rest, rfl⟩

theorem upward_eq (l : Location) : upward l = l.inits.reverse := by
  have tails (names : List Text) : upwardFrom names = names.tails.map List.reverse := by
    induction names with
    | nil => rfl
    | cons name names ih => rw [upwardFrom, ih, List.tails_cons, List.map_cons]
  rw [upward, tails, List.map_reverse_tails, List.reverse_reverse]

theorem discover_eq_ok_iff (start : Path) (found : List Path) :
    (discover limits tree start).outcome = .ok found ↔ Discovers limits tree (some start) found := by
  simp only [discover, Traced.bind_eq_ok_iff, Traced.outcome_ofExcept, mapError_eq_ok_iff,
    searchUpward_eq_ok_iff, upward_eq]
  constructor
  · rintro ⟨isDirectory, tested, l, location, files, upward, _, _, done⟩
    cases done
    cases isDirectory with
    | true => exact .directory tested location upward
    | false => exact .parent tested location upward
  · intro discovers
    cases discovers with
    | directory isDirectory location upward => exact ⟨true, isDirectory, _, location, found, upward, (), rfl, rfl⟩
    | parent isDirectory location upward => exact ⟨false, isDirectory, _, location, found, upward, (), rfl, rfl⟩

end Discovery

/-- Merging succeeds exactly if the search does and all files can be read, and then the layers of the
files lie on top of each other. -/
theorem loadMerged_eq_ok_iff (start : Option Path) (extra : List Path) (l : Layer) :
    (loadMerged limits tree start extra).outcome = .ok l ↔
      ∃ found layers, Discovers limits tree start found ∧ Contributes limits tree (found ++ extra) layers ∧
        l = Layer.stack layers := by
  unfold loadMerged
  cases start with
  | none =>
    show (mergeFiles limits tree {} ([] ++ extra)).outcome = _ ↔ _
    rw [mergeFiles_eq_ok_iff]
    constructor
    · rintro ⟨layers, contributes, stacked⟩
      exact ⟨[], layers, .skipped, contributes, stacked⟩
    · rintro ⟨found, layers, discovers, contributes, stacked⟩
      cases discovers
      exact ⟨layers, contributes, stacked⟩
  | some start =>
    simp only [Traced.bind_eq_ok_iff, discover_eq_ok_iff, mergeFiles_eq_ok_iff]
    constructor
    · rintro ⟨found, discovers, layers, contributes, stacked⟩
      exact ⟨found, layers, discovers, contributes, stacked⟩
    · rintro ⟨found, layers, discovers, contributes, stacked⟩
      exact ⟨found, discovers, layers, contributes, stacked⟩

end ParseRepair.Config
