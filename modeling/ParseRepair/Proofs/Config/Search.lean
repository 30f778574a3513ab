import ParseRepair.Proofs.Config.Loading

namespace ParseRepair.Config

open Files (Location Tree)

variable {limits : Toml.Limits} {tree other : Tree} {path : Path} {table : Value.Fields}

section Settings

def SettingsAt (limits : Toml.Limits) (tree : Tree) (path : Path) (table : Value.Fields) : Prop :=
  tree.isFile path = .ok true ∧ Loads limits tree path (some table)

def HoldsSettings (limits : Toml.Limits) (tree : Tree) (path : Path) : Prop :=
  ∃ table, SettingsAt limits tree path table

def settingsAt? (limits : Toml.Limits) (tree : Tree) (path : Path) : Option Value.Fields :=
  match tree.isFile path, (loadTable limits tree path).outcome with
  | .ok true, .ok found => found
  | _, _ => none

theorem settingsAt?_eq_some_iff : settingsAt? limits tree path = some table ↔ SettingsAt limits tree path table := by
  unfold settingsAt? SettingsAt
  rw [← loadTable_eq_ok_iff]
  split
  · rename_i isFile loaded
    simp [isFile, loaded]
  · rename_i other
    constructor
    · exact fun none => nomatch none
    · rintro ⟨isFile, loaded⟩
      exact (other _ isFile loaded).elim

instance : Decidable (HoldsSettings limits tree path) :=
  decidable_of_iff ((settingsAt? limits tree path).isSome = true) <| by
    simp only [Option.isSome_iff_exists, settingsAt?_eq_some_iff, HoldsSettings]

/-- The system tells whether there is a file, and a file that is there can be loaded. -/
def Settled (limits : Toml.Limits) (tree : Tree) (path : Path) : Prop :=
  tree.isFile path = .ok false ∨ (tree.isFile path = .ok true ∧ ∃ found, Loads limits tree path found)

theorem exists_loads_iff : (∃ found, Loads limits tree path found) ↔
    (loadTable limits tree path).outcome.isOk = true := by
  simp only [← loadTable_eq_ok_iff]
  cases (loadTable limits tree path).outcome with
  | error e => simp [Except.isOk, Except.toBool]
  | ok found => simp [Except.isOk, Except.toBool]

instance : Decidable (Settled limits tree path) :=
  decidable_of_iff (tree.isFile path = .ok false ∨
    (tree.isFile path = .ok true ∧ (loadTable limits tree path).outcome.isOk = true)) <| by
    rw [← exists_loads_iff]
    rfl

end Settings

section Directory

variable {d : Location} {names : List Text} {files : List (Path × Value.Fields)}

def candidates (d : Location) : List Path := [sharedName, ownName].map fun name => Location.path (d ++ [name])

def settingsIn (limits : Toml.Limits) (tree : Tree) (d : Location) : List Path :=
  (candidates d).filter (HoldsSettings limits tree ·)

def Stops (limits : Toml.Limits) (tree : Tree) (d : Location) : Prop :=
  ∃ path ∈ candidates d, ∃ table, SettingsAt limits tree path table ∧ IsRoot table

instance : Decidable (Stops limits tree d) :=
  decidable_of_iff (∃ path ∈ candidates d, (settingsAt? limits tree path).any isRoot = true) <| by
    simp only [Option.any_eq_true, settingsAt?_eq_some_iff, isRoot_iff, Stops]

theorem Loads.unique {found found' : Option Value.Fields} (loads : Loads limits tree path found)
    (loads' : Loads limits tree path found') : found = found' := by
  rw [← loadTable_eq_ok_iff] at loads loads'
  rw [loads] at loads'
  exact Except.ok.inj loads'

theorem InDirectory.mem_iff (inside : InDirectory limits tree d names files) (f : Path × Value.Fields) :
    f ∈ files ↔ f.1 ∈ names.map (fun name => Location.path (d ++ [name])) ∧ SettingsAt limits tree f.1 f.2 := by
  induction inside with
  | nil => simp
  | absent noFile rest ih =>
    rw [ih, List.map_cons, List.mem_cons]
    constructor
    · exact fun ⟨member, settings⟩ => ⟨.inr member, settings⟩
    · rintro ⟨same | member, settings⟩
      · rw [same, SettingsAt, noFile] at settings
        cases settings.1
      · exact ⟨member, settings⟩
  | bare isFile loads rest ih =>
    rw [ih, List.map_cons, List.mem_cons]
    constructor
    · exact fun ⟨member, settings⟩ => ⟨.inr member, settings⟩
    · rintro ⟨same | member, settings⟩
      · rw [same] at settings
        cases loads.unique settings.2
      · exact ⟨member, settings⟩
  | file isFile loads rest ih =>
    rw [List.mem_cons, ih, List.map_cons, List.mem_cons]
    constructor
    · rintro (rfl | ⟨member, settings⟩)
      · exact ⟨.inl rfl, isFile, loads⟩
      · exact ⟨.inr member, settings⟩
    · rintro ⟨same | member, settings⟩
      · have table := settings.2
        rw [same] at table
        exact .inl (Prod.ext same (Option.some.inj (table.unique loads)))
      · exact .inr ⟨member, settings⟩

theorem InDirectory.paths (inside : InDirectory limits tree d names files) :
    files.map Prod.fst = (names.map fun name => Location.path (d ++ [name])).filter (HoldsSettings limits tree ·) := by
  induction inside with
  | nil => rfl
  | @absent name _ _ noFile rest ih =>
    have bare : ¬ HoldsSettings limits tree (Location.path (d ++ [name])) := by
      rintro ⟨table, isFile, _⟩
      rw [noFile] at isFile
      cases isFile
    rw [List.map_cons, List.filter_cons_of_neg (by simpa using bare), ih]
  | @bare name _ _ isFile loads rest ih =>
    have bare : ¬ HoldsSettings limits tree (Location.path (d ++ [name])) := by
      rintro ⟨table, _, loads'⟩
      cases loads.unique loads'
    rw [List.map_cons, List.filter_cons_of_neg (by simpa using bare), ih]
  | @file name _ _ table isFile loads rest ih =>
    have holds : HoldsSettings limits tree (Location.path (d ++ [name])) := ⟨table, isFile, loads⟩
    rw [List.map_cons, List.map_cons, List.filter_cons_of_pos (by simpa using holds), ih]

theorem InDirectory.stops_iff (inside : InDirectory limits tree d [sharedName, ownName] files) :
    (∃ f ∈ files, IsRoot f.2) ↔ Stops limits tree d := by
  simp only [inside.mem_iff]
  constructor
  · rintro ⟨f, ⟨candidate, settings⟩, root⟩
    exact ⟨f.1, candidate, f.2, settings, root⟩
  · rintro ⟨path, candidate, table, settings, root⟩
    exact ⟨(path, table), ⟨candidate, settings⟩, root⟩

theorem inDirectory_of_settled (settled : ∀ name ∈ names, Settled limits tree (Location.path (d ++ [name]))) :
    ∃ files, InDirectory limits tree d names files := by
  induction names with
  | nil => exact ⟨[], .nil⟩
  | cons name names ih =>
    obtain ⟨files, rest⟩ := ih fun name member => settled name (List.mem_cons_of_mem _ member)
    rcases settled name List.mem_cons_self with noFile | ⟨isFile, found, loads⟩
    · exact ⟨files, .absent noFile rest⟩
    · cases found with
      | none => exact ⟨files, .bare isFile loads rest⟩
      | some table => exact ⟨_, .file isFile loads rest⟩

end Directory

section Directories

variable {ds : List Location} {k : Nat}

/-- The search ends in the directory with this number: in the first one that stops it, or else in the last. -/
structure LastSearched (limits : Toml.Limits) (tree : Tree) (ds : List Location) (k : Nat) : Prop where
  below : ∀ d ∈ ds.take k, ¬ Stops limits tree d
  last : (∃ d, ds[k]? = some d ∧ Stops limits tree d) ∨ k + 1 = ds.length

theorem lastSearched_zero_iff (d : Location) (ds : List Location) :
    LastSearched limits tree (d :: ds) 0 ↔ Stops limits tree d ∨ ds = [] := by
  constructor
  · intro last
    rcases last.last with ⟨d', first, stops⟩ | top
    · cases first
      exact .inl stops
    · exact .inr (List.length_eq_zero_iff.mp (Nat.succ.inj top).symm)
  · intro ends
    refine ⟨fun _ member => absurd member List.not_mem_nil, ?_⟩
    rcases ends with stops | rfl
    · exact .inl ⟨d, rfl, stops⟩
    · exact .inr rfl

theorem lastSearched_succ_iff (d : Location) (ds : List Location) (k : Nat) :
    LastSearched limits tree (d :: ds) (k + 1) ↔ ¬ Stops limits tree d ∧ LastSearched limits tree ds k := by
  constructor
  · rintro ⟨below, last⟩
    rw [List.take_succ_cons, List.forall_mem_cons] at below
    rw [List.getElem?_cons_succ, List.length_cons, Nat.add_left_inj] at last
    exact ⟨below.1, below.2, last⟩
  · rintro ⟨goes, below, last⟩
    refine ⟨?_, ?_⟩
    · rw [List.take_succ_cons, List.forall_mem_cons]
      exact ⟨goes, below⟩
    · rw [List.getElem?_cons_succ, List.length_cons, Nat.add_left_inj]
      exact last

theorem exists_lastSearched (some_directory : ds ≠ []) : ∃ k, LastSearched limits tree ds k := by
  induction ds with
  | nil => exact absurd rfl some_directory
  | cons d ds ih =>
    by_cases ends : Stops limits tree d ∨ ds = []
    · exact ⟨0, (lastSearched_zero_iff d ds).mpr ends⟩
    · obtain ⟨goes, more⟩ := not_or.mp ends
      obtain ⟨k, last⟩ := ih more
      exact ⟨k + 1, (lastSearched_succ_iff d ds k).mpr ⟨goes, last⟩⟩

theorem upward_of_lastSearched (last : LastSearched limits tree ds k)
    (settled : ∀ d ∈ ds.take (k + 1), ∀ path ∈ candidates d, Settled limits tree path) :
    Upward limits tree ds ((ds.take (k + 1)).reverse.flatMap (settingsIn limits tree)) := by
  induction ds generalizing k with
  | nil => exact .top
  | cons d ds ih =>
    rw [List.take_succ_cons] at settled ⊢
    obtain ⟨files, inside⟩ : ∃ files, InDirectory limits tree d [sharedName, ownName] files :=
      inDirectory_of_settled fun name member => settled d List.mem_cons_self _ (List.mem_map_of_mem member)
    have here : files.map Prod.fst = settingsIn limits tree d := inside.paths
    cases k with
    | zero =>
      rw [List.take_zero, List.reverse_singleton, List.flatMap_singleton, ← here]
      by_cases stops : Stops limits tree d
      · exact .stop inside (inside.stops_iff.mpr stops)
      · obtain rfl := ((lastSearched_zero_iff d ds).mp last).resolve_left stops
        exact .further inside (fun f member root => stops (inside.stops_iff.mp ⟨f, member, root⟩)) .top
    | succ k =>
      obtain ⟨goes, last⟩ := (lastSearched_succ_iff d ds k).mp last
      rw [List.reverse_cons, List.flatMap_append, List.flatMap_singleton, ← here]
      exact .further inside (fun f member root => goes (inside.stops_iff.mp ⟨f, member, root⟩))
        (ih last fun d member => settled d (List.mem_cons_of_mem _ member))

end Directories

section Agreement

structure SameAt (tree other : Tree) (path : Path) : Prop where
  isFile : other.isFile path = tree.isFile path
  read : other.read path = tree.read path

theorem loadTable_congr (same : SameAt tree other path) : loadTable limits other path = loadTable limits tree path := by
  simp only [loadTable, loadDocument, same.read]

theorem searchNames_congr {d : Location} {names : List Text}
    (same : ∀ name ∈ names, SameAt tree other (Location.path (d ++ [name]))) :
    searchNames limits other d names = searchNames limits tree d names := by
  induction names with
  | nil => rfl
  | cons name names ih =>
    have here := same name List.mem_cons_self
    have rest := ih fun name member => same name (List.mem_cons_of_mem _ member)
    simp only [searchNames, here.isFile, loadTable_congr here, rest]

theorem stopped_of_stops {d : Location} {files : List Path} {stop : Bool} (stops : Stops limits tree d)
    (searched : (searchNames limits tree d [sharedName, ownName]).outcome = .ok (files, stop)) : stop = true := by
  obtain ⟨inside, here, same⟩ := (searchNames_eq_ok_iff d _ _).mp searched
  cases same
  exact (any_isRoot_iff inside).mpr (here.stops_iff.mpr stops)

theorem searchUpward_congr {ds : List Location} {k : Nat} (last : LastSearched limits tree ds k)
    (same : ∀ d ∈ ds.take (k + 1), ∀ path ∈ candidates d, SameAt tree other path) :
    searchUpward limits other ds = searchUpward limits tree ds := by
  induction ds generalizing k with
  | nil => rfl
  | cons d ds ih =>
    rw [List.take_succ_cons] at same
    have here : searchNames limits other d [sharedName, ownName] = searchNames limits tree d [sharedName, ownName] :=
      searchNames_congr fun name member => same d List.mem_cons_self _ (List.mem_map_of_mem member)
    rw [searchUpward, searchUpward, here]
    cases searched : (searchNames limits tree d [sharedName, ownName]).outcome with
    | error e => rw [Traced.bind_of_error searched, Traced.bind_of_error searched]
    | ok found =>
      obtain ⟨files, stop⟩ := found
      rw [Traced.bind_of_ok searched, Traced.bind_of_ok searched]
      cases k with
      | zero =>
        -- Nothing is known of what lies above, so the flag that was read here has to say that the search ends.
        rcases (lastSearched_zero_iff d ds).mp last with stops | rfl
        · simp only [stopped_of_stops stops searched, if_true]
        · simp only [searchUpward]
      | succ k =>
        obtain ⟨_, last⟩ := (lastSearched_succ_iff d ds k).mp last
        simp only [ih last fun d member => same d (List.mem_cons_of_mem _ member)]

end Agreement

section Start

variable {start : Path} {l : Location}

/-- Where a search begins: in the start directory, or in the parent of a start that is no directory. -/
inductive Anchors (tree : Tree) (start : Path) (l : Location) : Prop
  | directory (isDirectory : tree.isDirectory start = .ok true) (location : tree.resolve start = .ok l)
  | parent (isDirectory : tree.isDirectory start = .ok false) (location : tree.resolve start.parent = .ok l)

theorem discover_of_anchors (anchors : Anchors tree start l) :
    discover limits tree start =
      (searchUpward limits tree l.inits.reverse >>= fun files =>
        Traced.emit (foundRecord files) >>= fun _ => pure files) := by
  unfold discover
  cases anchors with
  | directory isDirectory location =>
    rw [isDirectory]
    simp only [Except.mapError, Traced.ofExcept_ok_bind, if_true, location, upward_eq]
  | parent isDirectory location =>
    rw [isDirectory]
    simp only [Except.mapError, Traced.ofExcept_ok_bind, Bool.false_eq_true, if_false, location, upward_eq]

/-- A search goes up to the first directory with a root, and no further. -/
theorem discover_nearest (anchors : Anchors tree start l) :
    (∃ k, LastSearched limits tree l.inits.reverse k) ∧
    ∀ k, LastSearched limits tree l.inits.reverse k →
      ((∀ d ∈ l.inits.reverse.take (k + 1), ∀ path ∈ candidates d, Settled limits tree path) →
        (discover limits tree start).outcome =
          .ok ((l.inits.reverse.take (k + 1)).reverse.flatMap (settingsIn limits tree))) ∧
      ∀ other, Anchors other start l →
        (∀ d ∈ l.inits.reverse.take (k + 1), ∀ path ∈ candidates d, SameAt tree other path) →
        discover limits other start = discover limits tree start := by
  have top : [] ∈ l.inits.reverse := List.mem_reverse.mpr ((List.mem_inits [] l).mpr List.nil_prefix)
  refine ⟨exists_lastSearched (List.ne_nil_of_mem top), fun k last =>
    ⟨fun settled => ?_, fun other anchors' same => ?_⟩⟩
  · have upward := upward_of_lastSearched last settled
    rw [discover_eq_ok_iff]
    cases anchors with
    | directory isDirectory location => exact .directory isDirectory location upward
    | parent isDirectory location => exact .parent isDirectory location upward
  · rw [discover_of_anchors anchors, discover_of_anchors anchors', searchUpward_congr last same]

def rootedTree (top : Utf8.Bytes) : Tree where
  entry? l :=
    if l = [] ∨ l = ["w".toList] ∨ l = ["w".toList, "x".toList] then some .directory
    else if l = [sharedName] then some (.file top)
    else if l = ["w".toList, sharedName] then some (.file (Utf8.encode "[tool.sourcemend]\nroot = true\n"))
    else if l = ["w".toList, ownName] then some (.file [])
    else if l = ["w".toList, "x".toList, sharedName] then some (.file (Utf8.encode "[tool]\nsourcemend = 1\n"))
    else none
  current := []

def deepDirectory : Location := ["w", "x"]

def deepFile : Path := ⟨0, ["w", "x", "f.c"]⟩

def ordinaryLimits : Toml.Limits := ⟨490, 980, 2, 3, 75⟩

theorem discover_nearest_rooted : Anchors (rootedTree [255]) deepFile deepDirectory ∧
    (discover ordinaryLimits (rootedTree [255]) deepFile).outcome = .ok [⟨1, ["w", sharedName]⟩, ⟨1, ["w", ownName]⟩] ∧
    discover ordinaryLimits (rootedTree []) deepFile = discover ordinaryLimits (rootedTree [255]) deepFile := by
  have anchors (top : Utf8.Bytes) : Anchors (rootedTree top) deepFile deepDirectory := .parent rfl rfl
  have last : LastSearched ordinaryLimits (rootedTree [255]) deepDirectory.inits.reverse 1 :=
    ⟨by decide +kernel, .inl ⟨["w"], rfl, by decide +kernel⟩⟩
  have nearest := (discover_nearest (anchors [255])).2 1 last
  have settled : ∀ d ∈ deepDirectory.inits.reverse.take (1 + 1), ∀ path ∈ candidates d,
      Settled ordinaryLimits (rootedTree [255]) path := by
    decide +kernel
  have found : (deepDirectory.inits.reverse.take (1 + 1)).reverse.flatMap
      (settingsIn ordinaryLimits (rootedTree [255])) =
      [⟨1, ["w", sharedName]⟩, ⟨1, ["w", ownName]⟩] := by
    decide +kernel
  have same : ∀ d ∈ deepDirectory.inits.reverse.take (1 + 1), ∀ path ∈ candidates d,
      (rootedTree []).isFile path = (rootedTree [255]).isFile path ∧
        (rootedTree []).read path = (rootedTree [255]).read path := by
    decide +kernel
  refine ⟨anchors _, ?_, nearest.2 _ (anchors _) fun d inside path candidate => ?_⟩
  · rw [nearest.1 settled, found]
  · exact ⟨(same d inside path candidate).1, (same d inside path candidate).2⟩

def bareTree : Tree where
  entry? l := if l = [] then some .directory else none
  current := []

theorem discover_of_longName :
    bareTree.resolve (Path.parent ⟨0, [List.replicate 256 'a']⟩) = .ok [] ∧
      (∀ path ∈ candidates [], bareTree.isFile path = .ok false) ∧
      (discover ordinaryLimits bareTree ⟨0, [List.replicate 256 'a']⟩).outcome =
        .error (.system ⟨.nameTooLong, List.replicate 256 'a'⟩) := by
  decide +kernel

end Start

end ParseRepair.Config
