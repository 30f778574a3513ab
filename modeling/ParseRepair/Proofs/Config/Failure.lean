import ParseRepair.Proofs.Config.Search
import ParseRepair.Proofs.Text.Utf8

namespace ParseRepair.Config

open Files (Location Tree)

variable {tree : Tree} {path : Path} {e : LoadError}

section File

/-- A failure of a settings file that is reported as one, under the name of the file. -/
inductive Reported (limits : Toml.Limits) (tree : Tree) (path : Path) : LoadError → Prop
  | unreadable {cause : Files.SystemError} (unread : tree.read path = .error (.system cause)) :
    Reported limits tree path (.unreadable path cause)
  | invalid {t : Text} (read : tree.read path = .ok (Utf8.encode t))
    (malformed : Toml.read limits t.normalizeBreaks = .error .malformed) : Reported limits tree path (.invalid path)

/-- A failure of a settings file that goes through: its path is none, its bytes are no text, or the reader of
the text has a failure of its own. -/
inductive Crashes (limits : Toml.Limits) (tree : Tree) (path : Path) : LoadError → Prop
  | nullByte (null : path.hasNull = true) : Crashes limits tree path .nullByte
  | undecodable {bytes : Utf8.Bytes} {cause : Utf8.DecodeError} (read : tree.read path = .ok bytes)
    (noText : Utf8.decode bytes = .error cause) : Crashes limits tree path (.undecodable cause)
  | refused {t : Text} {r : Toml.Refusal} (read : tree.read path = .ok (Utf8.encode t))
    (refuses : Toml.read limits t.normalizeBreaks = .error (.refused r)) : Crashes limits tree path (.refused r)

theorem Reported.path_in_message (reported : Reported limits tree path e) : path.text <:+: e.message := by
  cases reported with
  | unreadable unread => exact List.infix_of_mem_flatten (List.mem_cons_of_mem _ List.mem_cons_self)
  | invalid read malformed => exact (List.suffix_append _ _).isInfix

theorem read_eq_nullByte_iff : tree.read path = .error .nullByte ↔ path.hasNull = true := by
  unfold Tree.read
  cases path.hasNull with
  | true => simp
  | false => cases tree.readFault path <;> simp [Except.mapError]

theorem loadDocument_eq_error_iff (e : LoadError) :
    loadDocument limits tree path = .error e ↔ Reported limits tree path e ∨ Crashes limits tree path e := by
  unfold loadDocument
  simp only [except_bind_eq_error_iff, mapError_eq_error_iff, mapError_eq_ok_iff]
  constructor
  · rintro (⟨cause, unread, rfl⟩ | ⟨bytes, read, ⟨cause, noText, rfl⟩ | ⟨t, text, cause, failed, rfl⟩⟩)
    · cases cause with
      | nullByte => exact .inr (.nullByte (read_eq_nullByte_iff.mp unread))
      | system cause => exact .inl (.unreadable unread)
    · exact .inr (.undecodable read noText)
    · obtain rfl := Utf8.decode_eq_ok_iff.mp text
      cases cause with
      | malformed => exact .inl (.invalid read failed)
      | refused r => exact .inr (.refused read failed)
  · rintro (reported | crashes)
    · cases reported with
      | unreadable unread => exact .inl ⟨_, unread, rfl⟩
      | invalid read malformed => exact .inr ⟨_, read, .inr ⟨_, Utf8.decode_eq_ok_iff.mpr rfl, _, malformed, rfl⟩⟩
    · cases crashes with
      | nullByte null => exact .inl ⟨_, read_eq_nullByte_iff.mpr null, rfl⟩
      | undecodable read noText => exact .inr ⟨_, read, .inl ⟨_, noText, rfl⟩⟩
      | refused read refuses => exact .inr ⟨_, read, .inr ⟨_, Utf8.decode_eq_ok_iff.mpr rfl, _, refuses, rfl⟩⟩

theorem Reported.not_crashes (reported : Reported limits tree path e) : ¬ Crashes limits tree path e := by
  intro crashes
  cases reported <;> cases crashes

theorem loadDocument_reports_iff (limits : Toml.Limits) (tree : Tree) (path : Path) :
    ((∃ table, loadDocument limits tree path = .ok (.object table)) ∨
      ∃ e, loadDocument limits tree path = .error e ∧ Reported limits tree path e ∧ path.text <:+: e.message) ↔
      ∀ e, ¬ Crashes limits tree path e := by
  constructor
  · intro ends e crashes
    have failed := (loadDocument_eq_error_iff e).mpr (.inr crashes)
    rcases ends with ⟨table, loaded⟩ | ⟨e', failed', reported, _⟩
    · rw [failed] at loaded
      cases loaded
    · obtain rfl := Except.error.inj (failed.symm.trans failed')
      exact reported.not_crashes crashes
  · intro calm
    cases loaded : loadDocument limits tree path with
    | ok document =>
      obtain ⟨table, rfl⟩ := object_of_loadDocument loaded
      exact .inl ⟨table, rfl⟩
    | error e =>
      have reported := ((loadDocument_eq_error_iff e).mp loaded).resolve_right (calm e)
      exact .inr ⟨e, rfl, reported, reported.path_in_message⟩

theorem loadTable_eq_error_iff (e : LoadError) :
    (loadTable limits tree path).outcome = .error e ↔ loadDocument limits tree path = .error e := by
  rw [loadTable, Traced.bind_eq_error_iff_of_done, Traced.outcome_ofExcept]
  intro document
  exact ⟨_, Traced.outcome_bind_of_ok (outcome_extractTable path document)⟩

theorem loadLayer_eq_error_iff (e : LoadError) :
    (loadLayer limits tree path).outcome = .error e ↔ loadDocument limits tree path = .error e := by
  unfold loadLayer
  rw [Traced.outcome_bind_of_ok (Traced.outcome_emit _), Traced.bind_eq_error_iff_of_done, loadTable_eq_error_iff]
  intro found
  cases found <;> exact ⟨_, rfl⟩

end File

section Search

def Searched (tree : Tree) (start path : Path) : Prop :=
  ∃ l d, Anchors tree start l ∧ d <+: l ∧ path ∈ candidates d ∧ tree.isFile path = .ok true

/-- A failure of a search that goes through: of a path that the system refuses to look at, of a place that it
circles round, or of a file. -/
inductive SearchCrashes (limits : Toml.Limits) (tree : Tree) (start : Path) : LoadError → Prop
  | start {cause : Files.SystemError} (untold : tree.isDirectory start = .error cause) :
    SearchCrashes limits tree start (.system cause)
  | place (null : start.parent.hasNull = true) : SearchCrashes limits tree start .nullByte
  | loop {anchor : Path} {place : Text} (begins : anchor = start ∨ anchor = start.parent)
    (circles : tree.resolve anchor = .error (.loop place)) : SearchCrashes limits tree start (.loop place)
  | candidate {l d : Location} {path : Path} {cause : Files.SystemError} (anchors : Anchors tree start l)
    (above : d <+: l) (candidate : path ∈ candidates d) (untold : tree.isFile path = .error cause) :
    SearchCrashes limits tree start (.system cause)
  | file {path : Path} {e : LoadError} (searched : Searched tree start path) (crashes : Crashes limits tree path e) :
    SearchCrashes limits tree start e

def SearchFails (limits : Toml.Limits) (tree : Tree) (e : LoadError) (d : Location) (names : List Text) : Prop :=
  ∃ name ∈ names, (∃ cause, tree.isFile (Location.path (d ++ [name])) = .error cause ∧ e = .system cause) ∨
    (tree.isFile (Location.path (d ++ [name])) = .ok true ∧
      loadDocument limits tree (Location.path (d ++ [name])) = .error e)

theorem searchNames_eq_error {d : Location} {names : List Text}
    (failed : (searchNames limits tree d names).outcome = .error e) : SearchFails limits tree e d names := by
  induction names with
  | nil => cases failed
  | cons name names ih =>
    have further (failed : (searchNames limits tree d names).outcome = .error e) :
        SearchFails limits tree e d (name :: names) := by
      obtain ⟨name', member, why⟩ := ih failed
      exact ⟨name', List.mem_cons_of_mem name member, why⟩
    rw [searchNames, Traced.bind_eq_error_iff, Traced.outcome_ofExcept, mapError_eq_error_iff] at failed
    rcases failed with ⟨cause, untold, rfl⟩ | ⟨isFile, told, failed⟩
    · exact ⟨name, List.mem_cons_self, .inl ⟨cause, untold, rfl⟩⟩
    cases isFile with
    | false =>
      simp only [Bool.false_eq_true, if_false, Traced.pure_bind] at failed
      exact further ((Traced.bind_eq_error_iff_of_done fun _ => ⟨_, rfl⟩).mp failed)
    | true =>
      rw [if_pos rfl, Traced.bind_eq_error_iff] at failed
      rcases failed with failed | ⟨table, _, failed⟩
      · exact ⟨name, List.mem_cons_self, .inr ⟨mapError_eq_ok_iff.mp told, (loadTable_eq_error_iff e).mp failed⟩⟩
      · refine further ((Traced.bind_eq_error_iff_of_done fun _ => ?_).mp failed)
        cases table <;> exact ⟨_, rfl⟩

theorem searchUpward_eq_error {ds : List Location} (failed : (searchUpward limits tree ds).outcome = .error e) :
    ∃ d ∈ ds, SearchFails limits tree e d [sharedName, ownName] := by
  induction ds with
  | nil => cases failed
  | cons d ds ih =>
    rw [searchUpward, Traced.bind_eq_error_iff] at failed
    rcases failed with failed | ⟨⟨files, stop⟩, _, failed⟩
    · exact ⟨d, List.mem_cons_self, searchNames_eq_error failed⟩
    · cases stop with
      | true => cases failed
      | false =>
        obtain ⟨d', member, failed⟩ := ih ((Traced.bind_eq_error_iff_of_done fun _ => ⟨_, rfl⟩).mp failed)
        exact ⟨d', List.mem_cons_of_mem d member, failed⟩

theorem hasNull_of_resolve {p : Path} (failed : tree.resolve p = .error .nullByte) : p.hasNull = true := by
  unfold Tree.resolve at failed
  split at failed
  · rename_i null
    exact null
  · dsimp only at failed
    split at failed
    · cases failed
    · split at failed <;> cases failed

theorem isDirectory_ne_true {p : Path} (null : p.hasNull = true) : tree.isDirectory p ≠ .ok true := by
  rw [Tree.isDirectory, Tree.test, if_pos null]
  exact fun same => nomatch same

theorem search_eq_error {start : Path} {l : Location} (anchors : Anchors tree start l)
    (failed : (searchUpward limits tree l.inits.reverse).outcome = .error e) :
    (∃ path, Searched tree start path ∧ Reported limits tree path e) ∨ SearchCrashes limits tree start e := by
  obtain ⟨d, inside, name, member, why⟩ := searchUpward_eq_error failed
  have above : d <+: l := (List.mem_inits d l).mp (List.mem_reverse.mp inside)
  have candidate : Location.path (d ++ [name]) ∈ candidates d := List.mem_map_of_mem member
  rcases why with ⟨cause, untold, rfl⟩ | ⟨isFile, failed⟩
  · exact .inr (.candidate anchors above candidate untold)
  · have searched : Searched tree start (Location.path (d ++ [name])) := ⟨l, d, anchors, above, candidate, isFile⟩
    rcases (loadDocument_eq_error_iff e).mp failed with reported | crashes
    · exact .inl ⟨_, searched, reported⟩
    · exact .inr (.file searched crashes)

theorem discover_eq_error {start : Path} (failed : (discover limits tree start).outcome = .error e) :
    (∃ path, Searched tree start path ∧ Reported limits tree path e) ∨ SearchCrashes limits tree start e := by
  rw [discover, Traced.bind_eq_error_iff, Traced.outcome_ofExcept, mapError_eq_error_iff] at failed
  rcases failed with ⟨cause, untold, rfl⟩ | ⟨isDirectory, told, failed⟩
  · exact .inr (.start untold)
  have told := mapError_eq_ok_iff.mp told
  rw [Traced.bind_eq_error_iff, Traced.outcome_ofExcept, mapError_eq_error_iff] at failed
  rcases failed with ⟨cause, unresolved, rfl⟩ | ⟨l, resolved, failed⟩
  · cases cause with
    | nullByte =>
      have null := hasNull_of_resolve unresolved
      cases isDirectory with
      | true => exact absurd told (isDirectory_ne_true null)
      | false => exact .inr (.place null)
    | loop place =>
      cases isDirectory with
      | true => exact .inr (.loop (.inl rfl) unresolved)
      | false => exact .inr (.loop (.inr rfl) unresolved)
  · have resolved := mapError_eq_ok_iff.mp resolved
    rw [Traced.bind_eq_error_iff_of_done fun _ => ⟨_, rfl⟩, upward_eq] at failed
    cases isDirectory with
    | true => exact search_eq_error (.directory told resolved) failed
    | false => exact search_eq_error (.parent told resolved) failed

end Search

section Merge

def Consulted (tree : Tree) (start : Option Path) (extra : List Path) (path : Path) : Prop :=
  path ∈ extra ∨ ∃ p, start = some p ∧ Searched tree p path

inductive MergeCrashes (limits : Toml.Limits) (tree : Tree) (start : Option Path) (extra : List Path) : LoadError → Prop
  | search {p : Path} {e : LoadError} (wanted : start = some p) (crashes : SearchCrashes limits tree p e) :
    MergeCrashes limits tree start extra e
  | extra {path : Path} {e : LoadError} (named : path ∈ extra) (crashes : Crashes limits tree path e) :
    MergeCrashes limits tree start extra e

theorem mergeFiles_eq_error {base : Layer} {paths : List Path}
    (failed : (mergeFiles limits tree base paths).outcome = .error e) :
    ∃ path ∈ paths, loadDocument limits tree path = .error e := by
  induction paths generalizing base with
  | nil => cases failed
  | cons path paths ih =>
    rw [mergeFiles, Traced.bind_eq_error_iff, loadLayer_eq_error_iff] at failed
    rcases failed with failed | ⟨found, _, failed⟩
    · exact ⟨path, List.mem_cons_self, failed⟩
    · have rest : ∃ path ∈ paths, loadDocument limits tree path = .error e := by
        cases found with
        | none => exact ih failed
        | some upper => exact ih failed
      obtain ⟨path', member, failed⟩ := rest
      exact ⟨path', List.mem_cons_of_mem path member, failed⟩

theorem loads_of_upward {ds : List Location} {found : List Path} (upward : Upward limits tree ds found) :
    ∀ path ∈ found, ∃ table, Loads limits tree path table := by
  have here {d : Location} {files : List (Path × Value.Fields)}
      (inside : InDirectory limits tree d [sharedName, ownName] files) :
      ∀ path ∈ files.map Prod.fst, ∃ table, Loads limits tree path table := by
    intro path member
    obtain ⟨f, listed, rfl⟩ := List.mem_map.mp member
    exact ⟨_, ((inside.mem_iff f).mp listed).2.2⟩
  induction upward with
  | top => exact fun _ member => absurd member List.not_mem_nil
  | stop inside _ => exact here inside
  | further inside _ _ ih =>
    intro path member
    rcases List.mem_append.mp member with member | member
    · exact ih path member
    · exact here inside path member

theorem loads_of_discovers {start : Option Path} {found : List Path} (discovers : Discovers limits tree start found) :
    ∀ path ∈ found, ∃ table, Loads limits tree path table := by
  cases discovers with
  | skipped => exact fun _ member => absurd member List.not_mem_nil
  | directory _ _ upward => exact loads_of_upward upward
  | parent _ _ upward => exact loads_of_upward upward

theorem mem_extra_of_failed {start : Option Path} {found extra : List Path} {path : Path}
    (discovers : Discovers limits tree start found)
    (failed : loadDocument limits tree path = .error e)
    (member : path ∈ found ++ extra) : path ∈ extra := by
  rcases List.mem_append.mp member with member | member
  · obtain ⟨_, document, loaded, _⟩ := loads_of_discovers discovers path member
    rw [failed] at loaded
    cases loaded
  · exact member

theorem mergeFound_eq_error {start : Option Path} {found extra : List Path} {base : Layer}
    (discovers : Discovers limits tree start found)
    (failed : (mergeFiles limits tree base (found ++ extra)).outcome = .error e) :
    (∃ path, Consulted tree start extra path ∧ Reported limits tree path e) ∨
      MergeCrashes limits tree start extra e := by
  obtain ⟨path, member, failed⟩ := mergeFiles_eq_error failed
  have named := mem_extra_of_failed discovers failed member
  rcases (loadDocument_eq_error_iff e).mp failed with reported | crashes
  · exact .inl ⟨path, .inl named, reported⟩
  · exact .inr (.extra named crashes)

theorem loadMerged_eq_error {start : Option Path} {extra : List Path}
    (failed : (loadMerged limits tree start extra).outcome = .error e) :
    (∃ path, Consulted tree start extra path ∧ Reported limits tree path e) ∨
      MergeCrashes limits tree start extra e := by
  unfold loadMerged at failed
  cases start with
  | none => exact mergeFound_eq_error .skipped failed
  | some p =>
    rcases Traced.bind_eq_error_iff.mp failed with failed | ⟨found, done, failed⟩
    · rcases discover_eq_error failed with ⟨path, searched, reported⟩ | crashes
      · exact .inl ⟨path, .inr ⟨p, rfl, searched⟩, reported⟩
      · exact .inr (.search rfl crashes)
    · exact mergeFound_eq_error ((discover_eq_ok_iff p found).mp done) failed

end Merge

end ParseRepair.Config
