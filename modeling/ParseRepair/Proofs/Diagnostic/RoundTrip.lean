import ParseRepair.Diagnostic.Document
import ParseRepair.Proofs.Json.Printer
import ParseRepair.Proofs.Text.Lines
import ParseRepair.Proofs.Text.Utf8

namespace ParseRepair

open Json

def Position.Short (p : Position) : Prop :=
  (Text.ofNat p.line.natAbs).length ≤ digitLimit ∧ (Text.ofNat p.column.natAbs).length ≤ digitLimit

def Span.Short (s : Span) : Prop := s.start.Short ∧ ∀ p ∈ s.stop, p.Short

/-- The message comes back from its text, as one of characters always does, and so do the coordinates. -/
structure Diagnostic.Plain (d : Diagnostic) : Prop where
  unpaired : Unpaired d.message
  short : ∀ s ∈ d.span, s.Short

instance : DecidablePred Position.Short := fun _ => instDecidableAnd

instance : DecidablePred Span.Short := fun _ => instDecidableAnd

instance : DecidablePred Diagnostic.Plain := fun d =>
  decidable_of_iff (Unpaired d.message ∧ ∀ s ∈ d.span, s.Short) ⟨fun both => ⟨both.1, both.2⟩, fun d => ⟨d.1, d.2⟩⟩

section Encoding

theorem Position.ofValue_toValue (p : Position) : Position.ofValue p.toValue = .ok p := rfl

theorem Span.ofValue_toValue (s : Span) : Span.ofValue s.toValue = .ok s := by
  obtain ⟨start, stop⟩ := s
  cases stop with
  | none => rfl
  | some p => rfl

theorem Diagnostic.ofValue_toValue (d : Diagnostic) : Diagnostic.ofValue d.toValue = .ok d := by
  obtain ⟨message, span⟩ := d
  cases span with
  | none => rfl
  | some s =>
    have inside := s.ofValue_toValue
    show (do let s ← Span.ofValue s.toValue; Except.ok (⟨message, some s⟩ : Diagnostic)) = _
    rw [inside]
    rfl

variable {depth : Nat}

theorem Position.Short.fits {p : Position} (short : p.Short) : Fits (depth + 1) p.toValue :=
  .pair (by decide) (.int p.line short.1) (.int p.column short.2)

theorem Span.Short.fits {s : Span} (short : s.Short) : Fits (depth + 2) s.toValue := by
  obtain ⟨start, stop⟩ := s
  have first : Fits (depth + 1) start.toValue := short.1.fits
  cases stop with
  | none => exact .single "begin" first
  | some p => exact .pair (by decide) first (short.2 p rfl).fits

theorem Diagnostic.Plain.fits {d : Diagnostic} (plain : d.Plain) : Fits (depth + 3) d.toValue := by
  obtain ⟨message, span⟩ := d
  cases span with
  | none => exact .single "message" (.text plain.unpaired)
  | some s => exact .pair (by decide) (.text plain.unpaired) (plain.short s rfl).fits

end Encoding

namespace Diagnostic

theorem mapM_ofValue (ds : List Diagnostic) : (ds.map toValue).mapM ofValue = .ok ds := by
  induction ds with
  | nil => rfl
  | cons d ds ih =>
    rw [List.map_cons, List.mapM_cons, d.ofValue_toValue, ih]
    rfl

theorem fits_list {ds : List Diagnostic} (plain : ∀ d ∈ ds, d.Plain) (depth : Nat) :
    Fits (depth + 4) (.list (ds.map toValue)) := by
  apply Fits.list
  intro v member
  obtain ⟨d, place, rfl⟩ := List.mem_map.mp member
  exact (plain d place).fits

def loaded (ds : List Diagnostic) : Traced Logging.Record DocumentError (List Diagnostic) :=
  ⟨[loadedRecord ds.length], .ok ds⟩

theorem listOfValue_of_container {v : Json.Value} {ds : List Diagnostic}
    (found : container v = .ok (.list (ds.map toValue))) : listOfValue v = .ok ds := by
  show (container v >>= _) = _
  rw [found]
  show ((ds.map toValue).mapM ofValue).mapError _ = _
  rw [mapM_ofValue]
  rfl

theorem parseDocument_of_read {depth : Nat} {t : Text} {v : Json.Value} {ds : List Diagnostic}
    (read : Json.read depth t = .ok v) (found : container v = .ok (.list (ds.map toValue))) :
    parseDocument depth t = loaded ds := by
  have list : readList depth t = .ok ds := by
    show (readJson depth t >>= listOfValue) = _
    rw [readJson, read]
    exact listOfValue_of_container found
  show Traced.bind (Traced.ofExcept (readList depth t)) _ = _
  rw [list]
  rfl

/-- What may stand around a list in an object: other members before and behind it, and blanks. -/
structure Wrapper (depth : Nat) where
  front : List Member
  back : List Member
  before : Text
  after : Text
  lead : Text
  trail : Text
  closing : Text
  blank : ∀ g ∈ [before, after, lead, trail, closing], Gap g
  tidy : ∀ m ∈ front ++ back, m.Tidy
  sound : ∀ m ∈ front ++ back, Writes (depth - 1) m.value m.text

namespace Wrapper

variable {depth : Nat}

def member (w : Wrapper depth) (key : Text) (v : Json.Value) (t : Text) : Member :=
  ⟨w.before, key.points, w.after, v, w.lead ++ (t ++ w.trail)⟩

def around (w : Wrapper depth) (key t : Text) : Text :=
  '{' :: (Text.sepBy [','] (w.front.map Member.written ++
    (w.before ++ (printText key.points ++ (w.after ++ ':' :: (w.lead ++ (t ++ w.trail))))) ::
      w.back.map Member.written) ++
    (w.closing ++ ['}']))

def bare : Wrapper depth where
  front := []
  back := []
  before := []
  after := []
  lead := [' ']
  trail := []
  closing := []
  blank := by simp [Gap, isBlank]
  tidy m place := absurd place List.not_mem_nil
  sound m place := absurd place List.not_mem_nil

theorem bare_around (key t : Text) :
    (bare : Wrapper depth).around key t = '{' :: (printText key.points ++ (':' :: ' ' :: t) ++ ['}']) := by
  simp [around, bare, Text.sepBy]

def keysBehind (w : Wrapper depth) : List Points := w.back.map Member.key

def keys (w : Wrapper depth) : List Points := w.front.map Member.key ++ w.keysBehind

theorem read_around (room : 1 ≤ depth) (w : Wrapper depth) (key : Text) {v : Json.Value} {t : Text}
    (written : Writes (depth - 1) v t) :
    Json.read depth (w.around key t) =
      .ok (.object (Value.ofMembers (w.front.map Member.field ++ (key.points, v) :: w.back.map Member.field))) := by
  have gap {g : Text} (place : g ∈ [w.before, w.after, w.lead, w.trail, w.closing]) : Gap g := w.blank g place
  have every {p : Member → Prop} (own : p (w.member key v t)) (others : ∀ m ∈ w.front ++ w.back, p m) :
      ∀ m ∈ w.front ++ w.member key v t :: w.back, p m := by
    intro m place
    rcases List.mem_append.mp place with place | place
    · exact others m (List.mem_append_left _ place)
    rcases List.mem_cons.mp place with rfl | place
    · exact own
    · exact others m (List.mem_append_right _ place)
  have own : Writes (depth - 1) v (w.lead ++ (t ++ w.trail)) :=
    .spaced (gap (by simp)) (gap (by simp)) written
  have whole := Writes.object _ (gap (g := w.closing) (by simp))
    (every (p := Member.Tidy) ⟨gap (g := w.before) (by simp), gap (g := w.after) (by simp), unpaired_points key⟩ w.tidy)
    (every (p := fun m => Writes (depth - 1) m.value m.text) own w.sound)
  rw [List.map_append, List.map_append, List.map_cons, List.map_cons, Nat.sub_add_cancel room] at whole
  exact read_of_writes whole

end Wrapper

section Container

variable {front back : Json.Value.Fields} {v : Json.Value}

theorem container_problems (last : Text.points "problems" ∉ back.map Prod.fst) :
    container (.object (Value.ofMembers (front ++ (Text.points "problems", v) :: back))) = .ok v := by
  have found := Value.lookup?_last last front v
  simp only [container, containerKeys, List.findSome?_cons, found]

theorem container_diagnostics (none : Text.points "problems" ∉ (front ++ back).map Prod.fst)
    (last : Text.points "diagnostics" ∉ back.map Prod.fst) :
    container (.object (Value.ofMembers (front ++ (Text.points "diagnostics", v) :: back))) = .ok v := by
  have missing : Text.points "problems" ∉ (front ++ (Text.points "diagnostics", v) :: back).map Prod.fst := by
    have other : Text.points "problems" ≠ Text.points "diagnostics" := by decide
    simp only [List.map_append, List.map_cons, List.mem_append, List.mem_cons, not_or] at none ⊢
    exact ⟨none.1, other, none.2⟩
  have first := Value.lookup?_missing missing
  have second := Value.lookup?_last last front v
  simp only [container, containerKeys, List.findSome?_cons, first, second]

end Container

section Dump

variable {depth : Nat} {ds : List Diagnostic}

/-- The ways in which a list comes back from what it is written as. -/
structure RoundTrip (depth : Nat) (ds : List Diagnostic) : Prop where
  array : parseDocument depth (dump ds) = loaded ds
  problems : ∀ w : Wrapper depth, Text.points "problems" ∉ w.keysBehind →
    parseDocument depth (w.around "problems" (dump ds)) = loaded ds
  diagnostics : ∀ w : Wrapper depth, Text.points "problems" ∉ w.keys → Text.points "diagnostics" ∉ w.keysBehind →
    parseDocument depth (w.around "diagnostics" (dump ds)) = loaded ds
  file : parseFile depth (Utf8.encode (dump ds)) = loaded ds
  injective : ∀ ds' : List Diagnostic, (∀ d ∈ ds', d.Plain) → dump ds' = dump ds → ds' = ds

theorem parseDocument_dump (room : 4 ≤ depth) (plain : ∀ d ∈ ds, d.Plain) :
    parseDocument depth (dump ds) = loaded ds := by
  obtain ⟨more, rfl⟩ := Nat.exists_eq_add_of_le' room
  exact parseDocument_of_read (read_print (fits_list plain more)) rfl

example : dump [⟨"\u00e9\n", none⟩] = "[\n  \x7b\n    \"message\": \"\\u00e9\\n\"\n  \x7d\n]".toList := by decide

theorem parseDocument_around {t : Text} (room : 1 ≤ depth) (written : Writes (depth - 1) (.list (ds.map toValue)) t)
    (w : Wrapper depth) (key : Text) (found : ∀ v, container (.object (Value.ofMembers (w.front.map Member.field ++
      (key.points, v) :: w.back.map Member.field))) = .ok v) : parseDocument depth (w.around key t) = loaded ds :=
  parseDocument_of_read (w.read_around room key written) (found _)

theorem writes_dump (room : 4 ≤ depth) (plain : ∀ d ∈ ds, d.Plain) :
    Writes depth (.list (ds.map toValue)) (dump ds) := by
  obtain ⟨more, rfl⟩ := Nat.exists_eq_add_of_le' room
  exact writes_printAt plain_indented (fits_list plain more) 0

theorem normalizeBreaks_dump (ds : List Diagnostic) : (dump ds).normalizeBreaks = dump ds :=
  Text.normalizeBreaks_of_no_return (ascii_printAt 0 _).no_return

theorem map_field_fst (ms : List Member) : (ms.map Member.field).map Prod.fst = ms.map Member.key := by
  simp [Member.field, Function.comp_def]

/-- Every list comes back, alone, in an object and from a file. Its dump has containers four deep, and the object
or the file takes one more. -/
theorem roundTrip (room : 5 ≤ depth) (ds : List Diagnostic) (plain : ∀ d ∈ ds, d.Plain) : RoundTrip depth ds where
  array := parseDocument_dump (by omega) plain
  problems w last := by
    apply parseDocument_around (by omega) (writes_dump (by omega) plain) w
    intro v
    exact container_problems (by rwa [map_field_fst])
  diagnostics w none last := by
    apply parseDocument_around (by omega) (writes_dump (by omega) plain) w
    intro v
    apply container_diagnostics
    · rwa [List.map_append, map_field_fst, map_field_fst]
    · rwa [map_field_fst]
  file := by
    rw [parseFile, Utf8.decode_encode]
    show parseDocument (depth - 1) (dump ds).normalizeBreaks = _
    rw [normalizeBreaks_dump, parseDocument_dump (by omega) plain]
  -- Both lists are what the one text is read as.
  injective ds' plain' same := by
    have here : parseDocument depth (dump ds) = loaded ds := parseDocument_dump (by omega) plain
    have there : parseDocument depth (dump ds') = loaded ds' := parseDocument_dump (by omega) plain'
    rw [same, here] at there
    have outcome : Except.ok ds = Except.ok ds' := congrArg Traced.outcome there
    exact (Except.ok.inj outcome).symm

def mixedPlaces : List Diagnostic :=
  [⟨Text.points "\"\\\x01😀" ++ [.half 0x400, .half 0], none⟩, ⟨"", some ⟨⟨-3, 0⟩, none⟩⟩,
    ⟨"end", some ⟨⟨12, 5⟩, some ⟨12, 9⟩⟩⟩]

theorem roundTrip_mixedPlaces : (∀ d ∈ mixedPlaces, d.Plain) ∧ RoundTrip 990 mixedPlaces ∧
    parseDocument 990 ('{' :: (printText (Text.points "problems") ++ (':' :: ' ' :: dump mixedPlaces) ++ ['}'])) =
      loaded mixedPlaces := by
  have plain : ∀ d ∈ mixedPlaces, d.Plain := by decide
  have trip : RoundTrip 990 mixedPlaces := roundTrip (by decide) mixedPlaces plain
  have found := trip.problems .bare List.not_mem_nil
  rw [Wrapper.bare_around] at found
  exact ⟨plain, trip, found⟩

end Dump

end Diagnostic

end ParseRepair
