import ParseRepair.Proofs.Recovery.Repair
import ParseRepair.Proofs.Text.Breaks
import ParseRepair.Proofs.Text.Utf8

namespace ParseRepair.Recovery

open Text

def placed (ls : List Text) : List Line := ls.mapIdx fun i t => ⟨i + 1, t⟩

/-- A source stands for its lines: neither their breaks nor the encoding reach the repair. -/
structure Indifferent (m : Method) (c : Classified) : Prop where
  lines : ∀ ls : List EndedLine, ls.IsChain EndedLine.Parted →
    Line.numbered <$> (Source.text (joined ls)).lines = .ok (placed (ls.map EndedLine.text))
  lines_unended : ∀ (ls : List EndedLine) (last : Text), ls.IsChain EndedLine.Parted → Unbroken last → last ≠ [] →
    Line.numbered <$> (Source.text (joined ls ++ last)).lines = .ok (placed (ls.map EndedLine.text ++ [last]))
  result : ∀ t, ∃ r, (Repair.ofSource m c (.text t)).outcome = .ok r
  breaks : ∀ t, Repair.ofSource m c (.text (normalizeBreaks t)) = Repair.ofSource m c (.text t)
  last_break : ∀ t, Unended t → Repair.ofSource m c (.text (t ++ ['\n'])) = Repair.ofSource m c (.text t)
  bytes : ∀ t : Text, Repair.ofSource m c (.bytes t.utf8Encode.data.toList) = Repair.ofSource m c (.text t)
  invalid : ∀ b : Utf8.Bytes, ¬ b.toByteArray.IsValidUTF8 →
    ∃ e, Repair.ofSource m c (.bytes b) = ⟨[], .error (.undecodable e)⟩

theorem numbered_lines {t : Text} {ls : List Text} (same : sourceLines t = ls) :
    Line.numbered <$> (Source.text t).lines = .ok (placed ls) := by
  show Except.ok (Line.numbered (sourceLines t)) = _
  rw [same, Line.numbered_eq_mapIdx]
  rfl

section

variable (m : Method) (c : Classified)

theorem ofSource_of_lines {s u : Source} (same : s.lines = u.lines) :
    Repair.ofSource m c s = Repair.ofSource m c u := by
  unfold Repair.ofSource
  rw [same]

theorem ofSource_of_sourceLines {t u : Text} (same : sourceLines t = sourceLines u) :
    Repair.ofSource m c (.text t) = Repair.ofSource m c (.text u) := by
  apply ofSource_of_lines
  show Except.ok (sourceLines t) = Except.ok (sourceLines u)
  rw [same]

theorem ofSource_encode (t : Text) :
    Repair.ofSource m c (.bytes (Utf8.encode t)) = Repair.ofSource m c (.text t) := by
  have read : (Source.bytes (Utf8.encode t)).read = (Source.text t).read := Utf8.mapError_decode_encode _ t
  apply ofSource_of_lines
  rw [Source.lines, Source.lines, read]

theorem ofSource_of_undecodable {b : Utf8.Bytes} {e : Utf8.DecodeError} (refused : Utf8.decode b = .error e) :
    Repair.ofSource m c (.bytes b) = ⟨[], .error (.undecodable e)⟩ := by
  have lines : (Source.bytes b).lines = .error (.undecodable e) := by
    rw [Source.lines, Source.read, refused]
    rfl
  unfold Repair.ofSource
  rw [lines]
  rfl

/-- Whatever the diagnostics, the pipeline and the padding, a repair is the same for every way of ending and
encoding the lines of its source, and bytes that encode no text are refused. -/
theorem ofSource_indifferent : Indifferent m c where
  lines ls parted := by
    apply numbered_lines
    have empty : Unbroken [] := fun c place => absurd place List.not_mem_nil
    have read := sourceLines_joined_append parted empty
    rw [List.append_nil] at read
    exact read.trans (List.append_nil _)
  lines_unended ls last parted unbroken some_char := by
    apply numbered_lines
    rw [sourceLines_joined_append parted unbroken, sourceLines_unbroken unbroken some_char]
  result t := ⟨_, Repair.ofSource_outcome m c _ t rfl⟩
  breaks t := ofSource_of_sourceLines m c (sourceLines_normalizeBreaks t)
  last_break t unended := ofSource_of_sourceLines m c (sourceLines_append_feed unended)
  bytes t := by
    rw [← Utf8.encode_eq]
    exact ofSource_encode m c t
  invalid b noText := by
    cases read : Utf8.decode b with
    | ok t => exact absurd (Utf8.isValidUTF8_iff.mpr ⟨t, read⟩) noText
    | error e => exact ⟨e, ofSource_of_undecodable m c read⟩

end

def mixedBreaks : List EndedLine :=
  [⟨"é = 5", .pair, by decide⟩, ⟨"", .carriageReturn, by decide⟩, ⟨"** GOTO a", .feed, by decide⟩]

theorem indifferent_of_mixedBreaks :
    mixedBreaks.IsChain EndedLine.Parted ∧
      Line.numbered <$> (Source.text "é = 5\r\n\r** GOTO a\n").lines =
        .ok [⟨1, "é = 5"⟩, ⟨2, ""⟩, ⟨3, "** GOTO a"⟩] ∧
      ∀ b ∈ [[0xC0, 0x80], [0xED, 0xA0, 0x80], [0xE2, 0x82]], ¬ b.toByteArray.IsValidUTF8 ∧
        ∃ e, Repair.ofSource ⟨Strategy.all, true⟩ {} (.bytes b) = ⟨[], .error (.undecodable e)⟩ := by
  have parted : mixedBreaks.IsChain EndedLine.Parted := by decide
  have whole := ofSource_indifferent ⟨Strategy.all, true⟩ {}
  refine ⟨parted, whole.lines _ parted, ?_⟩
  intro b member
  have noText : ¬ b.toByteArray.IsValidUTF8 := by
    rw [Utf8.isValidUTF8_iff]
    intro valid
    obtain ⟨t, read⟩ := valid
    simp only [List.mem_cons, List.not_mem_nil, or_false] at member
    rcases member with rfl | rfl | rfl <;> cases read
  exact ⟨noText, whole.invalid b noText⟩

end ParseRepair.Recovery
