import ParseRepair.Proofs.Json.Reader
import ParseRepair.Proofs.Value.Fields

namespace ParseRepair.Json

open Text (sepBy hex_four)

structure Layout.Plain (l : Layout) : Prop where
  before : ∀ depth, Gap (l.before depth)
  closing : ∀ depth, Gap (l.closing depth)
  separator : l.separator = [',']
  colon : ∃ g, Gap g ∧ l.colon = ':' :: g

/-- The values that are read back from their text: no reals and no moments, no integer too long, no halves that
make a pair, no key twice, and no more than `depth` containers in each other. -/
inductive Fits : Nat → Value → Prop
  | null {depth : Nat} : Fits depth .null
  | bool {depth : Nat} (b : Bool) : Fits depth (.bool b)
  | int {depth : Nat} (n : Int) (short : (Text.ofNat n.natAbs).length ≤ digitLimit) : Fits depth (.int n)
  | text {depth : Nat} {t : Points} (unpaired : Unpaired t) : Fits depth (.text t)
  | list {depth : Nat} {vs : List Value} (each : ∀ v ∈ vs, Fits depth v) : Fits (depth + 1) (.list vs)
  | object {depth : Nat} {fields : Value.Fields} (distinct : (fields.map Prod.fst).Nodup)
      (keys : ∀ f ∈ fields, Unpaired f.1) (each : ∀ f ∈ fields, Fits depth f.2) : Fits (depth + 1) (.object fields)

section Small

variable {depth : Nat} {v w : Value}

theorem Fits.single (key : Text) (fits : Fits depth v) : Fits (depth + 1) (.object [(key.points, v)]) := by
  apply Fits.object (by simp)
  · intro f member
    rw [List.mem_singleton.mp member]
    exact unpaired_points key
  · intro f member
    rw [List.mem_singleton.mp member]
    exact fits

theorem Fits.pair {key key' : Text} (other : key.points ≠ key'.points) (first : Fits depth v) (second : Fits depth w) :
    Fits (depth + 1) (.object [(key.points, v), (key'.points, w)]) := by
  apply Fits.object (by simpa using other)
  · intro f member
    rcases List.mem_cons.mp member with rfl | member
    · exact unpaired_points key
    · rw [List.mem_singleton.mp member]
      exact unpaired_points key'
  · intro f member
    rcases List.mem_cons.mp member with rfl | member
    · exact first
    · rw [List.mem_singleton.mp member]
      exact second

end Small

theorem printItems_eq (l : Layout) (depth : Nat) (vs : List Value) :
    printItems l depth vs = vs.map (printAt l depth) := by
  induction vs with
  | nil => rfl
  | cons v vs ih => rw [printItems, ih, List.map_cons]

theorem printFields_eq (l : Layout) (depth : Nat) (fields : Value.Fields) : printFields l depth fields =
    fields.map fun f => printText f.1 ++ l.colon ++ printAt l depth f.2 := by
  induction fields with
  | nil => rfl
  | cons f fields ih => rw [printFields, ih, List.map_cons]

theorem enclose_eq {l : Layout} (plain : l.Plain) (depth : Nat) (opening closing : Char) (members : List Text) :
    ∃ g, Gap g ∧ enclose l depth opening closing members =
      opening :: (sepBy [','] (members.map (l.before depth ++ ·)) ++ (g ++ [closing])) := by
  cases members with
  | nil => exact ⟨[], by decide, rfl⟩
  | cons m ms =>
    refine ⟨l.closing depth, plain.closing depth, ?_⟩
    rw [enclose, plain.separator]
    simp

def printedMember (l : Layout) (level : Nat) (gap : Text) (f : Points × Value) : Member :=
  ⟨l.before level, f.1, [], f.2, gap ++ printAt l (level + 1) f.2⟩

theorem Writes.behind {depth : Nat} {v : Value} {t g : Text} (w : Writes depth v t) (blank : Gap g) :
    Writes depth v (g ++ t) := by
  have spaced := Writes.spaced blank (show Gap [] by decide) w
  rwa [List.append_nil] at spaced

theorem writes_printAt {l : Layout} (plain : l.Plain) {depth : Nat} {v : Value} (fits : Fits depth v) (level : Nat) :
    Writes depth v (printAt l level v) := by
  induction fits generalizing level with
  | null => exact .word List.mem_cons_self
  | bool b =>
    cases b with
    | true => exact .word (List.mem_cons_of_mem _ List.mem_cons_self)
    | false => exact .word (List.mem_cons_of_mem _ (List.mem_cons_of_mem _ List.mem_cons_self))
  | int n short => exact .int n short
  | text unpaired => exact .text unpaired
  | @list depth vs _ ih =>
    obtain ⟨g, blank, text⟩ := enclose_eq plain level '[' ']' (printItems l (level + 1) vs)
    have each : ∀ i ∈ vs.map fun v => (v, l.before level ++ printAt l (level + 1) v), Writes depth i.1 i.2 := by
      intro i place
      obtain ⟨v, member, rfl⟩ := List.mem_map.mp place
      exact (ih v member (level + 1)).behind (plain.before level)
    have written := Writes.list _ blank each
    rw [printAt, text, printItems_eq]
    simpa [Function.comp_def] using written
  | @object depth fields distinct keys _ ih =>
    obtain ⟨g, blank, text⟩ := enclose_eq plain level '{' '}' (printFields l (level + 1) fields)
    obtain ⟨g', blank', colon⟩ := plain.colon
    have tidy : ∀ m ∈ fields.map (printedMember l level g'), m.Tidy := by
      intro m place
      obtain ⟨f, member, rfl⟩ := List.mem_map.mp place
      exact ⟨plain.before level, fun c none => absurd none List.not_mem_nil, keys f member⟩
    have each : ∀ m ∈ fields.map (printedMember l level g'), Writes depth m.value m.text := by
      intro m place
      obtain ⟨f, member, rfl⟩ := List.mem_map.mp place
      exact (ih f member (level + 1)).behind blank'
    -- Reading puts the members one by one; as no key comes twice, they are the fields again.
    have same : (fields.map (printedMember l level g')).map Member.field = fields := by
      simp [printedMember, Member.field, Function.comp_def]
    have written := Writes.object _ blank tidy each
    rw [same, Value.ofMembers_of_nodup fields distinct] at written
    rw [printAt, text, printFields_eq, colon]
    simpa [printedMember, Member.written, Function.comp_def] using written

theorem gap_lineAt (depth : Nat) : Gap (lineAt depth) := by
  intro c member
  rcases List.mem_cons.mp member with rfl | member
  · rfl
  · rw [List.eq_of_mem_replicate member]
    rfl

theorem plain_indented : Layout.indented.Plain where
  before depth := gap_lineAt (depth + 1)
  closing := gap_lineAt
  separator := rfl
  colon := ⟨[' '], by decide, rfl⟩

theorem read_print {depth : Nat} {v : Value} (fits : Fits depth v) : Json.read depth (Json.print v) = .ok v :=
  read_of_writes (writes_printAt plain_indented fits 0)

section Ascii

def Ascii (t : Text) : Prop := ∀ c ∈ t, c = '\n' ∨ 0x20 ≤ c.toNat ∧ c.toNat ≤ 0x7E

instance (t : Text) : Decidable (Ascii t) :=
  decidable_of_iff (t.all (fun c => decide (c = '\n' ∨ 0x20 ≤ c.toNat ∧ c.toNat ≤ 0x7E)) = true)
    (by simp only [List.all_eq_true, decide_eq_true_eq, Ascii])

theorem Ascii.append {t u : Text} (left : Ascii t) (right : Ascii u) : Ascii (t ++ u) := by
  intro c member
  rcases List.mem_append.mp member with member | member
  · exact left c member
  · exact right c member

theorem Ascii.sepBy {s : Text} {ts : List Text} (separator : Ascii s) (each : ∀ t ∈ ts, Ascii t) :
    Ascii (sepBy s ts) := by
  induction ts with
  | nil => exact fun c member => nomatch member
  | cons t ts ih =>
    have first := each t List.mem_cons_self
    by_cases more : ts = []
    · subst more
      rwa [Text.sepBy, List.intercalate_singleton]
    · rw [sepBy_cons s t more]
      exact first.append (separator.append (ih fun u place => each u (List.mem_cons_of_mem _ place)))

theorem ascii_unicodeEscape {n : Nat} (small : n < 0x10000) : Ascii (unicodeEscape n) := by
  have digit : ∀ d < 16, Ascii [Nat.digitChar d] := by decide
  rw [unicodeEscape, hex_four small]
  exact Ascii.append (t := ['\\', 'u']) (by decide) (((digit _ (by omega)).append (digit _ (by omega))).append
    ((digit _ (by omega)).append (digit _ (by omega))))

theorem ascii_escapeChar (c : Char) : Ascii (escapeChar c) := by
  have bound := toNat_lt c
  unfold escapeChar
  dsimp only
  split
  · decide
  split
  · decide
  split
  · decide
  split
  · decide
  split
  · decide
  split
  · decide
  split
  · decide
  split
  · rename_i visible
    simp only [Bool.and_eq_true, decide_eq_true_eq] at visible
    intro d member
    rw [List.mem_singleton.mp member]
    exact .inr visible
  split
  · rename_i narrow
    exact ascii_unicodeEscape narrow
  · exact (ascii_unicodeEscape (by omega)).append (ascii_unicodeEscape (by omega))

theorem Ascii.cons {c : Char} {t : Text} (head : Ascii [c]) (tail : Ascii t) : Ascii (c :: t) := head.append tail

theorem ascii_escape (p : Point) : Ascii (escape p) := by
  cases p with
  | char c => exact ascii_escapeChar c
  | half n => exact ascii_unicodeEscape (by omega)

theorem ascii_printText (t : Points) : Ascii (printText t) := by
  have inside : Ascii (t.flatMap escape) := by
    intro c member
    obtain ⟨p, _, member⟩ := List.mem_flatMap.mp member
    exact ascii_escape p c member
  exact .cons (by decide) (inside.append (by decide))

theorem ascii_ofNat (n : Nat) : Ascii (.ofNat n) :=
  Text.forall_mem_ofNat n (show Ascii ['0', '1', '2', '3', '4', '5', '6', '7', '8', '9'] by decide)

theorem ascii_replicate {c : Char} (visible : Ascii [c]) (n : Nat) : Ascii (List.replicate n c) := by
  intro d member
  rw [List.eq_of_mem_replicate member]
  exact visible c List.mem_cons_self

theorem Ascii.part {t u : Text} (ascii : Ascii t) (part : ∀ c ∈ u, c ∈ t) : Ascii u :=
  fun c member => ascii c (part c member)

theorem ascii_ofInt (n : Int) : Ascii (.ofInt n) := by
  cases n with
  | ofNat n => exact ascii_ofNat n
  | negSucc n => exact .cons (by decide) (ascii_ofNat (n + 1))

theorem ascii_lineAt (depth : Nat) : Ascii (lineAt depth) := .cons (by decide) (ascii_replicate (by decide) _)

theorem ascii_enclose (depth : Nat) {opening closing : Char} {members : List Text} (brackets : Ascii [opening, closing])
    (each : ∀ t ∈ members, Ascii t) : Ascii (enclose .indented depth opening closing members) := by
  have first : Ascii [opening] := fun c member => brackets c (List.mem_cons.mpr (.inl (List.mem_singleton.mp member)))
  have last : Ascii [closing] := fun c member => brackets c (List.mem_cons_of_mem _ member)
  have lines : ∀ t ∈ members.map (Layout.indented.before depth ++ ·), Ascii t := by
    intro t place
    obtain ⟨u, member, rfl⟩ := List.mem_map.mp place
    exact (ascii_lineAt (depth + 1)).append (each u member)
  unfold enclose
  split
  · exact brackets
  · exact .append (.append (.cons first (.sepBy (by decide) lines)) (ascii_lineAt depth)) last

theorem ascii_exponentText (e : Int) : Ascii (Binary64.exponentText e) := by
  unfold Binary64.exponentText
  have digits : Ascii (Text.padLeft 2 '0' (Text.ofNat e.natAbs)) :=
    (ascii_replicate (by decide) _).append (ascii_ofNat _)
  split
  · exact .cons (by decide) digits
  · exact .cons (by decide) digits

theorem ascii_decimalText (d : Decimal) : Ascii (Binary64.decimalText d) := by
  have digits := ascii_ofNat d.mantissa
  unfold Binary64.decimalText
  dsimp only
  split
  · exact show Ascii "0.0".toList by decide
  split
  · split
    · rename_i only shape
      rw [shape] at digits
      exact .cons digits (.cons (by decide) (ascii_exponentText _))
    · rename_i first rest _ shape
      rw [shape] at digits
      have tail : Ascii rest := digits.part fun c member => List.mem_cons_of_mem _ member
      have head : Ascii [first] := digits.part fun c member => by
        rw [List.mem_singleton.mp member]
        exact List.mem_cons_self
      exact .append (.cons head (.cons (by decide) tail)) (.cons (by decide) (ascii_exponentText _))
    · exact fun c member => nomatch member
  split
  · exact .append (.append (show Ascii "0.".toList by decide) (ascii_replicate (by decide) _)) digits
  split
  · exact .append (.append digits (ascii_replicate (by decide) _)) (show Ascii ".0".toList by decide)
  · exact .append (digits.part fun c member => List.mem_of_mem_take member)
      (.cons (by decide) (digits.part fun c member => List.mem_of_mem_drop member))

theorem ascii_printReal (x : Binary64) : Ascii (printReal x) := by
  cases x with
  | nan => exact show Ascii "NaN".toList by decide
  | infinite negative =>
    cases negative with
    | true => exact show Ascii "-Infinity".toList by decide
    | false => exact show Ascii "Infinity".toList by decide
  | finite negative mantissa exponent =>
    have digits := ascii_decimalText (Binary64.shortest mantissa exponent)
    cases negative with
    | true => exact .cons (by decide) digits
    | false => exact digits

mutual

theorem ascii_printAt (level : Nat) : ∀ v : Value, Ascii (printAt .indented level v)
  | .null => show Ascii "null".toList by decide
  | .bool true => show Ascii "true".toList by decide
  | .bool false => show Ascii "false".toList by decide
  | .int n => ascii_ofInt n
  | .real x => ascii_printReal x
  | .text t => ascii_printText t
  | .moment iso => ascii_printText iso.points
  | .list items => ascii_enclose level (by decide) (ascii_printItems (level + 1) items)
  | .object fields => ascii_enclose level (by decide) (ascii_printFields (level + 1) fields)

theorem ascii_printItems (level : Nat) : ∀ items : List Value, ∀ t ∈ printItems .indented level items, Ascii t
  | [], _, member => nomatch member
  | v :: r, t, member => by
    rcases List.mem_cons.mp member with rfl | member
    · exact ascii_printAt level v
    · exact ascii_printItems level r t member

theorem ascii_printFields (level : Nat) : ∀ fields : Value.Fields, ∀ t ∈ printFields .indented level fields, Ascii t
  | [], _, member => nomatch member
  | (k, v) :: r, t, member => by
    rcases List.mem_cons.mp member with rfl | member
    · exact ((ascii_printText k).append (by decide)).append (ascii_printAt level v)
    · exact ascii_printFields level r t member

end

theorem Ascii.no_return {t : Text} (ascii : Ascii t) : '\r' ∉ t :=
  fun member => absurd (ascii _ member) (by decide)

end Ascii

end ParseRepair.Json
