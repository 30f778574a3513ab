import ParseRepair.Proofs.Json.Tokens

namespace ParseRepair.Json

open Text (sepBy)

/-- A member of an object as it is written: the key between blanks, and behind the colon a text of
the value. -/
structure Member where
  before : Text
  key : Points
  after : Text
  value : Value
  text : Text

namespace Member

def written (m : Member) : Text := m.before ++ (printText m.key ++ (m.after ++ ':' :: m.text))

def field (m : Member) : Points × Value := (m.key, m.value)

structure Tidy (m : Member) : Prop where
  before : Gap m.before
  after : Gap m.after
  key : Unpaired m.key

end Member

/-- The texts of a value in which no more than `depth` containers lie in each other. Words, numbers and
strings are as a printer writes them, and blanks may stand around every token. -/
inductive Writes : Nat → Value → Text → Prop
  | word {depth : Nat} {v : Value} {t : Text} (known : (t, v) ∈ keywords) : Writes depth v t
  | int {depth : Nat} (n : Int) (short : (Text.ofNat n.natAbs).length ≤ digitLimit) :
      Writes depth (.int n) (.ofInt n)
  | text {depth : Nat} {t : Points} (unpaired : Unpaired t) : Writes depth (.text t) (printText t)
  | spaced {depth : Nat} {v : Value} {t g g' : Text} (before : Gap g) (after : Gap g')
      (inside : Writes depth v t) : Writes depth v (g ++ (t ++ g'))
  | list {depth : Nat} {g : Text} (items : List (Value × Text)) (blank : Gap g)
      (each : ∀ i ∈ items, Writes depth i.1 i.2) :
      Writes (depth + 1) (.list (items.map Prod.fst)) ('[' :: (sepBy [','] (items.map Prod.snd) ++ (g ++ [']'])))
  | object {depth : Nat} {g : Text} (members : List Member) (blank : Gap g) (tidy : ∀ m ∈ members, m.Tidy)
      (each : ∀ m ∈ members, Writes depth m.value m.text) :
      Writes (depth + 1) (.object (Value.ofMembers (members.map Member.field)))
        ('{' :: (sepBy [','] (members.map Member.written) ++ (g ++ ['}'])))

/-- The reader takes the text for the value wherever a value may stand. -/
def Reads (depth : Nat) (v : Value) (t : Text) : Prop :=
  ∀ fuel rest, t.length ≤ fuel → Delimits rest →
    ∃ r, value fuel depth (skipBlank (t ++ rest)) = .ok (v, r) ∧ skipBlank r = skipBlank rest

section Reads

variable {depth : Nat}

theorem exists_succ {n fuel : Nat} (positive : 0 < n) (bound : n ≤ fuel) : ∃ k, fuel = k + 1 :=
  ⟨fuel - 1, by omega⟩

theorem value_word {v : Value} {t : Text} (known : (t, v) ∈ keywords) (fuel : Nat) (rest : Text) :
    value (fuel + 1) depth (skipBlank (t ++ rest)) = .ok (v, rest) := by
  simp only [keywords, List.mem_cons, Prod.mk.injEq, List.not_mem_nil, or_false] at known
  rcases known with ⟨rfl, rfl⟩ | ⟨rfl, rfl⟩ | ⟨rfl, rfl⟩ | ⟨rfl, rfl⟩ | ⟨rfl, rfl⟩ | ⟨rfl, rfl⟩
  · rfl
  · rfl
  · rfl
  · rfl
  · rfl
  · rfl

theorem reads_word {v : Value} {t : Text} (known : (t, v) ∈ keywords) : Reads depth v t := by
  intro fuel rest bound _
  have lengths : keywords.all (fun k => decide (0 < k.1.length)) = true := by decide
  have positive : 0 < t.length := by simpa using List.all_eq_true.mp lengths _ known
  obtain ⟨fuel, rfl⟩ := exists_succ positive bound
  exact ⟨rest, value_word known fuel rest, rfl⟩

theorem reads_int (n : Int) (short : (Text.ofNat n.natAbs).length ≤ digitLimit) :
    Reads depth (.int n) (.ofInt n) := by
  intro fuel rest bound ends
  obtain ⟨c, r, shape, visible, found⟩ := value_ofInt n short ends (fuel - 1) depth
  have positive : 0 < (Text.ofInt n).length := by
    cases n with
    | ofNat n => exact List.length_pos_iff.mpr (Text.ofNat_ne_nil n)
    | negSucc n => exact Nat.succ_pos _
  obtain ⟨fuel, rfl⟩ := exists_succ positive bound
  exact ⟨rest, by rw [shape, skipBlank_cons visible]; exact found, rfl⟩

theorem printText_append (t : Points) (rest : Text) :
    printText t ++ rest = '"' :: (t.flatMap escape ++ '"' :: rest) := by
  simp [printText]

theorem reads_text {t : Points} (unpaired : Unpaired t) : Reads depth (.text t) (printText t) := by
  intro fuel rest bound _
  obtain ⟨fuel, rfl⟩ := exists_succ (Nat.succ_pos _) bound
  refine ⟨rest, ?_, rfl⟩
  rw [printText_append, skipBlank_cons (by decide), value, string_flatMap _ unpaired]
  rfl

theorem Reads.spaced {v : Value} {t g g' : Text} (reads : Reads depth v t) (before : Gap g) (after : Gap g') :
    Reads depth v (g ++ (t ++ g')) := by
  intro fuel rest bound ends
  simp only [List.length_append] at bound
  obtain ⟨r, found, behind⟩ := reads fuel (g' ++ rest) (by omega) (ends.gap after)
  rw [List.append_assoc, List.append_assoc, skipBlank_gap before]
  exact ⟨r, found, by rw [behind, skipBlank_gap after]⟩

theorem sepBy_cons (s t : Text) {ts : List Text} (more : ts ≠ []) : sepBy s (t :: ts) = t ++ (s ++ sepBy s ts) := by
  cases ts with
  | nil => exact absurd rfl more
  | cons u ts => simp [sepBy]

section Steps

variable {fuel : Nat} {t r u rest : Text} {v : Value}

theorem items_last (found : value fuel depth t = .ok (v, r)) (closed : skipBlank r = ']' :: rest) :
    items (fuel + 1) depth t = .ok ([v], rest) := by
  simp only [items, found, closed, bind, Except.bind]

theorem items_more {vs : List Value} (found : value fuel depth t = .ok (v, r)) (more : skipBlank r = ',' :: u)
    (others : items fuel depth (skipBlank u) = .ok (vs, rest)) :
    items (fuel + 1) depth t = .ok (v :: vs, rest) := by
  simp only [items, found, more, others, bind, Except.bind]

theorem name_written {m : Member} (tidy : m.Tidy) (rest : Text) :
    name (skipBlank (m.written ++ rest)) = .ok (m.key, skipBlank (m.text ++ rest)) := by
  have text : m.written ++ rest =
      m.before ++ ('"' :: (m.key.flatMap escape ++ '"' :: (m.after ++ (':' :: (m.text ++ rest))))) := by
    simp [Member.written, printText]
  have colon : skipBlank (m.after ++ (':' :: (m.text ++ rest))) = ':' :: (m.text ++ rest) := by
    rw [skipBlank_gap tidy.after, skipBlank_cons (by decide)]
  rw [text, skipBlank_gap tidy.before, skipBlank_cons (by decide)]
  simp only [name, string_flatMap _ tidy.key, colon, bind, Except.bind]

theorem members_last {key : Points} (named : name t = .ok (key, u)) (found : value fuel depth u = .ok (v, r))
    (closed : skipBlank r = '}' :: rest) : members (fuel + 1) depth t = .ok ([(key, v)], rest) := by
  simp only [members, named, found, closed, bind, Except.bind]

theorem members_more {key : Points} {w : Text} {fields : Value.Fields} (named : name t = .ok (key, u))
    (found : value fuel depth u = .ok (v, r)) (more : skipBlank r = ',' :: w)
    (others : members fuel depth (skipBlank w) = .ok (fields, rest)) :
    members (fuel + 1) depth t = .ok ((key, v) :: fields, rest) := by
  simp only [members, named, found, more, others, bind, Except.bind]

end Steps

theorem items_of_reads {u rest : Text} (is : List (Value × Text)) (some_item : is ≠ [])
    (each : ∀ i ∈ is, Reads depth i.1 i.2) (ends : Delimits u) (closed : skipBlank u = ']' :: rest) {fuel : Nat}
    (bound : (sepBy [','] (is.map Prod.snd)).length < fuel) :
    items fuel depth (skipBlank (sepBy [','] (is.map Prod.snd) ++ u)) = .ok (is.map Prod.fst, rest) := by
  induction is generalizing fuel with
  | nil => exact absurd rfl some_item
  | cons i is ih =>
    -- Each item takes one step more than its text is long; the comma or bracket behind it pays for that.
    obtain ⟨fuel, rfl⟩ := exists_succ (Nat.succ_pos _) bound
    have first := each i List.mem_cons_self fuel
    cases is with
    | nil =>
      have text : sepBy [','] ([i].map Prod.snd) = i.2 := by simp [sepBy]
      rw [text] at bound ⊢
      obtain ⟨r, found, behind⟩ := first u (by omega) ends
      exact items_last found (behind.trans closed)
    | cons j is =>
      have text : sepBy [','] ((i :: j :: is).map Prod.snd) = i.2 ++ (',' :: sepBy [','] ((j :: is).map Prod.snd)) :=
        sepBy_cons [','] i.2 (List.cons_ne_nil _ _)
      rw [text] at bound ⊢
      rw [List.length_append, List.length_cons] at bound
      rw [List.append_assoc]
      obtain ⟨r, found, behind⟩ := first (',' :: (sepBy [','] ((j :: is).map Prod.snd) ++ u)) (by omega)
        (delimits_cons (by decide) _)
      exact items_more found behind
        (ih (List.cons_ne_nil j is) (fun k member => each k (List.mem_cons_of_mem _ member)) (by omega))

theorem members_of_reads {u rest : Text} (ms : List Member) (some_member : ms ≠ []) (tidy : ∀ m ∈ ms, m.Tidy)
    (each : ∀ m ∈ ms, Reads depth m.value m.text) (ends : Delimits u) (closed : skipBlank u = '}' :: rest)
    {fuel : Nat} (bound : (sepBy [','] (ms.map Member.written)).length < fuel) :
    members fuel depth (skipBlank (sepBy [','] (ms.map Member.written) ++ u)) =
      .ok (ms.map Member.field, rest) := by
  induction ms generalizing fuel with
  | nil => exact absurd rfl some_member
  | cons m ms ih =>
    obtain ⟨fuel, rfl⟩ := exists_succ (Nat.succ_pos _) bound
    have named := name_written (tidy m List.mem_cons_self)
    have first := each m List.mem_cons_self fuel
    have longer : m.text.length < m.written.length := by
      simp only [Member.written, List.length_append, List.length_cons]
      omega
    cases ms with
    | nil =>
      have text : sepBy [','] ([m].map Member.written) = m.written := by simp [sepBy]
      rw [text] at bound ⊢
      obtain ⟨r, found, behind⟩ := first u (by omega) ends
      exact members_last (named _) found (behind.trans closed)
    | cons k ms =>
      have text : sepBy [','] ((m :: k :: ms).map Member.written) =
          m.written ++ (',' :: sepBy [','] ((k :: ms).map Member.written)) :=
        sepBy_cons [','] m.written (List.cons_ne_nil _ _)
      rw [text] at bound ⊢
      rw [List.length_append, List.length_cons] at bound
      rw [List.append_assoc]
      obtain ⟨r, found, behind⟩ := first (',' :: (sepBy [','] ((k :: ms).map Member.written) ++ u)) (by omega)
        (delimits_cons (by decide) _)
      exact members_more (named _) found behind (ih (List.cons_ne_nil k ms)
        (fun k member => tidy k (List.mem_cons_of_mem _ member))
        (fun k member => each k (List.mem_cons_of_mem _ member)) (by omega))

theorem items_closing (fuel : Nat) (t : Text) (p : List Value × Text) : items fuel depth (']' :: t) ≠ .ok p := by
  match fuel with
  | 0 => exact fun found => nomatch found
  | 1 => exact fun found => nomatch found
  | fuel + 2 => exact fun found => nomatch found

theorem members_closing (fuel : Nat) (t : Text) (p : Value.Fields × Text) :
    members fuel depth ('}' :: t) ≠ .ok p := by
  match fuel with
  | 0 => exact fun found => nomatch found
  | fuel + 1 => exact fun found => nomatch found

theorem value_emptyList {fuel : Nat} {t rest : Text} (closed : skipBlank t = ']' :: rest) :
    value (fuel + 1) (depth + 1) ('[' :: t) = .ok (.list [], rest) := by
  rw [value, if_neg (Nat.succ_ne_zero depth), closed]
  rfl

theorem value_emptyObject {fuel : Nat} {t rest : Text} (closed : skipBlank t = '}' :: rest) :
    value (fuel + 1) (depth + 1) ('{' :: t) = .ok (.object [], rest) := by
  rw [value, if_neg (Nat.succ_ne_zero depth), closed]
  rfl

theorem value_filledList {fuel : Nat} {t : Text} (filled : ∀ u, skipBlank t ≠ ']' :: u) :
    value (fuel + 1) (depth + 1) ('[' :: t) = items fuel depth (skipBlank t) >>= fun p => .ok (.list p.1, p.2) := by
  rw [value, if_neg (Nat.succ_ne_zero depth)]
  split
  · rename_i r closed
    exact absurd closed (filled r)
  · rfl

theorem value_filledObject {fuel : Nat} {t : Text} (filled : ∀ u, skipBlank t ≠ '}' :: u) :
    value (fuel + 1) (depth + 1) ('{' :: t) =
      members fuel depth (skipBlank t) >>= fun p => .ok (.object (Value.ofMembers p.1), p.2) := by
  rw [value, if_neg (Nat.succ_ne_zero depth)]
  split
  · rename_i r closed
    exact absurd closed (filled r)
  · rfl

theorem value_list {fuel : Nat} {t rest : Text} {vs : List Value}
    (found : items fuel depth (skipBlank t) = .ok (vs, rest)) :
    value (fuel + 1) (depth + 1) ('[' :: t) = .ok (.list vs, rest) := by
  have filled : ∀ u, skipBlank t ≠ ']' :: u := by
    intro u closed
    rw [closed] at found
    exact items_closing fuel u _ found
  rw [value_filledList filled, found]
  rfl

theorem value_object {fuel : Nat} {t rest : Text} {fields : Value.Fields}
    (found : members fuel depth (skipBlank t) = .ok (fields, rest)) :
    value (fuel + 1) (depth + 1) ('{' :: t) = .ok (.object (Value.ofMembers fields), rest) := by
  have filled : ∀ u, skipBlank t ≠ '}' :: u := by
    intro u closed
    rw [closed] at found
    exact members_closing fuel u _ found
  rw [value_filledObject filled, found]
  rfl

theorem reads_list {g : Text} (is : List (Value × Text)) (blank : Gap g) (each : ∀ i ∈ is, Reads depth i.1 i.2) :
    Reads (depth + 1) (.list (is.map Prod.fst)) ('[' :: (sepBy [','] (is.map Prod.snd) ++ (g ++ [']']))) := by
  intro fuel rest bound _
  obtain ⟨fuel, rfl⟩ := exists_succ (Nat.succ_pos _) bound
  simp only [List.length_cons, List.length_append, List.length_nil] at bound
  have closed : skipBlank (g ++ ([']'] ++ rest)) = ']' :: rest := by
    rw [skipBlank_gap blank]
    exact skipBlank_cons (by decide) rest
  have ends : Delimits (g ++ ([']'] ++ rest)) := (delimits_cons (by decide) rest).gap blank
  refine ⟨rest, ?_, rfl⟩
  rw [List.cons_append, skipBlank_cons (by decide), List.append_assoc, List.append_assoc]
  by_cases some_item : is = []
  · subst some_item
    exact value_emptyList closed
  · exact value_list (items_of_reads is some_item each ends closed (by omega))

theorem reads_object {g : Text} (ms : List Member) (blank : Gap g) (tidy : ∀ m ∈ ms, m.Tidy)
    (each : ∀ m ∈ ms, Reads depth m.value m.text) :
    Reads (depth + 1) (.object (Value.ofMembers (ms.map Member.field)))
      ('{' :: (sepBy [','] (ms.map Member.written) ++ (g ++ ['}']))) := by
  intro fuel rest bound _
  obtain ⟨fuel, rfl⟩ := exists_succ (Nat.succ_pos _) bound
  simp only [List.length_cons, List.length_append, List.length_nil] at bound
  have closed : skipBlank (g ++ (['}'] ++ rest)) = '}' :: rest := by
    rw [skipBlank_gap blank]
    exact skipBlank_cons (by decide) rest
  have ends : Delimits (g ++ (['}'] ++ rest)) := (delimits_cons (by decide) rest).gap blank
  refine ⟨rest, ?_, rfl⟩
  rw [List.cons_append, skipBlank_cons (by decide), List.append_assoc, List.append_assoc]
  by_cases some_member : ms = []
  · subst some_member
    exact value_emptyObject closed
  · exact value_object (members_of_reads ms some_member tidy each ends closed (by omega))

end Reads

theorem reads_of_writes {depth : Nat} {v : Value} {t : Text} (w : Writes depth v t) : Reads depth v t := by
  induction w with
  | word known => exact reads_word known
  | int n short => exact reads_int n short
  | text unpaired => exact reads_text unpaired
  | spaced before after _ ih => exact ih.spaced before after
  | list items blank _ ih => exact reads_list items blank ih
  | object members blank tidy _ ih => exact reads_object members blank tidy ih

theorem value_mark (fuel depth : Nat) (t : Text) (p : Value × Text) : value fuel depth ('\uFEFF' :: t) ≠ .ok p := by
  cases fuel with
  | zero => exact fun found => nomatch found
  | succ fuel => exact fun found => nomatch found

theorem read_of_writes {depth : Nat} {v : Value} {t : Text} (w : Writes depth v t) : Json.read depth t = .ok v := by
  obtain ⟨r, found, behind⟩ := reads_of_writes w (2 * t.length + 2) [] (by omega) delimits_nil
  rw [List.append_nil] at found
  have ended : skipBlank r = [] := behind
  have document : document depth t = .ok v := by
    unfold document
    split
    · exact absurd found (value_mark _ _ _ _)
    · simp only [found, ended, bind, Except.bind]
  rw [Json.read, document]

end ParseRepair.Json
