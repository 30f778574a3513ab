import ParseRepair.Proofs.Diff.Reading
import ParseRepair.Proofs.Diff.Unified
import ParseRepair.Proofs.Text.Display

namespace ParseRepair.Diff

open Text

/-- What a hunk makes of the lines in front, and the lines that it does not reach. The lines that it keeps or
removes must be there. -/
def Hunk.apply? (h : Hunk) (ls : List Text) : Option (List Text × List Text) :=
  if h.old.isPrefixOf ls then some (h.new, ls.drop h.old.length) else none

/-- Applies hunks to the lines behind the first `i` of the old side, which are to stand behind the first `j` of
the new side. A hunk begins where the one before has ended, or later, and equally far behind on both
sides. -/
def applyHunks? : Nat → Nat → List Hunk → List Text → Option (List Text)
  | _, _, [], ls => some ls
  | i, j, h :: hs, ls =>
    let gap := h.oldStart - i
    if i ≤ h.oldStart ∧ h.newStart = j + gap ∧ gap ≤ ls.length then do
      let (made, rest) ← h.apply? (ls.drop gap)
      let behind ← applyHunks? (h.oldStart + h.old.length) (h.newStart + h.new.length) hs rest
      some (ls.take gap ++ made ++ behind)
    else none

def Hunk.Before (h k : Hunk) : Prop :=
  h.oldStart + h.old.length < k.oldStart ∧ h.newStart + h.new.length < k.newStart

/-- The text is a diff that turns the old lines into the new ones. -/
structure Patches (name : Text) (old new : List Text) (diff : Text) : Prop where
  ended : diff.getLast? = some '\n'
  hunks : ∃ body hs, displayLines diff = fileLines name ++ body ∧ readHunks? body = some ([], hs) ∧ hs ≠ [] ∧
    hs.Pairwise Hunk.Before ∧ applyHunks? 0 0 hs old = some new

section Sides

@[simp] theorem old_append (h : Hunk) (es : List Edit) : (h.append es).old = h.old ++ es.filterMap Edit.old? :=
  List.filterMap_append

@[simp] theorem new_append (h : Hunk) (es : List Edit) : (h.append es).new = h.new ++ es.filterMap Edit.new? :=
  List.filterMap_append

theorem sides_keep (ls : List Text) :
    (ls.map Edit.keep).filterMap Edit.old? = ls ∧ (ls.map Edit.keep).filterMap Edit.new? = ls := by
  rw [List.filterMap_map, List.filterMap_map]
  exact ⟨List.filterMap_some, List.filterMap_some⟩

@[simp] theorem old_keeping (h : Hunk) (ls : List Text) : (h.keeping ls).old = h.old ++ ls := by
  rw [Hunk.keeping, old_append, (sides_keep ls).1]

@[simp] theorem new_keeping (h : Hunk) (ls : List Text) : (h.keeping ls).new = h.new ++ ls := by
  rw [Hunk.keeping, new_append, (sides_keep ls).2]

theorem sides_editsOf (old new : List Text) :
    (editsOf old new).filterMap Edit.old? = old ∧ (editsOf old new).filterMap Edit.new? = new := by
  have removed : (old.map Edit.remove).filterMap Edit.old? = old ∧ (old.map Edit.remove).filterMap Edit.new? = [] := by
    rw [List.filterMap_map, List.filterMap_map]
    exact ⟨List.filterMap_some, List.filterMap_eq_nil_iff.mpr fun _ _ => rfl⟩
  have inserted : (new.map Edit.insert).filterMap Edit.old? = [] ∧ (new.map Edit.insert).filterMap Edit.new? = new := by
    rw [List.filterMap_map, List.filterMap_map]
    exact ⟨List.filterMap_eq_nil_iff.mpr fun _ _ => rfl, List.filterMap_some⟩
  rw [editsOf, List.filterMap_append, List.filterMap_append, removed.1, removed.2, inserted.1, inserted.2]
  exact ⟨List.append_nil old, List.nil_append new⟩

end Sides

section Application

theorem apply?_eq_some_iff {h : Hunk} {ls made rest : List Text} :
    h.apply? ls = some (made, rest) ↔ ls = h.old ++ rest ∧ made = h.new := by
  unfold Hunk.apply?
  constructor
  · intro applied
    split at applied
    · rename_i begins
      obtain ⟨tail, rfl⟩ := List.isPrefixOf_iff_prefix.mp begins
      rw [List.drop_left] at applied
      cases applied
      exact ⟨rfl, rfl⟩
    · cases applied
  · rintro ⟨rfl, rfl⟩
    rw [if_pos (List.isPrefixOf_iff_prefix.mpr (List.prefix_append _ _)), List.drop_left]

variable {i j : Nat} {h : Hunk} {hs : List Hunk} {ls made : List Text}

theorem applyHunks?_cons_eq_some_iff : applyHunks? i j (h :: hs) ls = some made ↔
    ∃ front rest behind, ls = front ++ (h.old ++ rest) ∧ h.oldStart = i + front.length ∧
      h.newStart = j + front.length ∧
      applyHunks? (h.oldStart + h.old.length) (h.newStart + h.new.length) hs rest = some behind ∧
      made = front ++ (h.new ++ behind) := by
  rw [applyHunks?]
  constructor
  · intro applied
    split at applied
    · rename_i fits
      obtain ⟨low, high, room⟩ := fits
      obtain ⟨⟨middle, rest⟩, edited, later⟩ := Option.bind_eq_some_iff.mp applied
      obtain ⟨behind, followed, shape⟩ := Option.bind_eq_some_iff.mp later
      obtain ⟨held, rfl⟩ := apply?_eq_some_iff.mp edited
      have size : (ls.take (h.oldStart - i)).length = h.oldStart - i := by
        rw [List.length_take, Nat.min_eq_left room]
      refine ⟨ls.take (h.oldStart - i), rest, behind, ?_, by omega, by omega, followed, ?_⟩
      · rw [← held, List.take_append_drop]
      · rw [← Option.some.inj shape, List.append_assoc]
    · cases applied
  · rintro ⟨front, rest, behind, rfl, low, high, followed, rfl⟩
    have gap : h.oldStart - i = front.length := by omega
    have room : front.length ≤ (front ++ (h.old ++ rest)).length := by
      rw [List.length_append]
      exact Nat.le_add_right _ _
    have edited : h.apply? (h.old ++ rest) = some (h.new, rest) := apply?_eq_some_iff.mpr ⟨rfl, rfl⟩
    rw [gap, if_pos ⟨by omega, high, room⟩, List.take_left, List.drop_left, edited]
    simp only [Option.bind_eq_bind, Option.bind_some, followed, List.append_assoc]

theorem applyHunks?_append (front : List Text)
    (applied : applyHunks? (i + front.length) (j + front.length) hs ls = some made) :
    applyHunks? i j hs (front ++ ls) = some (front ++ made) := by
  cases hs with
  | nil =>
    obtain rfl := Option.some.inj applied
    rfl
  | cons h hs =>
    obtain ⟨gap, rest, behind, rfl, low, high, followed, rfl⟩ := applyHunks?_cons_eq_some_iff.mp applied
    refine applyHunks?_cons_eq_some_iff.mpr ⟨front ++ gap, rest, behind, ?_, ?_, ?_, followed, ?_⟩
    · rw [List.append_assoc]
    · rw [low, List.length_append, Nat.add_assoc]
    · rw [high, List.length_append, Nat.add_assoc]
    · rw [List.append_assoc]

theorem applyHunks?_hunk
    (followed : applyHunks? (h.oldStart + h.old.length) (h.newStart + h.new.length) hs ls = some made) :
    applyHunks? h.oldStart h.newStart (h :: hs) (h.old ++ ls) = some (h.new ++ made) :=
  applyHunks?_cons_eq_some_iff.mpr ⟨[], ls, made, rfl, rfl, rfl, followed, rfl⟩

theorem lines_of_applyHunks? (applied : applyHunks? i j hs ls = some made) :
    ∀ h ∈ hs, h.old ⊆ ls ∧ h.new ⊆ made := by
  induction hs generalizing i j ls made with
  | nil => exact fun h member => absurd member List.not_mem_nil
  | cons k hs ih =>
    obtain ⟨front, rest, behind, rfl, _, _, followed, rfl⟩ := applyHunks?_cons_eq_some_iff.mp applied
    intro h member
    rcases List.mem_cons.mp member with rfl | member
    · exact ⟨fun l place => List.mem_append_right _ (List.mem_append_left _ place),
        fun l place => List.mem_append_right _ (List.mem_append_left _ place)⟩
    · obtain ⟨old, new⟩ := ih followed h member
      exact ⟨fun l place => List.mem_append_right _ (List.mem_append_right _ (old place)),
        fun l place => List.mem_append_right _ (List.mem_append_right _ (new place))⟩

end Application

section Building

/-- A hunk that begins with the last lines of a part that stays the same. `i` and `j` count the lines in front of
that part. -/
structure Leads (i j : Nat) (xs : List Text) (h : Hunk) : Prop where
  oldStart : h.oldStart = i + (xs.length - context)
  newStart : h.newStart = j + (xs.length - context)
  old : h.old = xs.drop (xs.length - context)
  new : h.new = xs.drop (xs.length - context)

theorem leads_leading (i j : Nat) (xs : List Text) : Leads i j xs (leading (i + xs.length) (j + xs.length) xs) where
  oldStart := by
    simp only [leading, List.length_drop]
    omega
  newStart := by
    simp only [leading, List.length_drop]
    omega
  old := (sides_keep _).1
  new := (sides_keep _).2

theorem Leads.ends {xs : List Text} (leads : Leads i j xs h) :
    h.oldStart + h.old.length = i + xs.length ∧ h.newStart + h.new.length = j + xs.length := by
  rw [leads.oldStart, leads.newStart, leads.old, leads.new, List.length_drop]
  omega

theorem Leads.apply {xs tail tail' : List Text} {ahead : Nat} (leads : Leads i j xs h)
    (early : ahead ≤ xs.length - context)
    (applied : applyHunks? h.oldStart h.newStart hs (h.old ++ tail) = some (h.new ++ tail')) :
    applyHunks? (i + ahead) (j + ahead) hs (xs.drop ahead ++ tail) = some (xs.drop ahead ++ tail') := by
  have size : ((xs.drop ahead).take (xs.length - context - ahead)).length = xs.length - context - ahead := by
    rw [List.length_take, List.length_drop]
    omega
  have shown : (xs.drop ahead).drop (xs.length - context - ahead) = xs.drop (xs.length - context) := by
    rw [List.drop_drop, Nat.add_sub_cancel' early]
  have place (k : Nat) : k + (xs.length - context) = k + ahead + (xs.length - context - ahead) := by
    omega
  rw [leads.oldStart, leads.newStart, leads.old, leads.new, ← shown, place i, place j] at applied
  rw [← List.take_append_drop (xs.length - context - ahead) (xs.drop ahead), List.append_assoc, List.append_assoc]
  apply applyHunks?_append
  rw [size]
  exact applied

theorem hunksFrom_same (i j : Nat) (h : Hunk) (xs : List Text) {r : List (Segment Text)} (more : r ≠ []) :
    hunksFrom i j (some h) (.same xs :: r) =
      if 2 * context < xs.length then
        h.keeping (xs.take context) ::
          hunksFrom (i + xs.length) (j + xs.length) (some (leading (i + xs.length) (j + xs.length) xs)) r
      else hunksFrom (i + xs.length) (j + xs.length) (some (h.keeping xs)) r := by
  cases r with
  | nil => exact absurd rfl more
  | cons s r => rfl

/-- Hunks that are built for two texts turn the one into the other. The hunk that is begun has taken its lines
already. -/
theorem applyHunks?_hunksFrom {segments : List (Segment Text)} (h : Hunk) {xs ys : List Text}
    (covers : Covers segments xs ys) :
    applyHunks? h.oldStart h.newStart
      (hunksFrom (h.oldStart + h.old.length) (h.newStart + h.new.length) (some h) segments) (h.old ++ xs) =
        some (h.new ++ ys) := by
  obtain ⟨rfl, rfl⟩ := covers
  induction segments generalizing h with
  | nil => exact applyHunks?_hunk rfl
  | cons s r ih =>
    cases s with
    | changed old new =>
      have sides := sides_editsOf old new
      have next := ih (h.append (editsOf old new))
      simp only [old_append, new_append, sides.1, sides.2, List.length_append, List.append_assoc,
        ← Nat.add_assoc] at next
      exact next
    | same xs =>
      have split (side tail : List Text) :
          side ++ (xs ++ tail) = side ++ xs.take context ++ (xs.drop context ++ tail) := by
        rw [List.append_assoc, ← List.append_assoc (xs.take context), List.take_append_drop]
      have closed {hs : List Hunk} {tail tail' : List Text}
          (followed : applyHunks? (h.oldStart + h.old.length + (xs.take context).length)
            (h.newStart + h.new.length + (xs.take context).length) hs (xs.drop context ++ tail) =
              some (xs.drop context ++ tail')) :
          applyHunks? h.oldStart h.newStart (h.keeping (xs.take context) :: hs) (h.old ++ (xs ++ tail)) =
            some (h.new ++ (xs ++ tail')) := by
        rw [Nat.add_assoc, Nat.add_assoc, ← List.length_append, ← List.length_append, ← old_keeping, ← new_keeping]
          at followed
        rw [split, split, ← old_keeping, ← new_keeping]
        exact applyHunks?_hunk (h := h.keeping (xs.take context)) followed
      rw [List.flatMap_cons, List.flatMap_cons, Segment.old, Segment.new]
      by_cases last : r = []
      · subst last
        exact closed rfl
      · rw [hunksFrom_same _ _ _ _ last]
        split
        -- There is more between the changes than is shown: one hunk ends and another begins.
        · rename_i long
          have leads := leads_leading (h.oldStart + h.old.length) (h.newStart + h.new.length) xs
          have next := ih (leading (h.oldStart + h.old.length + xs.length) (h.newStart + h.new.length + xs.length) xs)
          rw [leads.ends.1, leads.ends.2] at next
          have shown : (xs.take context).length = context := by
            rw [List.length_take]
            omega
          apply closed
          rw [shown]
          exact leads.apply (by omega) next
        · have next := ih (h.keeping xs)
          simp only [old_keeping, new_keeping, List.length_append, List.append_assoc, ← Nat.add_assoc] at next
          exact next

theorem applyHunks?_none (i j : Nat) {segments : List (Segment Text)} {xs ys : List Text}
    (covers : Covers segments xs ys) : applyHunks? i j (hunksFrom i j none segments) xs = some ys := by
  obtain ⟨rfl, rfl⟩ := covers
  cases segments with
  | nil => rfl
  | cons s r =>
    cases s with
    | changed old new =>
      have whole : Covers (.changed old new :: r) _ _ := ⟨rfl, rfl⟩
      exact applyHunks?_hunksFrom ⟨i, j, []⟩ whole
    | same xs =>
      cases r with
      | nil => rfl
      | cons s r =>
        have leads := leads_leading i j xs
        have rest : Covers (s :: r) _ _ := ⟨rfl, rfl⟩
        have next := applyHunks?_hunksFrom (leading (i + xs.length) (j + xs.length) xs) rest
        rw [leads.ends.1, leads.ends.2] at next
        exact leads.apply (Nat.zero_le _) next

theorem applyHunks?_hunks (old new : List Text) : applyHunks? 0 0 (hunks old new) old = some new :=
  applyHunks?_none 0 0 (covers_align old new)

theorem ordered_single (h : Hunk) :
    (∀ k ∈ [h], h.oldStart ≤ k.oldStart ∧ h.newStart ≤ k.newStart) ∧ [h].Pairwise Hunk.Before := by
  refine ⟨?_, List.pairwise_singleton _ _⟩
  intro k member
  rw [List.mem_singleton.mp member]
  exact ⟨Nat.le_refl _, Nat.le_refl _⟩

/-- The hunks from a place on begin no earlier than the one that is being built, and stand in their order. -/
theorem ordered_hunksFrom (h : Hunk) (segments : List (Segment Text)) :
    (∀ k ∈ hunksFrom (h.oldStart + h.old.length) (h.newStart + h.new.length) (some h) segments,
      h.oldStart ≤ k.oldStart ∧ h.newStart ≤ k.newStart) ∧
    (hunksFrom (h.oldStart + h.old.length) (h.newStart + h.new.length) (some h) segments).Pairwise Hunk.Before := by
  induction segments generalizing h with
  | nil => exact ordered_single h
  | cons s r ih =>
    cases s with
    | changed old new =>
      have sides := sides_editsOf old new
      have next := ih (h.append (editsOf old new))
      simp only [old_append, new_append, sides.1, sides.2, List.length_append, ← Nat.add_assoc] at next
      exact next
    | same xs =>
      by_cases last : r = []
      · subst last
        exact ordered_single (h.keeping (xs.take context))
      · rw [hunksFrom_same _ _ _ _ last]
        split
        · rename_i long
          have leads := leads_leading (h.oldStart + h.old.length) (h.newStart + h.new.length) xs
          obtain ⟨later, ordered⟩ :=
            ih (leading (h.oldStart + h.old.length + xs.length) (h.newStart + h.new.length + xs.length) xs)
          rw [leads.ends.1, leads.ends.2] at later ordered
          rw [leads.oldStart, leads.newStart] at later
          have shown : (xs.take context).length = context := by
            rw [List.length_take]
            omega
          refine ⟨?_, List.pairwise_cons.mpr ⟨?_, ordered⟩⟩
          · intro k member
            rcases List.mem_cons.mp member with rfl | member
            · exact ⟨Nat.le_refl _, Nat.le_refl _⟩
            · have := later k member
              omega
          · intro k member
            have := later k member
            rw [Hunk.Before, old_keeping, new_keeping, List.length_append, List.length_append, shown]
            simp only [Hunk.keeping, Hunk.append]
            omega
        · have next := ih (h.keeping xs)
          simp only [old_keeping, new_keeping, List.length_append, ← Nat.add_assoc] at next
          exact next

theorem ordered_hunks (old new : List Text) : (hunks old new).Pairwise Hunk.Before := by
  unfold hunks
  cases align old new with
  | nil => exact List.Pairwise.nil
  | cons s r =>
    cases s with
    | changed xs ys => exact (ordered_hunksFrom ⟨0, 0, []⟩ (.changed xs ys :: r)).2
    | same xs =>
      cases r with
      | nil => exact List.Pairwise.nil
      | cons s r =>
        have leads := leads_leading 0 0 xs
        have ordered := (ordered_hunksFrom (leading (0 + xs.length) (0 + xs.length) xs) (s :: r)).2
        rw [leads.ends.1, leads.ends.2] at ordered
        exact ordered

end Building

section Written

theorem oneLine_range (start count : Nat) : OneLine (Hunk.range start count) := by
  have digits (n : Nat) : OneLine (ofNat n) :=
    forall_mem_ofNat n (show OneLine ['0', '1', '2', '3', '4', '5', '6', '7', '8', '9'] from by decide)
  unfold Hunk.range
  split
  · exact digits _
  · apply OneLine.concat
    simp only [List.forall_mem_cons]
    exact ⟨digits _, by decide, digits _, List.forall_mem_nil _⟩

theorem oneLine_header (h : Hunk) : OneLine h.header := by
  apply OneLine.concat
  simp only [List.forall_mem_cons]
  exact ⟨by decide, oneLine_range _ _, by decide, oneLine_range _ _, by decide, List.forall_mem_nil _⟩

theorem oneLine_fileLines {name : Text} (whole : OneLine name) : ∀ l ∈ fileLines name, OneLine l := by
  have named {sign side : Text} (front : OneLine sign) (behind : OneLine side) :
      OneLine (.concat [sign, name, side]) := by
    apply OneLine.concat
    simp only [List.forall_mem_cons]
    exact ⟨front, whole, behind, List.forall_mem_nil _⟩
  simp only [fileLines, List.forall_mem_cons]
  exact ⟨named (by decide) (by decide), named (by decide) (by decide), List.forall_mem_nil _⟩

theorem oneLine_edit {h : Hunk} {e : Edit} (member : e ∈ h.edits) (old : ∀ l ∈ h.old, OneLine l)
    (new : ∀ l ∈ h.new, OneLine l) : OneLine e.text := by
  cases e with
  | keep l => exact .cons (by decide) (old l (List.mem_filterMap.mpr ⟨_, member, rfl⟩))
  | remove l => exact .cons (by decide) (old l (List.mem_filterMap.mpr ⟨_, member, rfl⟩))
  | insert l => exact .cons (by decide) (new l (List.mem_filterMap.mpr ⟨_, member, rfl⟩))

theorem oneLine_hunks {old new : List Text} (oldLines : ∀ l ∈ old, OneLine l) (newLines : ∀ l ∈ new, OneLine l) :
    ∀ l ∈ (hunks old new).flatMap Hunk.lines, OneLine l := by
  intro l member
  obtain ⟨h, built, place⟩ := List.mem_flatMap.mp member
  obtain ⟨fromOld, fromNew⟩ := lines_of_applyHunks? (applyHunks?_hunks old new) h built
  rcases List.mem_cons.mp place with rfl | edit
  · exact oneLine_header h
  · obtain ⟨e, there, rfl⟩ := List.mem_map.mp edit
    exact oneLine_edit there (fun k kept => oldLines k (fromOld kept)) fun k kept => newLines k (fromNew kept)

theorem oneLine_diffLines {name : Text} (whole : OneLine name) (old new : Text) :
    ∀ l ∈ diffLines name old new, OneLine l := by
  have body := oneLine_hunks (fun l => oneLine_of_mem_displayLines (t := old)) fun l =>
    oneLine_of_mem_displayLines (t := new)
  rw [diffLines, unifiedLines]
  split
  · exact fun l member => absurd member List.not_mem_nil
  · exact List.forall_mem_append.mpr ⟨oneLine_fileLines whole, body⟩

end Written

/-- A diff is empty if a display shows the same lines of both texts, or else it turns the one's lines into the
other's. -/
theorem unified_patches (name old new : Text) (whole : OneLine name) :
    (unified name old new = [] → displayLines old = displayLines new) ∧
    (unified name old new ≠ [] → Patches name (displayLines old) (displayLines new) (unified name old new)) := by
  refine ⟨(unified_eq_nil_iff name old new).mp, ?_⟩
  intro shown
  have differ := mt (unified_eq_nil_iff name old new).mpr shown
  have some_hunk := mt (hunks_eq_nil_iff (displayLines old) (displayLines new)).mp differ
  have lines : diffLines name old new =
      fileLines name ++ (hunks (displayLines old) (displayLines new)).flatMap Hunk.lines := by
    rw [diffLines, unifiedLines]
    cases built : hunks (displayLines old) (displayLines new) with
    | nil => exact absurd built some_hunk
    | cons h hs => rfl
  have whole_lines := oneLine_diffLines whole old new
  rw [lines] at whole_lines
  rw [unified, lines]
  exact ⟨getLast?_unlines (List.cons_ne_nil _ _), _, _, displayLines_unlines whole_lines, readHunks?_lines _, some_hunk,
    ordered_hunks _ _, applyHunks?_hunks _ _⟩

theorem patches_mixedBreaks :
    unified "a" "x\r\ny\x0cz" "x\nw\x0cz\n" =
      "--- a (original)\n+++ a (patched)\n@@ -1,3 +1,3 @@\n x\n-y\n+w\n z\n".toList ∧
    Patches "a" ["x", "y", "z"] ["x", "w", "z"] (unified "a" "x\r\ny\x0cz" "x\nw\x0cz\n") :=
  ⟨rfl, (unified_patches "a" "x\r\ny\x0cz" "x\nw\x0cz\n" (by decide)).2 (List.cons_ne_nil _ _)⟩

end ParseRepair.Diff
