import ParseRepair.Proofs.Diagnostic.FirstPlace
import ParseRepair.Proofs.Recovery.Literal
import ParseRepair.Proofs.Recovery.Pass

namespace ParseRepair.Recovery

open Text

/-- What a lexer says that met the end of a line in a literal: `body` is what it had read of it. -/
def openLiteralMessage (line column : Nat) (body : Text) : Text :=
  .concat ["Lexical error at line ", .ofNat line, ", column ", .ofNat column,
    ".  Encountered: \"\\n\" (10), after : \"\\\"", body, "\""]

def openLiteralReport (body : Text) : Text :=
  ".  ".toList ++ ("Encountered: \"\\n\"".toList ++ (" (10), ".toList ++
    ("after : \"\\".toList ++ ('"' :: body ++ ['"']))))

theorem openLiteralMessage_eq (line column : Nat) (body : Text) :
    openLiteralMessage line column body =
      "Lexical error at ".toList ++ ("line ".toList ++ (.ofNat line ++ (", column ".toList ++
        (.ofNat column ++ openLiteralReport body)))) := by
  simp [openLiteralMessage, openLiteralReport, Text.concat]

section Place

theorem openLiteralMessage_eq_lexicalMessage (line column : Nat) (body : Text) :
    points (openLiteralMessage line column body) = Diagnostic.lexicalMessage line column
      (points ("  Encountered: \"\\n\" (10), after : \"\\\"".toList ++ (body ++ ['"']))) := by
  simp [openLiteralMessage, Diagnostic.lexicalMessage, Text.concat]

theorem location?_openLiteralMessage (line column : Nat) (body : Text) :
    Diagnostic.location? (openLiteralMessage line column body) = some (.ofNat line, .ofNat column) := by
  rw [Diagnostic.location?_eq_some_iff, openLiteralMessage_eq_lexicalMessage]
  exact Diagnostic.namesPlace_lexicalMessage line column _

theorem placement_of_location? {message : Points} {line column : Nat}
    (hint : contains message Diagnostic.locationHint = true)
    (found : Diagnostic.location? message = some (ofNat line, ofNat column))
    (short : (ofNat line).length ≤ digitLimit) (short' : (ofNat column).length ≤ digitLimit) :
    Diagnostic.placement ⟨message, none⟩ = .ok (.lexical ⟨⟨message, none⟩, line, column⟩) := by
  have placed : Diagnostic.locate ⟨message, none⟩ = .ok (some ⟨⟨message, none⟩, line, column⟩) := by
    simp only [Diagnostic.locate, hint, found, toNat_ofNat short, toNat_ofNat short', Option.isSome_none,
      Bool.not_true, Bool.or_self, Bool.false_eq_true, if_false, bind, Except.bind]
  rw [Diagnostic.placement_of_no_span rfl, placed]
  rfl

theorem contains_hint (line column : Nat) (body : Text) :
    contains (points (openLiteralMessage line column body)) Diagnostic.locationHint = true := by
  rw [contains_iff, openLiteralMessage_eq_lexicalMessage]
  exact Diagnostic.hint_lexicalMessage line column _

end Place

section Fragment

theorem report_part (line column : Nat) (body : Text) :
    openLiteralReport body <:+: openLiteralMessage line column body := by
  rw [openLiteralMessage_eq]
  simp only [← List.append_assoc]
  exact (List.suffix_append _ _).isInfix

theorem reportsOpenQuote_openLiteralMessage (line column : Nat) (body : Text) :
    reportsOpenQuote (openLiteralMessage line column body) = true := by
  have encountered : contains (openLiteralReport body) "Encountered: \"\\n\"" = true :=
    (contains_iff _ _).mpr ⟨".  ".toList, _, by rw [openLiteralReport, List.append_assoc]⟩
  have quoted : contains (openLiteralReport body) "after : \"\\\"" = true := by
    refine (contains_iff _ _).mpr
      ⟨".  ".toList ++ ("Encountered: \"\\n\"".toList ++ " (10), ".toList), body ++ ['"'], ?_⟩
    simp [openLiteralReport]
  rw [reportsOpenQuote, contains_points, contains_points,
    contains_of_part (report_part line column body) encountered,
    contains_of_part (report_part line column body) quoted, Bool.and_self]

/-- No backslash follows the one in front of the quote, so nothing later is taken for the
fragment. -/
theorem openFragment_openLiteralMessage (line column : Nat) {body : Text} (unescaped : '\\' ∉ body) :
    openFragment (openLiteralMessage line column body) = points ('"' :: body) := by
  have missing : '\\' ∉ '"' :: body ++ ['"'] := by simp [unescaped]
  have later := afterLast?_eq_none (p := 'a' :: "fter : \"\\".toList) (by decide) missing
  have last := afterLast?_self (by decide) later
  have found : afterLast? "after : \"\\" (openLiteralMessage line column body) =
      some ('"' :: body ++ ['"']) := by
    rw [openLiteralMessage_eq, openLiteralReport]
    iterate 8 apply afterLast?_append
    exact last
  rw [openFragment, afterLast?_points, found, Option.map_some, Option.getD_some, ← points_dropLast,
    List.dropLast_concat]

/-- The first quote that is followed by the fragment stands no later than the open one, and earlier
exactly if the fragment is also in the text before. -/
theorem firstAt_fragment {before body : Text} (unquoted : '"' ∉ body) :
    ∃ start, FirstAt ('"' :: body) (before ++ '"' :: body) start ∧ start ≤ before.length ∧
      (start = before.length ↔ ¬ ('"' :: body) <:+: before) := by
  have occurs : ('"' :: body) <:+: before ++ '"' :: body := (List.suffix_append _ _).isInfix
  obtain ⟨start, found⟩ := Option.isSome_iff_exists.mp ((contains_iff _ _).mpr occurs)
  have bound := find?_bound found
  obtain ⟨_, here, first⟩ := (find?_eq_some_iff _ _ _).mp found
  rw [List.length_append] at bound
  refine ⟨start, ⟨here, first⟩, by omega, ?_, ?_⟩
  · rintro rfl ⟨u, v, inside⟩
    have earlier : u.length < before.length := by
      rw [← inside]
      simp only [List.length_append, List.length_cons]
      omega
    apply first u.length earlier
    rw [← inside, List.append_assoc, List.append_assoc, List.drop_left]
    exact List.prefix_append _ _
  · intro absent
    by_contra other
    apply absent
    have early : start < before.length := by omega
    obtain ⟨v, shape⟩ := here
    rw [List.drop_append_of_le_length (by omega)] at shape
    -- An occurrence that reached the open quote would have a quote in its body.
    rcases List.append_eq_append_iff.mp shape with ⟨w, inside, _⟩ | ⟨w, across, rest⟩
    · exact ⟨before.take start, w, by rw [List.append_assoc, ← inside, List.take_append_drop]⟩
    · cases w with
      | nil =>
        rw [List.append_nil] at across
        exact ⟨before.take start, [], by rw [across, List.append_nil, List.take_append_drop]⟩
      | cons c w =>
        obtain ⟨rfl, _⟩ := List.cons.inj rest
        obtain ⟨d, tail, front⟩ := List.exists_cons_of_length_pos
          (show 0 < (before.drop start).length by rw [List.length_drop]; omega)
        rw [front] at across
        obtain ⟨_, body_eq⟩ := List.cons.inj across
        exact absurd (by rw [body_eq]; simp) unquoted

end Fragment

theorem closeLiteral_append (before body : Text) :
    closeLiteral (before ++ '"' :: body) before.length =
      before ++ '"' :: (List.replicate (max 1 (literalEnd body - 1)) '?' ++
        '"' :: body.drop (literalEnd body)) := by
  have rest : (before ++ '"' :: body).drop (before.length + 1) = body := by
    rw [← List.drop_drop, List.drop_left]
    rfl
  have inside : before.length < (before ++ '"' :: body).length := by simp
  rw [closeLiteral_eq _ inside, rest, List.take_left]

theorem missingQuote_eq {lexical : List Points} {message : Points} {t : Text} {start : Nat} (only : lexical = [message])
    (open_quote : reportsOpenQuote message = true) (some_char : openFragment message ≠ [])
    (found : Text.find? (openFragment message) t.points = some start) :
    missingQuote lexical t = .edit (closeLiteral t start) := by
  have filled : (openFragment message).isEmpty = false := by simpa using some_char
  simp [missingQuote, fragment?, fragmentStart?, only, open_quote, filled, found]

theorem fires_missingQuote {e : Evidence} {message : Points} {t : Text} {start : Nat}
    (unmarked : ¬ ("** " : Text) <:+: t) (calm : e.here = []) (only : e.lexical = [message])
    (open_quote : reportsOpenQuote message = true) (some_char : openFragment message ≠ [])
    (found : Text.find? (openFragment message) t = some start) :
    Pipeline.Fires Strategy.all e t .missingQuote ∧
      Strategy.verdict e t .missingQuote = .edit (closeLiteral t start) := by
  have verdict : Strategy.verdict e t .missingQuote = .edit (closeLiteral t start) :=
    missingQuote_eq only open_quote some_char found
  refine ⟨⟨[.decompilerArtifacts, .missingTerminator], [.curlyBraces], rfl, ?_, ?_⟩, verdict⟩
  · intro other earlier
    rcases List.mem_cons.mp earlier with rfl | earlier
    · exact decompilerArtifacts_of_unmarked unmarked
    · rw [List.mem_singleton.mp earlier]
      show missingTerminator e.here t = .leave
      rw [calm]
      rfl
  · rw [verdict]
    simp

theorem evidence_of_failure {d : Diagnostic} {f : LexicalFailure} {c : Classified}
    (filed : (Classified.ofDiagnostics [d]).outcome = .ok c) (bare : d.span = none)
    (failure : d.failure? = some f) :
    (Evidence.ofLine c f.line).here = [] ∧ (Evidence.ofLine c f.line).lexical = [f.message] := by
  rw [ofLine_ofDiagnostics filed]
  simp [problemMessages, failureMessages, Diagnostic.spanLine?, bare, failure]

/-- The literal that is closed is the first one on the line that begins as the open one does. The code
before the open literal is kept exactly if no literal in it begins so. -/
theorem patchSource_openLiteral (s : Source) (t : Text) (read : s.read = .ok t) (i column : Nat)
    (before body : Text) (positive : 1 ≤ i) (held : (sourceLines t)[i - 1]? = some (before ++ '"' :: body))
    (unquoted : '"' ∉ body) (unescaped : '\\' ∉ body) (unmarked : ¬ ("** " : Text) <:+: before ++ '"' :: body)
    (short : (ofNat i).length ≤ digitLimit) (short' : (ofNat column).length ≤ digitLimit) :
    ∃ r start, (patchSource s [⟨openLiteralMessage i column body, none⟩] {}).outcome = .ok r ∧
      FirstAt ('"' :: body) (before ++ '"' :: body) start ∧
      (start = before.length ↔ ¬ ('"' :: body) <:+: before) ∧
      (sourceLines r.text)[i - 1]? =
        some (fitLength true (before ++ '"' :: body) (closeLiteral (before ++ '"' :: body) start)) ∧
      (¬ ('"' :: body) <:+: before → (sourceLines r.text)[i - 1]? =
        some (fitLength true (before ++ '"' :: body)
          (before ++ '"' :: (List.replicate (max 1 (literalEnd body - 1)) '?' ++
            '"' :: body.drop (literalEnd body))))) := by
  have placed := placement_of_location? (contains_hint i column body)
    (location?_openLiteralMessage i column body) short short'
  obtain ⟨c, filed⟩ := (Classified.exists_ofDiagnostics_iff [⟨openLiteralMessage i column body, none⟩]).mpr
    (by simpa using ⟨_, placed⟩)
  have failure : Diagnostic.failure? ⟨openLiteralMessage i column body, none⟩ =
      some ⟨⟨openLiteralMessage i column body, none⟩, i, column⟩ := by
    rw [Diagnostic.failure?, placed]
  obtain ⟨calm, only⟩ := evidence_of_failure filed rfl failure
  have fragment := openFragment_openLiteralMessage i column unescaped
  have some_char : openFragment (openLiteralMessage i column body) ≠ [] := by simp [fragment]
  obtain ⟨start, first, bound, exact_place⟩ := @firstAt_fragment before body unquoted
  have found : Text.find? (openFragment (openLiteralMessage i column body)) (points (before ++ '"' :: body)) =
      some start := by
    rw [fragment, find?_points]
    refine (find?_eq_some_iff _ _ _).mpr ⟨?_, first⟩
    rw [List.length_append]
    omega
  obtain ⟨fires, verdict⟩ := fires_missingQuote unmarked calm only
    (reportsOpenQuote_openLiteralMessage i column body) some_char found
  have line : (sourceLines (Repair.ofText (.ofSettings {}) c t).text)[i - 1]? =
      some (fitLength true (before ++ '"' :: body) (closeLiteral (before ++ '"' :: body) start)) := by
    have repaired := Line.repaired_of_fires (m := .ofSettings {}) (l := ⟨i, before ++ '"' :: body⟩) fires
    rw [Repair.sourceLines_ofText, Repair.getElem?_linesAfter, held, Option.map_some,
      Nat.sub_add_cancel positive, repaired, Line.outcome, verdict]
    rfl
  refine ⟨_, start, (patchSource_eq_ok_iff _).mpr ⟨c, t, filed, read, rfl⟩, first, exact_place, line, ?_⟩
  intro elsewhere
  rw [line, exact_place.mpr elsewhere, closeLiteral_append]

theorem openLiteral_of_second :
    (Source.text "x\r\nf(\"a\", \"b);").read = .ok "x\r\nf(\"a\", \"b);".toList ∧
      (sourceLines "x\r\nf(\"a\", \"b);")[1]? = some ("f(\"a\", ".toList ++ '"' :: "b);".toList) ∧
      ¬ ("** " : Text) <:+: "f(\"a\", ".toList ++ '"' :: "b);".toList ∧
      ∃ r, (patchSource (.text "x\r\nf(\"a\", \"b);") [⟨openLiteralMessage 2 12 "b);", none⟩] {}).outcome = .ok r ∧
        (sourceLines r.text)[1]? = some "f(\"a\", \"?\");".toList := by
  have held : (sourceLines "x\r\nf(\"a\", \"b);")[1]? = some ("f(\"a\", ".toList ++ '"' :: "b);".toList) := by
    decide +kernel
  have unmarked : ¬ ("** " : Text) <:+: "f(\"a\", ".toList ++ '"' :: "b);".toList := by decide +kernel
  have elsewhere : ¬ ('"' :: "b);".toList) <:+: "f(\"a\", ".toList := by decide +kernel
  have closed : fitLength true ("f(\"a\", ".toList ++ '"' :: "b);".toList)
      ("f(\"a\", ".toList ++ '"' :: (List.replicate (max 1 (literalEnd "b);".toList - 1)) '?' ++
        '"' :: "b);".toList.drop (literalEnd "b);".toList))) = "f(\"a\", \"?\");".toList := by
    decide +kernel
  obtain ⟨r, start, ran, _, _, _, kept⟩ := patchSource_openLiteral (.text "x\r\nf(\"a\", \"b);") _ rfl 2 12
    "f(\"a\", ".toList "b);".toList (by decide) held (by decide) (by decide) unmarked (by decide) (by decide)
  exact ⟨rfl, held, unmarked, r, ran, by rw [← closed]; exact kept elsewhere⟩

theorem first_quote_is_not_the_open_one :
    (sourceLines "String s = \"x\" + \"")[0]? = some ("String s = \"x\" + ".toList ++ ['"']) ∧
      ("String s = \"x\" + ".toList).count '"' % 2 = 0 ∧
      ∃ r, (patchSource (.text "String s = \"x\" + \"") [⟨openLiteralMessage 1 18 [], none⟩] {}).outcome = .ok r ∧
        (sourceLines r.text)[0]? = some "String s = \"?????\"".toList ∧
        fitLength true ("String s = \"x\" + ".toList ++ ['"']) ("String s = \"x\" + ".toList ++ "\"?\"".toList) ≠
          "String s = \"?????\"".toList := by
  have after : (patchSource (.text "String s = \"x\" + \"")
      [⟨openLiteralMessage 1 18 [], none⟩] {}).outcome.toOption.map (fun r => (sourceLines r.text)[0]?) =
        some (some "String s = \"?????\"".toList) := by
    decide +kernel
  cases ran : (patchSource (.text "String s = \"x\" + \"") [⟨openLiteralMessage 1 18 [], none⟩] {}).outcome with
  | error e =>
    rw [ran] at after
    cases after
  | ok r =>
    rw [ran] at after
    exact ⟨by decide +kernel, by decide, r, rfl, Option.some.inj after, by decide +kernel⟩

end ParseRepair.Recovery
