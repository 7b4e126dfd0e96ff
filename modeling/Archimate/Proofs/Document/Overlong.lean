import Archimate.Proofs.Document.Reading

namespace Archimate
open Text

/-- A run of digits, of any script, that is too long to be read as a number. -/
def Literal.Overlong (literal : Text) : Prop :=
  literal.all isDigit = true ∧ digitLimit < literal.length

instance (literal : Text) : Decidable (Literal.Overlong literal) :=
  inferInstanceAs (Decidable (_ ∧ _))

def Body.lineLiteral? (line : Text) : Option Text := (lineField? line).map Prod.snd

/-- The literals of the field lines of a declaration, in order. -/
def Declaration.literals (d : Declaration) : List Text :=
  (splitLines d.body).filterMap Body.lineLiteral?

/-- The literals of a text in the order in which they are read. -/
def Document.literals (text : Text) : List Text :=
  (declarations text).flatMap Declaration.literals

def firstOverlong (literals : List Text) : Option LiteralError :=
  (literals.find? fun literal => Literal.Overlong literal).map fun literal =>
    .tooManyDigits literal.length

theorem firstOverlong_append (as bs : List Text) :
    firstOverlong (as ++ bs) = (firstOverlong as).or (firstOverlong bs) := by
  unfold firstOverlong
  rw [List.find?_append]
  exact Option.map_or

theorem firstOverlong_eq_none_iff {literals : List Text} :
    firstOverlong literals = none ↔ ∀ literal ∈ literals, ¬ Literal.Overlong literal := by
  simp [firstOverlong]

theorem readingError?_parse_literal (literal : Text) :
    readingError? (Literal.parse literal) = firstOverlong [literal] := by
  by_cases h : Literal.Overlong literal
  · have herror : Literal.parse literal = .error (.tooManyDigits literal.length) :=
      Literal.parse_eq_error_iff.mpr ⟨h.1, h.2, rfl⟩
    rw [herror]
    simp [readingError?, firstOverlong, h]
  · rw [firstOverlong_eq_none_iff.mpr (by simpa using h), readingError?_eq_none_iff]
    cases hparse : Literal.parse literal with
    | ok value => exact ⟨value, rfl⟩
    | error e =>
      obtain ⟨hdigits, hlength, -⟩ := Literal.parse_eq_error_iff.mp hparse
      exact absurd ⟨hdigits, hlength⟩ h

theorem readingError?_lineEntry (line : Text) :
    readingError? (Body.lineEntry line) = firstOverlong (Body.lineLiteral? line).toList := by
  unfold Body.lineEntry Body.lineLiteral?
  cases Body.lineField? line with
  | none => rfl
  | some field =>
    dsimp only
    rw [readingError?_map, readingError?_parse_literal]
    rfl

theorem readingError?_entries (lines : List Text) :
    readingError? (Body.entries lines) = firstOverlong (lines.filterMap Body.lineLiteral?) := by
  induction lines with
  | nil => rfl
  | cons line lines ih =>
    have hcons : (line :: lines).filterMap Body.lineLiteral? =
        (Body.lineLiteral? line).toList ++ lines.filterMap Body.lineLiteral? := by
      cases h : Body.lineLiteral? line <;> simp [h]
    unfold Body.entries
    rw [readingError?_bind, readingError?_lineEntry, ih, hcons, firstOverlong_append]

theorem readingError?_record (d : Declaration) :
    readingError? d.record = firstOverlong d.literals := by
  unfold Declaration.record Body.parse
  rw [readingError?_map, readingError?_map, readingError?_entries]
  rfl

theorem readingError?_recordsOf (ds : List Declaration) :
    readingError? (recordsOf ds) = firstOverlong (ds.flatMap Declaration.literals) := by
  induction ds with
  | nil => rfl
  | cons d ds ih =>
    unfold recordsOf
    rw [readingError?_bind, readingError?_record, ih, List.flatMap_cons, firstOverlong_append]

namespace Document

theorem readingError?_parse (text source : Text) :
    readingError? (parse text source) = firstOverlong (literals text) := by
  unfold parse
  rw [readingError?_map, readingError?_recordsOf]
  rfl

theorem parse_eq_error_iff {text source : Text} {e : LiteralError} :
    parse text source = .error e ↔ firstOverlong (literals text) = some e := by
  rw [← readingError?_parse text source, readingError?_eq_some_iff]

theorem exists_parse_eq_ok_iff {text source : Text} :
    (∃ d, parse text source = .ok d) ↔ ∀ literal ∈ literals text, ¬ Literal.Overlong literal := by
  rw [← firstOverlong_eq_none_iff, ← readingError?_parse text source, readingError?_eq_none_iff]

theorem mem_literals {text literal : Text} :
    literal ∈ literals text ↔ ∃ d ∈ declarations text, ∃ line ∈ splitLines d.body,
      ∃ key, Body.lineField? line = some (key, literal) := by
  simp [literals, Declaration.literals, Body.lineLiteral?]

end Document

end Archimate
