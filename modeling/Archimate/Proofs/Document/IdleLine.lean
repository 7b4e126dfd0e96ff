import Archimate.Proofs.Document.Comment
import Archimate.Proofs.Document.Line

namespace Archimate.Body
open Text

variable {t line : Text}

/-- Somewhere in the text stand a word, an equals sign, with blanks around it or without, and
something behind. -/
def HoldsField (t : Text) : Prop :=
  ∃ before key gap gap' value, t = before ++ fieldText key gap gap' value ∧ IsWord key ∧
    allBlank gap = true ∧ allBlank gap' = true ∧ value ≠ []

theorem HoldsField.mono (h : HoldsField t) (hpart : t <:+: line) : HoldsField line := by
  obtain ⟨before, key, gap, gap', value, rfl, hkey, hgap, hgap', hne⟩ := h
  obtain ⟨front, back, rfl⟩ := hpart
  refine ⟨front ++ before, key, gap, gap', value ++ back, ?_, hkey, hgap, hgap', ?_⟩
  · unfold fieldText
    simp only [List.append_assoc]
  · exact List.append_ne_nil_of_left_ne_nil hne back

theorem holdsField_of_firstField? (h : (firstField? t).isSome = true) : HoldsField t := by
  induction t with
  | nil => cases h
  | cons c t ih =>
    rw [firstField?, Option.isSome_or, Bool.or_eq_true] at h
    rcases h with h | h
    · obtain ⟨⟨key, value⟩, hfield⟩ := Option.isSome_iff_exists.mp h
      obtain ⟨gap, gap', heq, hkey, hgap, hgap', -, hne⟩ := field?_eq_some_iff.mp hfield
      exact ⟨[], key, gap, gap', value, heq, hkey, hgap, hgap', hne⟩
    · exact (ih h).mono (List.suffix_cons c t).isInfix

theorem isSome_firstField?_append (h : (firstField? t).isSome = true) (before : Text) :
    (firstField? (before ++ t)).isSome = true := by
  induction before with
  | nil => exact h
  | cons c before ih => rw [List.cons_append, firstField?, Option.isSome_or, ih, Bool.or_true]

theorem isSome_firstField?_iff (ht : Trimmed t) :
    (firstField? t).isSome = true ↔ HoldsField t := by
  refine ⟨holdsField_of_firstField?, ?_⟩
  rintro ⟨before, key, gap, gap', value, rfl, hkey, hgap, hgap', hne⟩
  -- The blanks at the head of the value are read with the gap, so the rest must not be empty.
  obtain ⟨indent, hindent, hvalue⟩ := exists_allBlank_append_trimStart value
  have hrest : trimStart value ≠ [] := by
    intro hnil
    rw [hnil, List.append_nil] at hvalue
    subst hvalue
    refine not_trimmed_append hindent hne (before ++ (key ++ (gap ++ ("=" ++ gap')))) ?_
    unfold fieldText at ht
    simpa only [List.append_assoc] using ht
  have hfield : field? (fieldText key gap gap' value) = some (key, trimStart value) := by
    rw [field?_eq_some_iff]
    refine ⟨gap, gap' ++ indent, ?_, hkey, hgap, ?_, endsBlanks_trimStart value, hrest⟩
    · unfold fieldText
      conv_lhs => rw [hvalue]
      simp only [List.append_assoc]
    · rw [allBlank, List.all_append, Bool.and_eq_true]
      exact ⟨hgap', hindent⟩
  apply isSome_firstField?_append
  rw [firstField?_of_field? hfield]
  rfl

/-- A line of blanks, a comment, or a line that holds no field when it is trimmed. -/
def Idle (line : Text) : Prop :=
  allBlank line = true ∨ IsComment line ∨ ¬ HoldsField (trim line)

theorem lineField?_eq_none_iff : lineField? line = none ↔ Idle line := by
  have hsearch := not_congr (isSome_firstField?_iff (trimmed_trim line))
  rw [Bool.not_eq_true, Option.isSome_eq_false_iff, Option.isNone_iff_eq_none] at hsearch
  unfold lineField? Idle
  rw [← trim_eq_nil_iff, isComment_iff, ← List.isPrefixOf_iff_prefix, ← List.isEmpty_iff,
    ← hsearch, ← or_assoc, ← Bool.or_eq_true]
  dsimp only
  split
  · rename_i hpassed
    exact iff_of_true rfl (Or.inl hpassed)
  · rename_i hpassed
    rw [or_iff_right hpassed, Option.map_eq_none_iff]

instance (line : Text) : Decidable (Idle line) := decidable_of_iff _ lineField?_eq_none_iff

/-- What is not in a line is not in the trimmed line. -/
theorem idle_of_not_holdsField (h : ¬ HoldsField line) : Idle line :=
  Or.inr (Or.inr fun hfield => h (hfield.mono (trim_isInfix line)))

theorem Idle.lineEntry (h : Idle line) : lineEntry line = .ok [] := by
  unfold Body.lineEntry
  rw [lineField?_eq_none_iff.mpr h]

def fieldLines (body : Text) : List Text := (splitLines body).filter fun line => ¬ Idle line

theorem entries_filter_not_idle (lines : List Text) :
    entries (lines.filter fun line => ¬ Idle line) = entries lines := by
  induction lines with
  | nil => rfl
  | cons line lines ih =>
    by_cases hidle : Idle line
    · rw [List.filter_cons_of_neg (by simpa using hidle), ih, entries, hidle.lineEntry]
      cases entries lines <;> rfl
    · rw [List.filter_cons_of_pos (by simpa using hidle), entries, entries, ih]

/-- A body is read as its field lines are, wherever idle lines stand among them. -/
theorem parse_congr_fieldLines {body body' : Text} (h : fieldLines body = fieldLines body') :
    parse body = parse body' := by
  unfold parse
  rw [← entries_filter_not_idle, ← entries_filter_not_idle (splitLines body')]
  exact congrArg (fun lines => (entries lines).map Dictionary.ofList) h

end Archimate.Body
