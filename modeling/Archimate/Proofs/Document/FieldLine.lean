import Archimate.Proofs.Document.Line
import Archimate.Proofs.Literal.Blanks

namespace Archimate.Body
open Text

/-- A line with one field, and the blanks in it. -/
structure FieldLine where
  indent : Text
  key : Text
  gap : Text
  gap' : Text
  literal : Text
  behind : Text
  /-- The blanks behind the comma, where there is one. -/
  comma : Option Text
deriving DecidableEq

/-- Blanks that do not end the line. -/
def Horizontal (t : Text) : Prop := allBlank t = true ∧ .char '\n' ∉ t

instance (t : Text) : Decidable (Horizontal t) := inferInstanceAs (Decidable (_ ∧ _))

namespace FieldLine

variable {l : FieldLine}

def ending (l : FieldLine) : Text :=
  match l.comma with
  | none => []
  | some after => "," ++ after

def written (l : FieldLine) : Text :=
  l.indent ++ fieldText l.key l.gap l.gap' (l.literal ++ l.behind) ++ l.ending

def blanks (l : FieldLine) : List Text :=
  [l.indent, l.gap, l.gap', l.behind] ++ l.comma.toList

def handed (l : FieldLine) : Text :=
  match l.comma with
  | none => l.literal
  | some _ => l.literal ++ l.behind

@[mk_iff]
structure WellFormed (l : FieldLine) : Prop where
  key : IsWord l.key
  literal_ne_nil : l.literal ≠ []
  literal_trimmed : Trimmed l.literal
  literal_line : .char '\n' ∉ l.literal
  literal_comma : l.literal.getLast? ≠ some (.char ',')
  blanks : ∀ gap ∈ l.blanks, Horizontal gap

instance (l : FieldLine) : Decidable l.WellFormed := decidable_of_iff _ (wellFormed_iff l).symm

theorem WellFormed.horizontal (h : l.WellFormed) :
    Horizontal l.indent ∧ Horizontal l.gap ∧ Horizontal l.gap' ∧ Horizontal l.behind := by
  have hblank : ∀ gap ∈ [l.indent, l.gap, l.gap', l.behind], Horizontal gap :=
    fun gap hgap => h.blanks gap (List.mem_append_left _ hgap)
  simp only [List.forall_mem_cons] at hblank
  obtain ⟨hindent, hgap, hgap', hbehind, -⟩ := hblank
  exact ⟨hindent, hgap, hgap', hbehind⟩

theorem WellFormed.horizontal_after (h : l.WellFormed) {after : Text}
    (hcomma : l.comma = some after) : Horizontal after :=
  h.blanks after (by simp [FieldLine.blanks, hcomma])

theorem WellFormed.newline_not_mem_written (h : l.WellFormed) : .char '\n' ∉ l.written := by
  obtain ⟨hindent, hgap, hgap', hbehind⟩ := h.horizontal
  have hkey : .char '\n' ∉ l.key := not_mem_of_forall h.key.isWordChar (by decide)
  have hsign : .char '\n' ∉ ("=" : Text) := by decide
  have hending : .char '\n' ∉ l.ending := by
    unfold ending
    cases hcomma : l.comma with
    | none => exact List.not_mem_nil
    | some after =>
      rw [List.mem_append, not_or]
      exact ⟨by decide, (h.horizontal_after hcomma).2⟩
  unfold written fieldText
  simp only [List.mem_append, not_or]
  exact ⟨⟨hindent.2, hkey, hgap.2, hsign, hgap'.2, h.literal_line, hbehind.2⟩, hending⟩

theorem WellFormed.lineField?_written (h : l.WellFormed) :
    lineField? l.written = some (l.key, l.handed) := by
  obtain ⟨hindent, hgap, hgap', hbehind⟩ := h.horizontal
  unfold written ending handed
  cases hcomma : l.comma with
  | none =>
    have hline := lineField?_fieldText hindent.1 h.key hgap.1 hgap'.1 h.literal_trimmed
      h.literal_ne_nil hbehind.1
    rw [withoutComma_of_getLast?_ne h.literal_comma] at hline
    rw [← hline]
    unfold fieldText
    simp only [List.append_assoc, List.append_nil]
  | some after =>
    -- The comma ends the trimmed line, so the blanks in front of it are kept.
    have htrimmed : Trimmed (l.literal ++ l.behind ++ ",") := by
      refine ⟨?_, ?_⟩
      · rw [List.append_assoc]
        exact h.literal_trimmed.starts.append h.literal_ne_nil
      · rw [List.reverse_append]
        exact endsBlanks_cons.mpr (by decide)
    have hne : l.literal ++ l.behind ++ ("," : Text) ≠ [] := by simp [h.literal_ne_nil]
    have hline := lineField?_fieldText hindent.1 h.key hgap.1 hgap'.1 htrimmed hne
      (h.horizontal_after hcomma).1
    rw [withoutComma_append_comma] at hline
    rw [← hline]
    unfold fieldText
    simp only [List.append_assoc]

theorem WellFormed.parse_eq_map (h : l.WellFormed) :
    parse l.written = (Literal.parse l.handed).map fun value => .ofList [(l.key, value)] := by
  rw [parse_of_line h.newline_not_mem_written]
  unfold lineEntry
  rw [h.lineField?_written]
  dsimp only
  cases Literal.parse l.handed <;> rfl

theorem handed_eq_iff : l.handed = l.literal ↔ l.comma = none ∨ l.behind = [] := by
  unfold handed
  cases l.comma <;> simp

theorem handed_of_ne_none (h : l.comma ≠ none) : l.handed = l.literal ++ l.behind := by
  obtain ⟨after, hafter⟩ := Option.ne_none_iff_exists'.mp h
  unfold handed
  rw [hafter]

theorem WellFormed.trimmed_handed_iff (h : l.WellFormed) :
    Trimmed l.handed ↔ l.comma = none ∨ l.behind = [] := by
  by_cases hkept : l.comma = none ∨ l.behind = []
  · rw [handed_eq_iff.mpr hkept]
    exact iff_of_true h.literal_trimmed hkept
  · obtain ⟨hcomma, hbehind⟩ := not_or.mp hkept
    obtain ⟨-, -, -, hblank⟩ := h.horizontal
    rw [handed_of_ne_none hcomma]
    exact iff_of_false (not_trimmed_append hblank.1 hbehind l.literal) hkept

theorem map_ofList_inj {key : Text} {value value' : Except LiteralError Literal} :
    value.map (fun v => Dictionary.ofList [(key, v)]) =
      value'.map (fun v => Dictionary.ofList [(key, v)]) ↔ value = value' := by
  refine ⟨fun h => ?_, fun h => by rw [h]⟩
  cases value <;> cases value' <;> simp only [Except.map, Except.error.injEq, Except.ok.injEq,
    reduceCtorEq] at h ⊢
  · exact h
  · have hentries := congrArg Dictionary.entries h
    simpa [Dictionary.ofList, Dictionary.insertAll, Entries.put] using hentries

/-- What is read of a line is one field with the value of what is handed over. That is the literal
alone, which is trimmed, unless blanks stand between the literal and a comma; with them the value is
another one, but for a map that is not closed or whose last argument is a key without a value. -/
theorem layout_kept_iff (l : FieldLine) (h : l.WellFormed) :
    lineField? l.written = some (l.key, l.handed) ∧
    parse l.written = (Literal.parse l.handed).map (fun value => .ofList [(l.key, value)]) ∧
    (Trimmed l.handed ↔ l.comma = none ∨ l.behind = []) ∧
    (l.handed = l.literal ↔ l.comma = none ∨ l.behind = []) ∧
    (parse l.written = (Literal.parse l.literal).map (fun value => .ofList [(l.key, value)]) ↔
      (l.comma = none ∨ l.behind = []) ∨
      Literal.mapOpening <+: l.literal ∧ (l.literal.getLast? ≠ some (.char ')') ∨
        (Literal.arguments Literal.mapOpening l.literal).length % 2 = 1)) := by
  refine ⟨h.lineField?_written, h.parse_eq_map, h.trimmed_handed_iff, handed_eq_iff, ?_⟩
  rw [h.parse_eq_map, map_ofList_inj]
  by_cases hkept : l.comma = none ∨ l.behind = []
  · rw [handed_eq_iff.mpr hkept]
    exact iff_of_true rfl (Or.inl hkept)
  · obtain ⟨hcomma, hbehind⟩ := not_or.mp hkept
    obtain ⟨-, -, -, hblank⟩ := h.horizontal
    rw [handed_of_ne_none hcomma, Literal.parse_append_blanks_iff hblank.1 hbehind,
      or_iff_right hkept]

def spacedComma : FieldLine where
  indent := []
  key := "level"
  gap := " "
  gap' := " "
  literal := "3"
  behind := " "
  comma := some []

theorem layout_kept_iff_spacedComma :
    spacedComma.WellFormed ∧
    lineField? spacedComma.written =
      some (spacedComma.key, spacedComma.literal ++ spacedComma.behind) ∧
    parse spacedComma.written = .ok (.ofList [(spacedComma.key, .text "3 ")]) ∧
    parse spacedComma.written ≠ .ok (.ofList [(spacedComma.key, .whole 3)]) := by
  have hwell : spacedComma.WellFormed := by decide
  obtain ⟨hfield, hparse, -, -, hiff⟩ := layout_kept_iff spacedComma hwell
  have hread : Literal.parse spacedComma.literal = .ok (.whole 3) := by decide +kernel
  have hhanded : Literal.parse spacedComma.handed = .ok (.text "3 ") := by decide +kernel
  have hother : parse spacedComma.written ≠ (Literal.parse spacedComma.literal).map fun value =>
      .ofList [(spacedComma.key, value)] := by
    rw [ne_eq, hiff]
    decide +kernel
  rw [hread] at hother
  rw [hhanded] at hparse
  exact ⟨hwell, hfield, hparse, hother⟩

/-- Blanks in front of the comma turn a number into a text. -/
theorem not_all_layouts_kept :
    ¬ ∀ l : FieldLine, l.WellFormed →
      parse l.written = (Literal.parse l.literal).map (fun value => .ofList [(l.key, value)]) := by
  intro h
  have hspaced := h spacedComma (by decide)
  revert hspaced
  decide +kernel

end FieldLine

end Archimate.Body
