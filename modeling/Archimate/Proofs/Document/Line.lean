import Archimate.Document.Body
import Archimate.Proofs.Text.Words

namespace Archimate.Body
open Text

variable {t key value gap gap' : Text}

def fieldText (key gap gap' value : Text) : Text :=
  key ++ (gap ++ ("=" ++ (gap' ++ value)))

theorem field?_fieldText (hkey : IsWord key) (hgap : allBlank gap = true)
    (hgap' : allBlank gap' = true) (hvalue : EndsBlanks value) (hne : value ≠ []) :
    field? (fieldText key gap gap' value) = some (key, value) := by
  have hequals : EndsBlanks ("=" ++ (gap' ++ value)) := endsBlanks_cons.mpr (by decide)
  have hends : EndsWord (gap ++ ("=" ++ (gap' ++ value))) := by
    cases gap with
    | nil => exact endsWord_cons.mpr (by decide)
    | cons c gap => exact endsWord_of_allBlank hgap (List.cons_ne_nil c gap)
  have hspan := spanWord_append_of_ends hkey.isWordChar hends
  have hrest := trimStart_append_of_ends hgap hequals
  have hbehind := trimStart_append_of_ends hgap' hvalue
  unfold field? fieldText
  rw [hspan]
  split
  · rename_i h
    exact absurd (Prod.mk.inj h).1 hkey.ne_nil
  · rename_i h
    obtain ⟨rfl, rfl⟩ := Prod.mk.inj h
    rw [hrest]
    split
    · rename_i behind hsign
      have heq : gap' ++ value = behind := (List.cons.inj hsign).2
      rw [← heq, hbehind]
      cases value with
      | nil => exact absurd rfl hne
      | cons c value => rfl
    · rename_i hsign
      exact absurd rfl (hsign _)

theorem field?_eq_some_iff :
    field? t = some (key, value) ↔
      ∃ gap gap', t = fieldText key gap gap' value ∧ IsWord key ∧ allBlank gap = true ∧
        allBlank gap' = true ∧ EndsBlanks value ∧ value ≠ [] := by
  constructor
  · intro h
    have hword := spanWord_append t
    have hchars : ∀ c ∈ (spanWord t).1, isWordChar c = true := fun c hc =>
      isWordChar_of_mem_spanWord hc
    unfold field? at h
    split at h
    · cases h
    · rename_i word rest hkey hspan
      rw [hspan] at hword hchars
      obtain ⟨gap, hgap, hrest⟩ := exists_allBlank_append_trimStart rest
      split at h
      · rename_i behind hsign
        obtain ⟨gap', hgap', hbehind⟩ := exists_allBlank_append_trimStart behind
        split at h
        · cases h
        · rename_i hvalue
          cases h
          refine ⟨gap, gap', ?_, ⟨hkey, hchars⟩, hgap, hgap', endsBlanks_trimStart _, hvalue⟩
          calc
            t = key ++ rest := hword.symm
            _ = key ++ (gap ++ .char '=' :: behind) := by rw [← hsign, ← hrest]
            _ = key ++ (gap ++ .char '=' :: (gap' ++ trimStart behind)) := by rw [← hbehind]
      · cases h
  · rintro ⟨gap, gap', rfl, hkey, hgap, hgap', hvalue, hne⟩
    exact field?_fieldText hkey hgap hgap' hvalue hne

theorem firstField?_of_field? (h : field? t = some (key, value)) :
    firstField? t = some (key, value) := by
  cases t with
  | nil => cases h
  | cons c t =>
    unfold firstField?
    rw [h]
    rfl

theorem trimmed_fieldText (hkey : IsWord key) (hvalue : Trimmed value) (hne : value ≠ []) :
    Trimmed (fieldText key gap gap' value) := by
  refine ⟨hkey.endsBlanks, ?_⟩
  unfold fieldText
  simp only [List.reverse_append, List.append_assoc]
  apply hvalue.stops.append
  rwa [ne_eq, List.reverse_eq_nil_iff]

theorem commentMark_isPrefixOf (hkey : IsWord key) (rest : Text) :
    commentMark.isPrefixOf (key ++ rest) = false := by
  rw [← Bool.not_eq_true, List.isPrefixOf_iff_prefix]
  rintro ⟨behind, h⟩
  have hends : EndsWord (commentMark ++ behind) := endsWord_cons.mpr (by decide)
  rw [h] at hends
  exact hkey.not_endsWord hends

theorem lineField?_fieldText {indent trailing : Text} (hindent : allBlank indent = true)
    (hkey : IsWord key) (hgap : allBlank gap = true) (hgap' : allBlank gap' = true)
    (hvalue : Trimmed value) (hne : value ≠ []) (htrailing : allBlank trailing = true) :
    lineField? (indent ++ fieldText key gap gap' value ++ trailing) =
      some (key, withoutComma value) := by
  have hfield : fieldText key gap gap' value ≠ [] := by
    intro h
    exact hkey.ne_nil (List.append_eq_nil_iff.mp h).1
  have hempty : (fieldText key gap gap' value).isEmpty = false := by
    rw [← Bool.not_eq_true, List.isEmpty_iff]
    exact hfield
  have hcomment : commentMark.isPrefixOf (fieldText key gap gap' value) = false :=
    commentMark_isPrefixOf hkey _
  have hfirst := firstField?_of_field? (field?_fieldText hkey hgap hgap' hvalue.starts hne)
  unfold lineField?
  rw [trim_append_of_trimmed hindent (trimmed_fieldText hkey hvalue hne) hfield htrailing]
  dsimp only
  rw [hempty, hcomment, hfirst]
  show some (key, withoutComma (trim value)) = _
  rw [trim_of_trimmed hvalue]

theorem lineField?_of_allBlank (h : allBlank t = true) : lineField? t = none := by
  unfold lineField?
  rw [trim_eq_nil_of_allBlank h]
  rfl

theorem parse_of_line {line : Text} (h : .char '\n' ∉ line) :
    parse line = (lineEntry line).map Dictionary.ofList := by
  have hlines : splitLines line = [line] := splitOn_eq_singleton h
  unfold parse
  rw [hlines, entries, entries]
  cases lineEntry line with
  | error e => rfl
  | ok es =>
    show Except.ok (Dictionary.ofList (es ++ [])) = _
    rw [List.append_nil]
    rfl

theorem withoutComma_append_comma : withoutComma (value ++ ",") = value := by
  unfold withoutComma
  have hlast : (value ++ ("," : Text)).getLast? = some (.char ',') := List.getLast?_concat
  rw [if_pos hlast]
  exact List.dropLast_concat

theorem withoutComma_of_getLast?_ne (h : value.getLast? ≠ some (.char ',')) :
    withoutComma value = value := if_neg h

end Archimate.Body
