import Archimate.Text.Blank
import Archimate.Text.Quoted
import Archimate.Text.Split
import Archimate.Text.Utf8
import Mathlib.Tactic.SplitIfs

namespace Archimate.Text

variable {s t : Text}

theorem isWritable_iff : isWritable t = true ↔ ∀ c ∈ t, c.isIn (fun _ => true) = true :=
  List.all_eq_true

theorem isWritable_of_subset (h : s ⊆ t) (ht : isWritable t = true) : isWritable s = true :=
  isWritable_iff.mpr fun c hc => isWritable_iff.mp ht c (h hc)

theorem isWritable_ofString (s : String) : isWritable (ofString s) = true := isWritable_ofChars _

section Cutting

variable (drop : CodePoint → Bool)

theorem dropTail_subset (t : Text) : dropTail drop t ⊆ t := by
  intro c hc
  have hreversed := List.dropWhile_subset drop (List.mem_reverse.mp hc)
  exact List.mem_reverse.mp hreversed

theorem dropEnds_subset (t : Text) : dropEnds drop t ⊆ t :=
  List.Subset.trans (dropTail_subset drop _) (List.dropWhile_subset drop)

theorem trimStart_subset (t : Text) : trimStart t ⊆ t := List.dropWhile_subset isBlank

theorem trim_subset (t : Text) : trim t ⊆ t :=
  List.Subset.trans (dropTail_subset isBlank _) (trimStart_subset t)

theorem subset_of_mem_splitOn {separator : CodePoint} {part : Text}
    (h : part ∈ splitOn separator t) : part ⊆ t := by
  induction t generalizing part with
  | nil =>
    rw [splitOn, List.mem_singleton] at h
    rw [h]
    exact List.nil_subset _
  | cons c cs ih =>
    rw [splitOn] at h
    split at h
    · rcases List.mem_cons.mp h with rfl | h
      · exact List.nil_subset _
      · exact List.subset_cons_of_subset c (ih h)
    · -- The code point goes in front of the first part.
      split at h
      · rename_i hparts
        exact absurd hparts (splitOn_ne_nil separator cs)
      · rename_i first parts hparts
        rw [hparts] at ih
        rcases List.mem_cons.mp h with rfl | h
        · exact List.cons_subset_cons c (ih List.mem_cons_self)
        · exact List.subset_cons_of_subset c (ih (List.mem_cons_of_mem first h))

end Cutting

theorem isWritable_flatMap {f : CodePoint → Text} (h : ∀ c ∈ t, isWritable (f c) = true) :
    isWritable (t.flatMap f) = true := by
  apply isWritable_iff.mpr
  intro c hc
  obtain ⟨d, hd, hcd⟩ := List.mem_flatMap.mp hc
  exact isWritable_iff.mp (h d hd) c hcd

theorem isWritable_intercalate {separator : Text} {parts : List Text}
    (hseparator : isWritable separator = true) (h : ∀ part ∈ parts, isWritable part = true) :
    isWritable (separator.intercalate parts) = true := by
  induction parts with
  | nil => rfl
  | cons part parts ih =>
    have hpart := h part List.mem_cons_self
    have hparts := ih fun other hother => h other (List.mem_cons_of_mem part hother)
    cases parts with
    | nil => simpa [List.intercalate] using hpart
    | cons next parts =>
      rw [List.intercalate_cons_cons, isWritable_append, isWritable_append, hpart, hseparator,
        hparts]
      rfl

theorem isWritable_unifyNewlines (h : isWritable t = true) :
    isWritable (unifyNewlines t) = true := by
  fun_induction unifyNewlines t with
  | case1 => rfl
  | case2 rest ih => exact ih (isWritable_of_subset (by simp) h)
  | case3 rest _ ih => exact ih (isWritable_of_subset (by simp) h)
  | case4 c rest _ _ ih =>
    obtain ⟨hc, hrest⟩ := Bool.and_eq_true_iff.mp h
    exact Bool.and_eq_true_iff.mpr ⟨hc, ih hrest⟩

theorem isWritable_quotedChar {mark c : CodePoint} (h : isWritable [c] = true) :
    isWritable (quotedChar mark c) = true := by
  unfold quotedChar
  split_ifs
  · exact h
  · exact isWritable_ofString _
  · exact isWritable_ofString _
  · exact isWritable_ofString _
  · exact h
  · unfold codeEscape escapeWith
    split_ifs <;> exact isWritable_ofChars _

theorem isWritable_quoted (h : isWritable t = true) : isWritable (quoted t) = true := by
  have hmark : isWritable [quoteMark t] = true := by
    unfold quoteMark
    split_ifs <;> rfl
  have hinner : isWritable (t.flatMap (quotedChar (quoteMark t))) = true := by
    apply isWritable_flatMap
    intro c hc
    exact isWritable_quotedChar (isWritable_of_subset (by simpa using hc) h)
  show isWritable ([quoteMark t] ++ t.flatMap (quotedChar (quoteMark t)) ++ [quoteMark t]) = true
  rw [isWritable_append, isWritable_append, hmark, hinner]
  rfl

end Archimate.Text
