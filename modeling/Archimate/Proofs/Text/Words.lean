import Archimate.Text.Blank
import Archimate.Text.Word
import Mathlib.Tactic.MkIffOfInductiveProp

namespace Archimate.Text

variable {t rest : Text} {c : CodePoint}

@[mk_iff]
structure IsWord (t : Text) : Prop where
  ne_nil : t ≠ []
  isWordChar : ∀ c ∈ t, Text.isWordChar c = true

def EndsWord (rest : Text) : Prop := ∀ c ∈ rest.head?, isWordChar c = false

def EndsBlanks (rest : Text) : Prop := ∀ c ∈ rest.head?, isBlank c = false

instance : Decidable (IsWord t) := decidable_of_iff _ (isWord_iff t).symm

instance : Decidable (EndsBlanks t) := inferInstanceAs (Decidable (∀ c ∈ t.head?, _))

theorem endsWord_cons : EndsWord (c :: rest) ↔ isWordChar c = false := by
  simp [EndsWord]

theorem endsBlanks_cons : EndsBlanks (c :: rest) ↔ isBlank c = false := by
  simp [EndsBlanks]

theorem wordRanges_blankRanges_disjoint :
    ∀ range ∈ wordRanges, ∀ other ∈ blankRanges, range.2 < other.1 ∨ other.2 < range.1 := by
  decide +kernel

theorem covers_blankRanges_of_ascii :
    ∀ n < 128, ((Char.ofNat n).isAlphanum || Char.ofNat n == '_') = true →
      covers blankRanges (Char.ofNat n) = false := by
  decide

theorem isBlank_of_isWordChar (h : isWordChar c = true) : isBlank c = false := by
  cases c with
  | half offset => rfl
  | char c =>
    show covers blankRanges c = false
    unfold isWordChar CodePoint.isIn at h
    dsimp only at h
    -- ASCII characters are tried one by one, the others belong to ranges that lie apart.
    split at h
    · rename_i hascii
      have hchar := covers_blankRanges_of_ascii c.toNat hascii
      rw [Char.ofNat_toNat] at hchar
      exact hchar h
    · rw [← Bool.not_eq_true]
      intro hblank
      obtain ⟨range, hrange, hlo, hhi⟩ := covers_iff.mp hblank
      obtain ⟨other, hother, hlo', hhi'⟩ := covers_iff.mp h
      have := wordRanges_blankRanges_disjoint other hother range hrange
      omega

theorem isWordChar_of_isBlank (h : isBlank c = true) : isWordChar c = false := by
  rw [← Bool.not_eq_true]
  intro hword
  rw [isBlank_of_isWordChar hword] at h
  cases h

theorem allBlank_iff : allBlank t = true ↔ ∀ c ∈ t, isBlank c = true := List.all_eq_true

theorem allBlank_nil : allBlank [] = true := rfl

theorem endsWord_of_allBlank (h : allBlank t = true) (hne : t ≠ []) : EndsWord (t ++ rest) := by
  cases t with
  | nil => exact absurd rfl hne
  | cons c t =>
    exact endsWord_cons.mpr (isWordChar_of_isBlank (allBlank_iff.mp h c List.mem_cons_self))

theorem isBlank_head_of_allBlank (h : allBlank t = true) (hne : t ≠ []) :
    ∀ c ∈ (t ++ rest).head?, isBlank c = true := by
  intro c hc
  cases t with
  | nil => exact absurd rfl hne
  | cons d t =>
    cases hc
    exact allBlank_iff.mp h c List.mem_cons_self

theorem IsWord.endsBlanks (h : IsWord t) : EndsBlanks (t ++ rest) := by
  cases t with
  | nil => exact absurd rfl h.ne_nil
  | cons c t =>
    exact endsBlanks_cons.mpr (isBlank_of_isWordChar (h.isWordChar c List.mem_cons_self))

theorem IsWord.not_endsWord (h : IsWord t) : ¬ EndsWord (t ++ rest) := by
  cases t with
  | nil => exact absurd rfl h.ne_nil
  | cons c t =>
    intro hends
    have hc := endsWord_cons.mp hends
    rw [h.isWordChar c List.mem_cons_self] at hc
    cases hc

theorem not_mem_of_forall {p : CodePoint → Bool} (h : ∀ e ∈ t, p e = true) (hc : p c = false) :
    c ∉ t := by
  intro hm
  rw [h c hm] at hc
  cases hc

theorem takeWhile_append_of_ends {p : CodePoint → Bool} (ht : ∀ c ∈ t, p c = true)
    (hrest : ∀ c ∈ rest.head?, p c = false) : (t ++ rest).takeWhile p = t := by
  rw [List.takeWhile_append_of_pos ht]
  cases rest with
  | nil => simp
  | cons c rest => simp [hrest c rfl]

theorem dropWhile_append_of_ends {p : CodePoint → Bool} (ht : ∀ c ∈ t, p c = true)
    (hrest : ∀ c ∈ rest.head?, p c = false) : (t ++ rest).dropWhile p = rest := by
  rw [List.dropWhile_append_of_pos ht]
  cases rest with
  | nil => rfl
  | cons c rest => simp [hrest c rfl]

theorem spanWord_append_of_ends (ht : ∀ c ∈ t, isWordChar c = true) (hrest : EndsWord rest) :
    spanWord (t ++ rest) = (t, rest) := by
  unfold spanWord
  rw [takeWhile_append_of_ends ht hrest, dropWhile_append_of_ends ht hrest]

/-- The longest word at the head of a text is unique. -/
theorem word_append_inj {word word' rest' : Text} (hword : ∀ c ∈ word, isWordChar c = true)
    (hends : EndsWord rest) (hword' : ∀ c ∈ word', isWordChar c = true) (hends' : EndsWord rest')
    (h : word ++ rest = word' ++ rest') : word = word' ∧ rest = rest' := by
  have hspan := spanWord_append_of_ends hword hends
  rw [h, spanWord_append_of_ends hword' hends'] at hspan
  exact ⟨(Prod.mk.inj hspan).1.symm, (Prod.mk.inj hspan).2.symm⟩

theorem trimStart_append_of_ends (ht : allBlank t = true) (hrest : EndsBlanks rest) :
    trimStart (t ++ rest) = rest :=
  dropWhile_append_of_ends (allBlank_iff.mp ht) hrest

theorem endsWord_trimStart {gap : Text} (hgap : allBlank gap = true) (hblank : isBlank c = false)
    (hword : isWordChar c = false) : EndsWord (trimStart (gap ++ c :: rest)) := by
  rw [trimStart_append_of_ends hgap (endsBlanks_cons.mpr hblank)]
  exact endsWord_cons.mpr hword

theorem endsWord_spanWord (t : Text) : EndsWord (spanWord t).2 := by
  intro c hc
  have h := List.head?_dropWhile_not isWordChar t
  unfold spanWord at hc
  rw [Option.mem_def] at hc
  rw [hc] at h
  simpa using h

theorem endsBlanks_trimStart (t : Text) : EndsBlanks (trimStart t) := by
  intro c hc
  have h := List.head?_dropWhile_not isBlank t
  unfold trimStart at hc
  rw [Option.mem_def] at hc
  rw [hc] at h
  simpa using h

/-- A text is the blanks at its head and what is left without them. -/
theorem exists_allBlank_append_trimStart (t : Text) :
    ∃ gap, allBlank gap = true ∧ t = gap ++ trimStart t :=
  ⟨t.takeWhile isBlank, List.all_takeWhile, List.takeWhile_append_dropWhile.symm⟩

@[mk_iff]
structure Trimmed (t : Text) : Prop where
  starts : EndsBlanks t
  stops : EndsBlanks t.reverse

instance : Decidable (Trimmed t) := decidable_of_iff _ (trimmed_iff t).symm

theorem EndsBlanks.append (h : EndsBlanks t) (hne : t ≠ []) : EndsBlanks (t ++ rest) := by
  cases t with
  | nil => exact absurd rfl hne
  | cons c t => exact h

theorem trimEnd_append_of_trimmed (ht : Trimmed t) (hrest : allBlank rest = true) :
    trimEnd (t ++ rest) = t := by
  have hblank : ∀ c ∈ rest.reverse, isBlank c = true := by
    intro c hc
    exact allBlank_iff.mp hrest c (List.mem_reverse.mp hc)
  unfold trimEnd dropTail
  rw [List.reverse_append, dropWhile_append_of_ends hblank ht.stops, List.reverse_reverse]

theorem trim_append_of_trimmed {before : Text} (hbefore : allBlank before = true) (ht : Trimmed t)
    (hne : t ≠ []) (hrest : allBlank rest = true) : trim (before ++ t ++ rest) = t := by
  unfold trim
  rw [List.append_assoc, trimStart_append_of_ends hbefore (ht.starts.append hne),
    trimEnd_append_of_trimmed ht hrest]

theorem trim_of_trimmed (ht : Trimmed t) : trim t = t := by
  have hstart := trimStart_append_of_ends (t := []) rfl ht.starts
  have hend : trimEnd (t ++ []) = t := trimEnd_append_of_trimmed ht rfl
  rw [List.nil_append] at hstart
  rw [List.append_nil] at hend
  unfold trim
  rw [hstart, hend]

theorem trim_eq_nil_of_allBlank (h : allBlank t = true) : trim t = [] := by
  have hends : EndsBlanks [] := by intro c hc; cases hc
  have htrim := trimStart_append_of_ends h hends
  rw [List.append_nil] at htrim
  unfold trim
  rw [htrim]
  rfl

end Archimate.Text
