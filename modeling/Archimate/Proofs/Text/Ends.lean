import Archimate.Proofs.Text.Pieces
import Archimate.Proofs.Text.Words
import Mathlib.Data.List.TakeWhile

namespace Archimate.Text

section Dropping

variable {drop : CodePoint → Bool} {c : CodePoint} {s t : Text}

theorem dropWhile_of_forall_not (h : ∀ c ∈ t, drop c = false) : t.dropWhile drop = t := by
  cases t with
  | nil => rfl
  | cons c t => rw [List.dropWhile_cons_of_neg (by simp [h c List.mem_cons_self])]

theorem dropTail_of_forall_not (h : ∀ c ∈ t, drop c = false) : dropTail drop t = t := by
  have hreverse : ∀ c ∈ t.reverse, drop c = false := fun c hc => h c (List.mem_reverse.mp hc)
  unfold dropTail
  rw [dropWhile_of_forall_not hreverse, List.reverse_reverse]

theorem dropEnds_of_forall_not (h : ∀ c ∈ t, drop c = false) : dropEnds drop t = t := by
  unfold dropEnds
  rw [dropWhile_of_forall_not h, dropTail_of_forall_not h]

theorem dropWhile_concat_of_not (h : drop c = false) (t : Text) :
    (t ++ [c]).dropWhile drop = t.dropWhile drop ++ [c] := by
  induction t with
  | nil => simp [h]
  | cons d t ih =>
    rw [List.cons_append, List.dropWhile_cons, List.dropWhile_cons, ih]
    split <;> rfl

theorem dropTail_cons_of_not (h : drop c = false) (t : Text) :
    dropTail drop (c :: t) = c :: dropTail drop t := by
  unfold dropTail
  rw [List.reverse_cons, dropWhile_concat_of_not h, List.reverse_append]
  rfl

theorem dropTail_append_of_forall (h : ∀ c ∈ s, drop c = true) (t : Text) :
    dropTail drop (t ++ s) = dropTail drop t := by
  have hreverse : ∀ c ∈ s.reverse, drop c = true := fun c hc => h c (List.mem_reverse.mp hc)
  unfold dropTail
  rw [List.reverse_append, List.dropWhile_append_of_pos hreverse]

theorem dropEnds_cons (h : drop c = true) (t : Text) :
    dropEnds drop (c :: t) = dropEnds drop t := by
  unfold dropEnds
  rw [List.dropWhile_cons_of_pos h]

theorem dropEnds_concat (hc : drop c = true) (h : ∀ d ∈ t, drop d = false) :
    dropEnds drop (t ++ [c]) = t := by
  cases t with
  | nil => simp [dropEnds, dropTail, hc]
  | cons d t =>
    have hd : ¬ drop d = true := by simp [h d List.mem_cons_self]
    have htail : ∀ e ∈ [c], drop e = true := by simpa using hc
    unfold dropEnds
    rw [List.cons_append, List.dropWhile_cons_of_neg hd, ← List.cons_append,
      dropTail_append_of_forall htail, dropTail_of_forall_not h]

theorem count_dropWhile (h : drop c = false) (t : Text) :
    (t.dropWhile drop).count c = t.count c := by
  induction t with
  | nil => rfl
  | cons d t ih =>
    rw [List.dropWhile_cons]
    split
    · rename_i hd
      have hne : d ≠ c := by
        rintro rfl
        rw [h] at hd
        cases hd
      rw [ih, List.count_cons_of_ne hne]
    · rfl

theorem count_dropTail (h : drop c = false) (t : Text) : (dropTail drop t).count c = t.count c := by
  unfold dropTail
  rw [List.count_reverse, count_dropWhile h, List.count_reverse]

theorem count_dropEnds (h : drop c = false) (t : Text) : (dropEnds drop t).count c = t.count c := by
  unfold dropEnds
  rw [count_dropTail h, count_dropWhile h]

end Dropping

section Trimming

variable {c : CodePoint} {t gap : Text}

theorem trimmed_trim (t : Text) : Trimmed (trim t) := by
  refine ⟨?_, ?_⟩
  · have hstart := endsBlanks_trimStart t
    unfold trim trimEnd
    cases h : trimStart t with
    | nil => exact fun c hc => nomatch hc
    | cons c rest =>
      rw [h] at hstart
      rw [dropTail_cons_of_not (endsBlanks_cons.mp hstart)]
      exact hstart
  · unfold trim trimEnd dropTail
    rw [List.reverse_reverse]
    exact endsBlanks_trimStart _

theorem trim_trim (t : Text) : trim (trim t) = trim t := trim_of_trimmed (trimmed_trim t)

theorem trim_prefix_trimStart (t : Text) : trim t <+: trimStart t := by
  have hsuffix := List.dropWhile_suffix isBlank (l := (trimStart t).reverse)
  have hprefix := List.reverse_prefix.mpr hsuffix
  rw [List.reverse_reverse] at hprefix
  exact hprefix

theorem trim_isInfix (t : Text) : trim t <:+: t :=
  (trim_prefix_trimStart t).isInfix.trans (List.dropWhile_suffix isBlank).isInfix

theorem trim_eq_nil_iff : trim t = [] ↔ allBlank t = true := by
  refine ⟨fun h => ?_, trim_eq_nil_of_allBlank⟩
  obtain ⟨before, hbefore, ht⟩ := exists_allBlank_append_trimStart t
  cases hrest : trimStart t with
  | nil => rwa [ht, hrest, List.append_nil]
  | cons c rest =>
    have hends := endsBlanks_trimStart t
    rw [hrest] at hends
    unfold trim trimEnd at h
    rw [hrest, dropTail_cons_of_not (endsBlanks_cons.mp hends)] at h
    cases h

theorem count_trim (h : isBlank c = false) (t : Text) : (trim t).count c = t.count c := by
  unfold trim trimEnd trimStart
  rw [count_dropTail h, count_dropWhile h]

theorem trim_append_of_allBlank (h : allBlank gap = true) (t : Text) :
    trim (t ++ gap) = trim t := by
  obtain ⟨before, hbefore, ht⟩ := exists_allBlank_append_trimStart t
  cases hrest : trimStart t with
  | nil =>
    rw [hrest, List.append_nil] at ht
    have hblank : allBlank (before ++ gap) = true := by
      unfold allBlank at hbefore h ⊢
      rw [List.all_append, hbefore, h]
      rfl
    rw [ht, trim_eq_nil_of_allBlank hblank, trim_eq_nil_of_allBlank hbefore]
  | cons c rest =>
    have hends := endsBlanks_trimStart t
    have hkept : trimStart (t ++ gap) = trimStart t ++ gap := by
      rw [ht, List.append_assoc, ← ht]
      apply trimStart_append_of_ends hbefore
      exact hends.append (by simp [hrest])
    unfold trim trimEnd
    rw [hkept, dropTail_append_of_forall (allBlank_iff.mp h)]

theorem exists_blank_last (hgap : allBlank gap = true) (hne : gap ≠ []) (t : Text) :
    ∃ c, (t ++ gap).getLast? = some c ∧ isBlank c = true := by
  obtain ⟨c, hc⟩ : ∃ c, gap.getLast? = some c := by
    rw [← Option.isSome_iff_exists, List.getLast?_isSome]
    exact hne
  refine ⟨c, ?_, allBlank_iff.mp hgap c (List.mem_of_getLast? hc)⟩
  rw [List.getLast?_append, hc]
  rfl

theorem trimStart_append_cons_of_not (hc : isBlank c = false) (t rest : Text) :
    trimStart (t ++ c :: rest) = trimStart t ++ c :: rest := by
  obtain ⟨before, hbefore, ht⟩ := exists_allBlank_append_trimStart t
  have hends : EndsBlanks (trimStart t ++ c :: rest) := by
    cases hkept : trimStart t with
    | nil => exact endsBlanks_cons.mpr hc
    | cons d kept =>
      rw [← hkept]
      exact (endsBlanks_trimStart t).append (by simp [hkept])
  calc trimStart (t ++ c :: rest)
      = trimStart (before ++ (trimStart t ++ c :: rest)) := by rw [← List.append_assoc, ← ht]
    _ = trimStart t ++ c :: rest := trimStart_append_of_ends hbefore hends

/-- What stands in front of a character that is no blank loses the blanks at its own beginning
only. -/
theorem trim_append_cons_of_trimmed {rest : Text} (hc : isBlank c = false) (ht : Trimmed t)
    (hne : t ≠ []) (hrest : allBlank rest = true) (before : Text) :
    trim (before ++ c :: t ++ rest) = trimStart before ++ c :: t := by
  have hstart : trimStart (before ++ c :: t ++ rest) = trimStart before ++ c :: t ++ rest := by
    rw [List.append_assoc, List.cons_append, trimStart_append_cons_of_not hc, List.append_assoc,
      List.cons_append]
  have htrimmed : Trimmed (trimStart before ++ c :: t) := by
    refine ⟨?_, ?_⟩
    · rw [← trimStart_append_cons_of_not hc]
      exact endsBlanks_trimStart _
    · rw [List.reverse_append, List.reverse_cons, List.append_assoc]
      exact ht.stops.append (by simpa using hne)
  unfold trim
  rw [hstart, trimEnd_append_of_trimmed htrimmed hrest]

theorem not_trimmed_append (hgap : allBlank gap = true) (hne : gap ≠ []) (t : Text) :
    ¬ Trimmed (t ++ gap) := by
  obtain ⟨c, hlast, hblank⟩ := exists_blank_last hgap hne t
  intro htrimmed
  have hends : isBlank c = false := by
    apply htrimmed.stops
    rw [List.head?_reverse]
    exact hlast
  rw [hblank] at hends
  cases hends

end Trimming

section Cutting

variable {α : Type} [DecidableEq α] {separator : α}

theorem not_mem_of_mem_splitOn {part cs : List α} (h : part ∈ splitOn separator cs) :
    separator ∉ part := by
  induction cs generalizing part with
  | nil =>
    rw [splitOn, List.mem_singleton] at h
    rw [h]
    exact List.not_mem_nil
  | cons c cs ih =>
    rw [splitOn] at h
    split at h
    · rcases List.mem_cons.mp h with rfl | h
      · exact List.not_mem_nil
      · exact ih h
    · rename_i hc
      split at h
      · rename_i hparts
        exact absurd hparts (splitOn_ne_nil separator cs)
      · rename_i first parts hparts
        rw [hparts] at ih
        rcases List.mem_cons.mp h with rfl | h
        · rw [List.mem_cons, not_or]
          exact ⟨fun heq => hc heq.symm, ih List.mem_cons_self⟩
        · exact ih (List.mem_cons_of_mem first h)

theorem splitLines_append (s t : Text) :
    splitLines (s ++ "\n" ++ t) = splitLines s ++ splitLines t := by
  rw [List.append_assoc]
  exact splitOn_append_separator _ s t

theorem afterLast_of_not_mem {cs : List α} (h : separator ∉ cs) : afterLast separator cs = cs := by
  have hkept : ∀ c ∈ cs.reverse, (c != separator) = true := by
    intro c hc
    rw [bne_iff_ne]
    rintro rfl
    exact h (List.mem_reverse.mp hc)
  unfold afterLast
  rw [List.takeWhile_eq_self_iff.mpr hkept, List.reverse_reverse]

/-- What follows without a separator belongs to the last part. -/
theorem exists_splitOn_append (separator : α) (cs : List α) :
    ∃ parts last, splitOn separator cs = parts ++ [last] ∧
      ∀ behind, separator ∉ behind →
        splitOn separator (cs ++ behind) = parts ++ [last ++ behind] := by
  induction cs with
  | nil => exact ⟨[], [], rfl, fun behind h => splitOn_eq_singleton h⟩
  | cons c cs ih =>
    obtain ⟨parts, last, hparts, hbehind⟩ := ih
    by_cases hc : c = separator
    · subst hc
      refine ⟨[] :: parts, last, ?_, fun behind h => ?_⟩
      · rw [splitOn_cons_separator, hparts, List.cons_append]
      · rw [List.cons_append, splitOn_cons_separator, hbehind behind h, List.cons_append]
    · cases parts with
      | nil =>
        refine ⟨[], c :: last, ?_, fun behind h => ?_⟩
        · simp [splitOn, hc, hparts]
        · simp [splitOn, hc, hbehind behind h]
      | cons first parts =>
        refine ⟨(c :: first) :: parts, last, ?_, fun behind h => ?_⟩
        · simp [splitOn, hc, hparts]
        · simp [splitOn, hc, hbehind behind h]

end Cutting

end Archimate.Text
