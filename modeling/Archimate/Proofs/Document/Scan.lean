import Archimate.Proofs.Document.Grammar

namespace Archimate

namespace Form

variable {α : Type} {form : Form α}

/-- No occurrence begins inside the skipped text. -/
def Passes (form : Form α) : (skipped rest : Text) → Prop
  | [], _ => True
  | c :: skipped, rest => form.read? (c :: (skipped ++ rest)) = none ∧ form.Passes skipped rest

theorem passes_append {a b rest : Text} :
    form.Passes (a ++ b) rest ↔ form.Passes a (b ++ rest) ∧ form.Passes b rest := by
  induction a with
  | nil => simp [Passes]
  | cons c a ih => simp only [List.cons_append, Passes, ih, List.append_assoc, and_assoc]

theorem passes_of_forall_suffix {skipped rest : Text}
    (h : ∀ t, t ≠ [] → t <:+ skipped → form.read? (t ++ rest) = none) :
    form.Passes skipped rest := by
  induction skipped with
  | nil => exact trivial
  | cons c skipped ih =>
    refine ⟨h _ (List.cons_ne_nil _ _) (List.suffix_refl _), ?_⟩
    apply ih
    intro t hne ht
    exact h t hne (ht.trans (List.suffix_cons c skipped))

theorem scan_append_of_passes {skipped rest : Text} (h : form.Passes skipped rest) :
    form.scan (skipped ++ rest) = form.scan rest := by
  induction skipped with
  | nil => rfl
  | cons c skipped ih =>
    rw [List.cons_append, scan_cons_of_none h.1]
    exact ih h.2

theorem first?_append_of_passes {skipped rest : Text} (h : form.Passes skipped rest) :
    form.first? (skipped ++ rest) = form.first? rest := by
  rw [first?_eq_head?_scan, first?_eq_head?_scan, scan_append_of_passes h]

theorem first?_of_read {t rest : Text} {a : α} (h : form.read? t = some (a, rest)) :
    form.first? t = some a := by
  rw [first?_eq_head?_scan, scan_of_read h]
  rfl

theorem first?_eq_none {t : Text}
    (h : ∀ before behind, t = before ++ behind → form.read? behind = none) :
    form.first? t = none := by
  induction t with
  | nil => rfl
  | cons c t ih =>
    have hhead : form.read? (c :: t) = none := h [] (c :: t) rfl
    unfold first?
    rw [hhead]
    apply ih
    intro before behind heq
    exact h (c :: before) behind (by rw [heq, List.cons_append])

end Form

namespace Declaration
open Text

variable {t rest word : Text}

/-- A form whose occurrences begin with a word. -/
def BeginsWithWord {α : Type} (f : Form α) : Prop :=
  ∀ t a rest, f.read? t = some (a, rest) → ∃ word behind, IsWord word ∧ t = word ++ behind

theorem beginsWithWord_form : BeginsWithWord form := by
  intro t d rest h
  obtain ⟨text, rfl, gap, value, -, rfl, hname, -⟩ := read?_eq_some_iff.mp h
  refine ⟨d.name, ":" ++ gap ++ d.type ++ value ++ rest, hname, ?_⟩
  simp only [List.append_assoc]

theorem beginsWithWord_localForm : BeginsWithWord localForm := by
  intro t d rest h
  obtain ⟨gap, text, rfl, -⟩ := readLocal?_eq_some_iff.mp h
  refine ⟨"local", gap ++ text ++ rest, by decide, ?_⟩
  simp only [List.append_assoc]

theorem beginsWithWord_headerForm : BeginsWithWord headerForm := by
  intro t name rest h
  obtain ⟨gap, rfl, -⟩ := readHeader?_eq_some_iff.mp h
  refine ⟨"module", gap ++ name ++ rest, by decide, ?_⟩
  simp only [List.append_assoc]

theorem BeginsWithWord.read?_cons {α : Type} {f : Form α} (hf : BeginsWithWord f) {c : CodePoint}
    (hc : isWordChar c = false) (t : Text) : f.read? (c :: t) = none := by
  rw [Option.eq_none_iff_forall_ne_some]
  rintro ⟨a, rest⟩ h
  obtain ⟨word, behind, hword, ht⟩ := hf _ a rest h
  have hends : EndsWord (c :: t) := endsWord_cons.mpr hc
  rw [ht] at hends
  exact hword.not_endsWord hends

theorem BeginsWithWord.passes {α : Type} {f : Form α} (hf : BeginsWithWord f)
    (ht : ∀ c ∈ t, isWordChar c = false) : f.Passes t rest := by
  induction t with
  | nil => exact trivial
  | cons c t ih =>
    refine ⟨hf.read?_cons (ht c List.mem_cons_self) _, ih ?_⟩
    intro d hd
    exact ht d (List.mem_cons_of_mem c hd)

theorem BeginsWithWord.passes_allBlank {α : Type} {f : Form α} (hf : BeginsWithWord f)
    (ht : allBlank t = true) : f.Passes t rest :=
  hf.passes fun c hc => isWordChar_of_isBlank (allBlank_iff.mp ht c hc)

theorem passes_form_of_word (hword : ∀ c ∈ word, isWordChar c = true)
    (hblank : ∀ c ∈ rest.head?, isBlank c = true) : form.Passes word rest := by
  have hends : EndsWord rest := fun c hc => isWordChar_of_isBlank (hblank c hc)
  apply Form.passes_of_forall_suffix
  intro t hne ht
  rw [Option.eq_none_iff_forall_ne_some]
  rintro ⟨d, rest'⟩ h
  obtain ⟨text, heq, gap, value, -, rfl, hname, -⟩ := read?_eq_some_iff.mp h
  simp only [List.append_assoc] at heq
  have hcolon : EndsWord (":" ++ (gap ++ (d.type ++ (value ++ rest')))) :=
    endsWord_cons.mpr (by decide)
  obtain ⟨-, rfl⟩ := word_append_inj (fun c hc => hword c (ht.subset hc)) hends hname.isWordChar
    hcolon heq
  have hfalse : isBlank (.char ':') = true := hblank _ rfl
  revert hfalse
  decide

/-- The word `local` counts only in front of blanks and a name. -/
theorem passes_localForm_of_word (hword : ∀ c ∈ word, isWordChar c = true) (hends : EndsWord rest)
    (h : ¬ ("local" : Text) <:+ word ∨ EndsWord (trimStart rest)) :
    localForm.Passes word rest := by
  apply Form.passes_of_forall_suffix
  intro t hne ht
  rw [Option.eq_none_iff_forall_ne_some]
  rintro ⟨d, rest'⟩ hread
  obtain ⟨gap, text, heq, hgap, hblank, gap', value, -, rfl, hname, -⟩ :=
    readLocal?_eq_some_iff.mp hread
  simp only [List.append_assoc] at heq
  obtain ⟨rfl, rfl⟩ := word_append_inj (fun c hc => hword c (ht.subset hc)) hends (by decide)
    (endsWord_of_allBlank hblank hgap) heq
  rcases h with h | h
  · exact h ht
  · -- Behind the blanks a name would have to begin.
    rw [trimStart_append_of_ends hblank hname.endsBlanks] at h
    exact hname.not_endsWord h

/-- Up to the brace that closes a body, no declaration begins inside the body. -/
theorem passes_localForm_of_closing {body : Text} (h : NoBrace body) :
    localForm.Passes (body ++ "\x7d") rest := by
  induction body with
  | nil => exact beginsWithWord_localForm.passes (by decide)
  | cons c body ih =>
    refine ⟨?_, ih (noBrace_cons.mp h).2⟩
    rw [Option.eq_none_iff_forall_ne_some]
    rintro ⟨d, rest'⟩ hread
    obtain ⟨gap, text, heq, -, hblank, htext⟩ := readLocal?_eq_some_iff.mp hread
    obtain ⟨head, rfl, hhead⟩ := exists_noBrace_append htext
    -- A declaration that began here would open its body before the first closing brace.
    have hlocal : NoBrace ("local" ++ gap ++ head) := by
      rw [noBrace_append, noBrace_append]
      exact ⟨⟨by decide, noBrace_of_allBlank hblank⟩, hhead⟩
    apply opening_ne_closing hlocal h (d.body ++ ("\x7d" ++ rest')) rest
    calc
      _ = ("local" : Text) ++ gap ++ (head ++ "\x7b" ++ d.body ++ "\x7d") ++ rest' := by
        simp only [List.append_assoc]
        rfl
      _ = c :: (body ++ "\x7d" ++ rest) := heq.symm
      _ = c :: body ++ .char '\x7d' :: rest := by
        rw [List.append_assoc, List.cons_append]
        rfl

end Declaration

end Archimate
