import Archimate.Proofs.Text.Ends
import Archimate.Text.Split
import Archimate.Text.Utf8
import Mathlib.Data.List.Forall2

namespace Archimate.Text

variable {c : CodePoint} {t u : Text}

/-- The text with every carriage return that stands before a line feed removed. -/
def dropReturns : Text → Text
  | [] => []
  | .char '\r' :: .char '\n' :: rest => .char '\n' :: dropReturns rest
  | c :: rest => c :: dropReturns rest

/-- Every carriage return stands before a line feed. -/
def ReturnsPaired : Text → Prop
  | [] => True
  | c :: rest => (c = .char '\r' → rest.head? = some (.char '\n')) ∧ ReturnsPaired rest

instance decidableReturnsPaired : (t : Text) → Decidable (ReturnsPaired t)
  | [] => inferInstanceAs (Decidable True)
  | _ :: rest =>
    have := decidableReturnsPaired rest
    inferInstanceAs (Decidable (_ ∧ _))

theorem dropReturns_lineEnd (t : Text) :
    dropReturns (.char '\r' :: .char '\n' :: t) = .char '\n' :: dropReturns t := rfl

theorem dropReturns_cons (h : c = .char '\r' → t.head? ≠ some (.char '\n')) :
    dropReturns (c :: t) = c :: dropReturns t := by
  apply dropReturns.eq_3
  rintro rest rfl rfl
  exact h rfl rfl

theorem dropReturns_cons_of_ne (h : c ≠ .char '\r') (t : Text) :
    dropReturns (c :: t) = c :: dropReturns t :=
  dropReturns_cons fun hc => absurd hc h

/-- A text is empty, begins with both characters of a line end, or goes on behind its first one. -/
theorem returns_induction {motive : Text → Prop} (nil : motive [])
    (lineEnd : ∀ t, motive t → motive (.char '\r' :: .char '\n' :: t))
    (cons : ∀ c t, (c = .char '\r' → t.head? ≠ some (.char '\n')) → motive t → motive (c :: t))
    (t : Text) : motive t := by
  induction t using dropReturns.induct with
  | case1 => exact nil
  | case2 rest ih => exact lineEnd rest ih
  | case3 c rest h ih =>
    refine cons c rest (fun hc hhead => ?_) ih
    obtain ⟨rest', rfl⟩ := List.head?_eq_some_iff.mp hhead
    exact h rest' hc rfl

theorem dropReturns_eq_nil_iff : dropReturns t = [] ↔ t = [] := by
  induction t using returns_induction with
  | nil => exact Iff.rfl
  | lineEnd t => simp [dropReturns_lineEnd]
  | cons c t h => simp [dropReturns_cons h]

/-- Where every return is paired, unifying line ends only drops returns. -/
theorem unifyNewlines_of_returnsPaired (h : ReturnsPaired t) :
    unifyNewlines t = dropReturns t := by
  induction t using returns_induction with
  | nil => rfl
  | lineEnd t ih =>
    show .char '\n' :: unifyNewlines t = .char '\n' :: dropReturns t
    rw [ih h.2.2]
  | cons c t hc ih =>
    have hne : c ≠ .char '\r' := fun e => hc e (h.1 e)
    rw [dropReturns_cons hc, unifyNewlines.eq_4, ih h.2]
    · exact fun rest e _ => hne e
    · exact hne

section Classes

variable {p : CodePoint → Bool}

/-- A class that holds both characters of a line end or neither takes as much without returns. -/
theorem takeWhile_dropReturns (hp : p (.char '\r') = p (.char '\n')) (t : Text) :
    (dropReturns t).takeWhile p = dropReturns (t.takeWhile p) := by
  induction t using returns_induction with
  | nil => rfl
  | lineEnd t ih =>
    rw [dropReturns_lineEnd, List.takeWhile_cons, List.takeWhile_cons, List.takeWhile_cons, hp, ih]
    split <;> rfl
  | cons c t h ih =>
    rw [dropReturns_cons h, List.takeWhile_cons, List.takeWhile_cons, ih]
    split
    · -- What is taken begins with a line feed only if the text does.
      refine (dropReturns_cons fun hc hhead => h hc ?_).symm
      obtain ⟨rest, htake⟩ := List.head?_eq_some_iff.mp hhead
      obtain ⟨behind, ht⟩ := htake ▸ List.takeWhile_prefix p (l := t)
      rw [← ht]
      rfl
    · rfl

theorem dropWhile_dropReturns (hp : p (.char '\r') = p (.char '\n')) (t : Text) :
    (dropReturns t).dropWhile p = dropReturns (t.dropWhile p) := by
  induction t using returns_induction with
  | nil => rfl
  | lineEnd t ih =>
    rw [dropReturns_lineEnd, List.dropWhile_cons, List.dropWhile_cons, List.dropWhile_cons, hp, ih]
    split <;> rfl
  | cons c t h ih =>
    rw [dropReturns_cons h, List.dropWhile_cons, List.dropWhile_cons, ih]
    split
    · rfl
    · exact (dropReturns_cons h).symm

theorem trimStart_dropReturns (t : Text) : trimStart (dropReturns t) = dropReturns (trimStart t) :=
  dropWhile_dropReturns (by decide) t

theorem dropReturns_of_not_mem (h : .char '\r' ∉ t) : dropReturns t = t := by
  induction t with
  | nil => rfl
  | cons c t ih =>
    rw [List.mem_cons, not_or] at h
    rw [dropReturns_cons_of_ne (Ne.symm h.1), ih h.2]

theorem spanWord_dropReturns (t : Text) :
    spanWord (dropReturns t) = ((spanWord t).1, dropReturns (spanWord t).2) := by
  have hreturn : isWordChar (.char '\r') = isWordChar (.char '\n') := by decide
  have hword : .char '\r' ∉ (spanWord t).1 := fun hm => by
    have := isWordChar_of_mem_spanWord hm
    revert this
    decide
  unfold spanWord
  rw [takeWhile_dropReturns hreturn, dropWhile_dropReturns hreturn]
  exact congrArg (·, _) (dropReturns_of_not_mem hword)

end Classes

/-- A fixed word on one line stands at the head of a text with or without returns. -/
theorem after?_dropReturns {expected : Text}
    (h : .char '\r' ∉ expected ∧ .char '\n' ∉ expected) (t : Text) :
    after? expected (dropReturns t) = (after? expected t).map dropReturns := by
  induction expected generalizing t with
  | nil => rfl
  | cons e expected ih =>
    simp only [List.mem_cons, not_or] at h
    obtain ⟨⟨hreturn, hrest⟩, hfeed, hrest'⟩ := h
    cases t using returns_induction with
    | nil => rfl
    | lineEnd t =>
      rw [dropReturns_lineEnd, after?, after?, if_neg (Ne.symm hfeed), if_neg (Ne.symm hreturn)]
      rfl
    | cons c t hc =>
      rw [dropReturns_cons hc, after?, after?, ih ⟨hrest, hrest'⟩]
      split <;> rfl

/-- The same line, with or without a carriage return at its end. -/
def SameLine (l l' : Text) : Prop := l' = l ∨ l' = l ++ "\r"

theorem SameLine.cons (h : SameLine t u) (c : CodePoint) : SameLine (c :: t) (c :: u) := by
  rcases h with rfl | rfl
  · exact Or.inl rfl
  · exact Or.inr rfl

theorem SameLine.trim_eq (h : SameLine t u) : trim t = trim u := by
  rcases h with rfl | rfl
  · rfl
  · exact (trim_append_of_allBlank (by decide) t).symm

theorem splitLines_dropReturns (t : Text) :
    List.Forall₂ SameLine (splitLines (dropReturns t)) (splitLines t) := by
  unfold splitLines
  induction t using returns_induction with
  | nil => exact .cons (Or.inl rfl) .nil
  | lineEnd t ih =>
    have hreturn : splitOn (.char '\n') (.char '\r' :: .char '\n' :: t) =
        ("\r" : Text) :: splitOn (.char '\n') t :=
      splitOn_append_separator (.char '\n') ("\r" : Text) t
    rw [dropReturns_lineEnd, splitOn_cons_separator, hreturn]
    exact .cons (Or.inr rfl) ih
  | cons c t h ih =>
    rw [dropReturns_cons h]
    by_cases hc : c = .char '\n'
    · subst hc
      rw [splitOn_cons_separator, splitOn_cons_separator]
      exact .cons (Or.inl rfl) ih
    · obtain ⟨part, parts, hparts⟩ := List.exists_cons_of_ne_nil (splitOn_ne_nil (.char '\n') t)
      obtain ⟨part', parts', hparts'⟩ :=
        List.exists_cons_of_ne_nil (splitOn_ne_nil (.char '\n') (dropReturns t))
      rw [hparts, hparts'] at ih
      obtain ⟨hpart, hrest⟩ := List.forall₂_cons.mp ih
      simp only [splitOn, hc, if_false, hparts, hparts']
      exact .cons (hpart.cons c) hrest

end Archimate.Text
