import Archimate.Text.CodePoint

namespace Archimate

/-- A reader of one form at the head of a text; an occurrence is never empty. -/
structure Form (α : Type) where
  read? : Text → Option (α × Text)
  shorter : ∀ {t a rest}, read? t = some (a, rest) → rest.length < t.length

namespace Form

variable {α : Type}

/-- The leftmost occurrences that do not overlap. -/
def scan (form : Form α) : Text → List α
  | [] => []
  | c :: t =>
    match h : form.read? (c :: t) with
    | some (a, rest) =>
      have := form.shorter h
      a :: scan form rest
    | none => scan form t
termination_by t => t.length
decreasing_by all_goals (simp only [List.length_cons] at *; omega)

def first? (form : Form α) : Text → Option α
  | [] => none
  | c :: t =>
    match form.read? (c :: t) with
    | some (a, _) => some a
    | none => first? form t

theorem scan_nil (form : Form α) : form.scan [] = [] := by
  rw [scan]

theorem scan_of_read {form : Form α} {t rest : Text} {a : α}
    (h : form.read? t = some (a, rest)) : form.scan t = a :: form.scan rest := by
  cases t with
  | nil => exact absurd (form.shorter h) (by simp)
  | cons c t =>
    rw [scan]
    split
    · rename_i h'; rw [h] at h'; cases h'; rfl
    · rename_i h'; rw [h] at h'; cases h'

theorem scan_cons_of_none {form : Form α} {c : CodePoint} {t : Text}
    (h : form.read? (c :: t) = none) : form.scan (c :: t) = form.scan t := by
  rw [scan]
  split
  · rename_i h'; rw [h] at h'; cases h'
  · rfl

theorem first?_eq_head?_scan (form : Form α) (t : Text) :
    form.first? t = (form.scan t).head? := by
  induction t with
  | nil => rw [scan_nil]; rfl
  | cons c t ih =>
    match h : form.read? (c :: t) with
    | some (a, rest) => simp [first?, h, scan_of_read h]
    | none => simp [first?, h, scan_cons_of_none h, ih]

end Form

end Archimate
