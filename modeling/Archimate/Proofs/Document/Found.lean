import Archimate.Proofs.Document.Grammar

namespace Archimate

/-- What is found at the head of a text, and the text behind it. -/
structure Occurrence (α : Type) where
  start : Text
  value : α
  rest : Text
deriving DecidableEq

namespace Occurrence

variable {α : Type} {o : Occurrence α} {piece after : Text}

/-- The first code point stands in the piece that ends where `after` begins. -/
def BeginsIn (o : Occurrence α) (piece after : Text) : Prop :=
  after.length < o.start.length ∧ o.start.length ≤ (piece ++ after).length

/-- The last code point stands in the piece that ends where `after` begins. -/
def EndsIn (o : Occurrence α) (piece after : Text) : Prop :=
  after.length ≤ o.rest.length ∧ o.rest.length < (piece ++ after).length

/-- It begins before the place where `after` begins, and ends behind that place. -/
def Crosses (o : Occurrence α) (after : Text) : Prop :=
  after.length < o.start.length ∧ o.rest.length < after.length

instance : Decidable (o.BeginsIn piece after) := inferInstanceAs (Decidable (_ ∧ _))

instance : Decidable (o.EndsIn piece after) := inferInstanceAs (Decidable (_ ∧ _))

instance : Decidable (o.Crosses after) := inferInstanceAs (Decidable (_ ∧ _))

end Occurrence

namespace Form

variable {α : Type} {form : Form α}

def found (form : Form α) : Text → List (Occurrence α)
  | [] => []
  | c :: t =>
    match h : form.read? (c :: t) with
    | some (a, rest) =>
      have := form.shorter h
      ⟨c :: t, a, rest⟩ :: found form rest
    | none => found form t
termination_by t => t.length
decreasing_by all_goals (simp only [List.length_cons] at *; omega)

theorem found_of_read {t rest : Text} {a : α} (h : form.read? t = some (a, rest)) :
    form.found t = ⟨t, a, rest⟩ :: form.found rest := by
  cases t with
  | nil => exact absurd (form.shorter h) (Nat.not_lt_zero _)
  | cons c t =>
    rw [found]
    split
    · rename_i hread
      rw [h] at hread
      cases hread
      rfl
    · rename_i hread
      rw [h] at hread
      cases hread

theorem found_cons_of_none {c : CodePoint} {t : Text} (h : form.read? (c :: t) = none) :
    form.found (c :: t) = form.found t := by
  rw [found]
  split
  · rename_i hread
    rw [h] at hread
    cases hread
  · rfl

theorem map_value_found (form : Form α) (t : Text) :
    (form.found t).map Occurrence.value = form.scan t := by
  fun_induction found form t with
  | case1 => rw [scan_nil, List.map_nil]
  | case2 c t a rest h _ ih => rw [scan_of_read h, List.map_cons, ih]
  | case3 c t h ih => rw [scan_cons_of_none h, ih]

theorem first?_eq_found (form : Form α) (t : Text) :
    form.first? t = (form.found t).head?.map Occurrence.value := by
  rw [first?_eq_head?_scan, ← map_value_found, List.head?_map]

/-- A piece is passed over if the first occurrence does not begin in it. -/
theorem found_append {piece after : Text}
    (h : ∀ o ∈ (form.found (piece ++ after)).head?, ¬ o.BeginsIn piece after) :
    form.found (piece ++ after) = form.found after := by
  induction piece with
  | nil => rfl
  | cons c piece ih =>
    rw [List.cons_append] at h ⊢
    cases hread : form.read? (c :: (piece ++ after)) with
    | some found =>
      rw [found_of_read hread] at h
      refine absurd ⟨?_, Nat.le_refl _⟩ (h _ rfl)
      simp only [List.length_cons, List.length_append]
      omega
    | none =>
      rw [found_cons_of_none hread] at h ⊢
      apply ih
      intro o ho hbegins
      apply h o ho
      exact ⟨hbegins.1, Nat.le_succ_of_le hbegins.2⟩

end Form

end Archimate
