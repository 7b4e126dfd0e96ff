import Archimate.Text.CodePoint

namespace Archimate.Text

variable {α : Type} [DecidableEq α]

/-- The parts between separators; there is one part more than there are separators. -/
def splitOn (separator : α) : List α → List (List α)
  | [] => [[]]
  | c :: cs =>
    if c = separator then [] :: splitOn separator cs
    else match splitOn separator cs with
      | [] => [[c]]
      | part :: parts => (c :: part) :: parts

def splitLines (t : Text) : List Text :=
  splitOn (.char '\n') t

/-- What follows the last separator, the whole text when there is none. -/
def afterLast (separator : α) (cs : List α) : List α :=
  (cs.reverse.takeWhile (· != separator)).reverse

theorem splitOn_ne_nil (separator : α) (cs : List α) : splitOn separator cs ≠ [] := by
  cases cs with
  | nil => simp [splitOn]
  | cons c cs =>
    simp only [splitOn]
    split
    · simp
    · split <;> simp

theorem splitOn_cons_separator (separator : α) (cs : List α) :
    splitOn separator (separator :: cs) = [] :: splitOn separator cs := by
  simp [splitOn]

theorem splitOn_append_separator (separator : α) (as bs : List α) :
    splitOn separator (as ++ separator :: bs) =
      splitOn separator as ++ splitOn separator bs := by
  induction as with
  | nil => simp [splitOn]
  | cons c cs ih =>
    by_cases h : c = separator
    · simp [splitOn, h, ih]
    · simp only [List.cons_append, splitOn, h, if_false, ih]
      match hs : splitOn separator cs with
      | [] => exact absurd hs (splitOn_ne_nil separator cs)
      | part :: parts => rfl

theorem splitOn_eq_singleton {separator : α} {cs : List α} (h : separator ∉ cs) :
    splitOn separator cs = [cs] := by
  induction cs with
  | nil => rfl
  | cons c cs ih =>
    have hc : c ≠ separator := fun e => h (by simp [e])
    have hcs : separator ∉ cs := fun m => h (by simp [m])
    simp [splitOn, hc, ih hcs]

theorem afterLast_append {separator : α} (as : List α) {bs : List α}
    (h : separator ∉ bs) : afterLast separator (as ++ separator :: bs) = bs := by
  have hb : ∀ c ∈ bs.reverse, (c != separator) = true := by
    intro c hc
    have : c ≠ separator := fun e => h (by simpa [e] using hc)
    simp [this]
  simp only [afterLast, List.reverse_append, List.reverse_cons, List.append_assoc]
  rw [List.takeWhile_append_of_pos hb]
  simp

/-- What follows the expected word, when the text begins with it. -/
def after? : (expected text : List α) → Option (List α)
  | [], text => some text
  | e :: expected, c :: text => if e = c then after? expected text else none
  | _ :: _, [] => none

theorem after?_eq_some_iff {expected text rest : List α} :
    after? expected text = some rest ↔ text = expected ++ rest := by
  induction expected generalizing text with
  | nil => simp [after?]
  | cons e expected ih =>
    cases text with
    | nil => simp [after?]
    | cons c text =>
      by_cases h : e = c
      · simp [after?, h, ih]
      · have : ¬ c = e := fun g => h g.symm
        simp [after?, h, this]

theorem length_of_after? {expected text rest : List α} (h : after? expected text = some rest) :
    text.length = expected.length + rest.length := by
  rw [after?_eq_some_iff] at h
  simp [h]

end Archimate.Text
