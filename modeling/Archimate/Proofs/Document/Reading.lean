import Archimate.Document

namespace Archimate

variable {ε α β γ : Type} {reading : Except ε α}

def readingError? : Except ε α → Option ε
  | .ok _ => none
  | .error e => some e

theorem readingError?_eq_some_iff {e : ε} :
    readingError? reading = some e ↔ reading = .error e := by
  cases reading <;> simp [readingError?]

theorem readingError?_eq_none_iff : readingError? reading = none ↔ ∃ a, reading = .ok a := by
  cases reading <;> simp [readingError?]

theorem toOption_eq_some_iff {a : α} : reading.toOption = some a ↔ reading = .ok a := by
  cases reading <;> simp [Except.toOption]

theorem readingError?_map (f : α → β) : readingError? (reading.map f) = readingError? reading := by
  cases reading <;> rfl

/-- Of two readings in turn the first error counts. -/
theorem readingError?_bind (next : Except ε β) (f : α → β → γ) :
    readingError? (do let a ← reading; let b ← next; .ok (f a b)) =
      (readingError? reading).or (readingError? next) := by
  cases reading with
  | error e => rfl
  | ok a => cases next <;> rfl

theorem map_eq_ok_iff {f : α → β} {b : β} :
    reading.map f = .ok b ↔ ∃ a, reading = .ok a ∧ f a = b := by
  cases reading <;> simp [Except.map]

theorem bind_eq_ok_iff {next : Except ε β} {f : α → β → γ} {c : γ} :
    (do let a ← reading; let b ← next; .ok (f a b)) = .ok c ↔
      ∃ a b, reading = .ok a ∧ next = .ok b ∧ c = f a b := by
  cases reading <;> cases next <;> simp [bind, Except.bind, eq_comm]

end Archimate
