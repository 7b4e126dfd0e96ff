import Archimate.Proofs.Dictionary
import Archimate.Proofs.Document.Values
import Mathlib.Data.Nat.Digits.Defs

namespace Archimate
open Text

/-- The number of decimal digits of a whole number, without its sign. -/
def digitCount (n : Int) : Nat := (Nat.toDigits 10 n.natAbs).length

def Atom.numbers : Atom → List Int
  | .whole value => [value]
  | _ => []

namespace Literal

def numbers : Literal → List Int
  | .whole value => [value]
  | .map entries => entries.values.flatMap Atom.numbers
  | _ => []

/-- No number in the value has more digits than can be written. -/
def Writable (value : Literal) : Prop := ∀ n ∈ value.numbers, digitCount n ≤ digitLimit

end Literal

def Record.Writable (r : Record) : Prop := ∀ field ∈ r.fields.entries, field.2.Writable

section Digits

theorem digitValue?_lt {c : CodePoint} {n : Nat} (h : digitValue? c = some n) : n < 10 := by
  cases c with
  | half offset => cases h
  | char c =>
    simp only [digitValue?] at h
    split at h
    · rename_i hdigit
      have hrange : '0'.toNat ≤ c.toNat ∧ c.toNat ≤ '9'.toNat := by
        simpa [Char.isDigit, UInt32.le_iff_toNat_le] using hdigit
      have hzero : '0'.toNat = 48 := rfl
      have hnine : '9'.toNat = 57 := rfl
      have := Option.some.inj h
      omega
    · obtain ⟨range, -, rfl⟩ := Option.map_eq_some_iff.mp h
      exact Nat.mod_lt _ (by decide)

theorem digitsValue_lt (t : Text) : digitsValue t < 10 ^ t.length := by
  induction t using List.reverseRecOn with
  | nil => decide
  | append_singleton t c ih =>
    have hdigit : (digitValue? c).getD 0 < 10 := by
      cases h : digitValue? c with
      | none => decide
      | some n => exact digitValue?_lt h
    rw [digitsValue_append_singleton, List.length_append, List.length_singleton, pow_succ]
    omega

theorem digitCount_digitsValue_le {t : Text} (hne : t ≠ []) :
    digitCount (digitsValue t) ≤ t.length := by
  unfold digitCount
  rw [Int.natAbs_natCast]
  exact Nat.toDigits_length 10 _ _ (List.length_pos_iff.mpr hne) (digitsValue_lt t)

end Digits

namespace Literal

/-- The pairs of a map literal take their keys and their values, all texts, from the arguments. -/
theorem mem_pairs {parts : List Text} {pair : Text × Atom} (h : pair ∈ pairs parts) :
    pair.1 ∈ parts ∧ ∃ value ∈ parts, pair.2 = .text value := by
  fun_induction pairs parts with
  | case1 key value rest ih =>
    rcases List.mem_cons.mp h with rfl | h
    · exact ⟨List.mem_cons_self, value, List.mem_cons_of_mem _ List.mem_cons_self, rfl⟩
    · obtain ⟨hkey, other, hother, hvalue⟩ := ih h
      have hrest {part : Text} (hpart : part ∈ rest) : part ∈ key :: value :: rest :=
        List.mem_cons_of_mem _ (List.mem_cons_of_mem _ hpart)
      exact ⟨hrest hkey, other, hrest hother, hvalue⟩
  | case2 => cases h

theorem numbers_mapEntries (t : Text) : (Literal.map (mapEntries t)).numbers = [] := by
  simp only [numbers, Dictionary.values, List.flatMap_eq_nil_iff, List.mem_map]
  rintro atom ⟨entry, hentry, rfl⟩
  obtain ⟨-, value, -, hvalue⟩ := mem_pairs (Dictionary.mem_of_mem_ofList hentry)
  rw [hvalue]
  rfl

theorem writable_of_numbers_eq_nil {value : Literal} (h : value.numbers = []) :
    value.Writable := by
  intro n hn
  rw [h] at hn
  cases hn

/-- Every value that is read can be written. -/
theorem writable_of_parse {t : Text} {value : Literal} (h : parse t = .ok value) :
    value.Writable := by
  simp only [parse] at h
  split at h
  · cases h
    exact writable_of_numbers_eq_nil rfl
  · cases h
    exact writable_of_numbers_eq_nil rfl
  · split at h
    · rename_i hwhole
      simp only [wholeNumber] at h
      split at h
      · cases h
      · rename_i hlength
        cases h
        have hne : t ≠ [] := by
          rintro rfl
          cases hwhole
        intro n hn
        rw [List.mem_singleton.mp hn]
        exact (digitCount_digitsValue_le hne).trans (Nat.not_lt.mp hlength)
    · split at h
      · cases h
        exact writable_of_numbers_eq_nil rfl
      · split at h <;> cases h
        · exact writable_of_numbers_eq_nil (numbers_mapEntries t)
        · exact writable_of_numbers_eq_nil rfl

end Literal

theorem Document.writable_of_parse {text source : Text} {d : Document}
    (h : parse text source = .ok d) : ∀ r ∈ d.objects, r.Writable := by
  intro r hr field hfield
  obtain ⟨literal, -, hliteral⟩ := exists_literal_of_parse h r hr field hfield
  exact Literal.writable_of_parse hliteral

end Archimate
