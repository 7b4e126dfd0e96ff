import Archimate.Literal
import Archimate.Text.Blank
import Archimate.Text.Digit
import Archimate.Text.Split

namespace Archimate

inductive LiteralError where
  | tooManyDigits (count : Nat)
deriving DecidableEq, Repr

/-- The longest run of digits that is read as a whole number. -/
def digitLimit : Nat := 4300

def LiteralError.message : LiteralError → String
  | .tooManyDigits count =>
    "Exceeds the limit (" ++ toString digitLimit
      ++ " digits) for integer string conversion: value has " ++ toString count
      ++ " digits; use sys.set_int_max_str_digits() to increase the limit"

namespace Literal

def mapOpening : Text := "Map("

def listingOpening : Text := "Listing("

/-- Removes blanks at both ends, then quotes at both ends. -/
def bare (t : Text) : Text :=
  Text.dropEnds (· == '"') (Text.trim t)

def withoutClosing (t : Text) : Text :=
  if t.getLast? = some (.char ')') then t.dropLast else t

/-- The arguments of a call: what follows the opening, cut at every comma. -/
def arguments (opening t : Text) : List Text :=
  (Text.splitOn (.char ',') (withoutClosing (t.drop opening.length))).map Text.trim

/-- Keys and values in turn; a last key without a value is dropped. -/
def pairs : List Text → List (Text × Atom)
  | key :: value :: rest => (key, .text value) :: pairs rest
  | _ => []

/-- The map that a `Map(…)` literal writes; a later value for a key replaces the earlier one. -/
def mapEntries (t : Text) : Dictionary Text Atom :=
  Dictionary.ofList (pairs ((arguments mapOpening t).map bare))

/-- The items of a `Listing(…)` literal; any other text has none. -/
def listingItems (t : Text) : List Text :=
  if listingOpening.isPrefixOf t then
    ((arguments listingOpening t).map bare).filter (!·.isEmpty)
  else []

/-- The text between a quote at the start and another at the end. -/
def quotedText? (t : Text) : Option Text :=
  if 2 ≤ t.length ∧ t.head? = some Text.doubleQuote ∧ t.getLast? = some Text.doubleQuote then
    some t.tail.dropLast
  else none

def flag? (t : Text) : Option Bool :=
  if t = "true" then some true
  else if t = "false" then some false
  else none

def isWhole (t : Text) : Bool :=
  !t.isEmpty && t.all Text.isDigit

/-- A run of digits, possibly empty, a point, and at least one digit: whole part and places. -/
def places? (t : Text) : Option (Text × Text) :=
  match t.dropWhile Text.isDigit with
  | .char '.' :: places => if isWhole places then some (t.takeWhile Text.isDigit, places) else none
  | _ => none

def wholeNumber (t : Text) : Except LiteralError Literal :=
  if digitLimit < t.length then .error (.tooManyDigits t.length)
  else .ok (.whole (Text.digitsValue t))

def decimalNumber (whole places : Text) : Literal :=
  .decimal (Binary64.ofDecimal false (Text.digitsValue (whole ++ places)) (-(places.length : Int)))

/-- The first shape that fits: quoted text, flag, whole number, decimal, map, bare text. -/
def parse (t : Text) : Except LiteralError Literal :=
  match quotedText? t, flag? t, places? t with
  | some inner, _, _ => .ok (.text inner)
  | none, some value, _ => .ok (.flag value)
  | none, none, fraction? =>
    if isWhole t then wholeNumber t
    else match fraction? with
      | some (digits, fraction) => .ok (decimalNumber digits fraction)
      | none =>
        if mapOpening.isPrefixOf t then .ok (.map (mapEntries t))
        else .ok (.text t)

/-- The only literal that cannot be read is a whole number with too many digits. -/
theorem parse_eq_error_iff {t : Text} {e : LiteralError} :
    parse t = .error e ↔
      t.all Text.isDigit = true ∧ digitLimit < t.length ∧ e = .tooManyDigits t.length := by
  have digitNotQuote : Text.isDigit Text.doubleQuote = false := by decide
  constructor
  · intro h
    simp only [parse] at h
    split at h
    · simp at h
    · simp at h
    · split at h
      · rename_i hw
        simp only [isWhole, Bool.and_eq_true] at hw
        simp only [wholeNumber] at h
        split at h
        · rename_i hl
          exact ⟨hw.2, hl, by injection h with h; exact h.symm⟩
        · simp at h
      · split at h
        · simp at h
        · split at h <;> simp at h
  · rintro ⟨hd, hl, rfl⟩
    have hne : t ≠ [] := by rintro rfl; simp [digitLimit] at hl
    have hall := List.all_eq_true.mp hd
    have hq : quotedText? t = none := by
      simp only [quotedText?]
      split
      · rename_i hq
        have : Text.doubleQuote ∈ t := List.mem_of_getLast? hq.2.2
        exact absurd (hall _ this) (by simp [digitNotQuote])
      · rfl
    have hlong : 5 < t.length := Nat.lt_of_le_of_lt (by decide) hl
    have hf : flag? t = none := by
      simp only [flag?]
      split
      · rename_i ht; rw [ht] at hlong; exact absurd hlong (by decide)
      · split
        · rename_i ht; rw [ht] at hlong; exact absurd hlong (by decide)
        · rfl
    have hw : isWhole t = true := by simp [isWhole, hd, hne]
    simp [parse, hq, hf, hw, wholeNumber, hl]

end Literal

end Archimate
