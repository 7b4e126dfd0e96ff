import Archimate.Json.Reading
import Archimate.Literal.Parse

namespace Archimate.Json

def isAsciiDigit (c : CodePoint) : Bool := c.isIn fun c => '0' ≤ c && c ≤ '9'

/-- The digits at the head of a text, and what follows them. -/
def spanDigits (t : Text) : Text × Text :=
  (t.takeWhile isAsciiDigit, t.dropWhile isAsciiDigit)

/-- The whole part of a number: a zero alone, or digits that do not begin with one. -/
def readWholePart : Text → Option (Text × Text)
  | .char '0' :: rest => some ([.char '0'], rest)
  | t =>
    match spanDigits t with
    | ([], _) => none
    | found => some found

def readPlaces : Text → Text × Text
  | .char '.' :: t =>
    match spanDigits t with
    | ([], _) => ([], .char '.' :: t)
    | found => found
  | t => ([], t)

/-- Whether a minus sign stands in front. -/
def splitMinus : Text → Bool × Text
  | .char '-' :: rest => (true, rest)
  | t => (false, t)

def splitSign : Text → Bool × Text
  | .char '+' :: rest => (false, rest)
  | t => splitMinus t

def signed (negative : Bool) (n : Nat) : Int := if negative then -n else n

/-- The number behind an exponent mark, if there is one. -/
def readExponent : Text → Option Int × Text
  | [] => (none, [])
  | c :: t =>
    if c = 'e' ∨ c = 'E' then
      match spanDigits (splitSign t).2 with
      | ([], _) => (none, c :: t)
      | (digits, rest) => (some (signed (splitSign t).1 (Text.digitsValue digits)), rest)
    else (none, c :: t)

/-- The value of a number with the given digits before and behind the point. -/
def numberOf (negative : Bool) (digits places : Text) (exponent : Option Int) :
    Except ReadError Json :=
  if places.isEmpty && exponent.isNone then
    if digitLimit < digits.length then .error .oversizedNumber
    else .ok (.whole (signed negative (Text.digitsValue digits)))
  else
    .ok (.decimal (Binary64.ofDecimal negative (Text.digitsValue (digits ++ places))
      (exponent.getD 0 - places.length)))

def readNumber (t : Text) : Reading Json :=
  let (negative, unsigned) := splitMinus t
  match readWholePart unsigned with
  | none => fail t
  | some (digits, rest) =>
    let (places, rest) := readPlaces rest
    let (exponent, rest) := readExponent rest
    (numberOf negative digits places exponent).map fun value => (value, rest)

def words : List (Text × Json) :=
  [("null", .null), ("true", .bool true), ("false", .bool false), ("NaN", .decimal .undefined),
   ("Infinity", .decimal (.infinite false)), ("-Infinity", .decimal (.infinite true))]

def readWord? (t : Text) : Option (Json × Text) :=
  words.findSome? fun (word, value) =>
    if word.isPrefixOf t then some (value, t.drop word.length) else none

theorem spanDigits_append (t : Text) : (spanDigits t).1 ++ (spanDigits t).2 = t :=
  List.takeWhile_append_dropWhile

theorem length_of_spanDigits (t : Text) : (spanDigits t).2.length ≤ t.length :=
  (List.dropWhile_sublist _).length_le

theorem length_of_readWholePart {t digits rest : Text}
    (h : readWholePart t = some (digits, rest)) : rest.length < t.length := by
  simp only [readWholePart] at h
  split at h
  · simp only [Option.some.injEq, Prod.mk.injEq] at h
    simp [← h.2]
  · have hs := congrArg List.length (spanDigits_append t)
    split at h
    · simp at h
    · rename_i found hne
      simp only [Option.some.injEq] at h
      rw [h] at hs hne
      cases digits with
      | nil => exact absurd rfl (hne rest)
      | cons d ds => simp only [List.length_append, List.length_cons] at hs; omega

theorem length_of_readPlaces (t : Text) : (readPlaces t).2.length ≤ t.length := by
  simp only [readPlaces]
  split
  · rename_i r
    have := length_of_spanDigits r
    split
    · simp
    · simp only [List.length_cons]
      omega
  · simp

theorem length_of_splitMinus (t : Text) : (splitMinus t).2.length ≤ t.length := by
  simp only [splitMinus]
  split <;> simp

theorem length_of_splitSign (t : Text) : (splitSign t).2.length ≤ t.length := by
  simp only [splitSign]
  split
  · simp
  · exact length_of_splitMinus t

theorem length_of_readExponent (t : Text) : (readExponent t).2.length ≤ t.length := by
  cases t with
  | nil => simp [readExponent]
  | cons c r =>
    have h1 := length_of_splitSign r
    have h2 := length_of_spanDigits (splitSign r).2
    simp only [readExponent]
    split
    · split
      · simp
      · rename_i hd
        rw [hd] at h2
        simp only [List.length_cons] at h2 ⊢
        omega
    · simp

theorem length_of_readNumber {t rest : Text} {value : Json}
    (h : readNumber t = .ok (value, rest)) : rest.length < t.length := by
  simp only [readNumber] at h
  have hm := length_of_splitMinus t
  split at h
  · simp [fail] at h
  · rename_i digits r hr
    have hw := length_of_readWholePart hr
    have hp := length_of_readPlaces r
    have he := length_of_readExponent (readPlaces r).2
    cases hn : numberOf (splitMinus t).1 digits (readPlaces r).1
        (readExponent (readPlaces r).2).1 with
    | error e => rw [hn] at h; simp [Except.map] at h
    | ok n =>
      rw [hn] at h
      simp only [Except.map, Except.ok.injEq, Prod.mk.injEq] at h
      rw [← h.2]
      omega

theorem length_of_readWord? {t rest : Text} {value : Json}
    (h : readWord? t = some (value, rest)) : rest.length < t.length := by
  obtain ⟨⟨word, v⟩, hm, hw⟩ := List.exists_of_findSome?_eq_some h
  simp only at hw
  split at hw
  · rename_i hp
    have hlen := (List.isPrefixOf_iff_prefix.mp hp).length_le
    have hpos : 0 < word.length := by
      have : ∀ entry ∈ words, 0 < entry.1.length := by decide
      exact this _ hm
    simp only [Option.some.injEq, Prod.mk.injEq] at hw
    rw [← hw.2, List.length_drop]
    omega
  · simp at hw

end Archimate.Json
