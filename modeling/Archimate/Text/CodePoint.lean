namespace Archimate

inductive CodePoint where
  | char (c : Char)
  | half (offset : Fin 0x800)
deriving DecidableEq, Inhabited

abbrev Text := List CodePoint

instance : Coe Char CodePoint := ⟨CodePoint.char⟩

namespace CodePoint

def firstHalf : Nat := 0xD800

/-- The first of the halves that come second in a pair. -/
def firstSecond : Nat := 0xDC00

def behindHalves : Nat := 0xE000

def code : CodePoint → Nat
  | char c => c.toNat
  | half offset => firstHalf + offset

def ofCode (code : Nat) : CodePoint :=
  if h : firstHalf ≤ code ∧ code < behindHalves then
    half ⟨code - firstHalf, by simp only [firstHalf, behindHalves] at h ⊢; omega⟩
  else char (Char.ofNat code)

/-- Whether a class of characters holds the code point. -/
def isIn (holds : Char → Bool) : CodePoint → Bool
  | char c => holds c
  | half _ => false

def shown : CodePoint → Char
  | char c => c
  | half _ => '\ufffd'

/-- The code point that two units of 16 bits write together. -/
def pair? (first second : Nat) : Option CodePoint :=
  if firstHalf ≤ first ∧ first < firstSecond ∧ firstSecond ≤ second ∧ second < behindHalves then
    some (ofCode (0x10000 + (first - firstHalf) * 0x400 + (second - firstSecond)))
  else none

theorem ofCode_code_char (c : Char) : ofCode (char c).code = char c := by
  have : ¬(firstHalf ≤ c.toNat ∧ c.toNat < behindHalves) := by
    rcases c.valid with h | h
    · exact fun b => absurd h (Nat.not_lt.mpr b.1)
    · exact fun b => absurd h.1 (Nat.not_lt.mpr (Nat.le_of_lt_succ b.2))
  simp [ofCode, code, this]

theorem ofCode_code_half (offset : Fin 0x800) : ofCode (half offset).code = half offset := by
  have h := offset.isLt
  have : firstHalf ≤ firstHalf + offset.val ∧ firstHalf + offset.val < behindHalves := by
    simp only [firstHalf, behindHalves]; omega
  simp [ofCode, code, this]

theorem ofCode_code (c : CodePoint) : ofCode c.code = c := by
  cases c with
  | char c => exact ofCode_code_char c
  | half offset => exact ofCode_code_half offset

theorem code_inj {c d : CodePoint} : c.code = d.code ↔ c = d :=
  ⟨fun h => by rw [← ofCode_code c, h, ofCode_code d], fun h => h ▸ rfl⟩

end CodePoint

namespace Text

def ofChars (cs : List Char) : Text := cs.map .char

def ofString (s : String) : Text := ofChars s.toList

instance : Coe String Text := ⟨ofString⟩

instance : LawfulBEq Text := inferInstance

/-- The text as a string, with a replacement character for every half. -/
def asString (t : Text) : String := String.ofList (t.map CodePoint.shown)

def isWritable (t : Text) : Bool := t.all (CodePoint.isIn fun _ => true)

theorem ofChars_inj {cs ds : List Char} : ofChars cs = ofChars ds ↔ cs = ds :=
  (List.map_inj_right fun _ _ h => CodePoint.char.inj h)

theorem ofString_inj {s t : String} : ofString s = ofString t ↔ s = t := by
  simp [ofString, ofChars_inj, String.toList_inj]

theorem ofString_beq (s t : String) : (ofString s == ofString t) = (s == t) := by
  rw [Bool.eq_iff_iff, beq_iff_eq, beq_iff_eq, ofString_inj]

theorem isWritable_ofChars (cs : List Char) : isWritable (ofChars cs) = true := by
  simp [isWritable, ofChars, CodePoint.isIn]

theorem isWritable_append (s t : Text) : isWritable (s ++ t) = (isWritable s && isWritable t) := by
  simp [isWritable]

/-- A run of code points, both ends included. -/
abbrev CodeRange := Nat × Nat

def CodeRange.holds (range : CodeRange) (c : Char) : Bool :=
  range.1 ≤ c.toNat && c.toNat ≤ range.2

def covers (table : List CodeRange) (c : Char) : Bool :=
  table.any fun range => range.holds c

theorem covers_iff {table : List CodeRange} {c : Char} :
    covers table c = true ↔ ∃ range ∈ table, range.1 ≤ c.toNat ∧ c.toNat ≤ range.2 := by
  simp [covers, CodeRange.holds]

end Text

end Archimate
