import Archimate.Text.CodePoint
import Archimate.Text.Quoted
import Archimate.Text.Utf8.Lemmas

namespace Archimate

/-- The name of a file: some bytes, as a rule a text in UTF-8. A byte that belongs to no character
shows in the text of a name as the half 0xDC00 above it; all other halves name nothing. -/
abbrev FileName := List UInt8

namespace FileName

/-- How far the half that shows a byte lies above the first half. -/
def escapeOffset : Nat := CodePoint.firstSecond - CodePoint.firstHalf

def escape (b : UInt8) : CodePoint :=
  .half ⟨escapeOffset + b.toNat, by
    have := b.toNat_lt
    simp only [escapeOffset, CodePoint.firstSecond, CodePoint.firstHalf]; omega⟩

/-- The bytes of a code point in a name; a half can show a byte outside ASCII only. -/
def bytesOf? : CodePoint → Option (List UInt8)
  | .char c => some (Text.utf8 [c])
  | .half offset =>
    if escapeOffset + 0x80 ≤ offset ∧ offset < escapeOffset + 0x100 then
      some [UInt8.ofNat (offset - escapeOffset)]
    else none

def ofText? : Text → Option FileName
  | [] => some []
  | c :: cs => (bytesOf? c).bind fun bytes => (ofText? cs).map fun name => bytes ++ name

/-- What is said of the first halves that show no byte, with the halves that follow them. -/
def unwritten? (position : Nat) : Text → Option Text
  | [] => none
  | c :: cs =>
    if (bytesOf? c).isSome then unwritten? (position + 1) cs
    else
      let more := (cs.takeWhile fun c => !c.isIn fun _ => true).length
      let place : Text := if more = 0 then
          "character " ++ Text.quoted [c] ++ " in position " ++ toString position
        else "characters in position " ++ toString position ++ "-" ++ toString (position + more)
      some ("'utf-8' codec can't encode " ++ place ++ ": surrogates not allowed")

def text : FileName → Text
  | [] => []
  | b :: bytes =>
    match h : Text.character? (b :: bytes) with
    | some (c, rest) =>
      have := Text.length_of_character? h
      .char c :: text rest
    | none => escape b :: text bytes
termination_by name => name.length
decreasing_by all_goals (simp only [List.length_cons] at *; omega)

theorem bytesOf?_escape {b : UInt8} (h : 0x80 ≤ b.toNat) : bytesOf? (escape b) = some [b] := by
  have := b.toNat_lt
  simp only [bytesOf?, escape]
  rw [if_pos (by omega)]
  simp

theorem ofText?_text (name : FileName) : ofText? (text name) = some name := by
  fun_induction text name with
  | case1 => rfl
  | case2 b bytes c rest h _ ih =>
    simp [ofText?, bytesOf?, ih, Text.utf8_of_character? h]
  | case3 b bytes h ih =>
    simp [ofText?, bytesOf?_escape (Text.le_of_character?_eq_none h), ih]

end FileName

end Archimate
