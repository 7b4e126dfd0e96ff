import Archimate.Text.CodePoint

namespace Archimate.Text

def blankRanges : List CodeRange := [
    (0x0009, 0x000D), (0x001C, 0x0020), (0x0085, 0x0085), (0x00A0, 0x00A0), (0x1680, 0x1680),
    (0x2000, 0x200A), (0x2028, 0x2029), (0x202F, 0x202F), (0x205F, 0x205F), (0x3000, 0x3000)]

def isBlank (c : CodePoint) : Bool :=
  c.isIn (covers blankRanges)

def trimStart (t : Text) : Text :=
  t.dropWhile isBlank

def dropTail (drop : CodePoint → Bool) (t : Text) : Text :=
  (t.reverse.dropWhile drop).reverse

def trimEnd (t : Text) : Text :=
  dropTail isBlank t

def trim (t : Text) : Text :=
  trimEnd (trimStart t)

def dropEnds (drop : CodePoint → Bool) (t : Text) : Text :=
  dropTail drop (t.dropWhile drop)

def allBlank (t : Text) : Bool :=
  t.all isBlank

theorem isBlank_newline : isBlank '\n' = true := by decide

theorem dropTail_append_of_not {drop : CodePoint → Bool} {c : CodePoint} (t : Text)
    (h : drop c = false) : dropTail drop (t ++ [c]) = t ++ [c] := by
  simp [dropTail, h]

end Archimate.Text
