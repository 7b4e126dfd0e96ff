import Archimate.Json
import Archimate.Text.Digit

namespace Archimate.Json

inductive ReadError where
  | malformed (remaining : Nat)
  | oversizedNumber
  | nestedTooDeep
deriving DecidableEq

abbrev Reading (α : Type) := Except ReadError (α × Text)

def isSpace (c : CodePoint) : Bool :=
  c == ' ' || c == '\t' || c == '\n' || c == '\r'

def skipSpace (t : Text) : Text := t.dropWhile isSpace

def fail {α : Type} (t : Text) : Except ReadError α := .error (.malformed t.length)

theorem length_of_skipSpace (t : Text) : (skipSpace t).length ≤ t.length :=
  (List.dropWhile_sublist _).length_le

/-- The character that one character after a backslash stands for. -/
def shortEscape? : CodePoint → Option Char
  | .char '"' => some '"'
  | .char '\\' => some '\\'
  | .char '/' => some '/'
  | .char 'b' => some '\x08'
  | .char 'f' => some '\x0c'
  | .char 'n' => some '\n'
  | .char 'r' => some '\r'
  | .char 't' => some '\t'
  | _ => none

/-- The unit that four digits write; a string does not end right behind them. -/
def readUnit? (t : Text) : Option (Nat × Text) :=
  if t.length < 5 then none else (Text.hexNumber? (t.take 4)).map fun unit => (unit, t.drop 4)

/-- The code point that a unit writes together with an escape right behind it. -/
def readPair? (first : Nat) : Text → Option (CodePoint × Text)
  | .char '\\' :: .char 'u' :: t =>
    (readUnit? t).bind fun (second, rest) => (CodePoint.pair? first second).map (·, rest)
  | _ => none

/-- Reads an escape whose backslash is read; `opening` counts from the quote that opened. -/
def readEscape (opening : Nat) : Text → Reading CodePoint
  | [] => .error (.malformed opening)
  | .char 'u' :: t =>
    match readUnit? t with
    | some (unit, rest) => .ok ((readPair? unit rest).getD (.ofCode unit, rest))
    | none => fail (.char 'u' :: t)
  | c :: rest =>
    match shortEscape? c with
    | some meant => .ok (meant, rest)
    | none => fail (.char '\\' :: c :: rest)

theorem length_of_readUnit? {t rest : Text} {unit : Nat} (h : readUnit? t = some (unit, rest)) :
    rest.length ≤ t.length := by
  simp only [readUnit?] at h
  split at h
  · simp at h
  · simp only [Option.map_eq_some_iff, Prod.mk.injEq] at h
    obtain ⟨_, _, _, rfl⟩ := h
    simp

theorem length_of_readPair? {first : Nat} {t rest : Text} {c : CodePoint}
    (h : readPair? first t = some (c, rest)) : rest.length ≤ t.length := by
  simp only [readPair?] at h
  split at h
  · simp only [Option.bind_eq_some_iff, Option.map_eq_some_iff, Prod.mk.injEq] at h
    obtain ⟨⟨unit, r⟩, hu, _, _, _, rfl⟩ := h
    have := length_of_readUnit? hu
    simp only [List.length_cons]
    omega
  · simp at h

theorem length_of_readEscape {opening : Nat} {c : CodePoint} {t rest : Text}
    (h : readEscape opening t = .ok (c, rest)) : rest.length < t.length := by
  simp only [readEscape] at h
  split at h
  · simp at h
  · split at h
    · rename_i unit r hu
      have hl := length_of_readUnit? hu
      simp only [Except.ok.injEq] at h
      cases hp : readPair? unit r with
      | none =>
        rw [hp, Option.getD_none, Prod.mk.injEq] at h
        rw [← h.2, List.length_cons]
        omega
      | some found =>
        have := length_of_readPair? hp
        rw [hp, Option.getD_some] at h
        rw [h] at this
        simp only [List.length_cons] at this ⊢
        omega
    · simp [fail] at h
  · split at h
    · simp only [Except.ok.injEq, Prod.mk.injEq] at h
      simp [← h.2]
    · simp [fail] at h

def readString (opening : Nat) (before : Text) : Text → Reading Text
  | [] => .error (.malformed opening)
  | c :: rest =>
    if c = '"' then .ok (before.reverse, rest)
    else if c = '\\' then
      match h : readEscape opening rest with
      | .ok (meant, rest') =>
        have := length_of_readEscape h
        readString opening (meant :: before) rest'
      | .error e => .error e
    else if c.code < 0x20 then fail (c :: rest)
    else readString opening (c :: before) rest
termination_by t => t.length
decreasing_by all_goals (simp; try omega)

theorem length_of_readString {opening : Nat} {before result : Text} {t rest : Text}
    (h : readString opening before t = .ok (result, rest)) : rest.length < t.length := by
  fun_induction readString opening before t with
  | case1 => simp at h
  | case2 => simp_all
  | case3 before more _ meant rest' he hlt ih => have := ih h; simp only [List.length_cons]; omega
  | case4 => simp at h
  | case5 => simp [fail] at h
  | case6 before c more _ _ _ ih => have := ih h; simp only [List.length_cons]; omega

end Archimate.Json
