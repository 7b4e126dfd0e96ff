import Archimate.Text.CodePoint
import Archimate.Text.Digit

namespace Archimate.Text

def utf8 (cs : List Char) : List UInt8 :=
  cs.flatMap String.utf8EncodeChar

abbrev ByteRange := UInt8 × UInt8

def continuation : ByteRange := (0x80, 0xBF)

/-- The bits that a first byte carries, and the ranges of the bytes that must follow it. -/
def lead? (b : UInt8) : Option (Nat × List ByteRange) :=
  if b < 0x80 then some (b.toNat, [])
  else if b < 0xC2 then none
  else if b < 0xE0 then some (b.toNat - 0xC0, [continuation])
  else if b = 0xE0 then some (0x0, [(0xA0, 0xBF), continuation])
  else if b = 0xED then some (0xD, [(0x80, 0x9F), continuation])
  else if b < 0xF0 then some (b.toNat - 0xE0, [continuation, continuation])
  else if b = 0xF0 then some (0, [(0x90, 0xBF), continuation, continuation])
  else if b < 0xF4 then some (b.toNat - 0xF0, [continuation, continuation, continuation])
  else if b = 0xF4 then some (4, [(0x80, 0x8F), continuation, continuation])
  else none

/-- Reads continuation bytes as far as they fit: the code if all of them do, and the other bytes. -/
def readContinuation (code : Nat) : List ByteRange → List UInt8 → Option Nat × List UInt8
  | [], bytes => (some code, bytes)
  | _ :: _, [] => (none, [])
  | (low, high) :: ranges, b :: bytes =>
    if low ≤ b ∧ b ≤ high then readContinuation (64 * code + (b.toNat - 0x80)) ranges bytes
    else (none, b :: bytes)

theorem length_readContinuation (code : Nat) (ranges : List ByteRange) (bytes : List UInt8) :
    (readContinuation code ranges bytes).2.length ≤ bytes.length := by
  fun_induction readContinuation code ranges bytes with
  | case1 => simp
  | case2 => simp
  | case3 _ _ _ _ _ _ _ ih => simp only [List.length_cons]; omega
  | case4 => simp

def character? : List UInt8 → Option (Char × List UInt8)
  | [] => none
  | b :: bytes =>
    (lead? b).bind fun (code, ranges) =>
      match readContinuation code ranges bytes with
      | (some code, rest) => some (Char.ofNat code, rest)
      | (none, _) => none

theorem length_of_character? {b : UInt8} {bytes rest : List UInt8} {c : Char}
    (h : character? (b :: bytes) = some (c, rest)) : rest.length < (b :: bytes).length := by
  simp only [character?, Option.bind_eq_some_iff] at h
  obtain ⟨⟨code, ranges⟩, -, h⟩ := h
  have hl := length_readContinuation code ranges bytes
  split at h
  · next hr =>
    rw [hr] at hl
    simp only [Option.some.injEq, Prod.mk.injEq] at h
    obtain ⟨-, rfl⟩ := h
    simp only [List.length_cons] at *
    omega
  · simp at h

def replacement : Char := '\ufffd'

/-- Reads bytes as far as they write characters; each longest piece that could have begun one
becomes a replacement character. -/
def ofUtf8 : List UInt8 → List Char
  | [] => []
  | b :: bytes =>
    match lead? b with
    | none => replacement :: ofUtf8 bytes
    | some (code, ranges) =>
      let read := readContinuation code ranges bytes
      have := length_readContinuation code ranges bytes
      (read.1.map Char.ofNat).getD replacement :: ofUtf8 read.2
termination_by bytes => bytes.length
decreasing_by all_goals (simp only [List.length_cons]; omega)

/-- What is said of bytes that write no character, and of the place where they stand. -/
def misread (position : Nat) (bytes : List UInt8) (reason : String) : Text :=
  let place := match bytes with
    | [b] =>
      "byte 0x" ++ String.ofList (hexDigits 2 b.toNat) ++ " in position " ++ toString position
    | _ => "bytes in position " ++ toString position ++ "-"
      ++ toString (position + bytes.length - 1)
  "'utf-8' codec can't decode " ++ place ++ ": " ++ reason

/-- What is wrong with bytes that do not write a text; the bytes in front of them do. -/
def utf8Fault (position : Nat) : List UInt8 → Text
  | [] => []
  | b :: bytes =>
    match lead? b with
    | none => misread position [b] "invalid start byte"
    | some (code, ranges) =>
      let read := readContinuation code ranges bytes
      have := length_readContinuation code ranges bytes
      if read.1.isSome then utf8Fault (position + 1 + (bytes.length - read.2.length)) read.2
      else if read.2 = [] then misread position (b :: bytes) "unexpected end of data"
      else misread position (b :: bytes.take (bytes.length - read.2.length))
        "invalid continuation byte"
termination_by bytes => bytes.length
decreasing_by all_goals (simp only [List.length_cons]; omega)

def unifyNewlines : Text → Text
  | [] => []
  | .char '\r' :: .char '\n' :: rest => .char '\n' :: unifyNewlines rest
  | .char '\r' :: rest => .char '\n' :: unifyNewlines rest
  | c :: rest => c :: unifyNewlines rest

end Archimate.Text
