import Archimate.Text.CodePoint

namespace Archimate

inductive ByteOrder where
  | highFirst
  | lowFirst
deriving DecidableEq, Repr

namespace Text

def unitValue (order : ByteOrder) (bytes : List UInt8) : Nat :=
  let high := match order with
    | .highFirst => bytes
    | .lowFirst => bytes.reverse
  high.foldl (fun n b => 256 * n + b.toNat) 0

/-- Units of two bytes; none when a byte is left over. -/
def units16? (order : ByteOrder) : List UInt8 → Option (List Nat)
  | [] => some []
  | a :: b :: rest => (units16? order rest).map (unitValue order [a, b] :: ·)
  | _ => none

/-- Units of four bytes; none when bytes are left over. -/
def units32? (order : ByteOrder) : List UInt8 → Option (List Nat)
  | [] => some []
  | a :: b :: c :: d :: rest => (units32? order rest).map (unitValue order [a, b, c, d] :: ·)
  | _ => none

def ofUnits16 : List Nat → Text
  | [] => []
  | [unit] => [.ofCode unit]
  | first :: second :: rest =>
    match CodePoint.pair? first second with
    | some c => c :: ofUnits16 rest
    | none => .ofCode first :: ofUnits16 (second :: rest)

/-- The code point of a unit; units beyond the last code point have none. -/
def codePoint? (unit : Nat) : Option CodePoint :=
  if unit < 0x110000 then some (.ofCode unit) else none

def ofUnits32? (units : List Nat) : Option Text := units.mapM codePoint?

end Text

inductive Encoding where
  | utf8
  | utf16 (order : ByteOrder)
  | utf32 (order : ByteOrder)
deriving DecidableEq, Repr

namespace Encoding

/-- Two bytes are one wide character, or two narrow ones; three are never wide. -/
def ofBytes : List UInt8 → Encoding
  | [a, b] =>
    if a = 0 then .utf16 .highFirst
    else if b = 0 then .utf16 .lowFirst
    else .utf8
  | a :: b :: c :: d :: _ =>
    if a = 0 then
      if b = 0 then .utf32 .highFirst else .utf16 .highFirst
    else if b = 0 then
      if c = 0 ∧ d = 0 then .utf32 .lowFirst else .utf16 .lowFirst
    else .utf8
  | _ => .utf8

/-- The text that the bytes write; none when they write none. -/
def read? : Encoding → List UInt8 → Option Text
  | .utf8, bytes => (String.fromUTF8? ⟨bytes.toArray⟩).map Text.ofString
  | .utf16 order, bytes => (Text.units16? order bytes).map Text.ofUnits16
  | .utf32 order, bytes => (Text.units32? order bytes).bind Text.ofUnits32?

end Encoding

def Text.ofBytes? (bytes : List UInt8) : Option Text := (Encoding.ofBytes bytes).read? bytes

end Archimate
