import Archimate.Json
import Archimate.Number.Shortest
import Archimate.Text.Digit

namespace Archimate.Json

def unitEscape (code : Nat) : List Char :=
  '\\' :: 'u' :: Text.hexDigits 4 code

/-- A code point beyond the first plane is written as a surrogate pair. -/
def unicodeEscape (code : Nat) : List Char :=
  if code < 0x10000 then unitEscape code
  else
    let offset := code - 0x10000
    unitEscape (0xD800 + offset / 0x400) ++ unitEscape (0xDC00 + offset % 0x400)

def escapeChar (c : Char) : List Char :=
  if c = '"' then ['\\', '"']
  else if c = '\\' then ['\\', '\\']
  else if c = '\n' then ['\\', 'n']
  else if c = '\r' then ['\\', 'r']
  else if c = '\t' then ['\\', 't']
  else if c = '\x08' then ['\\', 'b']
  else if c = '\x0c' then ['\\', 'f']
  else if ' ' ≤ c ∧ c ≤ '~' then [c]
  else unicodeEscape c.toNat

def escape : CodePoint → List Char
  | .char c => escapeChar c
  | half => unicodeEscape half.code

def printString (t : Text) : String :=
  "\"" ++ String.ofList (t.flatMap escape) ++ "\""

def printDecimal : Binary64 → String
  | .undefined => "NaN"
  | .infinite negative => if negative then "-Infinity" else "Infinity"
  | finite => finite.toText

def newLine (depth : Nat) : String :=
  "\n" ++ String.ofList (List.replicate (2 * depth) ' ')

def enclose (opening closing : String) (depth : Nat) (items : List String) : String :=
  if items.isEmpty then opening ++ closing
  else
    let separator := newLine (depth + 1)
    opening ++ separator ++ ("," ++ separator).intercalate items ++ newLine depth ++ closing

mutual

def printAt (depth : Nat) : Json → String
  | .null => "null"
  | .bool value => if value then "true" else "false"
  | .whole value => toString value
  | .decimal value => printDecimal value
  | .string value => printString value
  | .array items => enclose "[" "]" depth (printItems (depth + 1) items)
  | .object members => enclose "\x7b" "\x7d" depth (printMembers (depth + 1) members)

def printItems (depth : Nat) : List Json → List String
  | [] => []
  | item :: rest => printAt depth item :: printItems depth rest

def printMembers (depth : Nat) : List (Text × Json) → List String
  | [] => []
  | (name, value) :: rest =>
    (printString name ++ ": " ++ printAt depth value) :: printMembers depth rest

end

def print (value : Json) : String := printAt 0 value

end Archimate.Json
