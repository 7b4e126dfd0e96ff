import Archimate.Number.Binary64
import Archimate.Text.CodePoint

namespace Archimate

inductive Json where
  | null
  | bool (value : Bool)
  | whole (value : Int)
  | decimal (value : Binary64)
  | string (value : Text)
  | array (items : List Json)
  | object (members : List (Text × Json))

namespace Json

def ofOption (s : Option Text) : Json :=
  match s with
  | some s => .string s
  | none => .null

def strings (items : List Text) : Json :=
  .array (items.map .string)

/-- The object of named values, in the same order. -/
def named (members : List (String × Json)) : Json :=
  .object (members.map fun member => (Text.ofString member.1, member.2))

def internalMark : Text := "_sa"

def isInternal (name : Text) : Bool := internalMark.isPrefixOf name

mutual

/-- The value without its internal members. -/
def shown : Json → Json
  | .array items => .array (shownItems items)
  | .object members => .object (shownMembers members)
  | value => value

def shownItems : List Json → List Json
  | [] => []
  | item :: rest => shown item :: shownItems rest

def shownMembers : List (Text × Json) → List (Text × Json)
  | [] => []
  | (name, value) :: rest =>
    if isInternal name then shownMembers rest else (name, shown value) :: shownMembers rest

end

/-- The most containers around each other that are sent. -/
def depthSent : Nat := 966

mutual

/-- Whether the value can be sent where so many containers may still be opened. -/
def fits (room : Nat) : Json → Bool
  | .decimal value => value.isFinite
  | .string value => value.isWritable
  | .array items => 0 < room && itemsFit (room - 1) items
  | .object members => 0 < room && membersFit (room - 1) members
  | _ => true

def itemsFit (room : Nat) : List Json → Bool
  | [] => true
  | item :: rest => fits room item && itemsFit room rest

def membersFit (room : Nat) : List (Text × Json) → Bool
  | [] => true
  | (name, value) :: rest => name.isWritable && fits room value && membersFit room rest

end

def canBeSent (value : Json) : Bool := value.fits depthSent

end Json

end Archimate
