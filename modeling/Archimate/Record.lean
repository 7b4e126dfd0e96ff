import Archimate.Literal.Parse

namespace Archimate

structure Record where
  name : Text
  type : Text
  fields : Dictionary Text Literal
deriving DecidableEq, Inhabited

namespace Record

/-- The declared type of relationship records. -/
def relationshipType : Text := "Relationship"

def value? (r : Record) (key : Text) : Option Literal :=
  (r.fields.find? key).bind Literal.present?

def text? (r : Record) (key : Text) : Option Text :=
  (r.value? key).bind Literal.text?

def whole? (r : Record) (key : Text) : Option Int :=
  (r.value? key).bind Literal.whole?

/-- Keys and written values of a map field, without the keys that have no value. -/
def properties (r : Record) (key : Text) : Dictionary Text Text :=
  match r.value? key with
  | some (.map entries) =>
    .ofList ((entries.entries.filter (·.2 != .null)).map fun entry => (entry.1, entry.2.plain))
  | _ => .empty

/-- The non-empty parts of a text between commas, without the blanks around them. -/
def commaItems (t : Text) : List Text :=
  ((Text.splitOn (.char ',') t).map Text.trim).filter (!·.isEmpty)

/-- The items of a list field, written as a `Listing(…)` or as a text with commas. -/
def items (r : Record) (key : Text) : List Text :=
  match r.text? key with
  | none => []
  | some text =>
    if Literal.listingOpening.isPrefixOf text then Literal.listingItems text
    else commaItems text

def isRelationship (r : Record) : Bool :=
  r.type == relationshipType

def describe (r : Record) : Text :=
  r.type ++ ": " ++ r.name ++ " (" ++ toString r.fields.size ++ " fields)"

end Record

end Archimate
