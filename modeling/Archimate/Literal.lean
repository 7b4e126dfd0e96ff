import Archimate.Dictionary
import Archimate.Number.Shortest
import Archimate.Text.Quoted

namespace Archimate

inductive Atom where
  | null
  | flag (value : Bool)
  | whole (value : Int)
  | text (value : Text)
deriving DecidableEq, Inhabited

/-- The value of one field. `absent` is a field that is written without a value. -/
inductive Literal where
  | absent
  | flag (value : Bool)
  | whole (value : Int)
  | decimal (value : Binary64)
  | text (value : Text)
  | map (entries : Dictionary Text Atom)
deriving DecidableEq, Inhabited

def flagText (value : Bool) : String :=
  if value then "True" else "False"

/-- The value as it stands alone: a text without quotes. -/
def Atom.plain : Atom → Text
  | .null => "None"
  | .flag value => flagText value
  | .whole value => toString value
  | .text value => value

/-- The value as it stands inside a map: a text in quotes. -/
def Atom.quoted : Atom → Text
  | .text value => Text.quoted value
  | other => other.plain

def entryText (entry : Text × Atom) : Text :=
  Text.quoted entry.1 ++ ": " ++ entry.2.quoted

def mapText (entries : Dictionary Text Atom) : Text :=
  "\x7b" ++ (", " : Text).intercalate (entries.entries.map entryText) ++ "\x7d"

namespace Literal

def written : Literal → Text
  | .absent => "None"
  | .flag value => flagText value
  | .whole value => toString value
  | .decimal value => value.toText
  | .text value => value
  | .map entries => mapText entries

def text? : Literal → Option Text
  | .text value => some value
  | _ => none

def whole? : Literal → Option Int
  | .whole value => some value
  | _ => none

def present? : Literal → Option Literal
  | .absent => none
  | value => some value

end Literal

end Archimate
