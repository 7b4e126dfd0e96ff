import Archimate.Literal
import Archimate.Text.Blank
import Archimate.Text.LetterCase
import Archimate.Text.Split

namespace Archimate

class Choice (α : Type) where
  members : List α
  label : α → String

namespace Choice

variable {α : Type} [Choice α]

def value (a : α) : String := (label a).toLower

def joinWords (c : CodePoint) : CodePoint :=
  if c = ' ' ∨ c = '-' then '_' else c

/-- The spelling that is compared with the labels. -/
def canonical (t : Text) : Text :=
  Text.afterLast (.char '.') (Text.upper ((Text.trim t).map joinWords))

def ofLabel? (t : Text) : Option α :=
  members.find? fun a => label a == t

def ofText? (t : Text) : Option α :=
  ofLabel? (canonical t)

/-- The member that a field value chooses; only a text can choose one. -/
def ofLiteral? (literal : Option Literal) : Option α :=
  (literal.bind Literal.text?).bind ofText?

end Choice

end Archimate
