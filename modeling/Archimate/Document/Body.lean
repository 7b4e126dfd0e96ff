import Archimate.Document.Form
import Archimate.Literal.Parse
import Archimate.Text.Word

namespace Archimate.Body

def commentMark : Text := "//"

/-- A word, an equals sign and something after it; blanks around the sign do not count. -/
def field? (t : Text) : Option (Text × Text) :=
  match Text.spanWord t with
  | ([], _) => none
  | (key, rest) =>
    match Text.trimStart rest with
    | .char '=' :: rest =>
      match Text.trimStart rest with
      | [] => none
      | value => some (key, value)
    | _ => none

def firstField? : Text → Option (Text × Text)
  | [] => none
  | c :: t => (field? (c :: t)).or (firstField? t)

def withoutComma (t : Text) : Text :=
  if t.getLast? = some (.char ',') then t.dropLast else t

/-- Key and literal of one line, with the blanks around and one comma behind the literal removed. -/
def lineField? (line : Text) : Option (Text × Text) :=
  let line := Text.trim line
  if line.isEmpty || commentMark.isPrefixOf line then none
  else (firstField? line).map fun (key, value) => (key, withoutComma (Text.trim value))

def lineEntry (line : Text) : Except LiteralError (List (Text × Literal)) :=
  match lineField? line with
  | none => .ok []
  | some (key, value) => (Literal.parse value).map fun literal => [(key, literal)]

def entries : List Text → Except LiteralError (List (Text × Literal))
  | [] => .ok []
  | line :: lines => do
    let entry ← lineEntry line
    let rest ← entries lines
    .ok (entry ++ rest)

def parse (body : Text) : Except LiteralError (Dictionary Text Literal) :=
  (entries (Text.splitLines body)).map Dictionary.ofList

theorem entries_append (as bs : List Text) :
    entries (as ++ bs) = (do let xs ← entries as; let ys ← entries bs; .ok (xs ++ ys)) := by
  induction as with
  | nil =>
    simp only [List.nil_append, entries, bind, Except.bind]
    cases entries bs <;> simp
  | cons line lines ih =>
    simp only [List.cons_append, entries, ih, bind, Except.bind]
    cases lineEntry line with
    | error e => rfl
    | ok xs =>
      cases entries lines with
      | error e => rfl
      | ok ys =>
        cases entries bs with
        | error e => rfl
        | ok zs => simp

end Archimate.Body
