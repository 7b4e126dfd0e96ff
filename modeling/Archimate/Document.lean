import Archimate.Document.Body
import Archimate.Document.Declaration
import Archimate.Record

namespace Archimate

structure Document where
  moduleName : Option Text
  source : Text
  objects : List Record
deriving DecidableEq, Inhabited

def Declaration.record (d : Declaration) : Except LiteralError Record :=
  (Body.parse d.body).map fun fields => ⟨d.name, d.type, fields⟩

/-- The records of declarations in order; the first that cannot be read decides the error. -/
def recordsOf : List Declaration → Except LiteralError (List Record)
  | [] => .ok []
  | d :: ds => do
    let r ← d.record
    let rs ← recordsOf ds
    .ok (r :: rs)

namespace Document

def unknownSource : Text := "unknown"

def relationships (d : Document) : List Record :=
  d.objects.filter Record.isRelationship

/-- Local declarations first, then all declarations. -/
def declarations (text : Text) : List Declaration :=
  Declaration.localForm.scan text ++ Declaration.form.scan text

def parse (text source : Text) : Except LiteralError Document :=
  (recordsOf (declarations text)).map fun objects =>
    { moduleName := Declaration.headerForm.first? text
      source := source
      objects := objects }

end Document

end Archimate
