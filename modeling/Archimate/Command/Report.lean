import Archimate.Json.Model
import Archimate.Json.Print

namespace Archimate.Command

def rule : Text := List.replicate 70 (.char '=')

def blanks (n : Nat) : Text := List.replicate n (.char ' ')

def padTo (width : Nat) (t : Text) : Text := t ++ blanks (width - t.length)

/-- A name in a column with its count behind it. -/
def countLine (indent width : Nat) (entry : String × Nat) : Text :=
  blanks indent ++ padTo width entry.1 ++ " " ++ toString entry.2

def findingLine (f : Finding) : Text :=
  "  [" ++ f.code ++ "] " ++ f.message

def sortedByName (counts : Dictionary String Nat) : List (String × Nat) :=
  counts.entries.mergeSort fun a b => a.1 ≤ b.1

def summaryLines (s : Summary) : List Text :=
  [rule, "ARCHITECTURE: " ++ s.name ++ " (" ++ s.uid ++ ") v" ++ s.version, rule,
   "Elements: " ++ toString s.totalElements ++ "  Relationships: "
     ++ toString s.totalRelationships]
  ++ s.elementsByLayer.entries.map (countLine 2 12)
  ++ (sortedByName s.elementsByType).map (countLine 4 22)

def verdictLines (v : Verdict) : List Text :=
  [[], rule, "RELATIONSHIP VALIDATION: " ++ if v.isValid then "VALID" else "INVALID"]
  ++ v.categories.entries.map (countLine 2 12)
  ++ v.errors.map findingLine
  ++ [rule]

def unlines (lines : List Text) : Text := lines.flatMap fun line => line ++ "\n"

def textReport (s : Summary) (v : Verdict) (elapsed : Text) : Text :=
  unlines (summaryLines s ++ verdictLines v ++ ["Loaded in " ++ elapsed ++ "ms", []])

def jsonReport (s : Summary) (v : Verdict) : Text :=
  (Json.named [("architecture", s.toJson), ("validation", v.toJson)]).print ++ "\n"

end Archimate.Command
