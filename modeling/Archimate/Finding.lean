import Archimate.Dictionary
import Archimate.Text.CodePoint

namespace Archimate

inductive Rule where
  | flowTypeMissing
  | accessTypeMissing
  | compositionAggregation
  | multipleStructural
  | circularDependency
  | blankName
  | blankVersion
  | duplicateUid
deriving DecidableEq, Inhabited, Repr

namespace Rule

def all : List Rule :=
  [.flowTypeMissing, .accessTypeMissing, .compositionAggregation, .multipleStructural,
   .circularDependency, .blankName, .blankVersion, .duplicateUid]

def code : Rule → String
  | .flowTypeMissing => "REL_001"
  | .accessTypeMissing => "REL_002"
  | .compositionAggregation => "REL_003"
  | .multipleStructural => "REL_004"
  | .circularDependency => "REL_005"
  | .blankName => "ARCH_001"
  | .blankVersion => "ARCH_002"
  | .duplicateUid => "ARCH_003"

def description : Rule → String
  | .flowTypeMissing => "FLOW relationship requires a flowType"
  | .accessTypeMissing => "ACCESS relationship requires an accessType"
  | .compositionAggregation => "COMPOSITION and AGGREGATION between the same elements"
  | .multipleStructural => "Multiple structural relationships between the same elements"
  | .circularDependency => "Circular dependency in structural relationships"
  | .blankName => "Architecture name cannot be blank"
  | .blankVersion => "Architecture version cannot be blank"
  | .duplicateUid => "Element uid used more than once"

/-- The description of the rule with the code; an unknown code describes itself. -/
def describeCode (code : Text) : Text :=
  match all.find? fun rule => code == rule.code with
  | some rule => rule.description
  | none => code

end Rule

structure Finding where
  rule : Rule
  message : Text
  field : Option String
  element : Option Text
deriving DecidableEq

def Finding.code (f : Finding) : String := f.rule.code

/-- The outcome of a validation run, with the number of relationships in each category. -/
structure Verdict where
  errors : List Finding
  warnings : List Finding
  categories : Dictionary String Nat

namespace Verdict

def isValid (v : Verdict) : Bool := v.errors.isEmpty

def errorCodes (v : Verdict) : List String := v.errors.map Finding.code

end Verdict

end Archimate
