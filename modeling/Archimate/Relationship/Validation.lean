import Archimate.Digraph.Search
import Archimate.Finding
import Archimate.Relationship

namespace Archimate

namespace Relationship

def incompleteFinding (rule : Rule) (field : String) (r : Relationship) : Finding where
  rule := rule
  message := rule.description
  field := some field
  element := some r.uid

def ownFindings (r : Relationship) : List Finding :=
  if r.isComplete then []
  else match r.type with
    | .flow => [incompleteFinding .flowTypeMissing "flowType" r]
    | .access => [incompleteFinding .accessTypeMissing "accessType" r]
    | _ => []

/-- The text of the two ends, under which relationships are compared with each other. -/
def pairText (r : Relationship) : Text := r.source ++ "-" ++ r.target

end Relationship

namespace Relationships

def pairRule : Rule → String
  | .compositionAggregation =>
    "COMPOSITION and AGGREGATION relationships cannot exist between the same elements: "
  | _ => "Multiple structural relationships between same elements may indicate modeling issue: "

def pairFinding (rule : Rule) (pair : Text) : Finding where
  rule := rule
  message := pairRule rule ++ pair
  field := some "relationshipType"
  element := none

/-- The relationships of each pair of ends, in the order of first occurrence. -/
def groups (rs : List Relationship) : Dictionary Text (List Relationship) :=
  rs.foldl (fun groups r => groups.alter r.pairText fun group => group.getD [] ++ [r]) .empty

def hasType (type : RelationshipType) (group : List Relationship) : Bool :=
  group.any fun r => r.type == type

def structuralTypes (group : List Relationship) : List RelationshipType :=
  (Choice.members : List RelationshipType).filter fun t => t.isStructural && hasType t group

def groupFindings (pair : Text) (group : List Relationship) : List Finding :=
  if group.length < 2 then []
  else
    (if hasType .composition group && hasType .aggregation group then
      [pairFinding .compositionAggregation pair] else [])
    ++ (if 1 < (structuralTypes group).length then [pairFinding .multipleStructural pair] else [])

def pairFindings (rs : List Relationship) : List Finding :=
  (groups rs).entries.flatMap fun entry => groupFindings entry.1 entry.2

def structuralEdges (rs : List Relationship) : List (Text × Text) :=
  (rs.filter fun r => r.type.isStructural).map fun r => (r.source, r.target)

def structuralGraph (rs : List Relationship) : Digraph :=
  .ofEdges (structuralEdges rs)

def cycleFinding (node : Text) : Finding where
  rule := .circularDependency
  message := "Circular dependency detected in structural relationships involving: " ++ node
  field := some "source"
  element := some node

def cycleFindings (rs : List Relationship) : List Finding :=
  (structuralGraph rs).cycleRoots.map cycleFinding

def categoryCounts (rs : List Relationship) : Dictionary String Nat :=
  .ofList ((Choice.members : List RelationshipCategory).map fun category =>
    (Choice.value category, rs.countP fun r => r.category == category))

def findings (rs : List Relationship) : List Finding :=
  rs.flatMap Relationship.ownFindings ++ pairFindings rs ++ cycleFindings rs

def validate (rs : List Relationship) : Verdict where
  errors := findings rs
  warnings := []
  categories := categoryCounts rs

end Relationships

/-- One relationship alone has no categories to count. -/
def Relationship.validate (r : Relationship) : Verdict where
  errors := r.ownFindings
  warnings := []
  categories := .empty

end Archimate
