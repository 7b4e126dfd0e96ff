import Archimate.Element

namespace Archimate

inductive RelationshipType where
  | association | assignment | realization | aggregation | composition
  | triggering | flow
  | serving | access | influence
  | specialization
deriving DecidableEq, Inhabited, Repr

instance : Choice RelationshipType where
  members := [.association, .assignment, .realization, .aggregation, .composition, .triggering,
    .flow, .serving, .access, .influence, .specialization]
  label
    | .association => "ASSOCIATION"
    | .assignment => "ASSIGNMENT"
    | .realization => "REALIZATION"
    | .aggregation => "AGGREGATION"
    | .composition => "COMPOSITION"
    | .triggering => "TRIGGERING"
    | .flow => "FLOW"
    | .serving => "SERVING"
    | .access => "ACCESS"
    | .influence => "INFLUENCE"
    | .specialization => "SPECIALIZATION"

inductive RelationshipCategory where
  | structural | dynamic | dependency | other
deriving DecidableEq, Inhabited, Repr

instance : Choice RelationshipCategory where
  members := [.structural, .dynamic, .dependency, .other]
  label
    | .structural => "STRUCTURAL"
    | .dynamic => "DYNAMIC"
    | .dependency => "DEPENDENCY"
    | .other => "OTHER"

inductive FlowType where
  | information | value | goods | resources | data | control | event | signal | material
deriving DecidableEq, Inhabited, Repr

instance : Choice FlowType where
  members := [.information, .value, .goods, .resources, .data, .control, .event, .signal,
    .material]
  label
    | .information => "INFORMATION"
    | .value => "VALUE"
    | .goods => "GOODS"
    | .resources => "RESOURCES"
    | .data => "DATA"
    | .control => "CONTROL"
    | .event => "EVENT"
    | .signal => "SIGNAL"
    | .material => "MATERIAL"

inductive AccessType where
  | read | write | readWrite | access
deriving DecidableEq, Inhabited, Repr

instance : Choice AccessType where
  members := [.read, .write, .readWrite, .access]
  label
    | .read => "READ"
    | .write => "WRITE"
    | .readWrite => "READ_WRITE"
    | .access => "ACCESS"

namespace RelationshipType

def category : RelationshipType → RelationshipCategory
  | .association | .assignment | .realization | .aggregation | .composition => .structural
  | .triggering | .flow => .dynamic
  | .serving | .access | .influence => .dependency
  | .specialization => .other

def strength : RelationshipType → Nat
  | .association => 1
  | .assignment => 2
  | .realization => 3
  | .aggregation => 4
  | .composition => 5
  | _ => 0

def isStructural (t : RelationshipType) : Bool := t.category == .structural

end RelationshipType

structure Relationship where
  uid : Text
  type : RelationshipType
  source : Text
  target : Text
  description : Option Text := none
  properties : Dictionary Text Text := .empty
  flow : Option FlowType := none
  access : Option AccessType := none
deriving DecidableEq

namespace Relationship

def category (r : Relationship) : RelationshipCategory := r.type.category

def strength (r : Relationship) : Nat := r.type.strength

/-- A flow needs a flow type and an access needs an access type. -/
def isComplete (r : Relationship) : Bool :=
  match r.type with
  | .flow => r.flow.isSome
  | .access => r.access.isSome
  | _ => true

def involves (r : Relationship) (uid : Text) : Bool :=
  r.source == uid || r.target == uid

def describe (r : Relationship) : Text :=
  Choice.label r.type ++ ": " ++ r.source ++ " -> " ++ r.target

/-- An end is any value in its written form; a missing one has a fixed name. -/
def referenceOf (r : Record) (key : Text) : Text :=
  ((r.value? key).map Literal.written).getD conventions.unknownReference

/-- The declared type: `relationshipType`, or `type` when that is missing. -/
def typeField (r : Record) : Option Literal :=
  (r.value? "relationshipType").or (r.value? "type")

def ofRecord? (r : Record) : Option Relationship :=
  (r.text? "uid").map fun uid =>
    { uid := uid
      type := (Choice.ofLiteral? (typeField r)).getD .association
      source := referenceOf r "source"
      target := referenceOf r "target"
      description := r.text? "description"
      properties := r.properties "properties"
      flow := Choice.ofLiteral? (r.value? "flowType")
      access := Choice.ofLiteral? (r.value? "accessType") }

def attributes (r : Relationship) : List (String × Attribute) :=
  [("uid", .text (some r.uid)), ("relationship_type", .member r.type),
   ("source", .text (some r.source)), ("target", .text (some r.target)),
   ("description", .text r.description), ("properties", .texted r.properties),
   ("flow_type", .choice (r.flow.map Choice.label)),
   ("access_type", .choice (r.access.map Choice.label))]

end Relationship

end Archimate
