import Archimate.Relationship

namespace Archimate

structure RelationshipGuide where
  name : String
  description : String
  semantics : String

namespace RelationshipType

def guide : RelationshipType → RelationshipGuide
  | .composition =>
    { name := "Composition"
      description := "Represents a whole-part relationship with existential dependency"
      semantics := "The source element is composed of the target element. " ++
        "If the source is deleted, the target is also deleted." }
  | .aggregation =>
    { name := "Aggregation"
      description := "Represents a collection-member relationship"
      semantics := "The source element aggregates the target element. " ++
        "The target can exist independently." }
  | .realization =>
    { name := "Realization"
      description := "Shows implementation or fulfillment"
      semantics := "The source element realizes or implements the target element." }
  | .assignment =>
    { name := "Assignment"
      description := "Allocation of responsibility or performance of behavior"
      semantics := "The source element is assigned to perform the target element." }
  | .association =>
    { name := "Association"
      description := "Generic unspecified relationship"
      semantics := "The source and target elements are associated in some way." }
  | .triggering =>
    { name := "Triggering"
      description := "Temporal or causal dependency"
      semantics := "The source element triggers the target element in time or causally." }
  | .flow =>
    { name := "Flow"
      description := "Transfer of information, resources, or value"
      semantics := "Something flows from the source element to the target element." }
  | .serving =>
    { name := "Serving"
      description := "Provides functionality to another element"
      semantics := "The source element serves the target element by providing functionality." }
  | .access =>
    { name := "Access"
      description := "Behavioral elements accessing passive elements"
      semantics := "The source element accesses the target element." }
  | .influence =>
    { name := "Influence"
      description := "One element affects another"
      semantics := "The source element influences the target element." }
  | .specialization =>
    { name := "Specialization"
      description := "Generalization/specialization relationship"
      semantics := "The source element is a specialization of the target element." }

def isDirectional (t : RelationshipType) : Bool := t != .association

end RelationshipType

end Archimate
