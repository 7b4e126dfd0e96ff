import Archimate.Dictionary
import Archimate.Relationship
import Archimate.Relationship.Validation

namespace Archimate

structure BusinessLayer where
  domains : List (Element .businessDomain)
  capabilities : List (Element .businessCapability)
  actors : List (Element .businessActor)
  processes : List (Element .businessProcess)
  services : List (Element .businessService)
deriving DecidableEq

structure ApplicationLayer where
  applications : List (Element .application)
  components : List (Element .applicationComponent)
  services : List (Element .applicationService)
  interfaces : List (Element .applicationInterface)
deriving DecidableEq

structure TechnologyLayer where
  nodes : List (Element .technologyNode)
  services : List (Element .technologyService)
  artifacts : List (Element .artifact)
  interfaces : List (Element .technologyInterface)
  systemSoftware : List (Element .systemSoftware)
deriving DecidableEq

/-- What an architecture was built from. -/
inductive Provenance where
  | document (source : Text)
  | merge (sources : List Text) (objects relationships : Nat)
deriving DecidableEq

structure Architecture where
  uid : Text
  name : Text
  description : Text
  version : Text
  business : BusinessLayer
  application : ApplicationLayer
  technology : TechnologyLayer
  relationships : List Relationship
  provenance : Provenance
deriving DecidableEq

structure Summary where
  uid : Text
  name : Text
  version : Text
  totalElements : Nat
  totalRelationships : Nat
  elementsByLayer : Dictionary String Nat
  elementsByType : Dictionary String Nat

namespace Architecture

def container (a : Architecture) : (kind : ElementKind) → List (Element kind)
  | .businessDomain => a.business.domains
  | .businessCapability => a.business.capabilities
  | .businessActor => a.business.actors
  | .businessProcess => a.business.processes
  | .businessService => a.business.services
  | .application => a.application.applications
  | .applicationComponent => a.application.components
  | .applicationService => a.application.services
  | .applicationInterface => a.application.interfaces
  | .technologyNode => a.technology.nodes
  | .technologyService => a.technology.services
  | .artifact => a.technology.artifacts
  | .technologyInterface => a.technology.interfaces
  | .systemSoftware => a.technology.systemSoftware

def elements (a : Architecture) : List AnyElement :=
  ElementKind.all.flatMap fun kind => (a.container kind).map (⟨kind, ·⟩)

def elementCount (a : Architecture) : Nat := a.elements.length

def find? (a : Architecture) (uid : Text) : Option AnyElement :=
  a.elements.find? fun e => e.uid == uid

def involving (a : Architecture) (uid : Text) : List Relationship :=
  a.relationships.filter (·.involves uid)

def summary (a : Architecture) : Summary :=
  let byLayer := tally (a.elements.map fun e => e.kind.layer.title)
  { uid := a.uid
    name := a.name
    version := a.version
    totalElements := total byLayer
    totalRelationships := a.relationships.length
    elementsByLayer := byLayer
    elementsByType := tally (a.elements.map fun e => e.kind.typeName) }

def blankFinding (rule : Rule) (field : String) (value : Text) : List Finding :=
  if Text.allBlank value then
    [{ rule := rule, message := rule.description, field := some field, element := none }]
  else []

def duplicateFinding (uid : Text) (count : Nat) : Finding where
  rule := .duplicateUid
  message := "Element uid '" ++ uid ++ "' is used by " ++ toString count ++ " elements"
  field := some "uid"
  element := some uid

/-- One finding for each uid of several elements, in the order of first use. -/
def duplicateFindings (a : Architecture) : List Finding :=
  (tally (a.elements.map AnyElement.uid)).entries.filterMap fun (uid, count) =>
    if 1 < count then some (duplicateFinding uid count) else none

def errors (a : Architecture) : List Finding :=
  blankFinding .blankName "name" a.name ++ blankFinding .blankVersion "version" a.version

def validate (a : Architecture) : Verdict where
  errors := a.errors
  warnings := a.duplicateFindings ++ Relationships.findings a.relationships
  categories := Relationships.categoryCounts a.relationships

end Architecture

end Archimate
