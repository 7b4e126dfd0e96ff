import Archimate.Architecture
import Archimate.Document

namespace Archimate

def elementsOf (kind : ElementKind) (objects : List Record) : List (Element kind) :=
  objects.filterMap (Element.ofRecord? kind)

def relationshipsOf (records : List Record) : List Relationship :=
  records.filterMap Relationship.ofRecord?

def BusinessLayer.ofRecords (objects : List Record) : BusinessLayer where
  domains := elementsOf .businessDomain objects
  capabilities := elementsOf .businessCapability objects
  actors := elementsOf .businessActor objects
  processes := elementsOf .businessProcess objects
  services := elementsOf .businessService objects

def ApplicationLayer.ofRecords (objects : List Record) : ApplicationLayer where
  applications := elementsOf .application objects
  components := elementsOf .applicationComponent objects
  services := elementsOf .applicationService objects
  interfaces := elementsOf .applicationInterface objects

def TechnologyLayer.ofRecords (objects : List Record) : TechnologyLayer where
  nodes := elementsOf .technologyNode objects
  services := elementsOf .technologyService objects
  artifacts := elementsOf .artifact objects
  interfaces := elementsOf .technologyInterface objects
  systemSoftware := elementsOf .systemSoftware objects

namespace Architecture

def ofDocument (d : Document) : Architecture :=
  let moduleName := d.moduleName.getD conventions.unknownModule
  { uid := "arch-" ++ moduleName
    name := moduleName ++ " Architecture"
    description := "Architecture loaded from PKL module: " ++ moduleName
    version := conventions.architectureVersion
    business := .ofRecords d.objects
    application := .ofRecords d.objects
    technology := .ofRecords d.objects
    relationships := relationshipsOf d.relationships
    provenance := .document (if d.source = [] then conventions.unknownSource else d.source) }

def merge (business application technology : List Document) : Architecture :=
  let documents := business ++ application ++ technology
  let objects := documents.flatMap Document.objects
  let relationships := documents.flatMap Document.relationships
  let sources := (documents.map Document.source).filter (· != [])
  { uid := conventions.mergedUid
    name := conventions.mergedName
    description := "Architecture merged from PKL models: " ++ (", " : Text).intercalate sources
    version := conventions.architectureVersion
    business := .ofRecords objects
    application := .ofRecords objects
    technology := .ofRecords objects
    relationships := relationshipsOf relationships
    provenance := .merge sources objects.length relationships.length }

theorem container_ofDocument (d : Document) (kind : ElementKind) :
    (ofDocument d).container kind = elementsOf kind d.objects := by
  cases kind <;> rfl

theorem container_merge (business application technology : List Document) (kind : ElementKind) :
    (merge business application technology).container kind =
      elementsOf kind ((business ++ application ++ technology).flatMap Document.objects) := by
  cases kind <;> rfl

end Architecture

end Archimate
