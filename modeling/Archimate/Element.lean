import Archimate.Element.Kind
import Archimate.Record

namespace Archimate

/-- The fields that only elements of one kind have. -/
inductive Detail : ElementKind → Type where
  | domain (stakeholders : List Text) : Detail .businessDomain
  | capability (level : Option Int) (parent : Option Text) : Detail .businessCapability
  | actor (type : ActorType) : Detail .businessActor
  | process (type : ProcessType) (owner : Option Text) (inputs outputs : List Text) :
      Detail .businessProcess
  | businessService (level availability : Option Text) : Detail .businessService
  | application (stereotype : ApplicationStereotype) (lifecycle : Lifecycle)
      (vendor : Option Text) : Detail .application
  | component (type : ComponentType) (technology : Option Text) : Detail .applicationComponent
  | applicationService : Detail .applicationService
  | applicationInterface (type : InterfaceType) (format : Option Text) :
      Detail .applicationInterface
  | node (type : NodeType) (location capacity operatingSystem : Option Text) :
      Detail .technologyNode
  | technologyService (category : ServiceCategory) (provider : Option Text) :
      Detail .technologyService
  | artifact (type : ArtifactType) (format size : Option Text) : Detail .artifact
  | technologyInterface (protocol : Option Text) (port : Option Int) :
      Detail .technologyInterface
  | software (type : SoftwareType) (vendor version : Option Text) : Detail .systemSoftware
deriving DecidableEq

structure Element (kind : ElementKind) where
  uid : Text
  name : Text
  description : Option Text
  documentation : Option Text
  properties : Dictionary Text Text
  detail : Detail kind
deriving DecidableEq

/-- One attribute of an element or relationship, in the shape in which it is shown. -/
inductive Attribute where
  | text (value : Option Text)
  | whole (value : Option Int)
  | texts (values : List Text)
  | choice (label : Option String)
  | texted (entries : Dictionary Text Text)
deriving DecidableEq

def Attribute.member {α : Type} [Choice α] (a : α) : Attribute := .choice (some (Choice.label a))

namespace Detail

/-- The member that a field chooses, or the one that stands for a missing or unknown choice. -/
def choiceOr {α : Type} [Choice α] (r : Record) (key : Text) (default : α) : α :=
  (Choice.ofLiteral? (r.value? key)).getD default

def ofRecord (r : Record) : (kind : ElementKind) → Detail kind
  | .businessDomain => .domain (r.items "stakeholders")
  | .businessCapability => .capability (r.whole? "level") (r.text? "parentCapability")
  | .businessActor => .actor (choiceOr r "actorType" .internal)
  | .businessProcess =>
    .process (choiceOr r "processType" .core) (r.text? "owner") (r.items "inputs")
      (r.items "outputs")
  | .businessService => .businessService (r.text? "serviceLevel") (r.text? "availability")
  | .application =>
    .application (choiceOr r "stereoType" .businessApplication) (choiceOr r "lifecycle" .active)
      (r.text? "vendor")
  | .applicationComponent =>
    .component (choiceOr r "componentType" .backend) (r.text? "technology")
  | .applicationService => .applicationService
  | .applicationInterface =>
    .applicationInterface (choiceOr r "interfaceType" .api) (r.text? "format")
  | .technologyNode =>
    .node (choiceOr r "nodeType" .server) (r.text? "location") (r.text? "capacity")
      (r.text? "operatingSystem")
  | .technologyService =>
    .technologyService (choiceOr r "serviceCategory" .compute) (r.text? "provider")
  | .artifact =>
    .artifact (choiceOr r "artifactType" .configuration) (r.text? "format") (r.text? "size")
  | .technologyInterface => .technologyInterface (r.text? "protocol") (r.whole? "port")
  | .systemSoftware =>
    .software (choiceOr r "softwareType" .runtime) (r.text? "vendor") (r.text? "version")

def attributes : {kind : ElementKind} → Detail kind → List (String × Attribute)
  | _, .domain stakeholders => [("stakeholders", .texts stakeholders)]
  | _, .capability level parent => [("level", .whole level), ("parent_capability", .text parent)]
  | _, .actor type => [("actor_type", .member type)]
  | _, .process type owner inputs outputs =>
    [("process_type", .member type), ("owner", .text owner), ("inputs", .texts inputs),
     ("outputs", .texts outputs)]
  | _, .businessService level availability =>
    [("service_level", .text level), ("availability", .text availability)]
  | _, .application stereotype lifecycle vendor =>
    [("stereo_type", .member stereotype), ("lifecycle", .member lifecycle),
     ("vendor", .text vendor)]
  | _, .component type technology =>
    [("component_type", .member type), ("technology", .text technology)]
  | _, .applicationService => []
  | _, .applicationInterface type format =>
    [("interface_type", .member type), ("format", .text format)]
  | _, .node type location capacity operatingSystem =>
    [("node_type", .member type), ("location", .text location), ("capacity", .text capacity),
     ("operating_system", .text operatingSystem)]
  | _, .technologyService category provider =>
    [("service_category", .member category), ("provider", .text provider)]
  | _, .artifact type format size =>
    [("artifact_type", .member type), ("format", .text format), ("size", .text size)]
  | _, .technologyInterface protocol port =>
    [("protocol", .text protocol), ("port", .whole port)]
  | _, .software type vendor version =>
    [("software_type", .member type), ("vendor", .text vendor), ("version", .text version)]

end Detail

namespace Element

variable {kind : ElementKind}

/-- The properties of a record; `metadata` stands in for properties that are missing or empty. -/
def propertiesOf (r : Record) : Dictionary Text Text :=
  let properties := r.properties "properties"
  if properties.isEmpty then r.properties "metadata" else properties

def ofRecord? (kind : ElementKind) (r : Record) : Option (Element kind) :=
  if r.type = kind.typeName then
    (r.text? "uid").map fun uid =>
      { uid := uid
        name := (r.text? "name").getD []
        description := r.text? "description"
        documentation := r.text? "documentation"
        properties := propertiesOf r
        detail := .ofRecord r kind }
  else none

def attributes (e : Element kind) : List (String × Attribute) :=
  [("uid", .text (some e.uid)), ("name", .text (some e.name)), ("description", .text e.description),
   ("documentation", .text e.documentation), ("properties", .texted e.properties)]
    ++ e.detail.attributes

def describe (e : Element kind) : Text :=
  kind.typeName ++ ": " ++ e.name ++ " (" ++ kind.layer.title ++ " layer)"

end Element

structure AnyElement where
  kind : ElementKind
  element : Element kind

namespace AnyElement

def uid (e : AnyElement) : Text := e.element.uid

/-- The element that a record declares, of whatever kind. -/
def ofRecord? (r : Record) : Option AnyElement :=
  (ElementKind.ofTypeName? r.type).bind fun kind => (Element.ofRecord? kind r).map (⟨kind, ·⟩)

end AnyElement

end Archimate
