import Archimate.Choice
import Archimate.Conventions

namespace Archimate

inductive Layer where
  | business
  | application
  | technology
deriving DecidableEq, Inhabited, Repr

namespace Layer

def all : List Layer := [.business, .application, .technology]

def title : Layer → String
  | .business => "Business"
  | .application => "Application"
  | .technology => "Technology"

def word : Layer → String
  | .business => "business"
  | .application => "application"
  | .technology => "technology"

def ofWord? (word : String) : Option Layer :=
  all.find? fun layer => layer.word == word

def uid : Layer → Text
  | .business => conventions.businessLayerUid
  | .application => conventions.applicationLayerUid
  | .technology => conventions.technologyLayerUid

end Layer

inductive ElementKind where
  | businessDomain
  | businessCapability
  | businessActor
  | businessProcess
  | businessService
  | application
  | applicationComponent
  | applicationService
  | applicationInterface
  | technologyNode
  | technologyService
  | artifact
  | technologyInterface
  | systemSoftware
deriving DecidableEq, Inhabited, Repr

namespace ElementKind

/-- All kinds, layer by layer, in the order in which elements are listed. -/
def all : List ElementKind :=
  [.businessDomain, .businessCapability, .businessActor, .businessProcess, .businessService,
   .application, .applicationComponent, .applicationService, .applicationInterface,
   .technologyNode, .technologyService, .artifact, .technologyInterface, .systemSoftware]

/-- The type that a record of the kind declares. -/
def typeName : ElementKind → String
  | .businessDomain => "BusinessDomain"
  | .businessCapability => "BusinessCapability"
  | .businessActor => "BusinessActor"
  | .businessProcess => "BusinessProcess"
  | .businessService => "BusinessService"
  | .application => "Application"
  | .applicationComponent => "ApplicationComponent"
  | .applicationService => "ApplicationService"
  | .applicationInterface => "ApplicationInterface"
  | .technologyNode => "TechnologyNode"
  | .technologyService => "TechnologyService"
  | .artifact => "Artifact"
  | .technologyInterface => "TechnologyInterface"
  | .systemSoftware => "SystemSoftware"

def layer : ElementKind → Layer
  | .businessDomain | .businessCapability | .businessActor | .businessProcess
  | .businessService => .business
  | .application | .applicationComponent | .applicationService
  | .applicationInterface => .application
  | .technologyNode | .technologyService | .artifact | .technologyInterface
  | .systemSoftware => .technology

/-- The name of the container of a kind within its layer. -/
def container : ElementKind → String
  | .businessDomain => "domains"
  | .businessCapability => "capabilities"
  | .businessActor => "actors"
  | .businessProcess => "processes"
  | .businessService => "services"
  | .application => "applications"
  | .applicationComponent => "components"
  | .applicationService => "services"
  | .applicationInterface => "interfaces"
  | .technologyNode => "nodes"
  | .technologyService => "services"
  | .artifact => "artifacts"
  | .technologyInterface => "interfaces"
  | .systemSoftware => "system_software"

def ofLayer (layer : Layer) : List ElementKind :=
  all.filter fun kind => kind.layer == layer

def view (kind : ElementKind) : String :=
  String.ofList (kind.container.toList.map fun c => if c = '_' then '-' else c)

def ofView? (layer : Layer) (view : String) : Option ElementKind :=
  (ofLayer layer).find? fun kind => kind.view == view

theorem mem_all (kind : ElementKind) : kind ∈ all := by
  cases kind <;> decide

theorem nodup_all : all.Nodup := by decide

def ofTypeName? (name : Text) : Option ElementKind :=
  all.find? fun kind => kind.typeName == name

theorem ofTypeName?_typeName (kind : ElementKind) : ofTypeName? kind.typeName = some kind := by
  cases kind <;>
    simp [ofTypeName?, all, typeName, List.find?, Text.ofString_beq]

theorem typeName_injective {a b : ElementKind} (h : a.typeName = b.typeName) : a = b := by
  have ha := ofTypeName?_typeName a
  rw [h, ofTypeName?_typeName b] at ha
  exact (Option.some.inj ha).symm

end ElementKind

inductive ActorType where
  | internal | external | partner
deriving DecidableEq, Inhabited, Repr

instance : Choice ActorType where
  members := [.internal, .external, .partner]
  label
    | .internal => "INTERNAL"
    | .external => "EXTERNAL"
    | .partner => "PARTNER"

inductive ProcessType where
  | core | support | management
deriving DecidableEq, Inhabited, Repr

instance : Choice ProcessType where
  members := [.core, .support, .management]
  label
    | .core => "CORE"
    | .support => "SUPPORT"
    | .management => "MANAGEMENT"

inductive ApplicationStereotype where
  | businessApplication | itApplication | platform | infrastructure | microsolution
deriving DecidableEq, Inhabited, Repr

instance : Choice ApplicationStereotype where
  members := [.businessApplication, .itApplication, .platform, .infrastructure, .microsolution]
  label
    | .businessApplication => "BUSINESS_APPLICATION"
    | .itApplication => "IT_APPLICATION"
    | .platform => "PLATFORM"
    | .infrastructure => "INFRASTRUCTURE"
    | .microsolution => "MICROSOLUTION"

inductive Lifecycle where
  | plan | develop | active | phaseout | retire
deriving DecidableEq, Inhabited, Repr

instance : Choice Lifecycle where
  members := [.plan, .develop, .active, .phaseout, .retire]
  label
    | .plan => "PLAN"
    | .develop => "DEVELOP"
    | .active => "ACTIVE"
    | .phaseout => "PHASEOUT"
    | .retire => "RETIRE"

inductive ComponentType where
  | frontend | backend | database | integration | analytics
deriving DecidableEq, Inhabited, Repr

instance : Choice ComponentType where
  members := [.frontend, .backend, .database, .integration, .analytics]
  label
    | .frontend => "FRONTEND"
    | .backend => "BACKEND"
    | .database => "DATABASE"
    | .integration => "INTEGRATION"
    | .analytics => "ANALYTICS"

inductive InterfaceType where
  | api | ui | file | message
deriving DecidableEq, Inhabited, Repr

instance : Choice InterfaceType where
  members := [.api, .ui, .file, .message]
  label
    | .api => "API"
    | .ui => "UI"
    | .file => "FILE"
    | .message => "MESSAGE"

inductive NodeType where
  | server | network | storage | client | cloud
deriving DecidableEq, Inhabited, Repr

instance : Choice NodeType where
  members := [.server, .network, .storage, .client, .cloud]
  label
    | .server => "SERVER"
    | .network => "NETWORK"
    | .storage => "STORAGE"
    | .client => "CLIENT"
    | .cloud => "CLOUD"

inductive ServiceCategory where
  | compute | storage | network | security | monitoring
deriving DecidableEq, Inhabited, Repr

instance : Choice ServiceCategory where
  members := [.compute, .storage, .network, .security, .monitoring]
  label
    | .compute => "COMPUTE"
    | .storage => "STORAGE"
    | .network => "NETWORK"
    | .security => "SECURITY"
    | .monitoring => "MONITORING"

inductive ArtifactType where
  | configuration | data | software | physical
deriving DecidableEq, Inhabited, Repr

instance : Choice ArtifactType where
  members := [.configuration, .data, .software, .physical]
  label
    | .configuration => "CONFIGURATION"
    | .data => "DATA"
    | .software => "SOFTWARE"
    | .physical => "PHYSICAL"

inductive SoftwareType where
  | os | database | middleware | runtime
deriving DecidableEq, Inhabited, Repr

instance : Choice SoftwareType where
  members := [.os, .database, .middleware, .runtime]
  label
    | .os => "OS"
    | .database => "DATABASE"
    | .middleware => "MIDDLEWARE"
    | .runtime => "RUNTIME"

end Archimate
