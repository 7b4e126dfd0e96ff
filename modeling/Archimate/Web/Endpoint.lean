import Archimate.Element.Kind
import Archimate.Text.Blank
import Archimate.Web.Address

namespace Archimate.Web

inductive Method where
  | get | head | post | put | delete | other
deriving DecidableEq, Inhabited, Repr

def Method.ofText (s : String) : Method :=
  match s.toUpper with
  | "GET" => .get
  | "HEAD" => .head
  | "POST" => .post
  | "PUT" => .put
  | "DELETE" => .delete
  | _ => .other

inductive Question where
  | documentation
  | health
  | architectures
  | architecture (id : String)
  | validation (id : String)
  | summary (id : String)
  | layer (id : String) (layer : Layer)
  | elements (id : String) (layer : Layer) (view : String)
  | relationships (id : String)
  | relationshipsOfType (id type : String)
  | relationshipsOfCategory (id category : String)
  | relationshipsOfElement (id element : String)
  | structuralRelationships (id : String)
  | relationshipValidation (id : String)
  | relationshipTypes
  | relationshipType (type : String)
deriving DecidableEq

inductive Change where
  | create
  | reload
  | replace (id : String)
  | delete (id : String)
deriving DecidableEq

inductive Endpoint where
  | question (q : Question)
  | change (c : Change)
deriving DecidableEq

structure Offer where
  method : Method
  endpoint : Endpoint
deriving DecidableEq

namespace Offer

def asks (q : Question) : Offer := ⟨.get, .question q⟩

def checks (q : Question) : Offer := ⟨.post, .question q⟩

def changes (method : Method) (c : Change) : Offer := ⟨method, .change c⟩

def documentation : List Offer :=
  [asks .documentation, ⟨.head, .question .documentation⟩]

/-- What an architecture offers under a word. -/
def ofArchitecture (id word : String) : List Offer :=
  match word with
  | "validate" => [checks (.validation id)]
  | "summary" => [asks (.summary id)]
  | "relationships" => [asks (.relationships id)]
  | _ => ((Layer.ofWord? word).map fun layer => asks (.layer id layer)).toList

/-- What is offered where the last part of the path is a fixed word. -/
def underWord : List String → List Offer
  | ["openapi.json"] => documentation
  | ["api", "docs"] => documentation
  | ["docs", "oauth2-redirect"] => documentation
  | ["api", "redoc"] => documentation
  | ["health"] => [asks .health]
  | ["api", "v1", "architectures"] => [asks .architectures, changes .post .create]
  | ["api", "v1", "architectures", "reload"] => [changes .post .reload]
  | ["api", "v1", "architectures", id, word] => ofArchitecture id word
  | ["api", "v1", "architectures", id, "relationships", "structural"] =>
    [asks (.structuralRelationships id)]
  | ["api", "v1", "architectures", id, "relationships", "validate"] =>
    [checks (.relationshipValidation id)]
  | ["api", "v1", "relationship-types"] => [asks .relationshipTypes]
  | _ => []

/-- What is offered where the last part of the path is free. -/
def underName : List String → List Offer
  | ["api", "v1", "architectures", id] =>
    [asks (.architecture id), changes .put (.replace id), changes .delete (.delete id)]
  | ["api", "v1", "architectures", id, word, view] =>
    ((Layer.ofWord? word).map fun layer => asks (.elements id layer view)).toList
  | ["api", "v1", "architectures", id, "relationships", "by-type", type] =>
    [asks (.relationshipsOfType id type)]
  | ["api", "v1", "architectures", id, "relationships", "by-category", category] =>
    [asks (.relationshipsOfCategory id category)]
  | ["api", "v1", "architectures", id, "relationships", "for-element", element] =>
    [asks (.relationshipsOfElement id element)]
  | ["api", "v1", "relationship-types", type] => [asks (.relationshipType type)]
  | _ => []

def withoutLineEnd (part : String) : String :=
  match part.toList.reverse with
  | '\n' :: rest => String.ofList rest.reverse
  | _ => part

/-- A line end behind a fixed word at the end of the path is ignored. -/
def withoutLastLineEnd : List String → List String
  | [] => []
  | [part] => [withoutLineEnd part]
  | part :: parts => part :: withoutLastLineEnd parts

/-- What an address offers; no part of its path may be empty. -/
def ofAddress (a : Address) : List Offer :=
  if a.parts.contains "" then []
  else underWord (withoutLastLineEnd a.parts) ++ underName a.parts

end Offer

inductive Destination where
  | endpoint (e : Endpoint)
  | otherMethod
  | elsewhere (a : Address)
  | nowhere
deriving DecidableEq

/-- An address that offers nothing leads to the one without slashes at the end, if that does. -/
def Destination.find (method : Method) (a : Address) : Destination :=
  match Offer.ofAddress a with
  | [] => if Offer.ofAddress a.trimmed = [] then .nowhere else .elsewhere a.trimmed
  | offers =>
    match offers.find? fun offer => offer.method == method with
    | some offer => .endpoint offer.endpoint
    | none => .otherMethod

end Archimate.Web
