import Archimate.Web.Endpoint
import Archimate.Web.Response

namespace Archimate.Web

namespace Question

def about (store : Store) (id : Text) (answer : Architecture → Response) : Response :=
  match Service.require store id with
  | .ok a => answer a
  | .error e => failureResponse e

/-- Answers about the member that a word in the address chooses. -/
def chosen {α : Type} [Choice α] (label word : String) (answer : α → Response) : Response :=
  match (Choice.ofText? word : Option α) with
  | some member => answer member
  | none => .refusal 400 ("Invalid " ++ label ++ ": " ++ word)

def healthJson (now : String) (store : Store) : Json :=
  .named [("status", .string "healthy"), ("timestamp", .string now),
    ("architectures_loaded", .ofNat store.size), ("version", .string version)]

def elementsResponse (a : Architecture) (layer : Layer) (view : String) : Response :=
  match ElementKind.ofView? layer view with
  | some kind => .ok (a.containerJson kind)
  | none => .refusal 404 ("Unknown view: " ++ view)

def ofType (type : RelationshipType) (rs : List Relationship) : List Relationship :=
  rs.filter fun r => r.type == type

def ofCategory (category : RelationshipCategory) (rs : List Relationship) : List Relationship :=
  rs.filter fun r => r.category == category

def structural (rs : List Relationship) : List Relationship :=
  (ofCategory .structural rs).mergeSort fun r r' => r.strength ≤ r'.strength

def relationshipVerdictJson (rs : List Relationship) : Json :=
  let verdict := Relationships.validate rs
  .named [("isValid", .bool verdict.isValid), ("errors", findingsJson verdict.errors),
    ("relationshipCount", .ofNat rs.length),
    ("validationSummary", .ofCounts verdict.categories)]

def answer (now : String) (store : Store) : Question → Response
  | .documentation => ⟨200, .empty⟩
  | .health => .ok (healthJson now store)
  | .architectures => .ok (.array (store.all.map Architecture.toJson))
  | .architecture id => about store id fun a => .ok a.toJson
  | .validation id => about store id fun a => .ok a.validate.toJson
  | .summary id => about store id fun a => .ok a.summary.toJson
  | .layer id l => about store id fun a => .ok (a.layerJson l)
  | .elements id l view => about store id fun a => elementsResponse a l view
  | .relationships id => about store id fun a => .ok (relationshipsJson a.relationships)
  | .relationshipsOfType id word => about store id fun a =>
    chosen "relationship type" word fun type =>
      .ok (relationshipsJson (ofType type a.relationships))
  | .relationshipsOfCategory id word => about store id fun a =>
    chosen "relationship category" word fun category =>
      .ok (relationshipsJson (ofCategory category a.relationships))
  | .relationshipsOfElement id element => about store id fun _ =>
    .ok (relationshipsJson (Service.relationshipsFor store id element))
  | .structuralRelationships id => about store id fun a =>
    .ok (relationshipsJson (structural a.relationships))
  | .relationshipValidation id => about store id fun a =>
    .ok (relationshipVerdictJson a.relationships)
  | .relationshipTypes =>
    .ok (.array ((Choice.members : List RelationshipType).map RelationshipType.toJson))
  | .relationshipType word => chosen "relationship type" word fun (type : RelationshipType) =>
    .ok type.toJson

end Question

end Archimate.Web
