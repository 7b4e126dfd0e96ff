import Archimate.Architecture
import Archimate.Finding
import Archimate.Json
import Archimate.Relationship.Guide

namespace Archimate

namespace Json

def ofNat (n : Nat) : Json := .whole n

def ofCounts (counts : Dictionary String Nat) : Json :=
  named (counts.entries.map fun entry => (entry.1, ofNat entry.2))

end Json

def Finding.toJson (f : Finding) : Json :=
  .named [("code", .string f.code), ("message", .string f.message),
    ("field", .ofOption f.field), ("elementId", .ofOption f.element)]

def findingsJson (findings : List Finding) : Json := .array (findings.map Finding.toJson)

/-- The counts are left out when nothing was counted. -/
def Verdict.toJson (v : Verdict) : Json :=
  .named <|
    [("isValid", .bool v.isValid), ("errors", findingsJson v.errors),
     ("warnings", findingsJson v.warnings)]
    ++ if v.categories.isEmpty then []
       else [("validationSummary", .ofCounts v.categories)]

def Summary.toJson (s : Summary) : Json :=
  .named [("uid", .string s.uid), ("name", .string s.name), ("version", .string s.version),
    ("total_elements", .ofNat s.totalElements),
    ("total_relationships", .ofNat s.totalRelationships),
    ("elements_by_layer", .ofCounts s.elementsByLayer),
    ("elements_by_type", .ofCounts s.elementsByType)]

def Attribute.toJson : Attribute → Json
  | .text value => .ofOption value
  | .whole value => (value.map Json.whole).getD .null
  | .texts values => .strings values
  | .choice label => .ofOption (label.map fun label => Text.ofString label.toLower)
  | .texted properties =>
    .object (properties.entries.map fun entry => (entry.1, .string entry.2))

def attributesJson (attributes : List (String × Attribute)) : List (String × Json) :=
  attributes.map fun entry => (entry.1, entry.2.toJson)

def Element.toJson {kind : ElementKind} (e : Element kind) : Json :=
  .named (attributesJson e.attributes)

def Relationship.toJson (r : Relationship) : Json :=
  .named <| attributesJson r.attributes
    ++ [("category", .string (Choice.value r.category)), ("strength", .ofNat r.strength)]

def relationshipsJson (rs : List Relationship) : Json := .array (rs.map Relationship.toJson)

def Provenance.toJson : Provenance → Json
  | .document source => .named [("source", .string source)]
  | .merge sources objects relationships =>
    .named [("sources", .strings sources), ("totalObjects", .ofNat objects),
      ("totalRelationships", .ofNat relationships)]

namespace Architecture

def containerJson (a : Architecture) (kind : ElementKind) : Json :=
  .array ((a.container kind).map Element.toJson)

def layerJson (a : Architecture) (layer : Layer) : Json :=
  .named <| ("uid", .string layer.uid) ::
    (ElementKind.ofLayer layer).map fun kind => (kind.container, a.containerJson kind)

def toJson (a : Architecture) : Json :=
  .named [("uid", .string a.uid), ("name", .string a.name),
    ("description", .string a.description), ("version", .string a.version),
    ("business_layer", a.layerJson .business), ("application_layer", a.layerJson .application),
    ("technology_layer", a.layerJson .technology),
    ("relationships", relationshipsJson a.relationships), ("metadata", a.provenance.toJson)]

end Architecture

def RelationshipType.toJson (t : RelationshipType) : Json :=
  .named [("name", .string t.guide.name), ("description", .string t.guide.description),
    ("category", .string (Choice.value t.category)), ("strength", .ofNat t.strength),
    ("is_directional", .bool t.isDirectional), ("semantics", .string t.guide.semantics)]

end Archimate
