import Archimate.Json.Model
import Archimate.Proofs.Json.Sent
import Mathlib.Data.List.Basic

namespace Archimate

inductive PropertyPlace where
  | elements (kind : ElementKind)
  | relationships

def Architecture.propertiesAt (a : Architecture) : PropertyPlace → List (Dictionary Text Text)
  | .elements kind => (a.container kind).map Element.properties
  | .relationships => a.relationships.map Relationship.properties

/-- No key of a property is an internal name. -/
def Architecture.NoInternalKeys (a : Architecture) : Prop :=
  ∀ place, ∀ properties ∈ a.propertiesAt place, ∀ key ∈ properties.keys,
    Json.isInternal key = false

def visibleProperties (properties : Dictionary Text Text) : Dictionary Text Text :=
  ⟨properties.entries.filter fun entry => !Json.isInternal entry.1,
    properties.nodup_keys.sublist (List.filter_sublist.map _)⟩

def propertiesJson (properties : Dictionary Text Text) : Json :=
  (Attribute.texted properties).toJson

def Layer.member : Layer → String
  | .business => "business_layer"
  | .application => "application_layer"
  | .technology => "technology_layer"

namespace Json

/-- The items of the array under a name; none when there is no such array. -/
def itemsOf (name : Text) (value : Json) : List Json :=
  match value.member? name with
  | some (.array items) => items
  | _ => []

/-- What the JSON of an architecture shows as properties in one place, item by item. -/
def propertiesAt (body : Json) : PropertyPlace → List (Option Json)
  | .elements kind =>
    (((body.member? kind.layer.member).map (itemsOf kind.container)).getD []).map
      (member? "properties")
  | .relationships => (itemsOf "relationships" body).map (member? "properties")

/-- Wherever the architecture has properties, the body has an object with the same keys and
values. -/
def CarriesProperties (body : Json) (a : Architecture) : Prop :=
  ∀ place, body.propertiesAt place =
    (a.propertiesAt place).map fun properties => some (propertiesJson properties)

theorem itemsOf_shown {name : Text} (hname : isInternal name = false) {value : Json}
    {items : List Json} (hmember : value.member? name = some (.array items)) :
    itemsOf name value.shown = items.map shown := by
  unfold itemsOf
  rw [member?_shown hname, hmember, Option.map_some, shown, shownItems_eq]

theorem propertiesJson_injective : Function.Injective propertiesJson := by
  intro p q h
  have hmembers : p.entries.map (fun entry => (entry.1, Json.string entry.2)) =
      q.entries.map fun entry => (entry.1, Json.string entry.2) := Json.object.inj h
  apply Dictionary.ext
  have hmember : Function.Injective fun entry : Text × Text => (entry.1, Json.string entry.2) := by
    intro a b hab
    obtain ⟨hkey, hvalue⟩ := Prod.mk.inj hab
    exact Prod.ext hkey (Json.string.inj hvalue)
  exact hmember.list_map hmembers

theorem shown_propertiesJson (properties : Dictionary Text Text) :
    (propertiesJson properties).shown = propertiesJson (visibleProperties properties) := by
  unfold propertiesJson Attribute.toJson
  rw [shown, shownMembers_eq, List.filter_map, List.map_map]
  apply congrArg Json.object
  apply List.map_congr_left
  intro entry _
  show (entry.1, shown (.string entry.2)) = _
  rw [shown_string]

end Json

open Json

theorem visibleProperties_eq_self_iff {properties : Dictionary Text Text} :
    visibleProperties properties = properties ↔
      ∀ key ∈ properties.keys, isInternal key = false := by
  constructor
  · intro h key hkey
    rw [← h] at hkey
    obtain ⟨entry, hentry, rfl⟩ := List.mem_map.mp hkey
    simpa using (List.mem_filter.mp hentry).2
  · intro h
    apply Dictionary.ext
    apply List.filter_eq_self.mpr
    intro entry hentry
    simpa using h _ (List.mem_map_of_mem hentry)

theorem Element.member?_properties {kind : ElementKind} (e : Element kind) :
    e.toJson.shown.member? "properties" =
      some (propertiesJson (visibleProperties e.properties)) := by
  have hname : isInternal ("properties" : Text) = false := by decide
  rw [member?_shown hname, ← shown_propertiesJson]
  simp [Element.toJson, attributesJson, Element.attributes, member?_named_cons, propertiesJson]

theorem Relationship.member?_properties (r : Relationship) :
    r.toJson.shown.member? "properties" =
      some (propertiesJson (visibleProperties r.properties)) := by
  have hname : isInternal ("properties" : Text) = false := by decide
  rw [member?_shown hname, ← shown_propertiesJson]
  simp [Relationship.toJson, attributesJson, Relationship.attributes, member?_named_cons,
    propertiesJson]

namespace Architecture

variable (a : Architecture)

theorem member?_layer (layer : Layer) :
    a.toJson.member? layer.member = some (a.layerJson layer) := by
  cases layer <;> simp [toJson, Layer.member, member?_named_cons]

theorem member?_container (kind : ElementKind) :
    (a.layerJson kind.layer).member? kind.container = some (a.containerJson kind) := by
  cases kind <;>
    simp [layerJson, ElementKind.ofLayer, ElementKind.all, ElementKind.layer, ElementKind.container,
      member?_named_cons]

theorem propertiesAt_shown (place : PropertyPlace) :
    a.toJson.shown.propertiesAt place =
      (a.propertiesAt place).map fun properties =>
        some (propertiesJson (visibleProperties properties)) := by
  cases place with
  | elements kind =>
    have hlayer : isInternal (kind.layer.member : Text) = false := by cases kind <;> decide
    have hcontainer : isInternal (kind.container : Text) = false := by cases kind <;> decide
    have hitems := itemsOf_shown hcontainer (a.member?_container kind)
    simp only [Json.propertiesAt, propertiesAt]
    rw [member?_shown hlayer, member?_layer, Option.map_some, Option.map_some, Option.getD_some,
      hitems, List.map_map, List.map_map, List.map_map]
    apply List.map_congr_left
    intro e _
    exact e.member?_properties
  | relationships =>
    have hname : isInternal ("relationships" : Text) = false := by decide
    have hmember : a.toJson.member? "relationships" = some (relationshipsJson a.relationships) := by
      simp [toJson, member?_named_cons]
    have hitems := itemsOf_shown hname hmember
    simp only [Json.propertiesAt, propertiesAt]
    rw [hitems, List.map_map, List.map_map, List.map_map]
    apply List.map_congr_left
    intro r _
    exact r.member?_properties

/-- What is sent has all properties exactly when none of them is under an internal name. -/
theorem carriesProperties_shown_iff : a.toJson.shown.CarriesProperties a ↔ a.NoInternalKeys := by
  unfold CarriesProperties NoInternalKeys
  apply forall_congr'
  intro place
  rw [propertiesAt_shown, List.map_inj_left]
  apply forall₂_congr
  intro properties _
  rw [Option.some_inj, propertiesJson_injective.eq_iff, visibleProperties_eq_self_iff]

end Architecture

end Archimate
