import Archimate.Proofs.Json.Properties
import Archimate.Proofs.Web.Question
import Mathlib.Data.Option.Basic

namespace Archimate.Web

variable {store : Store} {r : Request} {a : Architecture} {id : String}

theorem response_architecture_cases (s : Surroundings) (now : String)
    (h : Destination.find r.method r.address = .endpoint (.question (.architecture id)))
    (hfound : store.find? id = some a) :
    a.toJson.shown.canBeSent = true ∧
        (answer s now store r).response = .ok a.toJson.shown ∨
      a.toJson.shown.canBeSent = false ∧ (answer s now store r).response = .internalError := by
  rw [response_architecture s now h hfound]
  exact sealed_saved 200 a

theorem eq_shown_of_response (s : Surroundings) (now : String)
    (h : Destination.find r.method r.address = .endpoint (.question (.architecture id)))
    (hfound : store.find? id = some a) {body : Json}
    (hbody : (answer s now store r).response = .ok body) : body = a.toJson.shown := by
  rcases response_architecture_cases s now h hfound with ⟨-, hok⟩ | ⟨-, hfailed⟩
  · rw [hok] at hbody
    exact (Content.json.inj (congrArg Response.content hbody)).symm
  · rw [hfailed] at hbody
    cases hbody

theorem visibleProperties_eq_of_shown_eq {a b : Architecture} (h : a.toJson.shown = b.toJson.shown)
    (place : PropertyPlace) :
    (a.propertiesAt place).map visibleProperties =
      (b.propertiesAt place).map visibleProperties := by
  have hplace := congrArg (fun body => body.propertiesAt place) h
  have hshown : Function.Injective fun properties => some (propertiesJson properties) :=
    (Option.some_injective _).comp Json.propertiesJson_injective
  rw [Architecture.propertiesAt_shown, Architecture.propertiesAt_shown] at hplace
  apply hshown.list_map
  rw [List.map_map, List.map_map]
  exact hplace

theorem map_visibleProperties (h : a.NoInternalKeys) (place : PropertyPlace) :
    (a.propertiesAt place).map visibleProperties = a.propertiesAt place := by
  have hvisible : (a.propertiesAt place).map visibleProperties = (a.propertiesAt place).map id := by
    apply List.map_congr_left
    intro properties hproperties
    exact visibleProperties_eq_self_iff.mpr (h place properties hproperties)
  rw [hvisible, List.map_id]

/-- The answer about a stored architecture shows the properties of every element and relationship,
all but those under internal names. So it shows all of them exactly when there are no such names,
and architectures with the same answer have the same properties but for those. There is no answer
when the architecture cannot be sent. -/
theorem response_shows_properties (s : Surroundings) (now : String)
    (h : Destination.find r.method r.address = .endpoint (.question (.architecture id)))
    (hfound : store.find? id = some a) :
    (∃ body, (answer s now store r).response = .ok body ∧
      (∀ place, body.propertiesAt place = (a.propertiesAt place).map fun properties =>
        some (propertiesJson (visibleProperties properties))) ∧
      (body.CarriesProperties a ↔ a.NoInternalKeys) ∧
      ∀ (s' : Surroundings) (now' : String) (store' : Store) (r' : Request) (id' : String)
        (b : Architecture),
        Destination.find r'.method r'.address = .endpoint (.question (.architecture id')) →
        store'.find? id' = some b → (answer s' now' store' r').response = .ok body →
        (∀ place, (a.propertiesAt place).map visibleProperties =
          (b.propertiesAt place).map visibleProperties) ∧
        (a.NoInternalKeys → b.NoInternalKeys →
          ∀ place, a.propertiesAt place = b.propertiesAt place)) ∨
    a.toJson.shown.canBeSent = false ∧ (answer s now store r).response = .internalError := by
  rcases response_architecture_cases s now h hfound with ⟨-, hok⟩ | hfailed
  · refine Or.inl ⟨a.toJson.shown, hok, a.propertiesAt_shown, a.carriesProperties_shown_iff, ?_⟩
    intro s' now' store' r' id' b hfind' hfound' hbody
    have hshown := eq_shown_of_response s' now' hfind' hfound' hbody
    have hvisible := visibleProperties_eq_of_shown_eq hshown
    refine ⟨hvisible, ?_⟩
    intro ha hb place
    rw [← map_visibleProperties ha place, ← map_visibleProperties hb place]
    exact hvisible place
  · exact Or.inr hfailed

def domainArchitecture (key value : String) : Architecture :=
  .ofDocument ⟨none, ModelText.defaultFilename, [⟨"d", "BusinessDomain", .ofList [
    ("uid", .text "d"), ("properties", .map (.ofList [(key, .text value)]))]⟩]⟩

def unknownArchitecture : Request where
  method := .get
  address := .read "/api/v1/architectures/arch-Unknown"
  body := ""

theorem find_unknownArchitecture :
    Destination.find unknownArchitecture.method unknownArchitecture.address =
      .endpoint (.question (.architecture "arch-Unknown")) := by
  decide +kernel

theorem response_shows_properties_owner :
    (Store.save .empty (domainArchitecture "owner" "CX")).find? "arch-Unknown" =
        some (domainArchitecture "owner" "CX") ∧
      ∃ body, (answer bareSurroundings "" (Store.save .empty (domainArchitecture "owner" "CX"))
          unknownArchitecture).response = .ok body ∧
        body.CarriesProperties (domainArchitecture "owner" "CX") := by
  have hfound : (Store.save .empty (domainArchitecture "owner" "CX")).find? "arch-Unknown" =
      some (domainArchitecture "owner" "CX") := by
    have huid : ("arch-Unknown" : Text) = (domainArchitecture "owner" "CX").uid := by decide
    rw [Store.find?_save, if_pos huid]
  have hkeys : (domainArchitecture "owner" "CX").NoInternalKeys := by
    intro place
    cases place with
    | elements kind => cases kind <;> decide
    | relationships => decide
  have hsent : (domainArchitecture "owner" "CX").toJson.shown.canBeSent = true := by
    decide +kernel
  refine ⟨hfound, ?_⟩
  rcases response_shows_properties bareSurroundings "" find_unknownArchitecture hfound with
    ⟨body, hbody, -, hcarries, -⟩ | ⟨hunsent, -⟩
  · exact ⟨body, hbody, hcarries.mpr hkeys⟩
  · rw [hsent] at hunsent
    cases hunsent

/-- A creation from the text of a domain whose property begins like an internal name. -/
def salesCreation : Request where
  method := .post
  address := .read "/api/v1/architectures"
  body := "\x7b\"content\":\"d: BusinessDomain = new \x7b\\n uid = \\\"d\\\"\\n" ++
    " properties = Map(\\\"_sales\\\", \\\"7\\\")\\n\x7d\"\x7d"

/-- The sales of the domain are stored, and no answer has them. -/
theorem salesCreation_not_shown :
    (answer bareSurroundings "" .empty salesCreation).store.find? "arch-Unknown" =
        some (domainArchitecture "_sales" "7") ∧
      ∃ body, (answer bareSurroundings ""
          (answer bareSurroundings "" .empty salesCreation).store
          unknownArchitecture).response = .ok body ∧
        ¬ body.CarriesProperties (domainArchitecture "_sales" "7") := by
  have hfound : (answer bareSurroundings "" .empty salesCreation).store.find? "arch-Unknown" =
      some (domainArchitecture "_sales" "7") := by decide +kernel
  have hsent : (domainArchitecture "_sales" "7").toJson.shown.canBeSent = true := by
    decide +kernel
  refine ⟨hfound, ?_⟩
  rcases response_architecture_cases bareSurroundings "" find_unknownArchitecture hfound with
    ⟨-, hbody⟩ | ⟨hunsent, -⟩
  · refine ⟨_, hbody, ?_⟩
    rw [Architecture.carriesProperties_shown_iff]
    intro hkeys
    have hsales := hkeys (.elements .businessDomain) (.ofList [("_sales", "7")]) (by decide)
      "_sales" (by decide)
    exact absurd hsales (by decide)
  · rw [hsent] at hunsent
    cases hunsent

end Archimate.Web
