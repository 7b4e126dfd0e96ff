import Archimate.Proofs.Relationship.Views
import Archimate.Proofs.Web.Verdict

namespace Archimate

namespace Json

theorem fits_of_member? {room : Nat} {name : Text} {value member : Json}
    (h : value.fits room = true) (hmember : value.member? name = some member) :
    member.fits (room - 1) = true := by
  cases value with
  | object members =>
    obtain ⟨before, after, rfl, -⟩ := List.lookup_eq_some_iff.mp hmember
    rw [fits, Bool.and_eq_true, membersFit_iff] at h
    exact (h.2 (name, member) (by simp)).2
  | _ => cases hmember

theorem shown_ofNat (n : Nat) : (ofNat n).shown = ofNat n := by simp [ofNat, shown]

theorem member?_ofCounts (counts : Dictionary String Nat) (name : String) :
    (ofCounts counts).member? name = (counts.find? name).map ofNat := by
  unfold ofCounts Dictionary.find?
  induction counts.entries with
  | nil => rfl
  | cons entry entries ih =>
    obtain ⟨other, count⟩ := entry
    rw [List.map_cons, member?_named_cons, ih]
    by_cases h : name = other
    · simp [h]
    · simp [h, Entries.lookup_cons_of_ne]

theorem shown_relationshipsJson (rs : List Relationship) :
    (relationshipsJson rs).shown = .array (rs.map fun r => r.toJson.shown) := by
  rw [relationshipsJson, shown, shownItems_eq, List.map_map]
  rfl

theorem canBeSent_relationshipsJson_iff {rs : List Relationship} :
    (relationshipsJson rs).shown.canBeSent = true ↔
      ∀ r ∈ rs, r.toJson.shown.fits (depthSent - 1) = true := by
  rw [shown_relationshipsJson, canBeSent, fits, Bool.and_eq_true, itemsFit_iff, List.forall_mem_map]
  exact and_iff_right (by decide)

end Json

namespace Relationship
open Json

variable {r : Relationship} {room : Nat}

theorem member?_names (r : Relationship) :
    r.toJson.shown.member? "uid" = some (.string r.uid) ∧
      r.toJson.shown.member? "source" = some (.string r.source) ∧
      r.toJson.shown.member? "target" = some (.string r.target) := by
  have huid : isInternal ("uid" : Text) = false := by decide
  have hsource : isInternal ("source" : Text) = false := by decide
  have htarget : isInternal ("target" : Text) = false := by decide
  rw [member?_shown huid, member?_shown hsource, member?_shown htarget]
  simp [toJson, attributesJson, attributes, Attribute.toJson, ofOption, member?_named_cons, shown]

theorem isWritable_of_fits (h : r.toJson.shown.fits room = true) :
    r.uid.isWritable = true ∧ r.source.isWritable = true ∧ r.target.isWritable = true := by
  obtain ⟨huid, hsource, htarget⟩ := r.member?_names
  exact ⟨fits_of_member? h huid, fits_of_member? h hsource, fits_of_member? h htarget⟩

end Relationship

namespace Web

open Question

variable {s : Surroundings} {now : String} {store : Store} {r : Request} {a : Architecture}
  {id : String} {rs view : List Relationship} {q : Question}

/-- The questions for relationships of an architecture, each with the list that it asks for. -/
inductive Question.Lists (id : String) (rs : List Relationship) :
    Question → List Relationship → Prop
  | all : Lists id rs (.relationships id) rs
  | ofType {word : String} {type : RelationshipType} (h : Choice.ofText? word = some type) :
    Lists id rs (.relationshipsOfType id word) (ofType type rs)
  | ofCategory {word : String} {category : RelationshipCategory}
    (h : Choice.ofText? word = some category) :
    Lists id rs (.relationshipsOfCategory id word) (ofCategory category rs)
  | structural : Lists id rs (.structuralRelationships id) (structural rs)

theorem Question.Lists.subset (h : Lists id rs q view) : view ⊆ rs := by
  cases h with
  | all => exact List.Subset.refl rs
  | ofType => exact List.filter_sublist.subset
  | ofCategory => exact List.filter_sublist.subset
  | structural => exact structural_subset rs

theorem Question.Lists.canBeSent (h : Lists id rs q view)
    (hsent : (relationshipsJson rs).shown.canBeSent = true) :
    (relationshipsJson view).shown.canBeSent = true := by
  rw [Json.canBeSent_relationshipsJson_iff] at hsent ⊢
  exact fun r hr => hsent r (h.subset hr)

/-- Every view of a stored architecture is answered with its list. -/
theorem response_of_lists (s : Surroundings) (now : String) (hfound : store.find? id = some a)
    (h : Lists id a.relationships q view)
    (hask : Destination.find r.method r.address = .endpoint (.question q)) :
    (answer s now store r).response = (Response.ok (relationshipsJson view)).sealed := by
  have hanswer : q.answer now store = .ok (relationshipsJson view) ∧ q ≠ .documentation := by
    cases h with
    | all => exact ⟨about_of_find? hfound _, nofun⟩
    | ofType hword =>
      refine ⟨(about_of_find? hfound _).trans ?_, nofun⟩
      unfold chosen
      rw [hword]
    | ofCategory hword =>
      refine ⟨(about_of_find? hfound _).trans ?_, nofun⟩
      unfold chosen
      rw [hword]
    | structural => exact ⟨about_of_find? hfound _, nofun⟩
  rw [response_of_question s now store hask hanswer.2, hanswer.1]

theorem canBeSent_relationshipVerdict (hsent : (relationshipsJson rs).shown.canBeSent = true) :
    (relationshipVerdictJson rs).shown.canBeSent = true := by
  have hnames : ∀ r ∈ rs, r.uid.isWritable = true ∧ r.source.isWritable = true ∧
      r.target.isWritable = true :=
    fun r hr => Relationship.isWritable_of_fits (Json.canBeSent_relationshipsJson_iff.mp hsent r hr)
  exact Relationships.verdict_sent (fun r hr => (hnames r hr).1) fun r hr => (hnames r hr).2

theorem member?_relationshipCount (rs : List Relationship) :
    (relationshipVerdictJson rs).shown.member? "relationshipCount" = some (.ofNat rs.length) := by
  have hname : Json.isInternal ("relationshipCount" : Text) = false := by decide
  rw [Json.member?_shown hname]
  simp [relationshipVerdictJson, Json.member?_named_cons, Json.shown_ofNat]

theorem member?_validationSummary (rs : List Relationship) :
    (relationshipVerdictJson rs).shown.member? "validationSummary" =
      some (Json.ofCounts (Relationships.categoryCounts rs)).shown := by
  have hname : Json.isInternal ("validationSummary" : Text) = false := by decide
  rw [Json.member?_shown hname]
  simp [relationshipVerdictJson, Json.member?_named_cons, Relationships.validate]

theorem member?_summary (rs : List Relationship) (category : RelationshipCategory) :
    (Json.ofCounts (Relationships.categoryCounts rs)).shown.member? (Choice.value category) =
      some (.ofNat (ofCategory category rs).length) := by
  have hname : Json.isInternal (Choice.value category : Text) = false := by
    cases category <;> decide +kernel
  rw [Json.member?_shown hname, Json.member?_ofCounts, find?_categoryCounts, Option.map_some,
    Option.map_some, Json.shown_ofNat]

/-- The views of a list make up the list and each other, and the verdict counts them. -/
structure ViewsAgree (rs : List Relationship) (verdict : Json) : Prop where
  categories : Partition (fun category => ofCategory category rs) rs
  types : Partition (fun type => ofType type rs) rs
  union : ∀ category, (ofCategory category rs).Perm
    ((RelationshipType.ofCategory category).flatMap fun type => ofType type rs)
  sorted : StableSort Relationship.strength (ofCategory .structural rs) (structural rs)
  order : structural rs =
    [.association, .assignment, .realization, .aggregation, .composition].flatMap
      fun type => ofType type rs
  counted : ∃ summary, verdict.member? "validationSummary" = some summary ∧
    ∀ category, summary.member? (Choice.value category) =
      some (.ofNat (ofCategory category rs).length)
  total : verdict.member? "relationshipCount" = some (.ofNat
    ((ofCategory .structural rs).length + (ofCategory .dynamic rs).length +
      (ofCategory .dependency rs).length + (ofCategory .other rs).length))

theorem viewsAgree (rs : List Relationship) :
    ViewsAgree rs (relationshipVerdictJson rs).shown where
  categories := partition_ofCategory rs
  types := partition_ofType rs
  union := ofCategory_perm rs
  sorted := stableSort_structural rs
  order := structural_eq_flatMap rs
  counted := ⟨_, member?_validationSummary rs, member?_summary rs⟩
  total := by rw [sum_length_ofCategory, member?_relationshipCount]

/-- Whoever asks for the relationships of a stored architecture gets lists that agree with each
other and with the verdict about them; when the whole list can be sent, so can each answer. -/
theorem relationship_views (s : Surroundings) (now : String) (hfound : store.find? id = some a) :
    ViewsAgree a.relationships (relationshipVerdictJson a.relationships).shown ∧
    (∀ category : RelationshipCategory,
      Lists id a.relationships (.relationshipsOfCategory id (Choice.value category))
        (ofCategory category a.relationships)) ∧
    (∀ type : RelationshipType,
      Lists id a.relationships (.relationshipsOfType id (Choice.value type))
        (ofType type a.relationships)) ∧
    (∀ r q view, Destination.find r.method r.address = .endpoint (.question q) →
      Lists id a.relationships q view →
      (answer s now store r).response = (Response.ok (relationshipsJson view)).sealed) ∧
    (∀ r, Destination.find r.method r.address =
        .endpoint (.question (.relationshipValidation id)) →
      (answer s now store r).response =
        (Response.ok (relationshipVerdictJson a.relationships)).sealed) ∧
    ((relationshipsJson a.relationships).shown.canBeSent = true →
      (∀ r q view, Destination.find r.method r.address = .endpoint (.question q) →
        Lists id a.relationships q view →
        (answer s now store r).response = .ok (.array (view.map fun r => r.toJson.shown))) ∧
      ∀ r, Destination.find r.method r.address =
          .endpoint (.question (.relationshipValidation id)) →
        (answer s now store r).response = .ok (relationshipVerdictJson a.relationships).shown) := by
  have hview : ∀ r q view, Destination.find r.method r.address = .endpoint (.question q) →
      Lists id a.relationships q view →
      (answer s now store r).response = (Response.ok (relationshipsJson view)).sealed :=
    fun r q view hask hlists => response_of_lists s now hfound hlists hask
  have hverdict : ∀ r, Destination.find r.method r.address =
        .endpoint (.question (.relationshipValidation id)) →
      (answer s now store r).response =
        (Response.ok (relationshipVerdictJson a.relationships)).sealed :=
    fun r hask => response_about s now hask nofun rfl hfound
  refine ⟨viewsAgree a.relationships, fun category => .ofCategory ?_, fun type => .ofType ?_,
    hview, hverdict, fun hsent => ⟨?_, ?_⟩⟩
  · exact Choice.ofText?_of_spells (Choice.spells_value category)
  · exact Choice.ofText?_of_spells (Choice.spells_value type)
  · intro r q view hask hlists
    rw [hview r q view hask hlists, Response.sealed_ok (hlists.canBeSent hsent),
      Json.shown_relationshipsJson]
  · intro r hask
    rw [hverdict r hask, Response.sealed_ok (canBeSent_relationshipVerdict hsent)]

/-- Nothing but relationships of several types and categories. -/
def mixedArchitecture : Architecture :=
  { Architecture.ofDocument ⟨none, ModelText.defaultFilename, []⟩ with
    relationships := Relationships.servedFirst }

def structuralRequest : Request where
  method := .get
  address := .read "/api/v1/architectures/arch-Unknown/relationships/structural"
  body := ""

/-- The serving is left out, and the compositions come last in their old order. -/
theorem relationship_views_mixed :
    (Store.save .empty mixedArchitecture).find? ("arch-Unknown" : String) =
        some mixedArchitecture ∧
      ∃ view : List Relationship, view.map Relationship.uid = ["r5", "r3", "r2", "r4"] ∧
        (answer bareSurroundings "" (Store.save .empty mixedArchitecture)
          structuralRequest).response = .ok (.array (view.map fun r => r.toJson.shown)) := by
  have hfound : (Store.save .empty mixedArchitecture).find? ("arch-Unknown" : String) =
      some mixedArchitecture := by
    have huid : (("arch-Unknown" : String) : Text) = mixedArchitecture.uid := by decide
    rw [Store.find?_save, if_pos huid]
  have hask : Destination.find structuralRequest.method structuralRequest.address =
      .endpoint (.question (.structuralRelationships "arch-Unknown")) := by decide +kernel
  have hsent : (relationshipsJson mixedArchitecture.relationships).shown.canBeSent = true := by
    decide +kernel
  obtain ⟨hagree, -, -, -, -, hanswers⟩ := relationship_views bareSurroundings "" hfound
  refine ⟨hfound, structural mixedArchitecture.relationships, ?_, ?_⟩
  · rw [hagree.order]
    decide
  · exact (hanswers hsent).1 structuralRequest _ _ hask .structural

end Web

end Archimate
