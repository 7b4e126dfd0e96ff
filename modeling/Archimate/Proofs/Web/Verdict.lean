import Archimate.Proofs.Json.Findings
import Archimate.Proofs.Json.Properties
import Archimate.Proofs.Web.Question

namespace Archimate

/-- Whether a warning reports a rule about relationships. -/
def Json.isRelationshipWarning (warning : Json) : Bool :=
  match warning.member? "code" with
  | some (.string code) => ("REL_" : Text).isPrefixOf code
  | _ => false

def Json.relationshipWarnings (body : Json) : List Json :=
  (body.itemsOf "warnings").filter isRelationshipWarning

def Rule.IsRelationshipRule (rule : Rule) : Prop := ("REL_" : Text).isPrefixOf rule.code = true

instance (rule : Rule) : Decidable rule.IsRelationshipRule := inferInstanceAs (Decidable (_ = true))

theorem Finding.isRelationshipWarning_toJson (f : Finding) :
    f.toJson.isRelationshipWarning = ("REL_" : Text).isPrefixOf f.code := by
  have hcode : f.toJson.member? "code" = some (.string f.code) := by
    simp [Finding.toJson, Json.member?_named_cons]
  unfold Json.isRelationshipWarning
  rw [hcode]

namespace Relationships

variable {rs : List Relationship} {f : Finding}

theorem isValid_validate_iff : (validate rs).isValid = true ↔ findings rs = [] := List.isEmpty_iff

theorem isRelationshipRule_of_mem_findings (h : f ∈ findings rs) : f.rule.IsRelationshipRule := by
  rcases mem_errors_validate.mp h with ⟨r, -, hown⟩ | hpair | hcycle
  · rcases rule_of_mem_ownFindings hown with hrule | hrule <;> rw [hrule] <;> decide
  · rcases rule_of_mem_pairFindings hpair with hrule | hrule <;> rw [hrule] <;> decide
  · rw [rule_of_mem_cycleFindings hcycle]
    decide

end Relationships

namespace Architecture
open Json

variable (a : Architecture)

theorem isRelationshipWarning_duplicate {f : Finding} (h : f ∈ a.duplicateFindings) :
    f.toJson.isRelationshipWarning = false := by
  obtain ⟨⟨uid, count⟩, -, hfinding⟩ := List.mem_filterMap.mp h
  rw [Finding.isRelationshipWarning_toJson]
  dsimp only at hfinding
  split at hfinding <;> cases hfinding
  change ("REL_" : Text).isPrefixOf (Rule.duplicateUid.code : Text) = false
  decide

/-- The warnings about relationships are the findings about them, in the same order. -/
theorem relationshipWarnings_validate :
    a.validate.toJson.shown.relationshipWarnings =
      (Relationships.findings a.relationships).map Finding.toJson := by
  have hname : isInternal ("warnings" : Text) = false := by decide
  have hwarnings : a.validate.toJson.member? "warnings" =
      some (.array (a.validate.warnings.map Finding.toJson)) := by
    simp [Verdict.toJson, member?_named_cons, findingsJson]
  have hshown : (a.validate.warnings.map Finding.toJson).map shown =
      a.duplicateFindings.map Finding.toJson ++
        (Relationships.findings a.relationships).map Finding.toJson := by
    rw [List.map_map, ← List.map_append]
    apply List.map_congr_left
    intro f _
    exact shown_finding f
  unfold relationshipWarnings
  rw [itemsOf_shown hname hwarnings, hshown, List.filter_append]
  have hduplicates :
      (a.duplicateFindings.map Finding.toJson).filter isRelationshipWarning = [] := by
    apply List.filter_eq_nil_iff.mpr
    intro warning hwarning
    obtain ⟨f, hf, rfl⟩ := List.mem_map.mp hwarning
    rw [a.isRelationshipWarning_duplicate hf]
    exact Bool.false_ne_true
  have hfindings : ((Relationships.findings a.relationships).map Finding.toJson).filter
      isRelationshipWarning = (Relationships.findings a.relationships).map Finding.toJson := by
    apply List.filter_eq_self.mpr
    intro warning hwarning
    obtain ⟨f, hf, rfl⟩ := List.mem_map.mp hwarning
    rw [f.isRelationshipWarning_toJson]
    exact Relationships.isRelationshipRule_of_mem_findings hf
  rw [hduplicates, hfindings, List.nil_append]

end Architecture

namespace Web

variable {s : Surroundings} {store : Store} {r : Request} {a : Architecture} {id : String}

def Reply.warnings (reply : Reply) : List LogRecord :=
  reply.logs.filter fun record => record.level = .warning

theorem response_relationshipValidation (s : Surroundings) (now : String)
    (h : Destination.find r.method r.address = .endpoint (.question (.relationshipValidation id)))
    (hfound : store.find? id = some a) (hnames : a.NamesWritable) :
    (answer s now store r).response =
      .ok (Question.relationshipVerdictJson a.relationships).shown := by
  rw [response_about s now h nofun rfl hfound]
  exact Response.sealed_ok hnames.relationshipVerdict_sent

theorem response_validation_of_names (s : Surroundings) (now : String)
    (h : Destination.find r.method r.address = .endpoint (.question (.validation id)))
    (hfound : store.find? id = some a) (hnames : a.NamesWritable) :
    (answer s now store r).response = .ok a.validate.toJson.shown := by
  rw [response_about s now h nofun rfl hfound]
  exact Response.sealed_ok hnames.validation_sent

theorem member?_isValid_relationshipVerdict (rs : List Relationship) :
    (Question.relationshipVerdictJson rs).shown.member? "isValid" =
      some (.bool (Relationships.validate rs).isValid) := by
  have hname : Json.isInternal ("isValid" : Text) = false := by decide
  rw [Json.member?_shown hname]
  simp [Question.relationshipVerdictJson, Json.member?_named_cons, Json.shown]

theorem member?_errors_relationshipVerdict (rs : List Relationship) :
    (Question.relationshipVerdictJson rs).shown.member? "errors" =
      some (findingsJson (Relationships.findings rs)) := by
  have hname : Json.isInternal ("errors" : Text) = false := by decide
  rw [Json.member?_shown hname]
  simp [Question.relationshipVerdictJson, Json.member?_named_cons, Json.shown_findingsJson,
    Relationships.validate]

theorem reply_reload (now : String) (store : Store) (hload : s.source.loadAll.value = some a)
    (hsave : s.saveFault = none)
    (h : Destination.find r.method r.address = .endpoint (.change .reload)) :
    (answer s now store r).store = store.save a ∧
      (answer s now store r).logs = s.source.loadAll.logs ++ Service.reloadWarnings a := by
  have hreload : Service.reload s store =
      ⟨.ok [a], store.save a, s.source.loadAll.logs ++ Service.reloadWarnings a⟩ := by
    unfold Service.reload Service.write
    dsimp only
    rw [hload, hsave]
  unfold answer fullAnswer
  rw [h]
  dsimp only [Endpoint.answer, Change.answer, Change.answerReload]
  rw [hreload]
  exact ⟨rfl, rfl⟩

theorem reply_reload_none (now : String) (store : Store) (hload : s.source.loadAll.value = none)
    (h : Destination.find r.method r.address = .endpoint (.change .reload)) :
    (answer s now store r).store = store ∧
      (answer s now store r).logs = s.source.loadAll.logs := by
  have hreload : Service.reload s store = ⟨.ok [], store, s.source.loadAll.logs⟩ := by
    unfold Service.reload
    dsimp only
    rw [hload]
  unfold answer fullAnswer
  rw [h]
  dsimp only [Endpoint.answer, Change.answer, Change.answerReload]
  rw [hreload]
  exact ⟨rfl, rfl⟩

theorem warnings_of_loadAll (hmerge : s.source.mergeFault = none) :
    s.source.loadAll.logs.filter (fun record => record.level = .warning) = [] := by
  apply List.filter_eq_nil_iff.mpr
  intro record hrecord
  rw [ModelSource.level_of_mem_logs hmerge hrecord]
  decide

/-- The only warning of a reload is the one about findings. -/
theorem warnings_reload (now : String) (store : Store) (hmerge : s.source.mergeFault = none)
    (hload : s.source.loadAll.value = some a) (hsave : s.saveFault = none)
    (h : Destination.find r.method r.address = .endpoint (.change .reload)) :
    (answer s now store r).warnings = Service.reloadWarnings a := by
  have hwarnings : (Service.reloadWarnings a).filter
      (fun record => record.level = .warning) = Service.reloadWarnings a := by
    unfold Service.reloadWarnings
    split <;> simp [Service.findingsWarning]
  unfold Reply.warnings
  rw [(reply_reload now store hload hsave h).2, List.filter_append, warnings_of_loadAll hmerge,
    hwarnings, List.nil_append]

end Web

end Archimate
