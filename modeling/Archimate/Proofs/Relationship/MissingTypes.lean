import Archimate.Proofs.Architecture.Filing
import Archimate.Proofs.Relationship.Findings

namespace Archimate

namespace Record

/-- The record gives the type: its field `relationshipType` chooses it, or that field is absent and
`type` chooses it. -/
def GivesType (r : Record) (type : RelationshipType) : Prop :=
  Choice.ofLiteral? (r.value? "relationshipType") = some type ∨
    r.value? "relationshipType" = none ∧ Choice.ofLiteral? (r.value? "type") = some type

/-- The field is absent, or its value chooses no member. -/
def Lacks (α : Type) [Choice α] (r : Record) (key : Text) : Prop :=
  r.value? key = none ∨
    ∃ literal ∈ r.value? key, Choice.ofLiteral? (some literal) = (none : Option α)

instance (r : Record) (type : RelationshipType) : Decidable (r.GivesType type) :=
  inferInstanceAs (Decidable (_ ∨ _))

instance (α : Type) [Choice α] (r : Record) (key : Text) : Decidable (r.Lacks α key) :=
  inferInstanceAs (Decidable (_ ∨ _))

def missingTypeFinding (rule : Rule) (field : String) (uid : Text) : Finding where
  rule := rule
  message := rule.description
  field := some field
  element := some uid

def missingType? (r : Record) : Option Finding :=
  (r.text? "uid").bind fun uid =>
    if r.GivesType .flow ∧ r.Lacks FlowType "flowType" then
      some (missingTypeFinding .flowTypeMissing "flowType" uid)
    else if r.GivesType .access ∧ r.Lacks AccessType "accessType" then
      some (missingTypeFinding .accessTypeMissing "accessType" uid)
    else none

variable {r : Record} {type : RelationshipType}

theorem lacks_iff {α : Type} [Choice α] {key : Text} :
    r.Lacks α key ↔ Choice.ofLiteral? (r.value? key) = (none : Option α) := by
  unfold Lacks
  cases r.value? key with
  | none => simp [Choice.ofLiteral?]
  | some literal => simp

theorem givesType_iff (htype : type ≠ .association) :
    r.GivesType type ↔
      (Choice.ofLiteral? (Relationship.typeField r)).getD .association = type := by
  have hchosen : ∀ choice : Option RelationshipType,
      choice.getD .association = type ↔ choice = some type := by
    intro choice
    cases choice with
    | none => simp [htype.symm]
    | some chosen => simp
  rw [hchosen]
  unfold GivesType Relationship.typeField
  cases r.value? "relationshipType" with
  | none => simp [Choice.ofLiteral?]
  | some literal => simp

end Record

/-- The codes of the two rules on missing types. -/
def Finding.reportsMissingType (f : Finding) : Bool :=
  f.code == "REL_001" || f.code == "REL_002"

theorem Finding.reportsMissingType_iff {f : Finding} :
    f.reportsMissingType = true ↔ f.rule = .flowTypeMissing ∨ f.rule = .accessTypeMissing := by
  unfold Finding.reportsMissingType Finding.code
  cases f.rule <;> decide

namespace Relationship

theorem ownFindings_eq (r : Relationship) :
    r.ownFindings =
      if r.type = .flow ∧ r.flow = none then [incompleteFinding .flowTypeMissing "flowType" r]
      else if r.type = .access ∧ r.access = none then
        [incompleteFinding .accessTypeMissing "accessType" r]
      else [] := by
  obtain ⟨uid, type, source, target, description, properties, flow, access⟩ := r
  -- Only the type and whether its own field is there decide, so all cases compute.
  cases type <;> cases flow <;> cases access <;> rfl

/-- The findings of a record's relationship can be told from the record alone. -/
theorem flatMap_ownFindings_ofRecord? (r : Record) :
    (ofRecord? r).toList.flatMap ownFindings = r.missingType?.toList := by
  unfold ofRecord? Record.missingType?
  cases r.text? "uid" with
  | none => rfl
  | some uid =>
    rw [Option.map_some, Option.toList_some, List.flatMap_singleton, Option.bind_some,
      ownFindings_eq]
    simp only [Record.givesType_iff (show RelationshipType.flow ≠ .association by decide),
      Record.givesType_iff (show RelationshipType.access ≠ .association by decide),
      Record.lacks_iff]
    split
    · rfl
    · split <;> rfl

end Relationship

namespace Relationships

theorem flatMap_ownFindings_relationshipsOf (records : List Record) :
    (relationshipsOf records).flatMap Relationship.ownFindings =
      records.filterMap Record.missingType? := by
  unfold relationshipsOf
  rw [List.filterMap_eq_flatMap_toList, List.filterMap_eq_flatMap_toList, List.flatMap_assoc]
  exact List.flatMap_congr fun r _ => Relationship.flatMap_ownFindings_ofRecord? r

variable {rs : List Relationship} {f : Finding}

theorem reportsMissingType_of_own (h : f ∈ rs.flatMap Relationship.ownFindings) :
    f.reportsMissingType = true := by
  obtain ⟨r, -, hr⟩ := List.mem_flatMap.mp h
  exact Finding.reportsMissingType_iff.mpr (rule_of_mem_ownFindings hr)

theorem not_reportsMissingType_of_later (h : f ∈ pairFindings rs ++ cycleFindings rs) :
    f.reportsMissingType = false := by
  rw [← Bool.not_eq_true, Finding.reportsMissingType_iff]
  rcases List.mem_append.mp h with h | h
  · rcases rule_of_mem_pairFindings h with h | h <;> simp [h]
  · simp [rule_of_mem_cycleFindings h]

end Relationships

namespace Architecture
open Relationships

/-- The reports of missing types are those of the relationship records, in their order, and all
other findings come after them. -/
theorem missing_types_reported (business application technology : List Document) :
    let records := ((business ++ application ++ technology).flatMap Document.objects).filter
      Record.isRelationship
    let errors :=
      (Relationships.validate (merge business application technology).relationships).errors
    errors.filter Finding.reportsMissingType = records.filterMap Record.missingType? ∧
      ∃ others, errors = records.filterMap Record.missingType? ++ others ∧
        ∀ f ∈ others, f.reportsMissingType = false := by
  intro records errors
  set rs := (merge business application technology).relationships with hrs
  have hown : rs.flatMap Relationship.ownFindings = records.filterMap Record.missingType? := by
    rw [hrs, relationships_merge]
    exact flatMap_ownFindings_relationshipsOf records
  have herrors : errors =
      records.filterMap Record.missingType? ++ (pairFindings rs ++ cycleFindings rs) := by
    rw [← hown, ← List.append_assoc]
    rfl
  have hfirst : ∀ f ∈ records.filterMap Record.missingType?, f.reportsMissingType = true := by
    rw [← hown]
    exact fun f => reportsMissingType_of_own
  have hothers : ∀ f ∈ pairFindings rs ++ cycleFindings rs, f.reportsMissingType = false :=
    fun f => not_reportsMissingType_of_later
  refine ⟨?_, _, herrors, hothers⟩
  rw [herrors, List.filter_append, List.filter_eq_self.mpr hfirst,
    List.filter_eq_nil_iff.mpr fun f hf => by simp [hothers f hf], List.append_nil]

/-- A flow type that is a number, a flow type that is known, and a misspelt access type. -/
def wiring : Document where
  moduleName := some "wiring"
  source := "wiring.pkl"
  objects := [
    ⟨"feed", "Relationship", .ofList [("uid", .text "feed"), ("relationshipType", .text "FLOW"),
      ("flowType", .whole 3)]⟩,
    ⟨"pipe", "Relationship", .ofList [("uid", .text "pipe"), ("type", .text "Flow"),
      ("flowType", .text "data")]⟩,
    ⟨"use", "Relationship", .ofList [("uid", .text "use"), ("type", .text "access"),
      ("accessType", .text "red")]⟩]

theorem missing_types_reported_wiring :
    (Relationships.validate (merge [] [wiring] []).relationships).errors.filter
        Finding.reportsMissingType =
      [Record.missingTypeFinding .flowTypeMissing "flowType" "feed",
        Record.missingTypeFinding .accessTypeMissing "accessType" "use"] :=
  (missing_types_reported [] [wiring] []).1.trans (by decide)

end Architecture

end Archimate
