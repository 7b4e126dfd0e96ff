import Archimate.Proofs.Choice.Spelling
import Archimate.Proofs.Relationship.StructuralPart
import Archimate.Proofs.Sorting
import Archimate.Web.Answer.Question

namespace Archimate

namespace RelationshipType

def ofCategory (category : RelationshipCategory) : List RelationshipType :=
  (Choice.members : List RelationshipType).filter fun t => t.category == category

theorem nodup_members : (Choice.members : List RelationshipType).Nodup := by decide

theorem contains_ofCategory (category : RelationshipCategory) (t : RelationshipType) :
    (ofCategory category).contains t = (t.category == category) := by
  rw [Bool.eq_iff_iff, List.contains_iff_mem, ofCategory, List.mem_filter]
  exact and_iff_right (Choice.LawfulChoice.mem_members t)

theorem eq_iff_strength {t : RelationshipType} (h : t.category = .structural)
    (other : RelationshipType) :
    other = t ↔ other.category = .structural ∧ other.strength = t.strength := by
  revert h
  cases t <;> cases other <;> decide

theorem strengths_structural :
    (ofCategory .structural).map strength = [1, 2, 3, 4, 5] := by decide

end RelationshipType

theorem RelationshipCategory.nodup_members :
    (Choice.members : List RelationshipCategory).Nodup := by decide

namespace Web.Question

variable (rs : List Relationship)

theorem partition_ofType : Partition (fun type => ofType type rs) rs :=
  partition_filter Relationship.type rs

theorem partition_ofCategory : Partition (fun category => ofCategory category rs) rs :=
  partition_filter Relationship.category rs

theorem ofCategory_perm (category : RelationshipCategory) :
    (ofCategory category rs).Perm
      ((RelationshipType.ofCategory category).flatMap fun type => ofType type rs) := by
  have hkeys : (RelationshipType.ofCategory category).Nodup :=
    RelationshipType.nodup_members.filter _
  refine ((flatMap_filter_perm hkeys Relationship.type rs).trans (.of_eq ?_)).symm
  exact List.filter_congr fun r _ => RelationshipType.contains_ofCategory category r.type

theorem sum_length_ofCategory :
    (ofCategory .structural rs).length + (ofCategory .dynamic rs).length +
      (ofCategory .dependency rs).length + (ofCategory .other rs).length = rs.length := by
  have hall : (rs.filter fun r =>
      (Choice.members : List RelationshipCategory).contains r.category) = rs := by
    refine List.filter_eq_self.mpr fun r _ => ?_
    exact List.contains_iff_mem.mpr (Choice.LawfulChoice.mem_members r.category)
  have hperm := flatMap_filter_perm RelationshipCategory.nodup_members Relationship.category rs
  have hmembers : (Choice.members : List RelationshipCategory) =
      [.structural, .dynamic, .dependency, .other] := rfl
  rw [hall, hmembers] at hperm
  have hlength := hperm.length_eq
  simp only [List.flatMap_cons, List.flatMap_nil, List.append_nil, List.length_append] at hlength
  unfold ofCategory
  omega

theorem stableSort_structural :
    StableSort Relationship.strength (ofCategory .structural rs) (structural rs) :=
  stableSort_mergeSort _ _

theorem filter_strength_ofCategory {t : RelationshipType} (h : t.category = .structural) :
    ((ofCategory .structural rs).filter fun r => r.strength == t.strength) = ofType t rs := by
  unfold ofCategory ofType
  rw [List.filter_filter]
  refine List.filter_congr fun r _ => ?_
  rw [Bool.eq_iff_iff, Bool.and_eq_true, beq_iff_eq, beq_iff_eq, beq_iff_eq, and_comm]
  exact (RelationshipType.eq_iff_strength h r.type).symm

/-- The sorted view is the lists of the structural types, the weakest type first. -/
theorem structural_eq_flatMap :
    structural rs =
      (RelationshipType.ofCategory .structural).flatMap fun type => ofType type rs := by
  have hranks : ((RelationshipType.ofCategory .structural).map
      RelationshipType.strength).Pairwise (· < ·) := by
    rw [RelationshipType.strengths_structural]
    decide
  have hall : ∀ r ∈ ofCategory .structural rs, r.strength ∈
      (RelationshipType.ofCategory .structural).map RelationshipType.strength := by
    intro r hr
    refine List.mem_map_of_mem (List.contains_iff_mem.mp ?_)
    rw [RelationshipType.contains_ofCategory]
    exact (List.mem_filter.mp hr).2
  rw [(stableSort_structural rs).eq_flatMap hranks hall, List.flatMap_map]
  refine List.flatMap_congr fun t ht => filter_strength_ofCategory rs ?_
  exact beq_iff_eq.mp (List.mem_filter.mp ht).2

theorem structural_subset : structural rs ⊆ rs :=
  fun _ hr => List.mem_of_mem_filter ((stableSort_structural rs).perm.mem_iff.mp hr)

theorem find?_categoryCounts (category : RelationshipCategory) :
    (Relationships.categoryCounts rs).find? (Choice.value category) =
      some (ofCategory category rs).length := by
  obtain ⟨hstructural, hdynamic, hdependency, hother⟩ := Relationships.value_category
  rw [Dictionary.find?_eq_some_iff, Relationships.entries_categoryCounts]
  unfold ofCategory
  rw [← List.countP_eq_length_filter]
  cases category <;> simp [*]

end Web.Question

end Archimate
