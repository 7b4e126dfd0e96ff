import Archimate.Proofs.Relationship.PairReports

namespace Archimate.Relationships

variable {rs : List Relationship} {r : Relationship}

def structuralPart (rs : List Relationship) : List Relationship :=
  rs.filter fun r => r.category = .structural

theorem mem_structuralPart : r ∈ structuralPart rs ↔ r ∈ rs ∧ r.category = .structural := by
  unfold structuralPart
  rw [List.mem_filter, decide_eq_true_iff]

theorem structuralEdges_structuralPart (rs : List Relationship) :
    structuralEdges (structuralPart rs) = structuralEdges rs := by
  have hkept : ∀ r ∈ rs, (r.type.isStructural && decide (r.category = .structural)) =
      r.type.isStructural := by
    intro r _
    rw [Bool.eq_iff_iff, Bool.and_eq_true, decide_eq_true_iff, isStructural_iff, and_self]
  unfold structuralEdges structuralPart
  rw [List.filter_filter, List.filter_congr hkept]

theorem cycleFindings_structuralPart (rs : List Relationship) :
    cycleFindings (structuralPart rs) = cycleFindings rs := by
  unfold cycleFindings structuralGraph
  rw [structuralEdges_structuralPart]

/-- Two relationships in conflict are both structural, so each report keeps those that cause it. -/
theorem pairFindings_structuralPart (rs : List Relationship) :
    (pairFindings (structuralPart rs)).Perm (pairFindings rs) := by
  apply (List.perm_ext_iff_of_nodup (nodup_pairFindings _) (nodup_pairFindings _)).mpr
  intro f
  simp only [mem_pairFindings, mem_structuralPart]
  constructor
  · rintro ⟨r, ⟨hr, -⟩, s, ⟨hs, -⟩, hreport⟩
    exact ⟨r, hr, s, hs, hreport⟩
  · rintro ⟨r, hr, s, hs, hc, hreport⟩
    obtain ⟨hsource, hother, -⟩ := hc.structural
    exact ⟨r, ⟨hr, hsource⟩, s, ⟨hs, hother⟩, hc, hreport⟩

theorem errorsOf_pairRule_structuralPart {rule : Rule} (hrule : IsPairRule rule) :
    ((validate (structuralPart rs)).errorsOf rule).Perm ((validate rs).errorsOf rule) := by
  rw [errorsOf_pairRule hrule, errorsOf_pairRule hrule]
  exact (pairFindings_structuralPart rs).filter _

theorem value_category :
    Choice.value RelationshipCategory.structural = "structural" ∧
    Choice.value RelationshipCategory.dynamic = "dynamic" ∧
    Choice.value RelationshipCategory.dependency = "dependency" ∧
    Choice.value RelationshipCategory.other = "other" := by
  decide +kernel

theorem entries_categoryCounts (rs : List Relationship) :
    (categoryCounts rs).entries =
      [("structural", rs.countP fun r => r.category == .structural),
       ("dynamic", rs.countP fun r => r.category == .dynamic),
       ("dependency", rs.countP fun r => r.category == .dependency),
       ("other", rs.countP fun r => r.category == .other)] := by
  obtain ⟨hstructural, hdynamic, hdependency, hother⟩ := value_category
  have hmembers : (Choice.members : List RelationshipCategory) =
      [.structural, .dynamic, .dependency, .other] := rfl
  unfold categoryCounts
  rw [hmembers]
  simp only [List.map_cons, List.map_nil, hstructural, hdynamic, hdependency, hother]
  apply Dictionary.entries_ofList_of_nodup
  simp only [List.map_cons, List.map_nil]
  decide

/-- Every relationship that is left counts as structural. -/
theorem countP_structuralPart (rs : List Relationship) (category : RelationshipCategory) :
    (structuralPart rs).countP (fun r => r.category == category) =
      if category = .structural then (structuralPart rs).length else 0 := by
  split
  · rename_i hcategory
    rw [List.countP_eq_length]
    intro r hr
    rw [hcategory, beq_iff_eq]
    exact (mem_structuralPart.mp hr).2
  · rename_i hcategory
    rw [List.countP_eq_zero]
    intro r hr
    rw [beq_iff_eq, (mem_structuralPart.mp hr).2]
    exact fun h => hcategory h.symm

theorem countP_structural (rs : List Relationship) :
    rs.countP (fun r => r.category == .structural) = (structuralPart rs).length := by
  unfold structuralPart
  rw [List.countP_eq_length_filter]
  rfl

/-- Relationships of other categories neither cause nor hide what is found of structural ones: with
the structural part alone the same cycles are reported in the same order and the same pairs by each
rule, and it is counted as before. -/
theorem validate_structuralPart (rs : List Relationship) :
    (validate (structuralPart rs)).errorsOf .circularDependency =
      (validate rs).errorsOf .circularDependency ∧
    ((validate (structuralPart rs)).errorsOf .compositionAggregation).Perm
      ((validate rs).errorsOf .compositionAggregation) ∧
    ((validate (structuralPart rs)).errorsOf .multipleStructural).Perm
      ((validate rs).errorsOf .multipleStructural) ∧
    ∃ count, (validate rs).categories.find? "structural" = some count ∧
      (validate (structuralPart rs)).categories.entries =
        [("structural", count), ("dynamic", 0), ("dependency", 0), ("other", 0)] := by
  have hcount := entries_categoryCounts rs
  rw [countP_structural] at hcount
  have hkept := entries_categoryCounts (structuralPart rs)
  simp only [countP_structuralPart] at hkept
  refine ⟨?_, errorsOf_pairRule_structuralPart (Or.inl rfl),
    errorsOf_pairRule_structuralPart (Or.inr rfl), (structuralPart rs).length, ?_, hkept⟩
  · rw [errorsOf_circularDependency, errorsOf_circularDependency, cycleFindings_structuralPart]
  · apply Dictionary.find?_eq_some_iff.mpr
    show _ ∈ (categoryCounts rs).entries
    rw [hcount]
    exact List.mem_cons_self

/-- A serving in front gives its pair the first place among the groups. -/
def servedFirst : List Relationship :=
  [{ uid := "r1", type := .serving, source := "c", target := "d" },
   { uid := "r2", type := .composition, source := "a", target := "b" },
   { uid := "r3", type := .realization, source := "a", target := "b" },
   { uid := "r4", type := .composition, source := "c", target := "d" },
   { uid := "r5", type := .assignment, source := "c", target := "d" }]

example : (groups servedFirst).keys = ["c-d", "a-b"] ∧
    (groups (structuralPart servedFirst)).keys = ["a-b", "c-d"] := by
  decide

end Archimate.Relationships
