import Archimate.Relationship.Validation

namespace Archimate

def Verdict.errorsOf (v : Verdict) (rule : Rule) : List Finding :=
  v.errors.filter fun f => f.rule = rule

namespace Relationships

/-- The rules that compare the relationships of one pair of ends. -/
def IsPairRule (rule : Rule) : Prop :=
  rule = .compositionAggregation ∨ rule = .multipleStructural

variable {rs : List Relationship} {f : Finding}

theorem rule_of_mem_ownFindings {r : Relationship} (h : f ∈ r.ownFindings) :
    f.rule = .flowTypeMissing ∨ f.rule = .accessTypeMissing := by
  unfold Relationship.ownFindings at h
  split at h
  · simp at h
  · split at h
    · exact Or.inl (List.mem_singleton.mp h ▸ rfl)
    · exact Or.inr (List.mem_singleton.mp h ▸ rfl)
    · simp at h

theorem rule_of_mem_groupFindings {pair : Text} {group : List Relationship}
    (h : f ∈ groupFindings pair group) : IsPairRule f.rule := by
  unfold groupFindings at h
  split at h
  · simp at h
  · rcases List.mem_append.mp h with h | h
    · split at h
      · exact Or.inl (List.mem_singleton.mp h ▸ rfl)
      · simp at h
    · split at h
      · exact Or.inr (List.mem_singleton.mp h ▸ rfl)
      · simp at h

theorem rule_of_mem_pairFindings (h : f ∈ pairFindings rs) : IsPairRule f.rule := by
  obtain ⟨entry, _, hf⟩ := List.mem_flatMap.mp h
  exact rule_of_mem_groupFindings hf

theorem rule_of_mem_cycleFindings (h : f ∈ cycleFindings rs) : f.rule = .circularDependency := by
  obtain ⟨node, _, rfl⟩ := List.mem_map.mp h
  rfl

theorem rule_ne_circularDependency
    (h : f ∈ rs.flatMap Relationship.ownFindings ++ pairFindings rs) :
    f.rule ≠ .circularDependency := by
  rcases List.mem_append.mp h with h | h
  · obtain ⟨r, _, hown⟩ := List.mem_flatMap.mp h
    rcases rule_of_mem_ownFindings hown with h | h <;> simp [h]
  · rcases rule_of_mem_pairFindings h with h | h <;> simp [h]

theorem mem_errors_validate : f ∈ (validate rs).errors ↔
    (∃ r ∈ rs, f ∈ r.ownFindings) ∨ f ∈ pairFindings rs ∨ f ∈ cycleFindings rs := by
  simp only [validate, findings, List.mem_append, List.mem_flatMap, or_assoc]

theorem mem_errorsOf {v : Verdict} {rule : Rule} :
    f ∈ v.errorsOf rule ↔ f ∈ v.errors ∧ f.rule = rule := by
  simp [Verdict.errorsOf]

theorem mem_errorsOf_pairRule {rule : Rule} (hrule : IsPairRule rule) :
    f ∈ (validate rs).errorsOf rule ↔ f ∈ pairFindings rs ∧ f.rule = rule := by
  rw [mem_errorsOf, mem_errors_validate]
  constructor
  · rintro ⟨⟨r, _, hown⟩ | hpair | hcycle, rfl⟩
    · rcases rule_of_mem_ownFindings hown with h | h <;> rw [h] at hrule <;>
        rcases hrule with hrule | hrule <;> cases hrule
    · exact ⟨hpair, rfl⟩
    · rw [rule_of_mem_cycleFindings hcycle] at hrule
      rcases hrule with hrule | hrule <;> cases hrule
  · rintro ⟨hpair, hrule⟩
    exact ⟨Or.inr (Or.inl hpair), hrule⟩

theorem errorsOf_circularDependency :
    (validate rs).errorsOf .circularDependency = cycleFindings rs := by
  have hfirst : (rs.flatMap Relationship.ownFindings ++ pairFindings rs).filter
      (fun f => f.rule = .circularDependency) = [] := by
    apply List.filter_eq_nil_iff.mpr
    intro f hf
    simp [rule_ne_circularDependency hf]
  have hlast : (cycleFindings rs).filter (fun f => f.rule = .circularDependency) =
      cycleFindings rs := by
    apply List.filter_eq_self.mpr
    intro f hf
    simp [rule_of_mem_cycleFindings hf]
  unfold Verdict.errorsOf validate findings
  rw [List.filter_append, hfirst, hlast, List.nil_append]

end Relationships

end Archimate
