import Archimate.Proofs.Relationship.Cycles
import Archimate.Proofs.Relationship.Pairs
import Mathlib.Data.List.Perm.Basic

namespace Archimate

/-- Both verdicts are valid or neither is, the same findings occur in both, and cycles are reported
by both or by neither. -/
structure Verdict.Agrees (v w : Verdict) : Prop where
  isValid_eq : v.isValid = w.isValid
  mem_errors_iff : ∀ f : Finding, f.rule ≠ .circularDependency → (f ∈ v.errors ↔ f ∈ w.errors)
  cyclic_iff : (∃ f ∈ v.errors, f.rule = .circularDependency) ↔
    ∃ f ∈ w.errors, f.rule = .circularDependency

def Verdict.acyclicErrors (v : Verdict) : List Finding :=
  v.errors.filter fun f => f.rule ≠ .circularDependency

theorem Verdict.isValid_iff {v : Verdict} : v.isValid = true ↔ ∀ f, f ∉ v.errors := by
  unfold Verdict.isValid
  rw [List.isEmpty_iff, List.eq_nil_iff_forall_not_mem]

namespace Relationships

variable {rs ss : List Relationship}

theorem acyclicErrors_validate (rs : List Relationship) :
    (validate rs).acyclicErrors = rs.flatMap Relationship.ownFindings ++ pairFindings rs := by
  have hfirst : (rs.flatMap Relationship.ownFindings ++ pairFindings rs).filter
      (fun f => f.rule ≠ .circularDependency) =
      rs.flatMap Relationship.ownFindings ++ pairFindings rs := by
    apply List.filter_eq_self.mpr
    intro f hf
    simp [rule_ne_circularDependency hf]
  have hlast : (cycleFindings rs).filter (fun f => f.rule ≠ .circularDependency) = [] := by
    apply List.filter_eq_nil_iff.mpr
    intro f hf
    simp [rule_of_mem_cycleFindings hf]
  unfold Verdict.acyclicErrors validate findings
  rw [List.filter_append, hfirst, hlast, List.append_nil]

theorem pairFindings_perm (h : ∀ r, r ∈ rs ↔ r ∈ ss) :
    (pairFindings rs).Perm (pairFindings ss) := by
  have hkeys : ((rs.map Relationship.pairText).eraseDups).Perm
      ((ss.map Relationship.pairText).eraseDups) := by
    apply (List.perm_ext_iff_of_nodup (nodup_eraseDups _) (nodup_eraseDups _)).mpr
    intro pair
    simp only [List.mem_eraseDups, List.mem_map, h]
  have hgroups : ∀ pair, groupFindings pair (withPair rs pair) =
      groupFindings pair (withPair ss pair) := by
    intro pair
    apply groupFindings_congr_mem
    intro r
    rw [mem_withPair, mem_withPair, h]
  rw [pairFindings_eq, pairFindings_eq]
  simp only [hgroups]
  exact hkeys.flatMap_right _

theorem structuralEdge_congr_mem (h : ∀ r, r ∈ rs ↔ r ∈ ss) :
    StructuralEdge rs = StructuralEdge ss := by
  funext a b
  unfold StructuralEdge
  simp only [h]

theorem exists_cycle_iff : (∃ f ∈ (validate rs).errors, f.rule = .circularDependency) ↔
    cycleFindings rs ≠ [] := by
  rw [← errorsOf_circularDependency, ne_eq, List.eq_nil_iff_forall_not_mem, not_forall]
  simp only [mem_errorsOf, not_not]

theorem forall_not_mem_errors_iff {v : Verdict} : (∀ f, f ∉ v.errors) ↔
    (∀ f : Finding, f.rule ≠ .circularDependency → f ∉ v.errors) ∧
      ¬∃ f ∈ v.errors, f.rule = .circularDependency := by
  constructor
  · intro hnone
    exact ⟨fun f _ => hnone f, fun ⟨f, hf, _⟩ => hnone f hf⟩
  · rintro ⟨hother, hcycle⟩ f hf
    by_cases hrule : f.rule = .circularDependency
    · exact hcycle ⟨f, hf, hrule⟩
    · exact hother f hrule hf

theorem categoryCounts_perm (h : rs.Perm ss) : categoryCounts rs = categoryCounts ss := by
  unfold categoryCounts
  simp only [h.countP_eq]

/-- The verdict depends on the members alone; the errors of a permuted list are permuted, cycles
apart, and its categories are counted alike. -/
theorem validate_congr_mem (rs ss : List Relationship) (h : ∀ r, r ∈ rs ↔ r ∈ ss) :
    (validate rs).Agrees (validate ss) ∧
    (rs.Perm ss → (validate rs).acyclicErrors.Perm (validate ss).acyclicErrors ∧
      (validate rs).categories = (validate ss).categories) := by
  have hpairs := pairFindings_perm h
  have hcyclic : (∃ f ∈ (validate rs).errors, f.rule = .circularDependency) ↔
      ∃ f ∈ (validate ss).errors, f.rule = .circularDependency := by
    rw [exists_cycle_iff, exists_cycle_iff, ne_eq, ne_eq, cycleFindings_eq_nil_iff,
      cycleFindings_eq_nil_iff, structuralEdge_congr_mem h]
  have hmem : ∀ f : Finding, f.rule ≠ .circularDependency →
      (f ∈ (validate rs).errors ↔ f ∈ (validate ss).errors) := by
    intro f hf
    have hcycle : ∀ ts : List Relationship, f ∉ cycleFindings ts :=
      fun ts hm => hf (rule_of_mem_cycleFindings hm)
    simp only [mem_errors_validate, h, hpairs.mem_iff, hcycle, or_false]
  have hvalid : (∀ f, f ∉ (validate rs).errors) ↔ ∀ f, f ∉ (validate ss).errors := by
    rw [forall_not_mem_errors_iff, forall_not_mem_errors_iff, hcyclic]
    apply and_congr_left'
    exact forall₂_congr fun f hf => not_congr (hmem f hf)
  refine ⟨⟨?_, hmem, hcyclic⟩, fun hperm => ⟨?_, categoryCounts_perm hperm⟩⟩
  · rw [Bool.eq_iff_iff, Verdict.isValid_iff, Verdict.isValid_iff]
    exact hvalid
  · rw [acyclicErrors_validate, acyclicErrors_validate]
    exact (hperm.flatMap_right _).append hpairs

/-- A flow without a type, and a cycle of two that is also a conflict. -/
def tangled : List Relationship :=
  [{ uid := "r1", type := .flow, source := "a", target := "b" },
   { uid := "r2", type := .composition, source := "a", target := "b" },
   { uid := "r3", type := .aggregation, source := "a", target := "b" },
   { uid := "r4", type := .composition, source := "b", target := "a" }]

theorem validate_congr_mem_reverse :
    (∀ r, r ∈ tangled ↔ r ∈ tangled.reverse) ∧
    (validate tangled).Agrees (validate tangled.reverse) ∧
    (validate tangled).acyclicErrors.Perm (validate tangled.reverse).acyclicErrors ∧
    (validate tangled).categories = (validate tangled.reverse).categories := by
  have hmem : ∀ r, r ∈ tangled ↔ r ∈ tangled.reverse := fun r => List.mem_reverse.symm
  have h := validate_congr_mem tangled tangled.reverse hmem
  exact ⟨hmem, h.1, h.2 (List.reverse_perm tangled).symm⟩

end Relationships

end Archimate
