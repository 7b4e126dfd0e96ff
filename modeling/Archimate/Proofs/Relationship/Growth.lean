import Archimate.Proofs.Architecture.Merge
import Archimate.Proofs.Relationship.Members
import Mathlib.Data.List.Perm.Subperm

namespace Archimate

/-- What one verdict reports, the other reports too: every error as often at least, cycles apart,
and cycles if there are any. -/
structure Verdict.FoundIn (v w : Verdict) : Prop where
  acyclicErrors_subperm : v.acyclicErrors.Subperm w.acyclicErrors
  cyclic : (∃ f ∈ v.errors, f.rule = .circularDependency) →
    ∃ f ∈ w.errors, f.rule = .circularDependency

namespace Verdict

variable {v w : Verdict} {f : Finding}

theorem mem_acyclicErrors : f ∈ v.acyclicErrors ↔ f ∈ v.errors ∧ f.rule ≠ .circularDependency := by
  unfold acyclicErrors
  rw [List.mem_filter, decide_eq_true_iff]

theorem FoundIn.mem_errors (h : v.FoundIn w) (hf : f ∈ v.errors)
    (hrule : f.rule ≠ .circularDependency) : f ∈ w.errors :=
  (mem_acyclicErrors.mp (h.acyclicErrors_subperm.subset (mem_acyclicErrors.mpr ⟨hf, hrule⟩))).1

theorem FoundIn.errors_ne_nil (h : v.FoundIn w) (hv : v.errors ≠ []) : w.errors ≠ [] := by
  obtain ⟨f, hf⟩ := List.exists_mem_of_ne_nil _ hv
  by_cases hrule : f.rule = .circularDependency
  · obtain ⟨g, hg, -⟩ := h.cyclic ⟨f, hf, hrule⟩
    exact List.ne_nil_of_mem hg
  · exact List.ne_nil_of_mem (h.mem_errors hf hrule)

end Verdict

namespace Relationships
open Relation

variable {rs ss : List Relationship}

/-- Two relationships that exclude each other still do so among others. -/
theorem pairFindings_subperm (h : rs ⊆ ss) : (pairFindings rs).Subperm (pairFindings ss) := by
  apply List.subperm_of_subset (nodup_pairFindings rs)
  intro f hf
  obtain ⟨r, hr, s, hs, hpair⟩ := mem_pairFindings.mp hf
  exact mem_pairFindings.mpr ⟨r, h hr, s, h hs, hpair⟩

theorem StructuralEdge.mono (h : rs ⊆ ss) {a b : Text} (hedge : StructuralEdge rs a b) :
    StructuralEdge ss a b := by
  obtain ⟨r, hr, hstructural⟩ := hedge
  exact ⟨r, h hr, hstructural⟩

/-- Whatever the search visits, it reports a cycle where there is one, and no cycle is lost. -/
theorem exists_cycle_mono (h : rs ⊆ ss)
    (hcycle : ∃ f ∈ (validate rs).errors, f.rule = .circularDependency) :
    ∃ f ∈ (validate ss).errors, f.rule = .circularDependency := by
  rw [exists_cycle_iff] at hcycle ⊢
  rw [ne_eq, cycleFindings_eq_nil_iff, not_forall_not] at hcycle ⊢
  obtain ⟨node, hnode⟩ := hcycle
  exact ⟨node, TransGen.mono (fun _ _ => StructuralEdge.mono h) _ _ hnode⟩

theorem foundIn_of_sublist (h : rs.Sublist ss) : (validate rs).FoundIn (validate ss) := by
  have hown : (rs.flatMap Relationship.ownFindings).Sublist (ss.flatMap Relationship.ownFindings) :=
    h.flatMap Relationship.ownFindings
  refine ⟨?_, exists_cycle_mono h.subset⟩
  rw [acyclicErrors_validate, acyclicErrors_validate]
  exact hown.subperm.append (pairFindings_subperm h.subset)

end Relationships

namespace Architecture

theorem sublist_relationships_merge {business application technology : List Document} {d : Document}
    (h : d ∈ business ++ application ++ technology) :
    (ofDocument d).relationships.Sublist
      (merge business application technology).relationships := by
  have hone : [d].Sublist (business ++ application ++ technology) := List.singleton_sublist.mpr h
  have hmapped := hone.flatMap fun d => (ofDocument d).relationships
  rw [List.flatMap_singleton] at hmapped
  rw [relationships_merge_eq_flatMap]
  exact hmapped

/-- Validation is monotone. What is found among some relationships is found among them and others,
wherever the others stand; so what is found in the architecture of a document is found in every
merge that includes the document. -/
theorem findings_persist :
    (∀ rs ss : List Relationship, rs.Sublist ss →
      (Relationships.validate rs).FoundIn (Relationships.validate ss)) ∧
    ∀ (business application technology : List Document) (d : Document),
      d ∈ business ++ application ++ technology →
        (Relationships.validate (ofDocument d).relationships).FoundIn
          (Relationships.validate (merge business application technology).relationships) ∧
        ((Relationships.validate (ofDocument d).relationships).errors ≠ [] →
          (Relationships.validate (merge business application technology).relationships).errors ≠
            []) := by
  refine ⟨fun rs ss h => Relationships.foundIn_of_sublist h, ?_⟩
  intro business application technology d hd
  have hfound := Relationships.foundIn_of_sublist (sublist_relationships_merge hd)
  exact ⟨hfound, hfound.errors_ne_nil⟩

/-- A flow without a type from the manager to the clerk. -/
def dispatch : Document where
  moduleName := some "dispatch"
  source := "dispatch.pkl"
  objects := [⟨"orders", "Relationship", .ofList [("uid", .text "orders"),
    ("relationshipType", .text "FLOW"), ("source", .text "manager"), ("target", .text "clerk")]⟩]

theorem findings_persist_dispatch :
    (Relationships.tangled.eraseIdx 1).Sublist Relationships.tangled ∧
    (Relationships.validate (Relationships.tangled.eraseIdx 1)).FoundIn
      (Relationships.validate Relationships.tangled) ∧
    dispatch ∈ [staff] ++ [dispatch] ++ [duties] ∧
    (Relationships.validate (ofDocument dispatch).relationships).errors ≠ [] ∧
    (Relationships.validate (merge [staff] [dispatch] [duties]).relationships).errors ≠ [] := by
  obtain ⟨hsublist, hmerge⟩ := findings_persist
  have herase := List.eraseIdx_sublist Relationships.tangled 1
  have hmem : dispatch ∈ [staff] ++ [dispatch] ++ [duties] := by simp
  have hfound : (Relationships.validate (ofDocument dispatch).relationships).errors ≠ [] := by
    decide
  exact ⟨herase, hsublist _ _ herase, hmem, hfound, (hmerge _ _ _ dispatch hmem).2 hfound⟩

end Architecture

end Archimate
