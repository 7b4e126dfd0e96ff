import Archimate.Proofs.Digraph.CycleRoots
import Archimate.Proofs.Digraph.Edges
import Archimate.Proofs.Relationship.Findings

namespace Archimate.Relationships
open Relation

variable {rs : List Relationship}

/-- Some structural relationship leads from the first node to the second. -/
def StructuralEdge (rs : List Relationship) (a b : Text) : Prop :=
  ∃ r ∈ rs, r.category = .structural ∧ r.source = a ∧ r.target = b

def structuralSources (rs : List Relationship) : List Text :=
  (rs.filter fun r => r.category = .structural).map Relationship.source

theorem isStructural_iff (r : Relationship) :
    r.type.isStructural = true ↔ r.category = .structural := by
  unfold RelationshipType.isStructural Relationship.category
  exact beq_iff_eq

theorem mem_structuralEdges {edge : Text × Text} :
    edge ∈ structuralEdges rs ↔ StructuralEdge rs edge.1 edge.2 := by
  simp only [structuralEdges, List.mem_map, List.mem_filter, isStructural_iff, Prod.ext_iff,
    StructuralEdge, and_assoc]

theorem edge_structuralGraph : (structuralGraph rs).Edge = StructuralEdge rs := by
  funext a b
  apply propext
  unfold Digraph.Edge structuralGraph
  rw [Digraph.mem_targets_ofEdges]
  exact mem_structuralEdges

theorem map_fst_structuralEdges (rs : List Relationship) :
    (structuralEdges rs).map Prod.fst = structuralSources rs := by
  unfold structuralSources structuralEdges
  rw [List.map_map]
  apply congrArg
  apply List.filter_congr
  intro r _
  rw [Bool.eq_iff_iff, isStructural_iff, decide_eq_true_iff]

theorem keys_structuralGraph : (structuralGraph rs).keys = (structuralSources rs).eraseDups := by
  rw [← map_fst_structuralEdges]
  exact Digraph.keys_ofEdges (structuralEdges rs)

theorem filterMap_element_cycleFindings :
    (cycleFindings rs).filterMap Finding.element = (structuralGraph rs).cycleRoots := by
  unfold cycleFindings
  rw [List.filterMap_map]
  exact List.filterMap_some

theorem mem_cycleFindings {f : Finding} :
    f ∈ cycleFindings rs ↔ ∃ root ∈ (structuralGraph rs).cycleRoots, cycleFinding root = f :=
  List.mem_map

/-- No cycle is reported exactly where there is none. -/
theorem cycleFindings_eq_nil_iff :
    cycleFindings rs = [] ↔ ∀ node, ¬TransGen (StructuralEdge rs) node node := by
  unfold cycleFindings
  rw [List.map_eq_nil_iff, Digraph.cycleRoots_eq_nil_iff, ← edge_structuralGraph]
  rfl

theorem cycleRoots_sublist_sources (rs : List Relationship) :
    (structuralGraph rs).cycleRoots.Sublist (structuralSources rs).eraseDups := by
  rw [← keys_structuralGraph]
  exact Digraph.cycleRootsFrom_sublist _

/-- Cycle reports are sound and complete: each names a source from which a cycle is reached, every
cycle is reached from a reported source, and the sources are distinct and in the order in which they
first occur. -/
theorem errorsOf_circularDependency_sound_complete (rs : List Relationship) :
    (∀ f ∈ (validate rs).errorsOf .circularDependency, ∃ root ∈ structuralSources rs,
      f.element = some root ∧ ∃ node, ReflTransGen (StructuralEdge rs) root node ∧
        TransGen (StructuralEdge rs) node node) ∧
    (∀ node, TransGen (StructuralEdge rs) node node →
      ∃ f ∈ (validate rs).errorsOf .circularDependency, ∃ root, f.element = some root ∧
        ReflTransGen (StructuralEdge rs) root node) ∧
    ((validate rs).errorsOf .circularDependency = [] ↔
      ∀ node, ¬TransGen (StructuralEdge rs) node node) ∧
    (((validate rs).errorsOf .circularDependency).filterMap Finding.element).Nodup ∧
    (((validate rs).errorsOf .circularDependency).filterMap Finding.element).Pairwise fun a b =>
      (structuralSources rs).idxOf a < (structuralSources rs).idxOf b := by
  have hsub := cycleRoots_sublist_sources rs
  rw [errorsOf_circularDependency, filterMap_element_cycleFindings]
  refine ⟨?_, ?_, cycleFindings_eq_nil_iff, hsub.nodup (nodup_eraseDups _),
    (pairwise_idxOf_eraseDups _).sublist hsub⟩
  · intro f hf
    obtain ⟨root, hroot, rfl⟩ := mem_cycleFindings.mp hf
    obtain ⟨node, hreach, hcycle⟩ := Digraph.onCycle_of_mem_cycleRootsFrom hroot
    unfold Digraph.Reaches at hreach
    unfold Digraph.OnCycle at hcycle
    rw [edge_structuralGraph] at hreach hcycle
    exact ⟨root, List.mem_eraseDups.mp (hsub.subset hroot), rfl, node, hreach, hcycle⟩
  · intro node hcycle
    rw [← edge_structuralGraph] at hcycle ⊢
    obtain ⟨root, hroot, hreach⟩ := Digraph.exists_mem_cycleRoots hcycle
    exact ⟨cycleFinding root, mem_cycleFindings.mpr ⟨root, hroot, rfl⟩, root, rfl, hreach⟩

end Archimate.Relationships
