import Archimate.Proofs.Digraph.EdgeOrder
import Archimate.Proofs.Relationship.Cycles

namespace Archimate.Relationships
open Relation

variable {rs ss : List Relationship}

def cycleCount (rs : List Relationship) : Nat :=
  ((validate rs).errorsOf .circularDependency).length

theorem cycleCount_eq (rs : List Relationship) :
    cycleCount rs = (structuralGraph rs).cycleRoots.length := by
  unfold cycleCount
  rw [errorsOf_circularDependency]
  exact List.length_map _

theorem structuralEdge_of_perm (h : ss.Perm rs) : StructuralEdge ss = StructuralEdge rs := by
  funext a b
  simp only [StructuralEdge, h.mem_iff]

theorem structuralEdges_cons {r : Relationship} (h : r.category = .structural) :
    structuralEdges (r :: rs) = (r.source, r.target) :: structuralEdges rs := by
  simp [structuralEdges, (isStructural_iff r).mpr h]

theorem exists_perm_structuralEdges {edges : List (Text × Text)} (hnodup : edges.Nodup)
    (hedges : ∀ edge ∈ edges, StructuralEdge rs edge.1 edge.2) :
    ∃ ss back, ss.Perm rs ∧ structuralEdges ss = edges ++ back := by
  induction edges generalizing rs with
  | nil => exact ⟨rs, structuralEdges rs, List.Perm.refl rs, rfl⟩
  | cons edge edges ih =>
    obtain ⟨hnew, hnodup⟩ := List.nodup_cons.mp hnodup
    obtain ⟨⟨r, hr, hstructural, hsource, htarget⟩, hlater⟩ := List.forall_mem_cons.mp hedges
    have hends : (r.source, r.target) = edge := Prod.ext hsource htarget
    -- The later edges are those of other relationships.
    have hothers : ∀ other ∈ edges, StructuralEdge (rs.erase r) other.1 other.2 := by
      intro other ho
      obtain ⟨r', hr', hstructural', hsource', htarget'⟩ := hlater other ho
      have hne : r' ≠ r := by
        rintro rfl
        have hends' : (r'.source, r'.target) = other := Prod.ext hsource' htarget'
        exact hnew (hends.symm.trans hends' ▸ ho)
      exact ⟨r', (List.mem_erase_of_ne hne).mpr hr', hstructural', hsource', htarget'⟩
    obtain ⟨ss, back, hperm, hss⟩ := ih hnodup hothers
    refine ⟨r :: ss, back, (hperm.cons r).trans (List.perm_cons_erase hr).symm, ?_⟩
    rw [structuralEdges_cons hstructural, hss, hends, List.cons_append]

/-- In some order, disjoint closed walks are reported one by one. -/
theorem exists_perm_length_le {walks : List (List Text)}
    (hwalks : ∀ walk ∈ walks, ClosedWalk (StructuralEdge rs) walk)
    (hdisjoint : walks.Pairwise List.Disjoint) :
    ∃ ss, ss.Perm rs ∧ walks.length ≤ cycleCount ss := by
  obtain ⟨lassos, hlength, hlassos, -, hapart⟩ := exists_lassos hwalks hdisjoint
  have hnodup := nodup_sources_edgesOfLassos hlassos hapart
  obtain ⟨ss, back, hperm, hss⟩ := exists_perm_structuralEdges (hnodup.of_map Prod.fst)
    fun edge hedge => by
      obtain ⟨lasso, hl, he⟩ := List.mem_flatMap.mp hedge
      exact isChain_iff_lassoEdges.mp (hlassos lasso hl).chain edge he
  refine ⟨ss, hperm, ?_⟩
  rw [← hlength, cycleCount_eq, structuralGraph, hss]
  exact Digraph.length_le_cycleRoots_ofEdges hlassos hapart back

/-- Where cycles do not meet, the number of reports depends on the order. -/
theorem exists_perm_cycleCount_lt (h : ¬CyclesMeet (StructuralEdge rs)) :
    ∃ ss ts, ss.Perm rs ∧ ts.Perm rs ∧ cycleCount ss < cycleCount ts := by
  unfold CyclesMeet at h
  push Not at h
  obtain ⟨c, d, hc, hd, hreach, hapart⟩ := h
  have hfinite : ∀ a b, StructuralEdge rs a b → a ∈ (structuralGraph rs).keys := by
    rw [← edge_structuralGraph]
    exact fun _ _ => Digraph.mem_keys_of_edge
  -- Where a lasso around both walks is listed first it is reported once; where the walks are, each
  -- is.
  obtain ⟨nodes, knot, first, second, hlasso, hfirst, hsecond, hf, hs, hdisjoint⟩ :=
    exists_lasso_with_disjoint_loops hc hd hapart hreach hfinite
  have hnodup : ((lassoEdges nodes knot).map Prod.fst).Nodup := by
    rw [map_fst_lassoEdges]
    exact hlasso.nodup
  obtain ⟨ss, back, hperm, hss⟩ :=
    exists_perm_structuralEdges (hnodup.of_map Prod.fst) (isChain_iff_lassoEdges.mp hlasso.chain)
  have hedge : (structuralGraph ss).Edge = StructuralEdge rs := by
    rw [edge_structuralGraph, structuralEdge_of_perm hperm]
  have hgraph : structuralGraph ss = .ofEdges (lassoEdges nodes knot ++ back) := by
    rw [structuralGraph, hss]
  obtain ⟨walks, hwalks, hpairs, hlength⟩ := Digraph.exists_more_closedWalks hlasso hgraph
    (hedge ▸ hfirst) (hedge ▸ hsecond) hdisjoint hf hs
  rw [hedge] at hwalks
  obtain ⟨ts, hperm', hle⟩ := exists_perm_length_le hwalks hpairs
  rw [hlength, ← cycleCount_eq] at hle
  exact ⟨ss, ts, hperm, hperm', hle⟩

/-- Where cycles meet, each component that contains a cycle is reported once. -/
theorem cycleCount_of_cyclesMeet (h : CyclesMeet (StructuralEdge rs)) :
    (cycleCount rs : ℕ∞) = (cyclicComponents (StructuralEdge rs)).encard := by
  rw [cycleCount_eq, ← edge_structuralGraph, Digraph.encard_cyclicComponents]
  rw [edge_structuralGraph]
  exact h

/-- The number of reports is the number of components that contain a cycle, in every order of the
relationships, exactly where cycles that lead to each other meet, and only there it is the same in
every order. In any case it lies between the number of nodes on cycles of which none reaches another
and the number of disjoint closed walks. -/
theorem cycleCount_by_component (rs : List Relationship) :
    ((∀ ss, ss.Perm rs →
        (cycleCount ss : ℕ∞) = (cyclicComponents (StructuralEdge rs)).encard) ↔
      CyclesMeet (StructuralEdge rs)) ∧
    ((∀ ss, ss.Perm rs → cycleCount ss = cycleCount rs) ↔ CyclesMeet (StructuralEdge rs)) ∧
    (∀ chosen : Finset Text, (∀ node ∈ chosen, TransGen (StructuralEdge rs) node node) →
      IsAntichain (ReflTransGen (StructuralEdge rs)) (chosen : Set Text) →
      chosen.card ≤ cycleCount rs) ∧
    ∃ walks : List (List Text), walks.length = cycleCount rs ∧
      (∀ walk ∈ walks, ClosedWalk (StructuralEdge rs) walk) ∧ walks.Pairwise List.Disjoint := by
  have hevery : CyclesMeet (StructuralEdge rs) → ∀ ss, ss.Perm rs →
      (cycleCount ss : ℕ∞) = (cyclicComponents (StructuralEdge rs)).encard := by
    intro hmeet ss hperm
    rw [← structuralEdge_of_perm hperm] at hmeet ⊢
    exact cycleCount_of_cyclesMeet hmeet
  have hmeet : (∀ ss, ss.Perm rs → cycleCount ss = cycleCount rs) →
      CyclesMeet (StructuralEdge rs) := by
    intro hsame
    by_contra hne
    obtain ⟨ss, ts, hs, ht, hlt⟩ := exists_perm_cycleCount_lt hne
    rw [hsame ss hs, hsame ts ht] at hlt
    exact Nat.lt_irrefl _ hlt
  refine ⟨⟨fun h => hmeet fun ss hperm => ?_, hevery⟩, ⟨hmeet, fun h ss hperm => ?_⟩, ?_, ?_⟩
  · exact Nat.cast_inj.mp ((h ss hperm).trans (h rs (List.Perm.refl rs)).symm)
  · exact Nat.cast_inj.mp ((hevery h ss hperm).trans (hevery h rs (List.Perm.refl rs)).symm)
  · intro chosen hcycle hanti
    rw [cycleCount_eq]
    rw [← edge_structuralGraph] at hcycle hanti
    exact Digraph.card_le_length_cycleRoots hcycle hanti
  · obtain ⟨walks, hwalks, hpairs, hreached⟩ :=
      Digraph.exists_disjoint_closedWalks (g := structuralGraph rs) [] (structuralGraph rs).keys
    rw [edge_structuralGraph] at hwalks
    rw [cycleCount_eq, Digraph.cycleRoots, hreached.length_eq]
    exact ⟨walks, rfl, fun walk hw => (hwalks walk hw).1, hpairs⟩

/-- Two loops of which the first leads to the second. -/
def chainedLoops : List Relationship :=
  [{ uid := "r1", type := .composition, source := "a", target := "b" },
   { uid := "r2", type := .composition, source := "a", target := "a" },
   { uid := "r3", type := .composition, source := "b", target := "b" }]

/-- Two loops that lead to each other. -/
def mutualLoops : List Relationship :=
  [{ uid := "r1", type := .composition, source := "a", target := "a" },
   { uid := "r2", type := .composition, source := "a", target := "b" },
   { uid := "r3", type := .composition, source := "b", target := "a" },
   { uid := "r4", type := .composition, source := "b", target := "b" }]

theorem cyclicComponents_of_two_loops {a b : Text} (ha : StructuralEdge rs a a)
    (hb : StructuralEdge rs b b) (hsources : structuralSources rs ⊆ [a, b]) :
    cyclicComponents (StructuralEdge rs) =
      {component (StructuralEdge rs) a, component (StructuralEdge rs) b} := by
  have hcyclic : {node | TransGen (StructuralEdge rs) node node} = {a, b} := by
    ext node
    constructor
    · intro hcycle
      obtain ⟨next, ⟨r, hr, hstructural, rfl, -⟩, -⟩ := TransGen.head'_iff.mp hcycle
      have hsource : r.source ∈ structuralSources rs :=
        List.mem_map_of_mem (List.mem_filter.mpr ⟨hr, decide_eq_true hstructural⟩)
      simpa using hsources hsource
    · rintro (rfl | rfl)
      · exact TransGen.single ha
      · exact TransGen.single hb
  rw [cyclicComponents, hcyclic, Set.image_pair]

/-- Two components can be reported once and one component twice, and another order changes both. -/
theorem not_all_components_reported_once :
    (cyclicComponents (StructuralEdge chainedLoops)).encard = 2 ∧ cycleCount chainedLoops = 1 ∧
    (∃ ss, ss.Perm chainedLoops ∧ cycleCount ss = 2) ∧
    (cyclicComponents (StructuralEdge mutualLoops)).encard = 1 ∧ cycleCount mutualLoops = 2 ∧
    ∃ ss, ss.Perm mutualLoops ∧ cycleCount ss = 1 := by
  have hchained : ∀ edge ∈ structuralEdges chainedLoops,
      StructuralEdge chainedLoops edge.1 edge.2 :=
    fun _ => mem_structuralEdges.mp
  have hmutual : ∀ edge ∈ structuralEdges mutualLoops, StructuralEdge mutualLoops edge.1 edge.2 :=
    fun _ => mem_structuralEdges.mp
  refine ⟨?_, by decide +kernel, ⟨[chainedLoops[1], chainedLoops[0], chainedLoops[2]], ?_, ?_⟩,
    ?_, by decide +kernel,
    ⟨[mutualLoops[1], mutualLoops[0], mutualLoops[2], mutualLoops[3]], ?_, ?_⟩⟩
  · have hend : ∀ node, ReflTransGen (StructuralEdge chainedLoops) "b" node → node = "b" := by
      have htargets : (structuralGraph chainedLoops).targets "b" = ["b"] := by decide +kernel
      rw [← edge_structuralGraph]
      intro node hreach
      induction hreach with
      | refl => rfl
      | tail _ hedge ih =>
        rw [ih, Digraph.Edge, htargets] at hedge
        exact List.mem_singleton.mp hedge
    rw [cyclicComponents_of_two_loops (hchained ("a", "a") (by decide))
      (hchained ("b", "b") (by decide)) (by decide), Set.encard_pair]
    intro hsame
    have hback : ("a" : Text) ∈ component (StructuralEdge chainedLoops) "b" :=
      hsame ▸ mem_component_self _
    exact absurd (hend "a" hback.1) (by decide)
  · decide
  · decide +kernel
  · have hone : ("b" : Text) ∈ component (StructuralEdge mutualLoops) "a" :=
      ⟨ReflTransGen.single (hmutual ("a", "b") (by decide)),
        ReflTransGen.single (hmutual ("b", "a") (by decide))⟩
    rw [cyclicComponents_of_two_loops (hmutual ("a", "a") (by decide))
      (hmutual ("b", "b") (by decide)) (by decide), component_eq hone, Set.pair_eq_singleton,
      Set.encard_singleton]
  · decide
  · decide +kernel

end Archimate.Relationships
