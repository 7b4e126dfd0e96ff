import Archimate.Proofs.Digraph.Components
import Archimate.Proofs.Digraph.Edges

namespace Archimate.Digraph

variable {g : Digraph} {closed : List Text} {root knot : Text}

/-- The edge that is looked at first of those out of its source. -/
def FirstEdge (g : Digraph) (a b : Text) : Prop := (g.targets a).head? = some b

theorem exists_targets_of_firstEdge {a b : Text} (h : g.FirstEdge a b) :
    ∃ later, g.targets a = b :: later := by
  obtain ⟨later, h⟩ := List.head?_eq_some_iff.mp h
  exact ⟨later, h⟩

/-- A walk along first edges to new nodes is taken as it is, until it is back on the path. -/
theorem Search.run_of_firstEdges {node : Text} {rest onPath visited : List Text}
    {frames : List Frame}
    (hchain : (node :: rest ++ [knot]).IsChain g.FirstEdge) (hnodup : rest.Nodup)
    (hnew : rest.Disjoint visited) (hpath : onPath ⊆ visited)
    (hknot : knot ∈ rest ∨ knot ∈ onPath) :
    run g ⟨⟨node, g.targets node⟩ :: frames, onPath, visited⟩ =
      (true, rest.reverse ++ visited) := by
  -- The path and the visited nodes grow by the node that is entered, and nothing is left before the
  -- knot.
  induction rest generalizing node frames onPath visited with
  | nil =>
    obtain ⟨later, htargets⟩ := exists_targets_of_firstEdge (List.isChain_pair.mp hchain)
    have hback : knot ∈ onPath := hknot.resolve_left List.not_mem_nil
    rw [htargets]
    exact run_of_foundCycle (by simp [step, hback])
  | cons next rest ih =>
    obtain ⟨hfirst, hchain⟩ := List.isChain_cons_cons.mp hchain
    obtain ⟨later, htargets⟩ := exists_targets_of_firstEdge hfirst
    obtain ⟨hnext, hnodup⟩ := List.nodup_cons.mp hnodup
    have hv : next ∉ visited := hnew List.mem_cons_self
    rw [htargets, run_of_next (step_enter (fun hp => hv (hpath hp)) hv),
      ih hchain hnodup ?_ (List.cons_subset_cons next hpath) ?_]
    · simp
    · intro other ho hother
      rcases List.mem_cons.mp hother with rfl | hother
      · exact hnext ho
      · exact hnew (List.mem_cons_of_mem next ho) hother
    · simpa [or_comm, or_left_comm, or_assoc] using hknot

section Lasso

variable {rest : List Text} (hlasso : Lasso g.FirstEdge (root :: rest) knot)
  (hopen : (root :: rest).Disjoint closed)

include hlasso hopen

theorem findCycle_of_lasso : findCycle g root closed = (true, rest.reverse ++ root :: closed) := by
  obtain ⟨hroot, hnodup⟩ := List.nodup_cons.mp hlasso.nodup
  refine Search.run_of_firstEdges hlasso.chain hnodup ?_ (by simp) ?_
  · intro other ho hother
    rcases List.mem_cons.mp hother with rfl | hother
    · exact hroot ho
    · exact hopen (List.mem_cons_of_mem root ho) hother
  · simpa [or_comm] using hlasso.knot_mem

/-- The lasso is reported once, and the other roots are searched without its nodes. -/
theorem cycleRootsFrom_of_lasso (more : List Text) :
    cycleRootsFrom g closed (root :: rest ++ more) =
      root :: cycleRootsFrom g (rest.reverse ++ root :: closed) more := by
  have hsearch := findCycle_of_lasso hlasso hopen
  have hrest : rest ⊆ rest.reverse ++ root :: closed := fun node hn => by simp [hn]
  rw [List.cons_append, cycleRootsFrom_of_found (hopen List.mem_cons_self) (by rw [hsearch]),
    hsearch,
    cycleRootsFrom_append_of_subset hrest]

end Lasso

theorem length_le_cycleRootsFrom {lassos : List (List Text × Text)}
    (hlassos : ∀ lasso ∈ lassos, Lasso g.FirstEdge lasso.1 lasso.2)
    (hdisjoint : lassos.Pairwise fun a b => a.1.Disjoint b.1)
    (hopen : ∀ lasso ∈ lassos, lasso.1.Disjoint closed) (more : List Text) :
    lassos.length ≤ (cycleRootsFrom g closed (lassos.flatMap Prod.fst ++ more)).length := by
  induction lassos generalizing closed with
  | nil => exact Nat.zero_le _
  | cons lasso lassos ih =>
    obtain ⟨nodes, knot⟩ := lasso
    obtain ⟨hlasso, hlater⟩ := List.forall_mem_cons.mp hlassos
    obtain ⟨hnodes, hpairs⟩ := List.pairwise_cons.mp hdisjoint
    obtain ⟨hfirst, hrest⟩ := List.forall_mem_cons.mp hopen
    cases nodes with
    | nil => exact absurd hlasso.knot_mem List.not_mem_nil
    | cons root rest =>
      rw [List.flatMap_cons, List.append_assoc, cycleRootsFrom_of_lasso hlasso hfirst]
      refine Nat.succ_le_succ (ih hlater hpairs fun later hl other ho hvisited => ?_)
      -- Later lassos meet neither this one nor what was closed before it.
      rcases List.mem_append.mp hvisited with hv | hv
      · exact hnodes later hl (List.mem_cons_of_mem root (List.mem_reverse.mp hv)) ho
      · rcases List.mem_cons.mp hv with rfl | hclosed
        · exact hnodes later hl List.mem_cons_self ho
        · exact hrest later hl ho hclosed

theorem firstEdge_ofEdges {front : List (Text × Text)} {edge : Text × Text}
    (h : (front.map Prod.fst).Nodup) (hedge : edge ∈ front) (back : List (Text × Text)) :
    (ofEdges (front ++ back)).FirstEdge edge.1 edge.2 := by
  have htargets : targetsIn (front ++ back) edge.1 = edge.2 :: targetsIn back edge.1 := by
    rw [← List.singleton_append, ← targetsIn_of_nodup h hedge]
    simp [targetsIn]
  rw [FirstEdge, targets_ofEdges, htargets, List.eraseDups_cons, List.head?_cons]

section Listed

variable {r : Text → Text → Prop}

/-- A lasso whose edges are listed first, among others out of other nodes, is a lasso of first
edges. -/
theorem lasso_ofEdges {nodes : List Text} {front : List (Text × Text)} (hlasso : Lasso r nodes knot)
    (hlisted : lassoEdges nodes knot ⊆ front) (h : (front.map Prod.fst).Nodup)
    (back : List (Text × Text)) : Lasso (ofEdges (front ++ back)).FirstEdge nodes knot where
  nodup := hlasso.nodup
  knot_mem := hlasso.knot_mem
  chain := isChain_iff_lassoEdges.mpr fun _ hedge => firstEdge_ofEdges h (hlisted hedge) back

theorem length_le_cycleRoots_ofEdges {lassos : List (List Text × Text)}
    (hlassos : ∀ lasso ∈ lassos, Lasso r lasso.1 lasso.2)
    (hdisjoint : lassos.Pairwise fun a b => a.1.Disjoint b.1) (back : List (Text × Text)) :
    lassos.length ≤ (cycleRoots (ofEdges (edgesOfLassos lassos ++ back))).length := by
  have hnodup := nodup_sources_edgesOfLassos hlassos hdisjoint
  obtain ⟨more, hkeys⟩ := exists_keys_ofEdges_append hnodup back
  unfold cycleRoots
  rw [hkeys, map_fst_edgesOfLassos]
  refine length_le_cycleRootsFrom (fun lasso hl => ?_) hdisjoint (by simp) more
  exact lasso_ofEdges (hlassos lasso hl) (fun edge he => List.mem_flatMap.mpr ⟨lasso, hl, he⟩)
    hnodup
    back

/-- A lasso that holds two disjoint closed walks is reported once, so that there are more disjoint
closed walks than reports. -/
theorem exists_more_closedWalks {nodes first second : List Text} {back : List (Text × Text)}
    (hlasso : Lasso r nodes knot) (hg : g = ofEdges (lassoEdges nodes knot ++ back))
    (hfirst : ClosedWalk g.Edge first) (hsecond : ClosedWalk g.Edge second)
    (hdisjoint : first.Disjoint second) (hf : first ⊆ nodes) (hs : second ⊆ nodes) :
    ∃ walks : List (List Text), (∀ walk ∈ walks, ClosedWalk g.Edge walk) ∧
      walks.Pairwise List.Disjoint ∧ walks.length = (cycleRoots g).length + 1 := by
  have hsources := map_fst_lassoEdges nodes knot
  have hnodup : ((lassoEdges nodes knot).map Prod.fst).Nodup := by
    rw [hsources]
    exact hlasso.nodup
  obtain ⟨more, hkeys⟩ := exists_keys_ofEdges_append hnodup back
  have hfirsts : Lasso g.FirstEdge nodes knot := by
    rw [hg]
    exact lasso_ofEdges hlasso (List.Subset.refl _) hnodup back
  rw [← hg, hsources] at hkeys
  cases nodes with
  | nil => exact absurd hlasso.knot_mem List.not_mem_nil
  | cons root rest =>
    have hroots := cycleRootsFrom_of_lasso hfirsts (List.disjoint_nil_right _) more
    obtain ⟨walks, hwalks, hpairs, hreached⟩ :=
      exists_disjoint_closedWalks (g := g) (rest.reverse ++ [root]) more
    -- The later reports have closed walks off the lasso, while there are two on it.
    have hlater : ∀ loop ⊆ root :: rest, ∀ walk ∈ walks, loop.Disjoint walk := by
      intro loop hloop walk hw node hl hnode
      have hmem := hloop hl
      exact (hwalks walk hw).2 hnode (by simpa [or_comm] using hmem)
    refine ⟨first :: second :: walks, ?_, ?_, ?_⟩
    · rw [List.forall_mem_cons, List.forall_mem_cons]
      exact ⟨hfirst, hsecond, fun walk hw => (hwalks walk hw).1⟩
    · refine List.pairwise_cons.mpr ⟨?_, List.pairwise_cons.mpr ⟨hlater second hs, hpairs⟩⟩
      exact List.forall_mem_cons.mpr ⟨hdisjoint, hlater first hf⟩
    · rw [cycleRoots, hkeys, hroots]
      simp only [List.length_cons, hreached.length_eq]

end Listed

end Archimate.Digraph
