import Archimate.Proofs.Digraph.CycleRoots
import Archimate.Proofs.Digraph.Edges

namespace Archimate.Digraph

variable {g part : Digraph} {inside : Text → Bool} {closed closed' : List Text}

/-- The second graph is what lies inside in the first, and no edge crosses the border. -/
structure Part (inside : Text → Bool) (g part : Digraph) : Prop where
  targets_eq : ∀ node, inside node = true → part.targets node = g.targets node
  border : ∀ node target, g.Edge node target → inside target = inside node
  keys_eq : part.keys = g.keys.filter inside

/-- The same nodes inside are visited. -/
def SameInside (inside : Text → Bool) (visited visited' : List Text) : Prop :=
  ∀ node, inside node = true → (node ∈ visited ↔ node ∈ visited')

theorem SameInside.cons (h : SameInside inside closed closed') (node : Text) :
    SameInside inside (node :: closed) (node :: closed') := by
  intro other ho
  rw [List.mem_cons, List.mem_cons, h other ho]

namespace Search

variable {s s' t : Search}

/-- Two searches that are at the same place inside. -/
structure InStep (inside : Text → Bool) (s s' : Search) : Prop where
  frames_eq : s'.frames = s.frames
  onPath_eq : s'.onPath = s.onPath
  visited_same : SameInside inside s.visited s'.visited
  frames_inside : ∀ frame ∈ s.frames, ∀ node ∈ frame.node :: frame.pending, inside node = true

namespace InStep

theorem foundCycle (h : InStep inside s s') (hstep : step g s = .foundCycle) :
    step part s' = .foundCycle := by
  obtain ⟨node, target, pending, frames, hf, hp⟩ := step_foundCycle hstep
  simp [step, h.frames_eq, h.onPath_eq, hf, hp]

theorem exhausted (h : InStep inside s s') (hstep : step g s = .exhausted) :
    step part s' = .exhausted := by
  simp [step, h.frames_eq, step_exhausted hstep]

theorem next (hpart : Part inside g part) (h : InStep inside s s') (hstep : step g s = .next t) :
    ∃ t', step part s' = .next t' ∧ InStep inside t t' := by
  have hinside := h.frames_inside
  rcases step_next_cases hstep with ⟨node, frames, hf, rfl⟩ |
    ⟨node, target, pending, frames, hf, hp, hv, rfl⟩ |
    ⟨node, target, pending, frames, hf, hp, hv, rfl⟩
  · rw [hf, List.forall_mem_cons] at hinside
    refine ⟨{ s' with frames := frames, onPath := s.onPath.erase node }, ?_, ?_⟩
    · simp [step, h.frames_eq, h.onPath_eq, hf]
    · exact ⟨rfl, rfl, h.visited_same, hinside.2⟩
  · rw [hf, List.forall_mem_cons, List.forall_mem_cons, List.forall_mem_cons] at hinside
    obtain ⟨⟨hnode, htarget, hpending⟩, hframes⟩ := hinside
    have hv' : target ∈ s'.visited := (h.visited_same target htarget).mp hv
    refine ⟨{ s' with frames := ⟨node, pending⟩ :: frames }, ?_, ?_⟩
    · simp [step, h.frames_eq, h.onPath_eq, hf, hp, hv']
    · exact ⟨rfl, h.onPath_eq, h.visited_same,
        List.forall_mem_cons.mpr ⟨List.forall_mem_cons.mpr ⟨hnode, hpending⟩, hframes⟩⟩
  · rw [hf, List.forall_mem_cons, List.forall_mem_cons, List.forall_mem_cons] at hinside
    obtain ⟨⟨hnode, htarget, hpending⟩, hframes⟩ := hinside
    have hv' : target ∉ s'.visited := fun hm => hv ((h.visited_same target htarget).mpr hm)
    refine ⟨⟨⟨target, g.targets target⟩ :: ⟨node, pending⟩ :: frames, target :: s.onPath,
      target :: s'.visited⟩, ?_, ?_⟩
    · simp [step, h.frames_eq, h.onPath_eq, hf, hp, hv', hpart.targets_eq target htarget]
    · refine ⟨rfl, rfl, h.visited_same.cons target, ?_⟩
      -- From a target that lies inside, edges lead inside.
      have hnext : ∀ next ∈ g.targets target, inside next = true := fun next hn =>
        (hpart.border target next hn).trans htarget
      exact List.forall_mem_cons.mpr ⟨List.forall_mem_cons.mpr ⟨htarget, hnext⟩,
        List.forall_mem_cons.mpr ⟨List.forall_mem_cons.mpr ⟨hnode, hpending⟩, hframes⟩⟩

theorem run_eq (hpart : Part inside g part) (h : InStep inside s s') :
    (run part s').1 = (run g s).1 ∧ SameInside inside (run g s).2 (run part s').2 := by
  induction s using run.induct g generalizing s' with
  | case1 s hstep =>
    rw [run_of_foundCycle hstep, run_of_foundCycle (h.foundCycle hstep)]
    exact ⟨rfl, h.visited_same⟩
  | case2 s hstep =>
    rw [run_of_exhausted hstep, run_of_exhausted (h.exhausted hstep)]
    exact ⟨rfl, h.visited_same⟩
  | case3 s t hstep _ ih =>
    obtain ⟨t', hstep', ht⟩ := h.next hpart hstep
    rw [run_of_next hstep, run_of_next hstep']
    exact ih ht

end InStep

theorem inStep_start (hpart : Part inside g part) (h : SameInside inside closed closed')
    {root : Text} (hroot : inside root = true) :
    InStep inside (start g root closed) (start part root closed') where
  frames_eq := by simp [start, hpart.targets_eq root hroot]
  onPath_eq := rfl
  visited_same := h.cons root
  frames_inside := by
    intro frame hframe
    rw [List.mem_singleton.mp hframe]
    exact List.forall_mem_cons.mpr
      ⟨hroot, fun target ht => (hpart.border root target ht).trans hroot⟩

end Search

theorem findCycle_inside (hpart : Part inside g part) (h : SameInside inside closed closed')
    {root : Text} (hroot : inside root = true) :
    (findCycle part root closed').1 = (findCycle g root closed).1 ∧
    SameInside inside (findCycle g root closed).2 (findCycle part root closed').2 :=
  (Search.inStep_start hpart h hroot).run_eq hpart

theorem findCycle_outside (hpart : Part inside g part) {root : Text} (hroot : inside root = false)
    (hopen : root ∉ closed) : SameInside inside closed (findCycle g root closed).2 := by
  have outcome := outcome_findCycle (g := g) hopen
  intro node hnode
  refine ⟨fun hc => outcome.closed_sub hc, fun hv => ?_⟩
  by_contra hc
  have hborder : ∀ a b, inside a = false → g.OpenEdge closed a b → inside b = false :=
    fun a b ha hedge => (hpart.border a b hedge.1).trans ha
  have hfalse := mem_of_openReaches (P := fun node => inside node = false) hborder hroot
    (outcome.openReaches hv hc)
  rw [hnode] at hfalse
  exact absurd hfalse (by decide)

theorem filter_cycleRootsFrom (hpart : Part inside g part) (h : SameInside inside closed closed')
    (nodes : List Text) : (cycleRootsFrom g closed nodes).filter inside =
      cycleRootsFrom part closed' (nodes.filter inside) := by
  induction nodes generalizing closed closed' with
  | nil => rfl
  | cons node nodes ih =>
    by_cases hnode : inside node = true
    · rw [List.filter_cons_of_pos hnode]
      by_cases hclosed : node ∈ closed
      · rw [cycleRootsFrom_of_closed hclosed, cycleRootsFrom_of_closed ((h node hnode).mp hclosed)]
        exact ih h
      · have hclosed' : node ∉ closed' := fun hc => hclosed ((h node hnode).mpr hc)
        obtain ⟨hverdict, hvisited⟩ := findCycle_inside hpart h hnode
        cases hfound : (findCycle g node closed).1 with
        | true =>
          rw [cycleRootsFrom_of_found hclosed hfound, List.filter_cons_of_pos hnode, ih hvisited,
            cycleRootsFrom_of_found hclosed' (hverdict.trans hfound)]
        | false =>
          rw [cycleRootsFrom_of_not_found hclosed hfound, ih hvisited,
            cycleRootsFrom_of_not_found hclosed' (hverdict.trans hfound)]
    · rw [List.filter_cons_of_neg hnode]
      by_cases hclosed : node ∈ closed
      · rw [cycleRootsFrom_of_closed hclosed]
        exact ih h
      · have hsame := findCycle_outside hpart (eq_false_of_ne_true hnode) hclosed
        have hvisited : SameInside inside (findCycle g node closed).2 closed' :=
          fun other ho => (hsame other ho).symm.trans (h other ho)
        cases hfound : (findCycle g node closed).1 with
        | true =>
          rw [cycleRootsFrom_of_found hclosed hfound, List.filter_cons_of_neg hnode]
          exact ih hvisited
        | false =>
          rw [cycleRootsFrom_of_not_found hclosed hfound]
          exact ih hvisited

/-- The roots that are reported inside are those that are reported in the part alone. -/
theorem filter_cycleRoots (hpart : Part inside g part) :
    (cycleRoots g).filter inside = cycleRoots part := by
  unfold cycleRoots
  rw [hpart.keys_eq]
  exact filter_cycleRootsFrom hpart (fun _ _ => Iff.rfl) g.keys

/-- The edges inside make a part when no edge crosses the border. -/
theorem part_ofEdges {edges : List (Text × Text)}
    (h : ∀ edge ∈ edges, inside edge.2 = inside edge.1) :
    Part inside (ofEdges edges) (ofEdges (edges.filter fun edge => inside edge.1)) where
  targets_eq := by
    intro node hnode
    rw [targets_ofEdges, targets_ofEdges, targetsIn_filter hnode]
  border := by
    intro node target hedge
    exact h (node, target) (mem_targets_ofEdges.mp hedge)
  keys_eq := by
    rw [keys_ofEdges, keys_ofEdges, filter_eraseDups, List.filter_map]
    rfl

end Archimate.Digraph
