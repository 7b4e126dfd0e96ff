import Archimate.Digraph.Search
import Archimate.Proofs.Digraph.Outcome

namespace Archimate.Digraph

theorem Search.unvisitedEdges_le_of_subset {visited visited' : List Text} (h : visited ⊆ visited')
    (es : List (Text × List Text)) : unvisitedEdges visited' es ≤ unvisitedEdges visited es := by
  induction es with
  | nil => exact Nat.le_refl _
  | cons e es ih =>
    simp only [unvisitedEdges]
    by_cases hv : e.1 ∈ visited
    · simpa [hv, h hv] using ih
    · by_cases hv' : e.1 ∈ visited' <;> simp [hv, hv'] <;> omega

/-- How a call ends: what it has found, the path, and the visited nodes, among which are those from
before. -/
structure Return (before : List Text) where
  found : Bool
  onPath : List Text
  visited : List Text
  before_sub : before ⊆ visited

/-- The same return, seen from a call that began earlier. -/
def Return.since {before visited : List Text} (call : Return visited) (h : before ⊆ visited) :
    Return before :=
  { call with before_sub := List.Subset.trans h call.before_sub }

/-- Looks at the pending targets of a node in turn. A target that is not visited is marked as
visited and on the path, and its own targets are looked at before the others; when no target is
left, the node is removed from the path. -/
def explore (g : Digraph) (node : Text) (pending onPath visited : List Text) : Return visited :=
  match pending with
  | [] => ⟨false, onPath.erase node, visited, List.Subset.refl visited⟩
  | target :: pending =>
    if target ∈ onPath then ⟨true, onPath, visited, List.Subset.refl visited⟩
    else if target ∈ visited then explore g node pending onPath visited
    else
      let call := (explore g target (g.targets target) (target :: onPath) (target :: visited)).since
        (List.subset_cons_self target visited)
      if call.found then call
      else (explore g node pending call.onPath call.visited).since call.before_sub
termination_by Search.unvisitedEdges visited g.entries + pending.length
decreasing_by
  · simp
  · have := Search.unvisitedEdges_cons ‹target ∉ visited› g.entries
    simp only [targets, Dictionary.find?_eq_lookup, List.length_cons]
    omega
  · exact Nat.add_lt_add_of_le_of_lt
      (Search.unvisitedEdges_le_of_subset call.before_sub g.entries) (by simp)

def findCycleByRecursion (g : Digraph) (root : Text) (visited : List Text) : Bool × List Text :=
  let call := explore g root (g.targets root) [root] (root :: visited)
  (call.found, call.visited)

namespace Search

variable {g : Digraph} {s s' : Search}

/-- The search ends after so many steps, with this verdict and these nodes visited. -/
inductive EndsAfter (g : Digraph) : Nat → Search → Bool × List Text → Prop where
  | foundCycle {s : Search} (h : step g s = .foundCycle) : EndsAfter g 1 s (true, s.visited)
  | exhausted {s : Search} (h : step g s = .exhausted) : EndsAfter g 1 s (false, s.visited)
  | next {s s' : Search} {n : Nat} {result : Bool × List Text} (h : step g s = .next s')
      (hends : EndsAfter g n s' result) : EndsAfter g (n + 1) s result

theorem exists_endsAfter_run (g : Digraph) (s : Search) :
    ∃ n ≤ work g s + 1, EndsAfter g n s (run g s) := by
  induction s using run.induct g with
  | case1 s h =>
    rw [run_of_foundCycle h]
    exact ⟨1, by omega, .foundCycle h⟩
  | case2 s h =>
    rw [run_of_exhausted h]
    exact ⟨1, by omega, .exhausted h⟩
  | case3 s s' h _ ih =>
    rw [run_of_next h]
    obtain ⟨n, hn, hends⟩ := ih
    have := work_step h
    exact ⟨n + 1, by omega, .next h hends⟩

theorem work_start_le {root : Text} {visited : List Text} (h : root ∉ visited) :
    work g (start g root visited) ≤ 2 * unvisitedEdges visited g.entries + 1 := by
  have := unvisitedEdges_cons h g.entries
  simp only [work, start, frameWork, targets, Dictionary.find?_eq_lookup]
  omega

/-- What the loop makes of a call that has returned: it ends too, or goes on with the frames of the
calls that wait. -/
def resume (g : Digraph) (frames : List Frame) {before : List Text} (call : Return before) :
    Bool × List Text :=
  if call.found then (true, call.visited) else run g ⟨frames, call.onPath, call.visited⟩

section Resume

variable {frames : List Frame} {before : List Text} {call : Return before}

theorem resume_of_found (h : call.found = true) : resume g frames call = (true, call.visited) :=
  if_pos h

theorem resume_of_not_found (h : ¬call.found = true) :
    resume g frames call = run g ⟨frames, call.onPath, call.visited⟩ :=
  if_neg h

end Resume

/-- The frame on top is the call for its node. -/
theorem run_frame (g : Digraph) (node : Text) (pending onPath visited : List Text)
    (frames : List Frame) : run g ⟨⟨node, pending⟩ :: frames, onPath, visited⟩ =
      resume g frames (explore g node pending onPath visited) := by
  induction node, pending, onPath, visited using explore.induct g generalizing frames with
  | case1 node onPath visited =>
    rw [explore]
    exact run_of_next rfl
  | case2 node onPath visited target pending hp =>
    rw [explore, if_pos hp]
    exact run_of_foundCycle (by simp [step, hp])
  | case3 node onPath visited target pending hp hv ih =>
    rw [explore, if_neg hp, if_pos hv, ← ih frames]
    exact run_of_next (by simp [step, hp, hv])
  | case4 node onPath visited target pending hp hv call hfound ih =>
    have hcall : explore g node (target :: pending) onPath visited = call := by
      rw [explore, if_neg hp, if_neg hv]
      exact if_pos hfound
    rw [run_of_next (step_enter hp hv), ih, hcall]
    exact (resume_of_found hfound).trans (resume_of_found hfound).symm
  | case5 node onPath visited target pending hp hv call hfound ihcall ihrest =>
    have hrest : explore g node (target :: pending) onPath visited =
        (explore g node pending call.onPath call.visited).since call.before_sub := by
      rw [explore, if_neg hp, if_neg hv]
      exact if_neg hfound
    rw [run_of_next (step_enter hp hv), ihcall, hrest]
    exact (resume_of_not_found hfound).trans (ihrest frames)

end Search

/-- The loop over a stack ends, and its verdict and the visited nodes are those of the recursion. -/
theorem findCycle_eq_findCycleByRecursion (g : Digraph) (root : Text) (visited : List Text)
    (h : root ∉ visited) :
    findCycle g root visited = findCycleByRecursion g root visited ∧
    ∃ n ≤ 2 * Search.unvisitedEdges visited g.entries + 2,
      Search.EndsAfter g n (Search.start g root visited) (findCycleByRecursion g root visited) := by
  have heq : findCycle g root visited = findCycleByRecursion g root visited := by
    unfold findCycle Search.start
    rw [Search.run_frame]
    unfold Search.resume
    split
    · rename_i hfound
      exact Prod.ext hfound.symm rfl
    · rename_i hfound
      rw [Search.run_of_exhausted rfl]
      exact Prod.ext (eq_false_of_ne_true hfound).symm rfl
  obtain ⟨n, hn, hends⟩ := Search.exists_endsAfter_run g (Search.start g root visited)
  have hwork := Search.work_start_le (g := g) h
  refine ⟨heq, n, by omega, ?_⟩
  rw [← heq]
  exact hends

/-- A cycle of two behind a node that an earlier search has visited. -/
def detour : Digraph := .ofEdges [("a", "x"), ("a", "b"), ("x", "b"), ("b", "c"), ("c", "b")]

theorem findCycle_eq_findCycleByRecursion_detour :
    ("a" : Text) ∉ ([("x" : Text)]) ∧
    findCycle detour "a" ["x"] = (true, ([("c" : Text), "b", "a", "x"])) ∧
    findCycle detour "a" ["x"] = findCycleByRecursion detour "a" ["x"] ∧
    ∃ n ≤ 2 * Search.unvisitedEdges ["x"] detour.entries + 2,
      Search.EndsAfter detour n (Search.start detour "a" ["x"])
        (findCycleByRecursion detour "a" ["x"]) := by
  have hroot : ("a" : Text) ∉ ([("x" : Text)]) := by decide
  exact ⟨hroot, by decide +kernel, findCycle_eq_findCycleByRecursion detour "a" ["x"] hroot⟩

end Archimate.Digraph
