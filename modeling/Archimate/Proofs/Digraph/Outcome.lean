import Archimate.Proofs.Digraph.Search

namespace Archimate.Digraph

open Relation

variable {g : Digraph} {root : Text} {closed : List Text}

/-- What is known of the verdict of a search and of the nodes that are visited afterwards. -/
structure Outcome (g : Digraph) (root : Text) (closed : List Text) (found : Bool)
    (visited : List Text) : Prop where
  found_iff : found = true ↔ ∃ node, g.OpenReaches closed root node ∧ g.OnOpenCycle closed node
  closed_sub : closed ⊆ visited
  root_visited : root ∈ visited
  reached : ∀ node ∈ visited, node ∈ closed ∨ g.OpenReaches closed root node
  exhausted : found = false → ∀ node, g.OpenReaches closed root node → node ∈ visited

namespace Search

variable {s : Search}

theorem step_foundCycle (h : step g s = .foundCycle) :
    ∃ node target pending frames, s.frames = ⟨node, target :: pending⟩ :: frames ∧
      target ∈ s.onPath := by
  unfold step at h
  split at h
  · cases h
  · cases h
  · rename_i node target pending frames hf
    split at h
    · rename_i hp
      exact ⟨node, target, pending, frames, hf, hp⟩
    · split at h <;> cases h

theorem step_exhausted (h : step g s = .exhausted) : s.frames = [] := by
  unfold step at h
  split at h
  · assumption
  · cases h
  · split at h
    · cases h
    · split at h <;> cases h

theorem step_enter {node target : Text} {pending onPath visited : List Text} {frames : List Frame}
    (hp : target ∉ onPath) (hv : target ∉ visited) :
    step g ⟨⟨node, target :: pending⟩ :: frames, onPath, visited⟩ = .next
      ⟨⟨target, g.targets target⟩ :: ⟨node, pending⟩ :: frames, target :: onPath,
        target :: visited⟩ := by
  simp [step, hp, hv]

theorem run_of_foundCycle (h : step g s = .foundCycle) : run g s = (true, s.visited) := by
  rw [run]
  split <;> simp_all

theorem run_of_exhausted (h : step g s = .exhausted) : run g s = (false, s.visited) := by
  rw [run]
  split <;> simp_all

theorem run_of_next {s' : Search} (h : step g s = .next s') : run g s = run g s' := by
  rw [run]
  split <;> simp_all

theorem openReaches_head {top node : Text} {path : List Text}
    (hchain : (top :: path).IsChain fun node below => g.OpenEdge closed below node)
    (hnode : node ∈ top :: path) : g.OpenReaches closed node top := by
  induction path generalizing top with
  | nil =>
    rw [List.mem_singleton.mp hnode]
  | cons below path ih =>
    rw [List.isChain_cons_cons] at hchain
    rcases List.mem_cons.mp hnode with rfl | hnode
    · exact ReflTransGen.refl
    · exact (ih hchain.2 hnode).tail hchain.1

namespace Inv

theorem outcome_foundCycle (inv : Inv g root closed s) (h : step g s = .foundCycle) :
    Outcome g root closed true s.visited where
  found_iff := by
    refine ⟨fun _ => ?_, fun _ => rfl⟩
    obtain ⟨node, target, pending, frames, hf, hp⟩ := step_foundCycle h
    obtain ⟨hv, ho⟩ := inv.onPath_open target hp
    refine ⟨target, (inv.reached target hv).resolve_left ho, ?_⟩
    have hchain := inv.chain
    rw [inv.onPath_cons hf] at hchain hp
    have hedge : g.OpenEdge closed node target :=
      ⟨inv.pending_sub ⟨node, target :: pending⟩ (by simp [hf]) List.mem_cons_self, ho⟩
    -- Along the path from the target to the deepest node, and back over the edge just found.
    exact TransGen.tail' (openReaches_head hchain hp) hedge
  closed_sub := inv.closed_sub
  root_visited := inv.root_visited
  reached := inv.reached
  exhausted := by simp

theorem outcome_exhausted (inv : Inv g root closed s) (hroot : root ∉ closed)
    (h : step g s = .exhausted) : Outcome g root closed false s.visited := by
  have hpath : s.onPath = [] := by rw [inv.onPath_eq, step_exhausted h]; rfl
  have hleft : ∀ node, g.OpenReaches closed root node → node ∈ s.visited := by
    intro node hn
    have hr : root ∈ s.visited ∧ root ∉ s.onPath := ⟨inv.root_visited, by simp [hpath]⟩
    exact (inv.left_of_openReaches hr hroot hn).1
  refine ⟨⟨by simp, ?_⟩, inv.closed_sub, inv.root_visited, inv.reached, fun _ => hleft⟩
  rintro ⟨node, hreach, hcycle⟩
  obtain ⟨_, _, hlast⟩ := TransGen.tail'_iff.mp hcycle
  rcases inv.left node (hleft node hreach) with hc | hp | hl
  · exact absurd hc hlast.2
  · simp [hpath] at hp
  · exact absurd hcycle hl.not_cyclic

/-- What holds of every run that keeps the invariant. -/
theorem outcome_run (inv : Inv g root closed s) (hroot : root ∉ closed) :
    Outcome g root closed (run g s).1 (run g s).2 := by
  induction s using run.induct g with
  | case1 s h =>
    rw [run_of_foundCycle h]
    exact inv.outcome_foundCycle h
  | case2 s h =>
    rw [run_of_exhausted h]
    exact inv.outcome_exhausted hroot h
  | case3 s s' h _ ih =>
    rw [run_of_next h]
    exact ih (inv.step_next h)

end Inv

end Search

theorem outcome_findCycle (hroot : root ∉ closed) :
    Outcome g root closed (findCycle g root closed).1 (findCycle g root closed).2 :=
  (Search.inv_start hroot).outcome_run hroot

/-- A node visited by the search that was not closed before is reached by it. -/
theorem Outcome.openReaches {found : Bool} {visited : List Text} {node : Text}
    (h : Outcome g root closed found visited) (hv : node ∈ visited) (hc : node ∉ closed) :
    g.OpenReaches closed root node :=
  (h.reached node hv).resolve_left hc

end Archimate.Digraph
