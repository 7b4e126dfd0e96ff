import Archimate.Proofs.Digraph.ClosedWalk
import Archimate.Proofs.Digraph.Recursion

namespace Archimate.Digraph
open Relation

variable {g : Digraph} {root : Text} {closed : List Text}

/-- Open edges lead from each node to the next, and the first node is the root. -/
structure WalkFrom (g : Digraph) (closed : List Text) (root : Text) (walk : List Text) : Prop where
  head_eq : walk.head? = some root
  chain : walk.IsChain (g.OpenEdge closed)

/-- A cycle without closed nodes to which a walk leads around the closed nodes. -/
structure OpenCycleFrom (g : Digraph) (closed : List Text) (root : Text) (cycle : List Text) :
    Prop where
  closedWalk : ClosedWalk g.Edge cycle
  avoids : ∀ node ∈ cycle, node ∉ closed
  reached : ∃ node ∈ cycle, g.OpenReaches closed root node

theorem exists_openCycleFrom_iff :
    (∃ cycle, g.OpenCycleFrom closed root cycle) ↔
      ∃ node, g.OpenReaches closed root node ∧ g.OnOpenCycle closed node := by
  constructor
  · rintro ⟨cycle, hwalk, havoids, node, hnode, hreach⟩
    have hopen : ClosedWalk (g.OpenEdge closed) cycle :=
      hwalk.within.mono fun a b h => ⟨h.1, havoids b h.2⟩
    exact ⟨node, hreach, hopen.transGen hnode hnode⟩
  · rintro ⟨node, hreach, hcycle⟩
    obtain ⟨cycle, hwalk, hnode⟩ := exists_closedWalk hcycle
    refine ⟨cycle, hwalk.mono fun a b h => h.1, fun other hother => ?_, node, hnode, hreach⟩
    obtain ⟨_, _, hlast⟩ := TransGen.tail'_iff.mp (hwalk.transGen hother hother)
    exact hlast.2

namespace Search

variable {s s' : Search} {pushes : List Text}

def pushed (s s' : Search) : List Text :=
  (nodes s'.frames).take (s'.frames.length - s.frames.length)

/-- The loop comes to a state, and has put these nodes on the stack, the latest first. -/
inductive ComesTo (g : Digraph) (root : Text) (closed : List Text) : List Text → Search → Prop where
  | start : ComesTo g root closed [root] (start g root closed)
  | next {pushes : List Text} {s s' : Search} (h : ComesTo g root closed pushes s)
    (hstep : step g s = .next s') : ComesTo g root closed (pushed s s' ++ pushes) s'

/-- What has been visited is what was closed before and what was put on the stack, each node
once. -/
structure PushesOnce (closed pushes visited : List Text) : Prop where
  visited_eq : visited = pushes ++ closed
  nodup : pushes.Nodup
  avoids : ∀ node ∈ pushes, node ∉ closed

theorem PushesOnce.next (h : PushesOnce closed pushes s.visited) (hstep : step g s = .next s') :
    PushesOnce closed (pushed s s' ++ pushes) s'.visited := by
  rcases step_next_cases hstep with ⟨node, frames, hf, rfl⟩ |
    ⟨node, target, pending, frames, hf, -, -, rfl⟩ |
    ⟨node, target, pending, frames, hf, -, hv, rfl⟩
  · have hpushed : pushed s { s with frames := frames, onPath := s.onPath.erase node } = [] := by
      simp [pushed, hf]
    rw [hpushed]
    exact h
  · have hpushed : pushed s { s with frames := ⟨node, pending⟩ :: frames } = [] := by
      simp [pushed, hf]
    rw [hpushed]
    exact h
  · have hpushed : pushed s ⟨⟨target, g.targets target⟩ :: ⟨node, pending⟩ :: frames,
        target :: s.onPath, target :: s.visited⟩ = [target] := by
      simp [pushed, hf, nodes]
    rw [hpushed]
    rw [h.visited_eq, List.mem_append, not_or] at hv
    exact ⟨congrArg (target :: ·) h.visited_eq, List.nodup_cons.mpr ⟨hv.1, h.nodup⟩,
      List.forall_mem_cons.mpr ⟨hv.2, h.avoids⟩⟩

namespace ComesTo

theorem inv (hroot : root ∉ closed) (h : ComesTo g root closed pushes s) :
    Inv g root closed s := by
  induction h with
  | start => exact inv_start hroot
  | next _ hstep ih => exact ih.step_next hstep

theorem pushesOnce (hroot : root ∉ closed) (h : ComesTo g root closed pushes s) :
    PushesOnce closed pushes s.visited := by
  induction h with
  | start => exact ⟨rfl, List.nodup_singleton root, List.forall_mem_singleton.mpr hroot⟩
  | next _ hstep ih => exact ih.next hstep

/-- From every state the loop comes to one in which it ends as the run does. -/
theorem exists_last (h : ComesTo g root closed pushes s) :
    ∃ pushes' last, ComesTo g root closed pushes' last ∧
      (step g last = .foundCycle ∧ run g s = (true, last.visited) ∨
        step g last = .exhausted ∧ run g s = (false, last.visited)) := by
  induction s using run.induct g generalizing pushes with
  | case1 s hstep => exact ⟨pushes, s, h, Or.inl ⟨hstep, run_of_foundCycle hstep⟩⟩
  | case2 s hstep => exact ⟨pushes, s, h, Or.inr ⟨hstep, run_of_exhausted hstep⟩⟩
  | case3 s s' hstep _ ih =>
    rw [run_of_next hstep]
    exact ih (h.next hstep)

end ComesTo

/-- The stack, from its lowest node on, is a walk from the root. -/
theorem Inv.walkFrom (inv : Inv g root closed s) (hne : s.frames ≠ []) :
    g.WalkFrom closed root (nodes s.frames).reverse where
  head_eq := by
    obtain ⟨node, hlast⟩ : ∃ node, s.onPath.getLast? = some node := by
      rw [← Option.isSome_iff_exists, List.getLast?_isSome, inv.onPath_eq]
      simpa [nodes] using hne
    rw [← inv.onPath_eq, List.head?_reverse, hlast, inv.last_eq node hlast]
  chain := by
    rw [← inv.onPath_eq, List.isChain_reverse]
    exact inv.chain

/-- What holds of every state that the loop comes to. -/
structure Kept (g : Digraph) (root : Text) (closed pushes : List Text) (s : Search) : Prop where
  onPath_eq : s.onPath = nodes s.frames
  nodup : (nodes s.frames).Nodup
  walkFrom : s.frames ≠ [] → g.WalkFrom closed root (nodes s.frames).reverse
  pushesOnce : PushesOnce closed pushes s.visited

theorem ComesTo.kept (hroot : root ∉ closed) (h : ComesTo g root closed pushes s) :
    Kept g root closed pushes s where
  onPath_eq := (h.inv hroot).onPath_eq
  nodup := (h.inv hroot).onPath_eq ▸ (h.inv hroot).nodup
  walkFrom := (h.inv hroot).walkFrom
  pushesOnce := h.pushesOnce hroot

end Search

/-- A search finds a cycle exactly when one can be reached around the closed nodes. It leaves
visited what was closed, its root and some of what can be reached around the closed nodes, and all
of that when it finds no cycle. In its loop the stack is a path from the root, and no node is put on
it twice. -/
theorem findCycle_explores_open_part (g : Digraph) (hroot : root ∉ closed) :
    ((findCycle g root closed).1 = true ↔ ∃ cycle, g.OpenCycleFrom closed root cycle) ∧
    (closed ⊆ (findCycle g root closed).2 ∧ root ∈ (findCycle g root closed).2 ∧
      ∀ node ∈ (findCycle g root closed).2, node ∉ closed → g.OpenReaches closed root node) ∧
    ((findCycle g root closed).1 = false → ∀ node,
      node ∈ (findCycle g root closed).2 ↔ node ∈ closed ∨ g.OpenReaches closed root node) ∧
    (∀ pushes s, Search.ComesTo g root closed pushes s → Search.Kept g root closed pushes s) ∧
    ∃ pushes last, Search.ComesTo g root closed pushes last ∧
      (Search.step g last = .foundCycle ∧ findCycle g root closed = (true, last.visited) ∨
        Search.step g last = .exhausted ∧ findCycle g root closed = (false, last.visited)) := by
  have outcome := outcome_findCycle (g := g) hroot
  refine ⟨?_, ⟨outcome.closed_sub, outcome.root_visited, fun node => outcome.openReaches⟩, ?_,
    fun pushes s h => h.kept hroot, Search.ComesTo.start.exists_last⟩
  · rw [exists_openCycleFrom_iff]
    exact outcome.found_iff
  · intro hfound node
    refine ⟨outcome.reached node, ?_⟩
    rintro (hclosed | hreach)
    · exact outcome.closed_sub hclosed
    · exact outcome.exhausted hfound node hreach

/-- Around the node that is closed the search still comes to the cycle. -/
theorem findCycle_explores_open_part_detour :
    ("a" : Text) ∉ ([("x" : Text)]) ∧ detour.OpenReaches ["x"] "a" "c" ∧
    (∃ cycle, detour.OpenCycleFrom ["x"] "a" cycle) ∧
    ∃ pushes last, Search.ComesTo detour "a" ["x"] pushes last ∧
      Search.Kept detour "a" ["x"] pushes last ∧
        last.visited = (["c", "b", "a", "x"] : List Text) := by
  have hroot : ("a" : Text) ∉ ([("x" : Text)]) := by decide
  have hresult : findCycle detour "a" ["x"] = (true, (["c", "b", "a", "x"] : List Text)) := by
    decide +kernel
  obtain ⟨hfound, ⟨-, -, hreached⟩, -, hkept, pushes, last, hlast, hends⟩ :=
    findCycle_explores_open_part detour hroot
  rw [hresult] at hfound hreached hends
  refine ⟨hroot, hreached "c" (by decide) (by decide), hfound.mp rfl, pushes, last, hlast,
    hkept pushes last hlast, ?_⟩
  rcases hends with ⟨-, hend⟩ | ⟨-, hend⟩
  · exact (Prod.mk.inj hend).2.symm
  · cases hend

end Archimate.Digraph
