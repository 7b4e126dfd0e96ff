import Archimate.Digraph.Search
import Archimate.Proofs.Digraph.Walk
import Mathlib.Data.List.Chain

namespace Archimate.Digraph.Search
open Relation

variable {g : Digraph} {root : Text} {closed : List Text} {s s' : Search}

def nodes (frames : List Frame) : List Text := frames.map Frame.node

/-- A target that is no longer pending has been visited and does not lie at or below its frame. -/
def Explored (g : Digraph) (visited : List Text) : List Frame → Prop
  | [] => True
  | frame :: below =>
    (∀ target ∈ g.targets frame.node, target ∈ frame.pending ∨
      target ∈ visited ∧ target ∉ nodes (frame :: below)) ∧ Explored g visited below

/-- A node that has been left: none of its targets is on the path, and no open cycle leads
through it. -/
structure Left (g : Digraph) (closed : List Text) (s : Search) (node : Text) : Prop where
  targets_visited : ∀ target ∈ g.targets node, target ∈ s.visited ∧ target ∉ s.onPath
  not_cyclic : ¬g.OnOpenCycle closed node

structure Inv (g : Digraph) (root : Text) (closed : List Text) (s : Search) : Prop where
  onPath_eq : s.onPath = nodes s.frames
  nodup : s.onPath.Nodup
  chain : s.onPath.IsChain fun node below => g.OpenEdge closed below node
  last_eq : ∀ node, s.onPath.getLast? = some node → node = root
  onPath_open : ∀ node ∈ s.onPath, node ∈ s.visited ∧ node ∉ closed
  pending_sub : ∀ frame ∈ s.frames, frame.pending ⊆ g.targets frame.node
  explored : Explored g s.visited s.frames
  closed_sub : closed ⊆ s.visited
  root_visited : root ∈ s.visited
  reached : ∀ node ∈ s.visited, node ∈ closed ∨ g.OpenReaches closed root node
  left : ∀ node ∈ s.visited, node ∈ closed ∨ node ∈ s.onPath ∨ Left g closed s node

theorem inv_start (h : root ∉ closed) : Inv g root closed (start g root closed) where
  onPath_eq := rfl
  nodup := by simp [start]
  chain := List.IsChain.singleton root
  last_eq := by simp [start]
  onPath_open := by simp [start, h]
  pending_sub := by simp [start]
  explored := ⟨fun target ht => Or.inl ht, trivial⟩
  closed_sub := List.subset_cons_self _ _
  root_visited := List.mem_cons_self
  reached := by
    intro node hn
    rcases List.mem_cons.mp hn with rfl | hn
    · exact Or.inr ReflTransGen.refl
    · exact Or.inl hn
  left := by
    intro node hn
    rcases List.mem_cons.mp hn with rfl | hn
    · exact Or.inr (Or.inl (List.mem_singleton_self _))
    · exact Or.inl hn

/-- The three ways of going on: leave the deepest node, pass over a target, or enter it. -/
theorem step_next_cases (h : step g s = .next s') :
    (∃ node frames, s.frames = ⟨node, []⟩ :: frames ∧
      s' = { s with frames := frames, onPath := s.onPath.erase node }) ∨
    (∃ node target pending frames, s.frames = ⟨node, target :: pending⟩ :: frames ∧
      target ∉ s.onPath ∧ target ∈ s.visited ∧
      s' = { s with frames := ⟨node, pending⟩ :: frames }) ∨
    (∃ node target pending frames, s.frames = ⟨node, target :: pending⟩ :: frames ∧
      target ∉ s.onPath ∧ target ∉ s.visited ∧
      s' = ⟨⟨target, g.targets target⟩ :: ⟨node, pending⟩ :: frames, target :: s.onPath,
        target :: s.visited⟩) := by
  unfold step at h
  split at h
  · cases h
  · rename_i node frames hf
    cases h
    exact Or.inl ⟨node, frames, hf, rfl⟩
  · rename_i node target pending frames hf
    split at h
    · cases h
    · rename_i hp
      split at h
      · rename_i hv
        cases h
        exact Or.inr (Or.inl ⟨node, target, pending, frames, hf, hp, hv, rfl⟩)
      · rename_i hv
        cases h
        exact Or.inr (Or.inr ⟨node, target, pending, frames, hf, hp, hv, rfl⟩)

theorem Explored.mono {visited visited' : List Text} (hsub : visited ⊆ visited') :
    ∀ {frames : List Frame}, Explored g visited frames → Explored g visited' frames
  | [], _ => trivial
  | _ :: _, ⟨htop, hbelow⟩ =>
    ⟨fun target ht => (htop target ht).imp_right fun hv => ⟨hsub hv.1, hv.2⟩,
      hbelow.mono hsub⟩

/-- One target less is pending once it has been visited and does not lie at or below. -/
theorem Explored.pass {visited : List Text} {node target : Text} {pending : List Text}
    {frames : List Frame} (h : Explored g visited (⟨node, target :: pending⟩ :: frames))
    (hv : target ∈ visited) (hp : target ∉ nodes (⟨node, pending⟩ :: frames)) :
    Explored g visited (⟨node, pending⟩ :: frames) := by
  refine ⟨fun other ho => ?_, h.2⟩
  rcases h.1 other ho with hpending | hvisited
  · rcases List.mem_cons.mp hpending with rfl | hpending
    · exact Or.inr ⟨hv, hp⟩
    · exact Or.inl hpending
  · exact Or.inr hvisited

namespace Inv

theorem onPath_cons (inv : Inv g root closed s) {frame : Frame} {frames : List Frame}
    (hf : s.frames = frame :: frames) : s.onPath = frame.node :: nodes frames := by
  rw [inv.onPath_eq, hf]
  rfl

/-- From a node that has been left, open edges lead to nodes that have been left. -/
theorem left_of_openReaches (inv : Inv g root closed s) {a b : Text}
    (ha : a ∈ s.visited ∧ a ∉ s.onPath) (hopen : a ∉ closed) (h : g.OpenReaches closed a b) :
    b ∈ s.visited ∧ b ∉ s.onPath := by
  let P := fun node => (node ∈ s.visited ∧ node ∉ s.onPath) ∧ node ∉ closed
  have hP : ∀ node other, P node → g.OpenEdge closed node other → P other := by
    intro node other hnode hedge
    rcases inv.left node hnode.1.1 with hc | hp | hl
    · exact absurd hc hnode.2
    · exact absurd hp hnode.1.2
    · exact ⟨hl.targets_visited other hedge.1, hedge.2⟩
  exact (mem_of_openReaches hP ⟨ha, hopen⟩ h).1

/-- A node without pending targets lies on no open cycle: all that it leads to has been left. -/
theorem left_top (inv : Inv g root closed s) {node : Text} {frames : List Frame}
    (hf : s.frames = ⟨node, []⟩ :: frames) : Left g closed s node where
  targets_visited := by
    intro target ht
    have hexplored := inv.explored
    rw [hf] at hexplored
    rw [inv.onPath_eq, hf]
    exact (hexplored.1 target ht).resolve_left List.not_mem_nil
  not_cyclic := by
    intro hcycle
    obtain ⟨target, hedge, hback⟩ := TransGen.head'_iff.mp hcycle
    have hexplored := inv.explored
    rw [hf] at hexplored
    have htarget := (hexplored.1 target hedge.1).resolve_left List.not_mem_nil
    have hleft : target ∈ s.visited ∧ target ∉ s.onPath := by
      rw [inv.onPath_eq, hf]
      exact htarget
    -- The cycle goes on to a node that has been left, and from there it cannot come back.
    have hnode := inv.left_of_openReaches hleft hedge.2 hback
    exact hnode.2 (by simp [inv.onPath_cons hf])

theorem leave (inv : Inv g root closed s) {node : Text} {frames : List Frame}
    (hf : s.frames = ⟨node, []⟩ :: frames) :
    Inv g root closed { s with frames := frames, onPath := s.onPath.erase node } := by
  have hpath := inv.onPath_cons hf
  have herase : s.onPath.erase node = nodes frames := by rw [hpath, List.erase_cons_head]
  have hsub : ∀ other ∈ nodes frames, other ∈ s.onPath := by
    intro other ho
    rw [hpath]
    exact List.mem_cons_of_mem _ ho
  have hleft : ∀ other, Left g closed s other →
      Left g closed { s with frames := frames, onPath := nodes frames } other := fun other h =>
    ⟨fun target ht => (h.targets_visited target ht).imp_right fun hn hm => hn (hsub target hm),
      h.not_cyclic⟩
  rw [herase]
  refine
    { onPath_eq := rfl
      nodup := ?nodup
      chain := ?chain
      last_eq := ?last_eq
      onPath_open := fun other ho => inv.onPath_open other (hsub other ho)
      pending_sub := fun frame hframe => inv.pending_sub frame (by simp [hf, hframe])
      explored := ?explored
      closed_sub := inv.closed_sub
      root_visited := inv.root_visited
      reached := inv.reached
      left := ?left }
  case nodup =>
    have hnodup := inv.nodup
    rw [hpath] at hnodup
    exact hnodup.of_cons
  case chain =>
    have hchain := inv.chain
    rw [hpath] at hchain
    exact hchain.tail
  case last_eq =>
    intro other ho
    apply inv.last_eq
    rw [hpath]
    cases hn : nodes frames with
    | nil => simp [hn] at ho
    | cons below rest => rwa [List.getLast?_cons_cons, ← hn]
  case explored =>
    have hexplored := inv.explored
    rw [hf] at hexplored
    exact hexplored.2
  case left =>
    intro other ho
    rcases inv.left other ho with hc | hp | hl
    · exact Or.inl hc
    · -- Of the path, only the deepest node is left.
      rw [hpath] at hp
      rcases List.mem_cons.mp hp with rfl | hp
      · exact Or.inr (Or.inr (hleft _ (inv.left_top hf)))
      · exact Or.inr (Or.inl hp)
    · exact Or.inr (Or.inr (hleft _ hl))

theorem pass (inv : Inv g root closed s) {node target : Text} {pending : List Text}
    {frames : List Frame} (hf : s.frames = ⟨node, target :: pending⟩ :: frames)
    (hp : target ∉ s.onPath) (hv : target ∈ s.visited) :
    Inv g root closed { s with frames := ⟨node, pending⟩ :: frames } := by
  have hpath := inv.onPath_cons hf
  have hexplored := inv.explored
  rw [hf] at hexplored
  exact
    { inv with
      onPath_eq := hpath
      pending_sub := by
        intro frame hframe
        rcases List.mem_cons.mp hframe with rfl | hframe
        · exact fun other ho => inv.pending_sub ⟨node, target :: pending⟩ (by simp [hf])
            (List.mem_cons_of_mem _ ho)
        · exact inv.pending_sub frame (by simp [hf, hframe])
      explored := hexplored.pass hv (by rw [hpath] at hp; exact hp)
      left := fun other ho => (inv.left other ho).imp_right fun h =>
        h.imp_right fun hl => ⟨hl.targets_visited, hl.not_cyclic⟩ }

theorem enter (inv : Inv g root closed s) {node target : Text} {pending : List Text}
    {frames : List Frame} (hf : s.frames = ⟨node, target :: pending⟩ :: frames)
    (hp : target ∉ s.onPath) (hv : target ∉ s.visited) :
    Inv g root closed ⟨⟨target, g.targets target⟩ :: ⟨node, pending⟩ :: frames,
      target :: s.onPath, target :: s.visited⟩ := by
  have hpath := inv.onPath_cons hf
  have hedge : g.OpenEdge closed node target := by
    refine ⟨inv.pending_sub ⟨node, target :: pending⟩ (by simp [hf]) List.mem_cons_self, ?_⟩
    exact fun hc => hv (inv.closed_sub hc)
  have hnode : node ∈ s.visited ∧ node ∉ closed := inv.onPath_open node (by simp [hpath])
  have hexplored := inv.explored
  rw [hf] at hexplored
  refine
    { onPath_eq := by rw [hpath]; rfl
      nodup := List.nodup_cons.mpr ⟨hp, inv.nodup⟩
      chain := ?chain
      last_eq := ?last_eq
      onPath_open := ?onPath_open
      pending_sub := ?pending_sub
      explored := ?explored
      closed_sub := List.Subset.trans inv.closed_sub (List.subset_cons_self _ _)
      root_visited := List.mem_cons_of_mem _ inv.root_visited
      reached := ?reached
      left := ?left }
  case chain =>
    have hchain := inv.chain
    rw [hpath] at hchain ⊢
    exact hchain.cons_cons hedge
  case last_eq =>
    intro other ho
    apply inv.last_eq
    rw [hpath] at ho ⊢
    rwa [List.getLast?_cons_cons] at ho
  case onPath_open =>
    intro other ho
    rcases List.mem_cons.mp ho with rfl | ho
    · exact ⟨List.mem_cons_self, hedge.2⟩
    · exact (inv.onPath_open other ho).imp_left (List.mem_cons_of_mem _)
  case pending_sub =>
    intro frame hframe
    rcases List.mem_cons.mp hframe with rfl | hframe
    · exact List.Subset.refl _
    · rcases List.mem_cons.mp hframe with rfl | hframe
      · exact fun other ho => inv.pending_sub ⟨node, target :: pending⟩ (by simp [hf])
          (List.mem_cons_of_mem _ ho)
      · exact inv.pending_sub frame (by simp [hf, hframe])
  case explored =>
    refine ⟨fun other ho => Or.inl ho, ?_⟩
    apply (hexplored.mono (List.subset_cons_self _ _)).pass List.mem_cons_self
    rw [hpath] at hp
    exact hp
  case reached =>
    intro other ho
    rcases List.mem_cons.mp ho with rfl | ho
    · exact Or.inr (((inv.reached node hnode.1).resolve_left hnode.2).tail hedge)
    · exact inv.reached other ho
  case left =>
    intro other ho
    rcases List.mem_cons.mp ho with rfl | ho
    · exact Or.inr (Or.inl List.mem_cons_self)
    · rcases inv.left other ho with hc | hpo | hl
      · exact Or.inl hc
      · exact Or.inr (Or.inl (List.mem_cons_of_mem _ hpo))
      · -- A node that has been left leads to visited nodes, and the target was not among them.
        refine Or.inr (Or.inr ⟨fun next hn => ?_, hl.not_cyclic⟩)
        have hnext := hl.targets_visited next hn
        refine ⟨List.mem_cons_of_mem _ hnext.1, fun hm => ?_⟩
        rcases List.mem_cons.mp hm with rfl | hm
        · exact hv hnext.1
        · exact hnext.2 hm

theorem step_next (inv : Inv g root closed s) (h : step g s = .next s') :
    Inv g root closed s' := by
  rcases step_next_cases h with ⟨node, frames, hf, rfl⟩ |
    ⟨node, target, pending, frames, hf, hp, hv, rfl⟩ |
    ⟨node, target, pending, frames, hf, hp, hv, rfl⟩
  · exact inv.leave hf
  · exact inv.pass hf hp hv
  · exact inv.enter hf hp hv

end Inv

end Archimate.Digraph.Search
