import Archimate.Digraph

namespace Archimate.Digraph

/-- A node on the path and its targets that are still to be looked at. -/
structure Frame where
  node : Text
  pending : List Text
deriving DecidableEq

/-- The frames of the path, the deepest first, the nodes on it, and all nodes visited so far. -/
structure Search where
  frames : List Frame
  onPath : List Text
  visited : List Text
deriving DecidableEq

inductive Progress where
  | foundCycle
  | exhausted
  | next (search : Search)

namespace Search

def start (g : Digraph) (root : Text) (visited : List Text) : Search where
  frames := [⟨root, g.targets root⟩]
  onPath := [root]
  visited := root :: visited

/-- Looks at one target of the deepest node, or leaves that node when none is left. -/
def step (g : Digraph) (s : Search) : Progress :=
  match s.frames with
  | [] => .exhausted
  | ⟨node, []⟩ :: frames => .next { s with frames := frames, onPath := s.onPath.erase node }
  | ⟨node, target :: pending⟩ :: frames =>
    if target ∈ s.onPath then .foundCycle
    else if target ∈ s.visited then .next { s with frames := ⟨node, pending⟩ :: frames }
    else .next
      { frames := ⟨target, g.targets target⟩ :: ⟨node, pending⟩ :: frames
        onPath := target :: s.onPath
        visited := target :: s.visited }

/-- Edges out of the listed nodes that are not visited. -/
def unvisitedEdges (visited : List Text) : List (Text × List Text) → Nat
  | [] => 0
  | (node, targets) :: rest =>
    (if node ∈ visited then 0 else targets.length) + unvisitedEdges visited rest

def frameWork : List Frame → Nat
  | [] => 0
  | frame :: frames => 2 * frame.pending.length + 1 + frameWork frames

/-- Bounds the number of steps that are left. -/
def work (g : Digraph) (s : Search) : Nat :=
  frameWork s.frames + 2 * unvisitedEdges s.visited g.entries

theorem unvisitedEdges_cons_le (node : Text) (visited : List Text)
    (es : List (Text × List Text)) :
    unvisitedEdges (node :: visited) es ≤ unvisitedEdges visited es := by
  induction es with
  | nil => simp [unvisitedEdges]
  | cons e es ih =>
    simp only [unvisitedEdges, List.mem_cons]
    by_cases h : e.1 ∈ visited
    · simp [h, ih]
    · by_cases h' : e.1 = node <;> simp [h, h'] <;> omega

theorem unvisitedEdges_cons {node : Text} {visited : List Text} (h : node ∉ visited)
    (es : List (Text × List Text)) :
    ((es.lookup node).getD []).length + unvisitedEdges (node :: visited) es ≤
      unvisitedEdges visited es := by
  induction es with
  | nil => simp [unvisitedEdges]
  | cons e es ih =>
    obtain ⟨k, targets⟩ := e
    by_cases hk : k = node
    · subst hk
      have := unvisitedEdges_cons_le k visited es
      simp [unvisitedEdges, h]
      omega
    · have hn : node ≠ k := fun e => hk e.symm
      simp only [unvisitedEdges, Entries.lookup_cons_of_ne hn, List.mem_cons, hk, false_or]
      omega

theorem work_step {g : Digraph} {s s' : Search} (h : step g s = .next s') :
    work g s' < work g s := by
  simp only [step] at h
  split at h
  · simp at h
  · rename_i node frames hf
    simp only [Progress.next.injEq] at h
    simp [work, ← h, hf, frameWork]
  · rename_i node target pending frames hf
    split at h
    · simp at h
    · split at h
      · simp only [Progress.next.injEq] at h
        simp [work, ← h, hf, frameWork]
      · rename_i hv
        simp only [Progress.next.injEq] at h
        have := unvisitedEdges_cons hv g.entries
        simp [work, ← h, hf, frameWork, targets, Dictionary.find?_eq_lookup]
        omega

/-- Whether the search ends at an edge back onto its path, and the nodes visited by then. -/
def run (g : Digraph) (s : Search) : Bool × List Text :=
  match h : step g s with
  | .foundCycle => (true, s.visited)
  | .exhausted => (false, s.visited)
  | .next s' =>
    have := work_step h
    run g s'
termination_by work g s

end Search

def findCycle (g : Digraph) (root : Text) (visited : List Text) : Bool × List Text :=
  (Search.start g root visited).run g

/-- The roots whose search finds a cycle, when each unvisited node is searched from in turn. -/
def cycleRootsFrom (g : Digraph) (visited : List Text) : List Text → List Text
  | [] => []
  | node :: nodes =>
    if node ∈ visited then cycleRootsFrom g visited nodes
    else
      let (cyclic, visited) := findCycle g node visited
      if cyclic then node :: cycleRootsFrom g visited nodes else cycleRootsFrom g visited nodes

def cycleRoots (g : Digraph) : List Text :=
  cycleRootsFrom g [] g.keys

end Archimate.Digraph
