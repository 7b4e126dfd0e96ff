import Archimate.Dictionary
import Archimate.Text.CodePoint

namespace Archimate

abbrev Digraph := Dictionary Text (List Text)

namespace Digraph

def targets (g : Digraph) (node : Text) : List Text :=
  (g.find? node).getD []

def addTarget (target : Text) (targets : List Text) : List Text :=
  if target ∈ targets then targets else targets ++ [target]

def addEdge (g : Digraph) (edge : Text × Text) : Digraph :=
  g.alter edge.1 fun targets => addTarget edge.2 (targets.getD [])

def ofEdges (edges : List (Text × Text)) : Digraph :=
  edges.foldl addEdge .empty

theorem mem_addTarget {target other : Text} {targets : List Text} :
    other ∈ addTarget target targets ↔ other = target ∨ other ∈ targets := by
  simp only [addTarget]
  split
  · constructor
    · exact Or.inr
    · rintro (rfl | h)
      · assumption
      · exact h
  · simp [or_comm]

theorem targets_addEdge (g : Digraph) (edge : Text × Text) (node : Text) :
    targets (addEdge g edge) node =
      if node = edge.1 then addTarget edge.2 (targets g node) else targets g node := by
  simp only [targets, addEdge, Dictionary.alter, Dictionary.find?_insert]
  by_cases h : node = edge.1 <;> simp [h]

theorem mem_targets_ofEdges {edges : List (Text × Text)} {node other : Text} :
    other ∈ targets (ofEdges edges) node ↔ (node, other) ∈ edges := by
  suffices h : ∀ (g : Digraph), other ∈ targets (edges.foldl addEdge g) node ↔
      other ∈ targets g node ∨ (node, other) ∈ edges by
    simpa [ofEdges, targets, Dictionary.find?_empty] using h .empty
  induction edges with
  | nil => simp
  | cons edge edges ih =>
    intro g
    simp only [List.foldl_cons, ih, targets_addEdge, List.mem_cons]
    by_cases hn : node = edge.1
    · subst hn
      simp only [if_true, mem_addTarget]
      constructor
      · rintro ((rfl | h) | h)
        · exact Or.inr (Or.inl rfl)
        · exact Or.inl h
        · exact Or.inr (Or.inr h)
      · rintro (h | h | h)
        · exact Or.inl (Or.inr h)
        · exact Or.inl (Or.inl (congrArg Prod.snd h))
        · exact Or.inr h
    · have : (node, other) ≠ edge := fun e => hn (congrArg Prod.fst e)
      simp [hn, this]

end Digraph

end Archimate
