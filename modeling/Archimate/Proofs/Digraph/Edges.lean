import Archimate.Digraph
import Archimate.Proofs.Dictionary

namespace Archimate.Digraph

def targetsIn (edges : List (Text × Text)) (node : Text) : List Text :=
  (edges.filter fun edge => edge.1 = node).map Prod.snd

theorem keys_ofEdges (edges : List (Text × Text)) :
    (ofEdges edges).keys = (edges.map Prod.fst).eraseDups :=
  Dictionary.keys_foldl_alter Prod.fst (fun edge targets => addTarget edge.2 (targets.getD []))
    edges

theorem targets_ofEdges (edges : List (Text × Text)) (node : Text) :
    (ofEdges edges).targets node = (targetsIn edges node).eraseDups := by
  unfold ofEdges targetsIn
  induction edges using List.reverseRecOn with
  | nil => rfl
  | append_singleton edges edge ih =>
    rw [List.foldl_concat, targets_addEdge, List.filter_append, List.map_append, ih]
    by_cases h : node = edge.1
    · simp [h, addTarget, eraseDups_concat]
    · simp [h, Ne.symm h]

theorem targetsIn_filter {inside : Text → Bool} {node : Text} (h : inside node = true)
    (edges : List (Text × Text)) :
    targetsIn (edges.filter fun edge => inside edge.1) node = targetsIn edges node := by
  unfold targetsIn
  rw [List.filter_filter]
  apply congrArg
  apply List.filter_congr
  intro edge _
  by_cases hedge : edge.1 = node
  · simp [hedge, h]
  · simp [hedge]

theorem exists_keys_ofEdges_append {front : List (Text × Text)} (h : (front.map Prod.fst).Nodup)
    (back : List (Text × Text)) :
    ∃ more, (ofEdges (front ++ back)).keys = front.map Prod.fst ++ more := by
  rw [keys_ofEdges, List.map_append, List.eraseDups_append, eraseDups_of_nodup h]
  exact ⟨_, rfl⟩

theorem targetsIn_of_nodup {edges : List (Text × Text)} {edge : Text × Text}
    (h : (edges.map Prod.fst).Nodup) (hedge : edge ∈ edges) :
    targetsIn edges edge.1 = [edge.2] := by
  obtain ⟨before, after, rfl⟩ := List.append_of_mem hedge
  rw [List.map_append, List.map_cons, List.nodup_append', List.nodup_cons] at h
  obtain ⟨-, ⟨hafter, -⟩, hbefore⟩ := h
  have hnone : ∀ others : List (Text × Text), edge.1 ∉ others.map Prod.fst →
      others.filter (fun other => other.1 = edge.1) = [] := by
    intro others hne
    refine List.filter_eq_nil_iff.mpr fun other ho => ?_
    simpa using fun heq : other.1 = edge.1 => hne (heq ▸ List.mem_map_of_mem ho)
  have hbefore : edge.1 ∉ before.map Prod.fst := fun hm => hbefore hm List.mem_cons_self
  simp [targetsIn, hnone before hbefore, hnone after hafter]

end Archimate.Digraph
