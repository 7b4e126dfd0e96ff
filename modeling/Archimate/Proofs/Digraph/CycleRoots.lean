import Archimate.Proofs.Dictionary
import Archimate.Proofs.Digraph.Outcome

namespace Archimate.Digraph

open Relation

variable {g : Digraph} {closed : List Text}

section Next

variable {node : Text} {nodes : List Text}

theorem cycleRootsFrom_of_closed (h : node ∈ closed) :
    cycleRootsFrom g closed (node :: nodes) = cycleRootsFrom g closed nodes := by
  rw [cycleRootsFrom, if_pos h]

theorem cycleRootsFrom_of_found (h : node ∉ closed) (hfound : (findCycle g node closed).1 = true) :
    cycleRootsFrom g closed (node :: nodes) =
      node :: cycleRootsFrom g (findCycle g node closed).2 nodes := by
  rw [cycleRootsFrom, if_neg h]
  exact if_pos hfound

theorem cycleRootsFrom_of_not_found (h : node ∉ closed)
    (hfound : (findCycle g node closed).1 = false) : cycleRootsFrom g closed (node :: nodes) =
      cycleRootsFrom g (findCycle g node closed).2 nodes := by
  rw [cycleRootsFrom, if_neg h]
  exact if_neg (ne_true_of_eq_false hfound)

end Next

/-- Roots that are closed are passed over. -/
theorem cycleRootsFrom_append_of_subset {front : List Text} (h : front ⊆ closed)
    (nodes : List Text) :
    cycleRootsFrom g closed (front ++ nodes) = cycleRootsFrom g closed nodes := by
  induction front with
  | nil => rfl
  | cons node front ih =>
    obtain ⟨hnode, hfront⟩ := List.cons_subset.mp h
    rw [List.cons_append, cycleRootsFrom_of_closed hnode, ih hfront]

theorem cycleRootsFrom_sublist (nodes : List Text) :
    (cycleRootsFrom g closed nodes).Sublist nodes := by
  induction nodes generalizing closed with
  | nil => exact List.Sublist.refl []
  | cons node nodes ih =>
    by_cases hclosed : node ∈ closed
    · rw [cycleRootsFrom_of_closed hclosed]
      exact ih.cons node
    · cases hfound : (findCycle g node closed).1 with
      | false =>
        rw [cycleRootsFrom_of_not_found hclosed hfound]
        exact ih.cons node
      | true =>
        rw [cycleRootsFrom_of_found hclosed hfound]
        exact ih.cons_cons node

theorem onCycle_of_mem_cycleRootsFrom {root : Text} {nodes : List Text}
    (h : root ∈ cycleRootsFrom g closed nodes) :
    ∃ node, g.Reaches root node ∧ g.OnCycle node := by
  induction nodes generalizing closed with
  | nil => simp [cycleRootsFrom] at h
  | cons first nodes ih =>
    by_cases hclosed : first ∈ closed
    · rw [cycleRootsFrom_of_closed hclosed] at h
      exact ih h
    · cases hfound : (findCycle g first closed).1 with
      | false =>
        rw [cycleRootsFrom_of_not_found hclosed hfound] at h
        exact ih h
      | true =>
        rw [cycleRootsFrom_of_found hclosed hfound] at h
        rcases List.mem_cons.mp h with rfl | h
        · obtain ⟨node, hreach, hcycle⟩ := (outcome_findCycle hclosed).found_iff.mp hfound
          exact ⟨node, hreach.reaches, hcycle.onCycle⟩
        · exact ih h

/-- The nodes that lie on a common closed walk with the given one. -/
def Connected (g : Digraph) (a b : Text) : Prop := g.Reaches a b ∧ g.Reaches b a

theorem Connected.refl (node : Text) : g.Connected node node :=
  ⟨ReflTransGen.refl, ReflTransGen.refl⟩

theorem onOpenCycle_of_connected {node : Text} (hcycle : g.OnCycle node)
    (hopen : ∀ other, g.Connected node other → other ∉ closed) : g.OnOpenCycle closed node :=
  openWalk_of_between hcycle fun other hto hback => hopen other ⟨hto, hback⟩

/-- A search that meets the component of a cycle that is still open finds a cycle. -/
theorem found_of_met {root node other : Text} (hroot : root ∉ closed) (hcycle : g.OnCycle node)
    (hopen : ∀ third, g.Connected node third → third ∉ closed) (hconn : g.Connected node other)
    (hvisited : other ∈ (findCycle g root closed).2) :
    (findCycle g root closed).1 = true ∧ g.OnOpenCycle closed other := by
  have outcome := outcome_findCycle (g := g) hroot
  have hother : g.OnCycle other :=
    TransGen.trans_right hconn.2 (TransGen.trans_left hcycle hconn.1)
  have hwhole : ∀ third, g.Connected other third → third ∉ closed := by
    intro third h
    exact hopen third ⟨hconn.1.trans h.1, h.2.trans hconn.2⟩
  have hopenCycle := onOpenCycle_of_connected hother hwhole
  have hreach := outcome.openReaches hvisited (hopen other hconn)
  exact ⟨outcome.found_iff.mpr ⟨other, hreach, hopenCycle⟩, hopenCycle⟩

/-- Every cycle of which no node is closed is reached from a reported root: the first search that
visits its component finds a cycle. -/
theorem exists_mem_cycleRootsFrom {node : Text} {nodes : List Text} (hcycle : g.OnCycle node)
    (hopen : ∀ other, g.Connected node other → other ∉ closed) (hmem : node ∈ nodes) :
    ∃ root ∈ cycleRootsFrom g closed nodes, g.Reaches root node := by
  induction nodes generalizing closed with
  | nil => simp at hmem
  | cons first nodes ih =>
    by_cases hfirst : first ∈ closed
    · rw [cycleRootsFrom_of_closed hfirst]
      rcases List.mem_cons.mp hmem with rfl | hmem
      · exact absurd hfirst (hopen node (Connected.refl node))
      · exact ih hopen hmem
    · have outcome := outcome_findCycle (g := g) hfirst
      -- Either this search meets the component of the node, or it leaves all of it open.
      by_cases hmet : ∃ other, g.Connected node other ∧ other ∈ (findCycle g first closed).2
      · obtain ⟨other, hconn, hvisited⟩ := hmet
        rw [cycleRootsFrom_of_found hfirst (found_of_met hfirst hcycle hopen hconn hvisited).1]
        have hreach := outcome.openReaches hvisited (hopen other hconn)
        exact ⟨first, List.mem_cons_self, hreach.reaches.trans hconn.2⟩
      · have hstill : ∀ other, g.Connected node other → other ∉ (findCycle g first closed).2 :=
          fun other hconn hvisited => hmet ⟨other, hconn, hvisited⟩
        have hne : node ≠ first := by
          rintro rfl
          exact hstill node (Connected.refl node) outcome.root_visited
        obtain ⟨root, hroot, hreach⟩ := ih hstill ((List.mem_cons.mp hmem).resolve_left hne)
        cases hfound : (findCycle g first closed).1 with
        | false =>
          rw [cycleRootsFrom_of_not_found hfirst hfound]
          exact ⟨root, hroot, hreach⟩
        | true =>
          rw [cycleRootsFrom_of_found hfirst hfound]
          exact ⟨root, List.mem_cons_of_mem first hroot, hreach⟩

theorem mem_keys_of_edge {a b : Text} (h : g.Edge a b) : a ∈ g.keys := by
  by_contra hne
  unfold Edge targets at h
  rw [Dictionary.find?_eq_none_iff.mpr hne] at h
  simp at h

theorem exists_mem_cycleRoots {node : Text} (hcycle : g.OnCycle node) :
    ∃ root ∈ cycleRoots g, g.Reaches root node := by
  obtain ⟨next, hedge, _⟩ := TransGen.head'_iff.mp hcycle
  exact exists_mem_cycleRootsFrom hcycle (fun _ _ => List.not_mem_nil) (mem_keys_of_edge hedge)

theorem cycleRoots_eq_nil_iff : cycleRoots g = [] ↔ ∀ node, ¬g.OnCycle node := by
  constructor
  · intro hnil node hcycle
    obtain ⟨root, hroot, _⟩ := exists_mem_cycleRoots hcycle
    rw [hnil] at hroot
    exact List.not_mem_nil hroot
  · intro hacyclic
    apply List.eq_nil_iff_forall_not_mem.mpr
    intro root hroot
    obtain ⟨node, _, hcycle⟩ := onCycle_of_mem_cycleRootsFrom hroot
    exact hacyclic node hcycle

end Archimate.Digraph
