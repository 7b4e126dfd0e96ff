import Archimate.Proofs.Digraph.ClosedWalk
import Archimate.Proofs.Digraph.CycleRoots
import Mathlib.Data.Set.Card
import Mathlib.Order.Antichain

namespace Archimate
open Relation

section Components

variable {α : Type} {r : α → α → Prop} {a b : α}

def component (r : α → α → Prop) (a : α) : Set α := {b | ReflTransGen r a b ∧ ReflTransGen r b a}

def cyclicComponents (r : α → α → Prop) : Set (Set α) := component r '' {a | TransGen r a a}

/-- A closed walk leads to another one only where they share a node. -/
def CyclesMeet (r : α → α → Prop) : Prop :=
  ∀ c d, ClosedWalk r c → ClosedWalk r d → (∃ a ∈ c, ∃ b ∈ d, ReflTransGen r a b) → ¬c.Disjoint d

theorem mem_component_self (a : α) : a ∈ component r a := ⟨ReflTransGen.refl, ReflTransGen.refl⟩

theorem component_eq (h : b ∈ component r a) : component r b = component r a := by
  ext c
  exact ⟨fun hc => ⟨h.1.trans hc.1, hc.2.trans h.2⟩, fun hc => ⟨h.2.trans hc.1, hc.2.trans h.1⟩⟩

theorem ClosedWalk.component_eq {nodes : List α} (h : ClosedWalk r nodes) (ha : a ∈ nodes)
    (hb : b ∈ nodes) : component r b = component r a :=
  Archimate.component_eq ⟨(h.transGen ha hb).to_reflTransGen, (h.transGen hb ha).to_reflTransGen⟩

theorem CyclesMeet.component_eq (h : CyclesMeet r) (ha : TransGen r a a) (hb : TransGen r b b)
    (hab : ReflTransGen r a b) : component r a = component r b := by
  obtain ⟨c, hc, hac⟩ := exists_closedWalk ha
  obtain ⟨d, hd, hbd⟩ := exists_closedWalk hb
  obtain ⟨x, hxc, hxd⟩ : ∃ x ∈ c, x ∈ d := by
    by_contra hne
    exact h c d hc hd ⟨a, hac, b, hbd, hab⟩ fun x hx hx' => hne ⟨x, hx, hx'⟩
  exact (hc.component_eq hxc hac).trans (hd.component_eq hbd hxd)

/-- Where cycles meet, disjoint closed walks are in different components. -/
theorem CyclesMeet.length_le (h : CyclesMeet r) {walks : List (List α)}
    (hwalks : ∀ walk ∈ walks, ClosedWalk r walk) (hdisjoint : walks.Pairwise List.Disjoint) :
    (walks.length : ℕ∞) ≤ (cyclicComponents r).encard := by
  classical
  -- A closed walk stands for the component that holds all of its nodes.
  let componentOf := fun walk : List α => {b | ∃ a ∈ walk, b ∈ component r a}
  have heq : ∀ walk ∈ walks, ∀ a ∈ walk, componentOf walk = component r a := by
    intro walk hw a ha
    ext b
    refine ⟨fun ⟨a', ha', hb⟩ => ?_, fun hb => ⟨a, ha, hb⟩⟩
    rwa [(hwalks walk hw).component_eq ha ha'] at hb
  have hnodup : (walks.map componentOf).Nodup := by
    refine List.pairwise_map.mpr (hdisjoint.imp_of_mem fun {c d} hc hd hcd hsame => ?_)
    obtain ⟨a, ha⟩ := List.exists_mem_of_ne_nil c (hwalks c hc).ne_nil
    obtain ⟨b, hb⟩ := List.exists_mem_of_ne_nil d (hwalks d hd).ne_nil
    rw [heq c hc a ha, heq d hd b hb] at hsame
    have hab : b ∈ component r a := hsame ▸ mem_component_self b
    exact h c d (hwalks c hc) (hwalks d hd) ⟨a, ha, b, hb, hab.1⟩ hcd
  have hsub : ((walks.map componentOf).toFinset : Set (Set α)) ⊆ cyclicComponents r := by
    intro part hpart
    obtain ⟨walk, hw, rfl⟩ := List.mem_map.mp (List.mem_toFinset.mp hpart)
    obtain ⟨a, ha⟩ := List.exists_mem_of_ne_nil walk (hwalks walk hw).ne_nil
    exact ⟨a, (hwalks walk hw).transGen ha ha, (heq walk hw a ha).symm⟩
  calc (walks.length : ℕ∞) = ((walks.map componentOf).toFinset.card : ℕ∞) := by
        rw [List.toFinset_card_of_nodup hnodup, List.length_map]
    _ = ((walks.map componentOf).toFinset : Set (Set α)).encard :=
        (Set.encard_coe_eq_coe_finsetCard _).symm
    _ ≤ (cyclicComponents r).encard := Set.encard_le_encard hsub

/-- Where cycles meet, one node can be chosen of each component that contains a cycle, and none of
the chosen nodes reaches another. -/
theorem CyclesMeet.exists_antichain (h : CyclesMeet r) {all : List α}
    (hfinite : ∀ a b, r a b → a ∈ all) : ∃ chosen : Finset α, (∀ a ∈ chosen, TransGen r a a) ∧
      IsAntichain (ReflTransGen r) (chosen : Set α) ∧
      (cyclicComponents r).encard = (chosen.card : ℕ∞) := by
  obtain ⟨nodes, hnodes, hbij⟩ := Set.exists_subset_bijOn {a | TransGen r a a} (component r)
  have hall : nodes ⊆ {a | a ∈ all} := by
    intro a ha
    obtain ⟨b, hab, -⟩ := TransGen.head'_iff.mp (hnodes ha)
    exact hfinite a b hab
  have hfin : nodes.Finite := (List.finite_toSet all).subset hall
  refine ⟨hfin.toFinset, fun a ha => hnodes (hfin.mem_toFinset.mp ha), ?_, ?_⟩
  · rw [hfin.coe_toFinset]
    intro a ha b hb hne hab
    exact hne (hbij.injOn ha hb (h.component_eq (hnodes ha) (hnodes hb) hab))
  · rw [← hfin.encard_eq_coe_toFinset_card, cyclicComponents, ← hbij.image_eq,
      hbij.injOn.encard_image]

end Components

namespace Digraph

variable {g : Digraph} {root : Text} {closed : List Text}

namespace Search

variable {s : Search}

/-- A run that finds a cycle stops at an edge back onto the path. -/
theorem Inv.exists_foundCycle (inv : Inv g root closed s) (h : (run g s).1 = true) :
    ∃ t, Inv g root closed t ∧ step g t = .foundCycle ∧ (run g s).2 = t.visited := by
  induction s using run.induct g with
  | case1 s hstep =>
    rw [run_of_foundCycle hstep]
    exact ⟨s, inv, hstep, rfl⟩
  | case2 s hstep =>
    rw [run_of_exhausted hstep] at h
    exact absurd h (by simp)
  | case3 s t hstep _ ih =>
    rw [run_of_next hstep] at h ⊢
    exact ih (inv.step_next hstep) h

theorem Inv.exists_closedWalk (inv : Inv g root closed s) (h : step g s = .foundCycle) :
    ∃ nodes, ClosedWalk g.Edge nodes ∧ ∀ node ∈ nodes, node ∈ s.visited ∧ node ∉ closed := by
  obtain ⟨node, target, pending, frames, hf, hp⟩ := step_foundCycle h
  have hedge : g.Edge node target :=
    inv.pending_sub ⟨node, target :: pending⟩ (by simp [hf]) List.mem_cons_self
  have hchain : s.onPath.reverse.IsChain g.Edge :=
    List.isChain_reverse.mpr (inv.chain.imp fun _ _ h => h.1)
  obtain ⟨front, back, hpath⟩ := List.append_of_mem (List.mem_reverse.mpr hp)
  have hlast : (s.onPath.reverse).getLast? = some node := by
    rw [List.getLast?_reverse, inv.onPath_cons hf]
    rfl
  refine ⟨target :: back, ClosedWalk.cons_iff.mpr ?_, ?_⟩
  · rw [hpath] at hchain hlast
    refine hchain.right_of_append.append (List.IsChain.singleton target) ?_
    intro a ha b hb
    rw [List.getLast?_append_of_ne_nil _ (List.cons_ne_nil target back)] at hlast
    rw [← Option.some.inj (hlast.symm.trans ha), ← Option.some.inj hb]
    exact hedge
  · intro other ho
    apply inv.onPath_open
    rw [← List.mem_reverse, hpath]
    exact List.mem_append_right _ ho

/-- Visited nodes on open cycles lie on the path, so one of two leads to the other. -/
theorem Inv.reaches_or_reaches (inv : Inv g root closed s) {a b : Text} (ha : a ∈ s.visited)
    (hb : b ∈ s.visited) (hca : g.OnOpenCycle closed a) (hcb : g.OnOpenCycle closed b) :
    g.Reaches a b ∨ g.Reaches b a := by
  have hpath : ∀ node ∈ s.visited, g.OnOpenCycle closed node → node ∈ s.onPath := by
    intro node hv hcycle
    obtain ⟨_, _, hlast⟩ := TransGen.tail'_iff.mp hcycle
    rcases inv.left node hv with hc | hp | hl
    · exact absurd hc hlast.2
    · exact hp
    · exact absurd hcycle hl.not_cyclic
  have hchain : s.onPath.IsChain fun node below => g.Reaches below node :=
    inv.chain.imp fun _ _ h => ReflTransGen.single h.1
  have htrans : IsTrans Text fun node below => g.Reaches below node :=
    ⟨fun _ _ _ h h' => h'.trans h⟩
  have hsymm : Std.Symm fun a b => g.Reaches a b ∨ g.Reaches b a := ⟨fun _ _ => Or.symm⟩
  have hpairs : s.onPath.Pairwise fun a b => g.Reaches a b ∨ g.Reaches b a :=
    (List.isChain_iff_pairwise.mp hchain).imp Or.inr
  exact List.Pairwise.forall_of_forall (R := fun a b => g.Reaches a b ∨ g.Reaches b a)
    (fun _ _ => Or.inl ReflTransGen.refl) hpairs (hpath a ha hca) (hpath b hb hcb)

end Search

section Found

variable (hroot : root ∉ closed) (hfound : (findCycle g root closed).1 = true)

include hroot hfound

/-- A search that finds a cycle has visited a whole closed walk. -/
theorem exists_closedWalk_findCycle : ∃ nodes, ClosedWalk g.Edge nodes ∧
    ∀ node ∈ nodes, node ∈ (findCycle g root closed).2 ∧ node ∉ closed := by
  obtain ⟨t, inv, hstep, hvisited⟩ := (Search.inv_start hroot).exists_foundCycle hfound
  unfold findCycle
  rw [hvisited]
  exact inv.exists_closedWalk hstep

theorem reaches_or_reaches_findCycle {a b : Text} (ha : a ∈ (findCycle g root closed).2)
    (hb : b ∈ (findCycle g root closed).2) (hca : g.OnOpenCycle closed a)
    (hcb : g.OnOpenCycle closed b) : g.Reaches a b ∨ g.Reaches b a := by
  obtain ⟨t, inv, -, hvisited⟩ := (Search.inv_start hroot).exists_foundCycle hfound
  unfold findCycle at ha hb
  rw [hvisited] at ha hb
  exact inv.reaches_or_reaches ha hb hca hcb

end Found

/-- Each report has a closed walk of its own that is reached from the reported root. -/
theorem exists_disjoint_closedWalks (closed nodes : List Text) : ∃ walks : List (List Text),
    (∀ walk ∈ walks, ClosedWalk g.Edge walk ∧ walk.Disjoint closed) ∧
    walks.Pairwise List.Disjoint ∧
    List.Forall₂ (fun root walk => ∀ node ∈ walk, g.Reaches root node)
      (cycleRootsFrom g closed nodes) walks := by
  induction nodes generalizing closed with
  | nil => exact ⟨[], by simp, List.Pairwise.nil, List.Forall₂.nil⟩
  | cons node nodes ih =>
    by_cases hclosed : node ∈ closed
    · rw [cycleRootsFrom_of_closed hclosed]
      exact ih closed
    · have outcome := outcome_findCycle (g := g) hclosed
      obtain ⟨walks, hwalks, hdisjoint, hreached⟩ := ih (findCycle g node closed).2
      have hlater : ∀ walk ∈ walks, ClosedWalk g.Edge walk ∧ walk.Disjoint closed :=
        fun walk hw => (hwalks walk hw).imp_right (List.disjoint_of_subset_right outcome.closed_sub)
      cases hfound : (findCycle g node closed).1 with
      | false =>
        rw [cycleRootsFrom_of_not_found hclosed hfound]
        exact ⟨walks, hlater, hdisjoint, hreached⟩
      | true =>
        rw [cycleRootsFrom_of_found hclosed hfound]
        obtain ⟨walk, hwalk, hnew⟩ := exists_closedWalk_findCycle hclosed hfound
        refine ⟨walk :: walks, List.forall_mem_cons.mpr ⟨⟨hwalk, fun other ho => (hnew other ho).2⟩,
          hlater⟩, List.pairwise_cons.mpr ⟨?_, hdisjoint⟩, List.Forall₂.cons ?_ hreached⟩
        · -- Later walks avoid what this search has visited.
          exact fun later hl other ho hother => (hwalks later hl).2 hother (hnew other ho).1
        · exact fun other ho => (outcome.openReaches (hnew other ho).1 (hnew other ho).2).reaches

section Chosen

variable {chosen : Finset Text} (hcycle : ∀ node ∈ chosen, g.OnCycle node)
  (hopen : ∀ node ∈ chosen, ∀ other, g.Connected node other → other ∉ closed)
  (hanti : IsAntichain g.Reaches (chosen : Set Text))

include hcycle hopen hanti

/-- Of nodes on open cycles of which none reaches another, a search meets the component of at most
one, and of none if it finds no cycle. -/
theorem exists_unmet (hroot : root ∉ closed) : ∃ unmet ⊆ chosen,
    (∀ node ∈ unmet, ∀ other, g.Connected node other → other ∉ (findCycle g root closed).2) ∧
    chosen.card ≤ unmet.card + (findCycle g root closed).1.toNat := by
  by_cases hmet : ∃ node ∈ chosen, ∃ other, g.Connected node other ∧
      other ∈ (findCycle g root closed).2
  · obtain ⟨node, hn, other, hconn, hv⟩ := hmet
    obtain ⟨hfound, hother⟩ := found_of_met hroot (hcycle node hn) (hopen node hn) hconn hv
    refine ⟨chosen.erase node, Finset.erase_subset node chosen,
      fun node' hn' other' hconn' hv' => ?_, ?_⟩
    · obtain ⟨hne, hn'⟩ := Finset.mem_erase.mp hn'
      obtain ⟨-, hother'⟩ := found_of_met hroot (hcycle node' hn') (hopen node' hn') hconn' hv'
      -- Of two that the search has met, one would reach the other.
      rcases reaches_or_reaches_findCycle hroot hfound hv hv' hother hother' with h | h
      · exact hanti hn hn' hne.symm (hconn.1.trans (h.trans hconn'.2))
      · exact hanti hn' hn hne (hconn'.1.trans (h.trans hconn.2))
    · rw [hfound, Bool.toNat_true, Finset.card_erase_add_one hn]
  · exact ⟨chosen, Finset.Subset.refl chosen,
      fun node hn other hconn hv => hmet ⟨node, hn, other, hconn, hv⟩, Nat.le_add_right _ _⟩

/-- Nodes on cycles of which none reaches another give a report each. -/
theorem card_le_length_cycleRootsFrom {nodes : List Text} (hmem : ∀ node ∈ chosen, node ∈ nodes) :
    chosen.card ≤ (cycleRootsFrom g closed nodes).length := by
  induction nodes generalizing chosen closed with
  | nil =>
    have hnone : chosen = ∅ :=
      Finset.eq_empty_of_forall_notMem fun node hn => List.not_mem_nil (hmem node hn)
    rw [hnone]
    exact Nat.zero_le _
  | cons first nodes ih =>
    by_cases hfirst : first ∈ closed
    · rw [cycleRootsFrom_of_closed hfirst]
      refine ih hcycle hopen hanti fun node hn => (List.mem_cons.mp (hmem node hn)).resolve_left ?_
      rintro rfl
      exact hopen node hn node (Connected.refl node) hfirst
    · obtain ⟨unmet, hsub, hunmet, hcard⟩ := exists_unmet hcycle hopen hanti hfirst
      have hrest : unmet.card ≤ (cycleRootsFrom g (findCycle g first closed).2 nodes).length := by
        refine ih (fun node hn => hcycle node (hsub hn)) hunmet
          (hanti.subset (Finset.coe_subset.mpr hsub)) fun node hn =>
          (List.mem_cons.mp (hmem node (hsub hn))).resolve_left ?_
        rintro rfl
        exact hunmet node hn node (Connected.refl node) (outcome_findCycle hfirst).root_visited
      cases hfound : (findCycle g first closed).1 with
      | false =>
        rw [hfound] at hcard
        rw [cycleRootsFrom_of_not_found hfirst hfound]
        exact hcard.trans hrest
      | true =>
        rw [hfound] at hcard
        rw [cycleRootsFrom_of_found hfirst hfound]
        exact hcard.trans (Nat.succ_le_succ hrest)

end Chosen

/-- Nodes on cycles of which none reaches another are reported one by one. -/
theorem card_le_length_cycleRoots {chosen : Finset Text} (hcycle : ∀ node ∈ chosen, g.OnCycle node)
    (hanti : IsAntichain g.Reaches (chosen : Set Text)) : chosen.card ≤ (cycleRoots g).length := by
  refine card_le_length_cycleRootsFrom hcycle (by simp) hanti fun node hn => ?_
  obtain ⟨next, hedge, -⟩ := TransGen.head'_iff.mp (hcycle node hn)
  exact mem_keys_of_edge hedge

/-- Where cycles meet, each component that contains a cycle is reported once. -/
theorem encard_cyclicComponents (h : CyclesMeet g.Edge) :
    (cyclicComponents g.Edge).encard = ((cycleRoots g).length : ℕ∞) := by
  have hkeys : ∀ a b, g.Edge a b → a ∈ g.keys := fun _ _ => mem_keys_of_edge
  apply le_antisymm
  · obtain ⟨chosen, hcycle, hanti, hcard⟩ := h.exists_antichain hkeys
    rw [hcard]
    exact Nat.cast_le.mpr (card_le_length_cycleRoots hcycle hanti)
  · obtain ⟨walks, hwalks, hdisjoint, hreached⟩ := exists_disjoint_closedWalks (g := g) [] g.keys
    unfold cycleRoots
    rw [hreached.length_eq]
    exact h.length_le (fun walk hw => (hwalks walk hw).1) hdisjoint

end Digraph

end Archimate
