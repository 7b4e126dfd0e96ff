import Mathlib.Data.List.Cycle
import Mathlib.Data.List.Perm.Subperm
import Mathlib.Logic.Relation

namespace Archimate
open Relation

variable {α : Type} {r : α → α → Prop}

/-- The nodes of a closed walk: each leads to the next, and the last one to the first. -/
structure ClosedWalk (r : α → α → Prop) (nodes : List α) : Prop where
  ne_nil : nodes ≠ []
  chain : Cycle.Chain r (nodes : Cycle α)

namespace ClosedWalk

variable {nodes front back : List α} {a b : α}

theorem cons_iff : ClosedWalk r (a :: nodes) ↔ (a :: (nodes ++ [a])).IsChain r :=
  ⟨fun h => h.chain, fun h => ⟨List.cons_ne_nil a nodes, h⟩⟩

theorem mono {r' : α → α → Prop} (h : ClosedWalk r nodes) (himp : ∀ a b, r a b → r' a b) :
    ClosedWalk r' nodes :=
  ⟨h.ne_nil, h.chain.imp himp⟩

theorem transGen (h : ClosedWalk r nodes) (ha : a ∈ nodes) (hb : b ∈ nodes) : TransGen r a b :=
  Cycle.chain_iff_pairwise.mp (h.chain.imp fun _ _ => TransGen.single) a ha b hb

theorem rotate (h : ClosedWalk r (front ++ back)) : ClosedWalk r (back ++ front) := by
  have heq : ((back ++ front : List α) : Cycle α) = (front ++ back : List α) :=
    Cycle.coe_eq_coe.mpr List.isRotated_append
  refine ⟨fun hnil => h.ne_nil ?_, heq ▸ h.chain⟩
  simpa [and_comm] using hnil

theorem within (h : ClosedWalk r nodes) : ClosedWalk (fun a b => r a b ∧ b ∈ nodes) nodes := by
  cases nodes with
  | nil => exact absurd rfl h.ne_nil
  | cons first rest =>
    have hchain := cons_iff.mp h
    refine cons_iff.mpr (hchain.imp_of_mem_imp fun a b _ hb hedge => ⟨hedge, ?_⟩)
    simpa [or_comm, or_assoc] using hb

theorem exists_next (h : ClosedWalk r nodes) (ha : a ∈ nodes) : ∃ b ∈ nodes, r a b := by
  obtain ⟨b, ⟨hedge, hb⟩, _⟩ := TransGen.head'_iff.mp (h.within.transGen ha ha)
  exact ⟨b, hb, hedge⟩

end ClosedWalk

theorem exists_closedWalk {a : α} (h : TransGen r a a) :
    ∃ nodes, ClosedWalk r nodes ∧ a ∈ nodes := by
  obtain ⟨b, hab, hba⟩ := TransGen.head'_iff.mp h
  obtain ⟨rest, hchain, hlast⟩ := List.exists_isChain_cons_of_relationReflTransGen hba
  have hends : b :: rest = (b :: rest).dropLast ++ [a] := by
    conv_lhs => rw [← List.dropLast_append_getLast (List.cons_ne_nil b rest), hlast]
  refine ⟨a :: (b :: rest).dropLast, ClosedWalk.cons_iff.mpr ?_, List.mem_cons_self⟩
  rw [← hends]
  exact hchain.cons_cons hab

/-- A walk without repetition, from whose last node an edge leads back to one of its nodes. -/
structure Lasso (r : α → α → Prop) (nodes : List α) (knot : α) : Prop where
  nodup : nodes.Nodup
  knot_mem : knot ∈ nodes
  chain : (nodes ++ [knot]).IsChain r

/-- From the knot on, a lasso is a closed walk. -/
theorem Lasso.exists_closedWalk {nodes : List α} {knot : α} (h : Lasso r nodes knot) :
    ∃ loop, ClosedWalk r loop ∧ loop.Sublist nodes := by
  obtain ⟨front, back, hnodes⟩ := List.append_of_mem h.knot_mem
  have hchain := h.chain
  rw [hnodes, List.append_assoc] at hchain
  refine ⟨knot :: back, ClosedWalk.cons_iff.mpr hchain.right_of_append, ?_⟩
  rw [hnodes]
  exact List.sublist_append_right front _

theorem Lasso.append {front rest : List α} {a knot : α} (h : Lasso r (a :: rest) knot)
    (hnodup : front.Nodup) (hchain : (front ++ [a]).IsChain r)
    (hdisjoint : front.Disjoint (a :: rest)) :
    Lasso r (front ++ a :: rest) knot where
  nodup := hnodup.append h.nodup hdisjoint
  knot_mem := List.mem_append_right front h.knot_mem
  chain := by
    rw [List.append_assoc]
    exact List.isChain_split.mpr ⟨hchain, h.chain⟩

theorem ClosedWalk.lasso {a : α} {nodes : List α} (h : ClosedWalk r (a :: nodes))
    (hnodup : (a :: nodes).Nodup) : Lasso r (a :: nodes) a :=
  ⟨hnodup, List.mem_cons_self, ClosedWalk.cons_iff.mp h⟩

def lassoEdges (nodes : List α) (knot : α) : List (α × α) := nodes.zip (nodes.tail ++ [knot])

theorem map_fst_lassoEdges (nodes : List α) (knot : α) :
    (lassoEdges nodes knot).map Prod.fst = nodes := by
  cases nodes with
  | nil => rfl
  | cons a nodes => exact List.map_fst_zip (by simp)

theorem isChain_iff_lassoEdges {nodes : List α} {knot : α} :
    (nodes ++ [knot]).IsChain r ↔ ∀ edge ∈ lassoEdges nodes knot, r edge.1 edge.2 := by
  cases nodes with
  | nil => simp [lassoEdges]
  | cons a nodes =>
    rw [List.isChain_cons_append_singleton_iff_forall₂, List.forall₂_iff_zip]
    simp [lassoEdges]

def edgesOfLassos (lassos : List (List α × α)) : List (α × α) :=
  lassos.flatMap fun lasso => lassoEdges lasso.1 lasso.2

theorem map_fst_edgesOfLassos (lassos : List (List α × α)) :
    (edgesOfLassos lassos).map Prod.fst = lassos.flatMap Prod.fst := by
  unfold edgesOfLassos
  rw [List.map_flatMap]
  exact List.flatMap_congr fun lasso _ => map_fst_lassoEdges lasso.1 lasso.2

/-- The edges of disjoint lassos have distinct sources. -/
theorem nodup_sources_edgesOfLassos {lassos : List (List α × α)}
    (hlassos : ∀ lasso ∈ lassos, Lasso r lasso.1 lasso.2)
    (hdisjoint : lassos.Pairwise fun a b => a.1.Disjoint b.1) :
    ((edgesOfLassos lassos).map Prod.fst).Nodup := by
  rw [map_fst_edgesOfLassos]
  exact List.nodup_flatMap.mpr ⟨fun lasso hl => (hlassos lasso hl).nodup, hdisjoint⟩

section Finite

variable {P : α → Prop} {all : List α}

/-- Among finitely many nodes that each lead to another of them, every walk without repetition goes
on until it is caught. -/
theorem exists_lasso_of_walk (hfinite : ∀ a, P a → a ∈ all) (hnext : ∀ a, P a → ∃ b, P b ∧ r a b)
    (front : List α) (last : α) (hnodup : (front ++ [last]).Nodup)
    (hchain : (front ++ [last]).IsChain r) (hwalk : ∀ a ∈ front ++ [last], P a) :
    ∃ rest knot, Lasso r (front ++ last :: rest) knot ∧ ∀ a ∈ front ++ last :: rest, P a := by
  obtain ⟨next, hP, hedge⟩ := hnext last (hwalk last (by simp))
  have hchain' : (front ++ [last] ++ [next]).IsChain r := by
    rw [List.append_assoc]
    exact List.isChain_append_cons_cons.mpr ⟨hchain, hedge, List.IsChain.singleton next⟩
  by_cases hback : next ∈ front ++ [last]
  · exact ⟨[], next, ⟨hnodup, hback, hchain'⟩, hwalk⟩
  · have hnodup' : (front ++ [last] ++ [next]).Nodup :=
      hnodup.append (List.nodup_singleton next) (by simpa using hback)
    have hwalk' : ∀ a ∈ front ++ [last] ++ [next], P a := by
      intro a ha
      rcases List.mem_append.mp ha with ha | ha
      · exact hwalk a ha
      · exact List.mem_singleton.mp ha ▸ hP
    have hlength : (front ++ [last] ++ [next]).length ≤ all.length :=
      (List.subperm_of_subset hnodup' fun a ha => hfinite a (hwalk' a ha)).length_le
    obtain ⟨rest, knot, hlasso, hrest⟩ :=
      exists_lasso_of_walk hfinite hnext (front ++ [last]) next hnodup' hchain' hwalk'
    rw [List.append_assoc] at hlasso hrest
    exact ⟨next :: rest, knot, hlasso, hrest⟩
termination_by all.length - front.length
decreasing_by
  simp only [List.length_append, List.length_singleton] at hlength ⊢
  omega

theorem exists_lasso (hfinite : ∀ a, P a → a ∈ all) (hnext : ∀ a, P a → ∃ b, P b ∧ r a b) {a : α}
    (ha : P a) : ∃ rest knot, Lasso r (a :: rest) knot ∧ ∀ b ∈ a :: rest, P b :=
  exists_lasso_of_walk hfinite hnext [] a (List.nodup_singleton a) (List.IsChain.singleton a)
    (by simpa using ha)

end Finite

theorem ClosedWalk.exists_nodup {nodes : List α} (h : ClosedWalk r nodes) :
    ∃ loop, ClosedWalk r loop ∧ loop.Nodup ∧ loop ⊆ nodes := by
  obtain ⟨a, ha⟩ := List.exists_mem_of_ne_nil nodes h.ne_nil
  obtain ⟨rest, knot, hlasso, hsub⟩ :=
    exists_lasso (P := (· ∈ nodes)) (fun _ => id) (fun _ ha => h.exists_next ha) ha
  obtain ⟨loop, hloop, hpart⟩ := hlasso.exists_closedWalk
  exact ⟨loop, hloop, hpart.nodup hlasso.nodup, fun b hb => hsub b (hpart.subset hb)⟩

/-- Disjoint closed walks can be shortened to disjoint lassos. -/
theorem exists_lassos {walks : List (List α)} (hwalks : ∀ walk ∈ walks, ClosedWalk r walk)
    (hdisjoint : walks.Pairwise List.Disjoint) : ∃ lassos : List (List α × α),
      lassos.length = walks.length ∧
      (∀ lasso ∈ lassos, Lasso r lasso.1 lasso.2) ∧
      (∀ lasso ∈ lassos, ∃ walk ∈ walks, lasso.1 ⊆ walk) ∧
      lassos.Pairwise fun a b => a.1.Disjoint b.1 := by
  induction walks with
  | nil => exact ⟨[], rfl, by simp, by simp, List.Pairwise.nil⟩
  | cons walk walks ih =>
    obtain ⟨hwalk, hlater⟩ := List.forall_mem_cons.mp hwalks
    obtain ⟨hnew, hpairs⟩ := List.pairwise_cons.mp hdisjoint
    obtain ⟨lassos, hlength, hlassos, hwithin, hapart⟩ := ih hlater hpairs
    obtain ⟨loop, hloop, hnodup, hsub⟩ := hwalk.exists_nodup
    cases loop with
    | nil => exact absurd rfl hloop.ne_nil
    | cons a loop =>
      refine ⟨(a :: loop, a) :: lassos, congrArg Nat.succ hlength,
        List.forall_mem_cons.mpr ⟨hloop.lasso hnodup, hlassos⟩,
        List.forall_mem_cons.mpr ⟨⟨walk, List.mem_cons_self, hsub⟩, fun lasso hl => ?_⟩,
        List.pairwise_cons.mpr ⟨fun lasso hl b hb hb' => ?_, hapart⟩⟩
      · obtain ⟨other, ho, hother⟩ := hwithin lasso hl
        exact ⟨other, List.mem_cons_of_mem walk ho, hother⟩
      · obtain ⟨other, ho, hother⟩ := hwithin lasso hl
        exact hnew other ho (hsub hb) (hother hb')

/-- A walk from a set to a node outside leaves the set a last time. -/
theorem exists_last_exit {P : α → Prop} {a b : α} (h : ReflTransGen r a b) (ha : P a) (hb : ¬P b) :
    ∃ x y, P x ∧ r x y ∧ ¬P y ∧ ReflTransGen (fun u v => r u v ∧ ¬P v) y b := by
  induction h with
  | refl => exact absurd ha hb
  | @tail b c _ hedge ih =>
    by_cases hP : P b
    · exact ⟨b, c, hP, hedge, hb, ReflTransGen.refl⟩
    · obtain ⟨x, y, hx, hxy, hy, hreach⟩ := ih hP
      exact ⟨x, y, hx, hxy, hy, hreach.tail ⟨hedge, hb⟩⟩

/-- A closed walk can be walked so that it ends at any of its nodes. -/
theorem ClosedWalk.exists_around {nodes : List α} {a : α} (h : ClosedWalk r nodes)
    (ha : a ∈ nodes) :
    ∃ before, (before ++ [a]).Perm nodes ∧ (before ++ [a]).IsChain r := by
  obtain ⟨front, back, rfl⟩ := List.append_of_mem ha
  have hchain : (a :: (back ++ front ++ [a])).IsChain r := cons_iff.mp h.rotate
  refine ⟨back ++ front, ?_, hchain.tail⟩
  rw [List.append_assoc, List.append_cons front a back]
  exact List.perm_append_comm

/-- Off a set, a walk to a node on a cycle off the set goes on until it is caught. -/
theorem exists_lasso_off {P : α → Prop} {all : List α} {a b : α} (hfinite : ∀ a b, r a b → a ∈ all)
    (ha : ¬P a) (hab : ReflTransGen (fun u v => r u v ∧ ¬P v) a b)
    (hbb : TransGen (fun u v => r u v ∧ ¬P v) b b) :
    ∃ rest knot, Lasso r (a :: rest) knot ∧ ∀ u ∈ a :: rest, ¬P u := by
  have hnext : ∀ u, ¬P u ∧ ReflTransGen (fun u v => r u v ∧ ¬P v) u b →
      ∃ v, (¬P v ∧ ReflTransGen (fun u v => r u v ∧ ¬P v) v b) ∧ r u v := by
    intro u hu
    obtain ⟨v, huv, hvb⟩ := TransGen.head'_iff.mp (TransGen.trans_right hu.2 hbb)
    exact ⟨v, ⟨huv.2, hvb⟩, huv.1⟩
  obtain ⟨rest, knot, hlasso, hrest⟩ := exists_lasso (fun u hu => by
    obtain ⟨v, -, huv⟩ := hnext u hu
    exact hfinite u v huv) hnext ⟨ha, hab⟩
  exact ⟨rest, knot, hlasso, fun u hu => (hrest u hu).1⟩

/-- A lasso around one closed walk that is caught in another one. -/
theorem exists_lasso_with_disjoint_loops {c d all : List α} (hc : ClosedWalk r c)
    (hd : ClosedWalk r d) (hdisjoint : c.Disjoint d)
    (hreach : ∃ a ∈ c, ∃ b ∈ d, ReflTransGen r a b) (hfinite : ∀ a b, r a b → a ∈ all) :
    ∃ nodes knot first second, Lasso r nodes knot ∧ ClosedWalk r first ∧ ClosedWalk r second ∧
      first ⊆ nodes ∧ second ⊆ nodes ∧ first.Disjoint second := by
  obtain ⟨loop, hloop, hnodup, hsub⟩ := hc.exists_nodup
  obtain ⟨start, hstart⟩ := List.exists_mem_of_ne_nil loop hloop.ne_nil
  obtain ⟨a, ha, b, hb, hab⟩ := hreach
  have hoff : ∀ u ∈ d, u ∉ loop := fun u hu hl => hdisjoint (hsub hl) hu
  have hreach' : ReflTransGen r start b := (hc.transGen (hsub hstart) ha).to_reflTransGen.trans hab
  -- Around the loop to its last exit, and from there on off the loop.
  obtain ⟨x, y, hx, hxy, hy, hyb⟩ := exists_last_exit (P := (· ∈ loop)) hreach' hstart (hoff b hb)
  obtain ⟨before, hperm, haround⟩ := hloop.exists_around hx
  have hbb : TransGen (fun u v => r u v ∧ v ∉ loop) b b :=
    (hd.within.mono fun u v h => ⟨h.1, hoff v h.2⟩).transGen hb hb
  obtain ⟨rest, knot, hlasso, hrest⟩ := exists_lasso_off hfinite hy hyb hbb
  obtain ⟨second, hsecond, hpart⟩ := hlasso.exists_closedWalk
  refine ⟨before ++ [x] ++ y :: rest, knot, loop, second, hlasso.append ?_ ?_ ?_, hloop, hsecond,
    ?_, ?_, ?_⟩
  · exact hperm.nodup_iff.mpr hnodup
  · rw [List.append_assoc]
    exact List.isChain_append_cons_cons.mpr ⟨haround, hxy, List.IsChain.singleton y⟩
  · exact fun u hu hv => hrest u hv (hperm.subset hu)
  · exact fun u hu => List.mem_append_left _ (hperm.symm.subset hu)
  · exact fun u hu => List.mem_append_right _ (hpart.subset hu)
  · exact fun u hu hv => hrest u (hpart.subset hv) hu

end Archimate
