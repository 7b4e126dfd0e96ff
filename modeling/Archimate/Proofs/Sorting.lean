import Mathlib.Data.List.Flatten
import Mathlib.Data.List.Nodup
import Mathlib.Data.List.Perm.Basic

namespace Archimate

variable {α κ : Type}

/-- The parts are sublists, and every item stands in one part alone, there as often as in the
whole. -/
structure Partition [BEq α] (parts : κ → List α) (whole : List α) : Prop where
  sublist : ∀ k, (parts k).Sublist whole
  once : ∀ a ∈ whole, ∃ k, (parts k).count a = whole.count a ∧ ∀ j, j ≠ k → a ∉ parts j

section Keys

variable [BEq κ] [LawfulBEq κ]

theorem partition_filter [BEq α] [LawfulBEq α] (key : α → κ) (items : List α) :
    Partition (fun k => items.filter fun a => key a == k) items where
  sublist _ := List.filter_sublist
  once a _ := by
    refine ⟨key a, List.count_filter (beq_self_eq_true (key a)), fun j hj hmem => ?_⟩
    exact hj (beq_iff_eq.mp (List.mem_filter.mp hmem).2).symm

theorem flatMap_filter_perm {keys : List κ} (hkeys : keys.Nodup) (key : α → κ) (items : List α) :
    (keys.flatMap fun k => items.filter fun a => key a == k).Perm
      (items.filter fun a => keys.contains (key a)) := by
  induction keys with
  | nil => simp
  | cons k keys ih =>
    obtain ⟨hk, hkeys⟩ := List.nodup_cons.mp hkeys
    have hfirst : (items.filter fun a => (k :: keys).contains (key a)).filter
        (fun a => key a == k) = items.filter fun a => key a == k := by
      rw [List.filter_filter]
      refine List.filter_congr fun a _ => ?_
      by_cases ha : key a = k <;> simp [ha]
    have hrest : (items.filter fun a => (k :: keys).contains (key a)).filter
        (fun a => !(key a == k)) = items.filter fun a => keys.contains (key a) := by
      rw [List.filter_filter]
      refine List.filter_congr fun a _ => ?_
      by_cases ha : key a = k
      · simp [ha, hk]
      · simp [ha]
    rw [List.flatMap_cons]
    refine ((ih hkeys).append_left _).trans ?_
    rw [← hfirst, ← hrest]
    exact List.filter_append_perm _ _

end Keys

/-- The same items in ascending rank, those of one rank in the order in which they were. -/
structure StableSort (rank : α → Nat) (items sorted : List α) : Prop where
  perm : sorted.Perm items
  ascending : sorted.Pairwise fun a b => rank a ≤ rank b
  stable : ∀ n, (sorted.filter fun a => rank a == n) = items.filter fun a => rank a == n

section Ranks

variable {rank : α → Nat} {items sorted : List α}

theorem rank_trans (rank : α → Nat) (a b c : α) (hab : decide (rank a ≤ rank b) = true)
    (hbc : decide (rank b ≤ rank c) = true) : decide (rank a ≤ rank c) = true :=
  decide_eq_true (Nat.le_trans (of_decide_eq_true hab) (of_decide_eq_true hbc))

theorem rank_total (rank : α → Nat) (a b : α) :
    (decide (rank a ≤ rank b) || decide (rank b ≤ rank a)) = true := by
  simpa using Nat.le_total (rank a) (rank b)

theorem stableSort_mergeSort (rank : α → Nat) (items : List α) :
    StableSort rank items (items.mergeSort fun a b => rank a ≤ rank b) where
  perm := List.mergeSort_perm _ _
  ascending := by
    have hsorted := List.pairwise_mergeSort (rank_trans rank) (rank_total rank) items
    exact hsorted.imp of_decide_eq_true
  stable n := by
    have hperm := List.mergeSort_perm items fun a b => decide (rank a ≤ rank b)
    -- Items of one rank are a sorted sublist, and sorting leaves those as they are.
    have hequal : (items.filter fun a => rank a == n).Pairwise
        fun a b => decide (rank a ≤ rank b) = true := by
      refine List.pairwise_of_forall_mem_list fun a ha b hb => ?_
      have hna := beq_iff_eq.mp (List.mem_filter.mp ha).2
      have hnb := beq_iff_eq.mp (List.mem_filter.mp hb).2
      exact decide_eq_true (by omega)
    have hsub := List.sublist_mergeSort (rank_trans rank) (rank_total rank) hequal
      List.filter_sublist
    have hkept := hsub.filter fun a => rank a == n
    rw [List.filter_filter] at hkept
    simp only [Bool.and_self] at hkept
    exact (hkept.eq_of_length (hperm.filter _).length_eq.symm).symm

/-- Items of the least rank stand in front. -/
theorem filter_append_filter_of_le {n : Nat} (hsorted : sorted.Pairwise fun a b => rank a ≤ rank b)
    (hleast : ∀ a ∈ sorted, n ≤ rank a) :
    (sorted.filter fun a => rank a == n) ++ (sorted.filter fun a => !(rank a == n)) = sorted := by
  induction sorted with
  | nil => rfl
  | cons a sorted ih =>
    obtain ⟨hfirst, hsorted⟩ := List.pairwise_cons.mp hsorted
    obtain ⟨ha, hleast⟩ := List.forall_mem_cons.mp hleast
    by_cases hn : rank a = n
    · simpa [hn] using ih hsorted hleast
    · have hnone : ∀ b ∈ sorted, (rank b == n) = false := by
        intro b hb
        have := hfirst b hb
        simp only [beq_eq_false_iff_ne]
        omega
      have hall : (sorted.filter fun b => rank b == n) = [] :=
        List.filter_eq_nil_iff.mpr fun b hb => by simp [hnone b hb]
      have hkeep : (sorted.filter fun b => !(rank b == n)) = sorted :=
        List.filter_eq_self.mpr fun b hb => by simp [hnone b hb]
      simp [hn, hall, hkeep]

theorem flatMap_filter_of_ascending {ranks : List Nat} (hranks : ranks.Pairwise (· < ·))
    (hsorted : sorted.Pairwise fun a b => rank a ≤ rank b) (hall : ∀ a ∈ sorted, rank a ∈ ranks) :
    (ranks.flatMap fun n => sorted.filter fun a => rank a == n) = sorted := by
  induction ranks generalizing sorted with
  | nil =>
    rw [List.eq_nil_iff_forall_not_mem.mpr fun a ha => List.not_mem_nil (hall a ha)]
    rfl
  | cons n ranks ih =>
    obtain ⟨hleast, hranks⟩ := List.pairwise_cons.mp hranks
    have hrest : ∀ a ∈ sorted.filter fun a => !(rank a == n), rank a ∈ ranks := by
      intro a ha
      obtain ⟨hmem, hne⟩ := List.mem_filter.mp ha
      refine (List.mem_cons.mp (hall a hmem)).resolve_left ?_
      simpa using hne
    have hlater : (ranks.flatMap fun m => sorted.filter fun a => rank a == m) =
        sorted.filter fun a => !(rank a == n) := by
      rw [← ih hranks (hsorted.sublist List.filter_sublist) hrest]
      refine List.flatMap_congr fun m hm => ?_
      have hne : n ≠ m := Nat.ne_of_lt (hleast m hm)
      rw [List.filter_filter]
      refine List.filter_congr fun a _ => ?_
      by_cases ha : rank a = m <;> simp [ha, hne.symm]
    rw [List.flatMap_cons, hlater]
    refine filter_append_filter_of_le hsorted fun a ha => ?_
    rcases List.mem_cons.mp (hall a ha) with hrank | hrank
    · exact Nat.le_of_eq hrank.symm
    · exact Nat.le_of_lt (hleast _ hrank)

/-- A stable sort is the parts of equal rank, the least rank first. -/
theorem StableSort.eq_flatMap (h : StableSort rank items sorted) {ranks : List Nat}
    (hranks : ranks.Pairwise (· < ·)) (hall : ∀ a ∈ items, rank a ∈ ranks) :
    sorted = ranks.flatMap fun n => items.filter fun a => rank a == n := by
  rw [← flatMap_filter_of_ascending hranks h.ascending
    fun a ha => hall a (h.perm.mem_iff.mp ha)]
  exact List.flatMap_congr fun n _ => h.stable n

end Ranks

end Archimate
