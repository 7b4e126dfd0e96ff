import Archimate.Proofs.Store.Write
import Mathlib.Data.List.Induction
import Mathlib.Data.Nat.Find

namespace Archimate

open Store (Write)

abbrev History := List Write

namespace History

def last? (h : History) (uid : Text) : Option Write := (h.filter fun w => w.uid = uid).getLast?

def replay (h : History) : Store := Store.applyAll .empty h

def SavedAt (h : History) (uid : Text) (i : Nat) : Prop :=
  ∃ a, h[i]? = some (.saved a) ∧ a.uid = uid

def DeletedAt (h : History) (uid : Text) (i : Nat) : Prop := h[i]? = some (.deleted uid)

/-- The first save of the uid since its last deletion. -/
structure Born (h : History) (uid : Text) (i : Nat) : Prop where
  saved : h.SavedAt uid i
  kept : ∀ k, i < k → ¬ h.DeletedAt uid k
  first : ∀ j < i, h.SavedAt uid j → ∃ k, j < k ∧ k < i ∧ h.DeletedAt uid k

variable {h : History} {w : Write} {uid : Text} {i j : Nat}

theorem last?_concat (h : History) (w : Write) (uid : Text) :
    last? (h ++ [w]) uid = if w.uid = uid then some w else h.last? uid := by
  unfold last?
  rw [List.filter_append]
  by_cases hw : w.uid = uid <;> simp [hw]

theorem replay_concat (h : History) (w : Write) : replay (h ++ [w]) = w.apply h.replay :=
  Store.applyAll_append .empty h [w]

/-- Under a uid stands what its last write saved. -/
theorem find?_replay (h : History) (uid : Text) (a : Architecture) :
    h.replay.find? uid = some a ↔ h.last? uid = some (.saved a) := by
  induction h using List.reverseRecOn with
  | nil => simp [replay, last?, Dictionary.find?_empty]
  | append_singleton h w ih =>
    rw [replay_concat, last?_concat, Store.find?_apply]
    by_cases hw : w.uid = uid
    · rw [if_pos hw, if_pos hw.symm]
      cases w <;> simp
    · rw [if_neg hw, if_neg fun e => hw e.symm, ih]

theorem named_replay (h : History) : h.replay.Named := by
  induction h using List.reverseRecOn with
  | nil => intro uid a hfound; cases hfound
  | append_singleton h w ih =>
    rw [replay_concat]
    exact ih.apply w

theorem SavedAt.lt_length (hs : h.SavedAt uid i) : i < h.length := by
  obtain ⟨a, ha, -⟩ := hs
  exact (List.getElem?_eq_some_iff.mp ha).1

theorem DeletedAt.lt_length (hd : h.DeletedAt uid i) : i < h.length :=
  (List.getElem?_eq_some_iff.mp hd).1

theorem getElem?_concat (h : History) (w : Write) (i : Nat) :
    (h ++ [w])[i]? = if i = h.length then some w else h[i]? := by
  split
  · rename_i hi
    rw [hi]
    exact List.getElem?_concat_length ..
  · rename_i hi
    rcases Nat.lt_or_gt_of_ne hi with hlt | hgt
    · exact List.getElem?_append_left hlt
    · rw [List.getElem?_eq_none (by simp; omega), List.getElem?_eq_none (by omega)]

theorem savedAt_concat :
    SavedAt (h ++ [w]) uid i ↔
      h.SavedAt uid i ∨ i = h.length ∧ ∃ a, w = .saved a ∧ a.uid = uid := by
  unfold SavedAt
  rw [getElem?_concat]
  by_cases hi : i = h.length
  · simp [hi]
  · simp [hi]

theorem deletedAt_concat :
    DeletedAt (h ++ [w]) uid i ↔ h.DeletedAt uid i ∨ i = h.length ∧ w = .deleted uid := by
  unfold DeletedAt
  rw [getElem?_concat]
  by_cases hi : i = h.length
  · simp [hi]
  · simp [hi]

/-- A uid has one birth at most. -/
theorem Born.unique (hi : h.Born uid i) (hj : h.Born uid j) : i = j := by
  by_contra hne
  rcases Nat.lt_or_gt_of_ne hne with hlt | hlt
  · obtain ⟨k, hik, -, hk⟩ := hj.first i hlt hi.saved
    exact hi.kept k hik hk
  · obtain ⟨k, hjk, -, hk⟩ := hi.first j hlt hj.saved
    exact hj.kept k hjk hk

theorem Born.concat (hb : h.Born uid i) (hw : w ≠ .deleted uid) : Born (h ++ [w]) uid i := by
  have hlt := hb.saved.lt_length
  refine ⟨savedAt_concat.mpr (Or.inl hb.saved), ?_, ?_⟩
  · intro k hk hdeleted
    rcases deletedAt_concat.mp hdeleted with hold | ⟨-, hnew⟩
    · exact hb.kept k hk hold
    · exact hw hnew
  · intro j hj hsaved
    rcases savedAt_concat.mp hsaved with hold | ⟨hlast, -⟩
    · obtain ⟨k, hjk, hki, hk⟩ := hb.first j hj hold
      exact ⟨k, hjk, hki, deletedAt_concat.mpr (Or.inl hk)⟩
    · omega

/-- A save after which the uid is not deleted has a birth before it, or is one. -/
theorem exists_born (hsaved : h.SavedAt uid i) (hkept : ∀ k, i < k → ¬ h.DeletedAt uid k) :
    ∃ j, h.Born uid j := by
  classical
  have hex : ∃ j, h.SavedAt uid j ∧ ∀ k, j < k → ¬ h.DeletedAt uid k := ⟨i, hsaved, hkept⟩
  obtain ⟨hfound, hfoundKept⟩ := Nat.find_spec hex
  refine ⟨Nat.find hex, hfound, hfoundKept, ?_⟩
  -- A save before the earliest one is followed by a deletion; behind the earliest one there is
  -- none.
  intro j hj hjsaved
  have hmin := Nat.find_min hex hj
  push Not at hmin
  obtain ⟨k, hjk, hk⟩ := hmin hjsaved
  refine ⟨k, hjk, ?_, hk⟩
  by_contra hle
  rcases Nat.eq_or_lt_of_le (Nat.le_of_not_lt hle) with heq | hlt
  · obtain ⟨a, ha, -⟩ := hfound
    rw [DeletedAt, ← heq, ha] at hk
    cases hk
  · exact hfoundKept k hlt hk

theorem born_concat_length {a : Architecture} (hnone : ∀ j, ¬ h.Born a.uid j) :
    Born (h ++ [.saved a]) a.uid h.length := by
  refine ⟨savedAt_concat.mpr (Or.inr ⟨rfl, a, rfl, rfl⟩), ?_, ?_⟩
  · intro k hk hdeleted
    have hlt := hdeleted.lt_length
    simp only [List.length_append, List.length_singleton] at hlt
    omega
  · intro j hj hsaved
    by_contra hno
    push Not at hno
    rcases savedAt_concat.mp hsaved with hold | ⟨hlast, -⟩
    · obtain ⟨i, hi⟩ := exists_born hold fun k hk hdeleted =>
        hno k hk hdeleted.lt_length (deletedAt_concat.mpr (Or.inl hdeleted))
      exact hnone i hi
    · omega

theorem Born.of_concat (hb : Born (h ++ [w]) uid i) :
    h.Born uid i ∧ w ≠ .deleted uid ∨ ∃ a, w = .saved a ∧ a.uid = uid := by
  rcases savedAt_concat.mp hb.saved with hold | ⟨-, hnew⟩
  · have hlt := hold.lt_length
    refine Or.inl ⟨⟨hold, ?_, ?_⟩, ?_⟩
    · exact fun k hk hdeleted => hb.kept k hk (deletedAt_concat.mpr (Or.inl hdeleted))
    · intro j hj hsaved
      obtain ⟨k, hjk, hki, hk⟩ := hb.first j hj (savedAt_concat.mpr (Or.inl hsaved))
      refine ⟨k, hjk, hki, (deletedAt_concat.mp hk).resolve_right ?_⟩
      rintro ⟨rfl, -⟩
      omega
    · rintro rfl
      exact hb.kept h.length hlt (deletedAt_concat.mpr (Or.inr ⟨rfl, rfl⟩))
  · exact Or.inr hnew

/-- The uids of the store are those that have a birth. -/
theorem mem_keys_replay (h : History) (uid : Text) :
    uid ∈ h.replay.keys ↔ ∃ i, h.Born uid i := by
  induction h using List.reverseRecOn with
  | nil =>
    constructor
    · intro hm
      cases hm
    · rintro ⟨i, hb⟩
      exact absurd hb.saved.lt_length (Nat.not_lt_zero i)
  | append_singleton h w ih =>
    rw [replay_concat]
    cases w with
    | saved a =>
      have hkeys : uid ∈ (Write.apply (replay h) (.saved a)).keys ↔
          uid ∈ (replay h).keys ∨ uid = a.uid := by
        show uid ∈ ((replay h).insert a.uid a).keys ↔ _
        rw [Dictionary.keys_insert]
        split
        · rename_i hin
          exact ⟨Or.inl, fun hm => hm.elim id fun e => e ▸ hin⟩
        · simp
      rw [hkeys, ih]
      constructor
      · rintro (⟨i, hb⟩ | rfl)
        · exact ⟨i, hb.concat (by simp)⟩
        · by_cases hold : ∃ i, Born h a.uid i
          · obtain ⟨i, hb⟩ := hold
            exact ⟨i, hb.concat (by simp)⟩
          · exact ⟨_, born_concat_length (not_exists.mp hold)⟩
      · rintro ⟨i, hb⟩
        rcases hb.of_concat with ⟨hold, -⟩ | ⟨b, hb, huid⟩
        · exact Or.inl ⟨i, hold⟩
        · cases hb
          exact Or.inr huid.symm
    | deleted other =>
      show uid ∈ ((replay h).erase other).keys ↔ _
      rw [Dictionary.keys_erase, List.mem_filter, ih, decide_eq_true_iff]
      constructor
      · rintro ⟨⟨i, hb⟩, hne⟩
        exact ⟨i, hb.concat fun e => hne (Write.deleted.inj e).symm⟩
      · rintro ⟨i, hb⟩
        rcases hb.of_concat with ⟨hold, hne⟩ | ⟨a, ha, -⟩
        · exact ⟨⟨i, hold⟩, fun e => hne (e ▸ rfl)⟩
        · cases ha

/-- The uids of the store stand in the order of their births. -/
theorem keys_replay_pairwise (h : History) :
    h.replay.keys.Pairwise fun u v => ∃ i j, h.Born u i ∧ h.Born v j ∧ i < j := by
  induction h using List.reverseRecOn with
  | nil => exact List.Pairwise.nil
  | append_singleton h w ih =>
    rw [replay_concat]
    cases w with
    | saved a =>
      have hold : (replay h).keys.Pairwise fun u v =>
          ∃ i j, Born (h ++ [.saved a]) u i ∧ Born (h ++ [.saved a]) v j ∧ i < j := by
        refine ih.imp fun {u v} huv => ?_
        obtain ⟨i, j, hi, hj, hij⟩ := huv
        exact ⟨i, j, hi.concat (by simp), hj.concat (by simp), hij⟩
      show ((replay h).insert a.uid a).keys.Pairwise _
      rw [Dictionary.keys_insert]
      split
      · exact hold
      · rename_i hnew
        -- A uid that was not there is born with this write, after all others.
        refine List.pairwise_append.mpr ⟨hold, List.pairwise_singleton _ _, ?_⟩
        intro u hu v hv
        rw [List.mem_singleton.mp hv]
        obtain ⟨i, hi⟩ := (mem_keys_replay h u).mp hu
        have hnone := not_exists.mp (mt (mem_keys_replay h a.uid).mpr hnew)
        exact ⟨i, h.length, hi.concat (by simp), born_concat_length hnone, hi.saved.lt_length⟩
    | deleted other =>
      show ((replay h).erase other).keys.Pairwise _
      rw [Dictionary.keys_erase]
      -- The uids that stay are not deleted, so that their births are the same.
      refine (ih.sublist List.filter_sublist).imp_of_mem fun {u v} hu hv huv => ?_
      have hne : ∀ k ∈ (replay h).keys.filter fun k => k ≠ other,
          Write.deleted other ≠ .deleted k := by
        intro k hk e
        exact of_decide_eq_true (List.mem_filter.mp hk).2 (Write.deleted.inj e).symm
      obtain ⟨i, j, hi, hj, hij⟩ := huv
      exact ⟨i, j, hi.concat (hne u hu), hj.concat (hne v hv), hij⟩

end History

end Archimate
