import Archimate.Proofs.Dictionary

namespace Archimate

variable {κ : Type} [DecidableEq κ]

theorem tally_concat (items : List κ) (item : κ) :
    tally (items ++ [item]) = (tally items).alter item fun n => n.getD 0 + 1 :=
  List.foldl_concat ..

theorem find?_tally (items : List κ) (item : κ) :
    (tally items).find? item =
      if items.count item = 0 then none else some (items.count item) := by
  induction items using List.reverseRecOn with
  | nil => rfl
  | append_singleton items last ih =>
    rw [tally_concat, Dictionary.find?_alter, List.count_append, List.count_singleton]
    by_cases h : item = last
    · subst h
      rw [ih]
      by_cases hzero : items.count item = 0 <;> simp [hzero]
    · have h' : (last == item) = false := beq_false_of_ne fun e => h e.symm
      simp [h, h', ih]

/-- A tally lists each item once, in the order of first occurrence, with its count. -/
theorem entries_tally [BEq κ] [LawfulBEq κ] (items : List κ) :
    (tally items).entries = items.eraseDups.map fun item => (item, items.count item) := by
  rename_i decEq beq _
  obtain rfl : beq = instBEqOfDecidableEq := lawful_beq_subsingleton _ _
  have hkeys : (tally items).keys = items.eraseDups := by
    have h := Dictionary.keys_foldl_alter id (fun _ n => n.getD 0 + 1) items
    rwa [List.map_id] at h
  rw [← hkeys]
  apply Dictionary.entries_eq_map_keys
  intro item hitem
  rw [hkeys, List.mem_eraseDups] at hitem
  rw [find?_tally, if_neg (Nat.ne_of_gt (List.count_pos_iff.mpr hitem))]

theorem mem_of_mem_tally {items : List κ} {entry : κ × Nat} (h : entry ∈ (tally items).entries) :
    entry.1 ∈ items := by
  have hfound := Dictionary.find?_eq_some_iff.mpr h
  rw [find?_tally] at hfound
  split at hfound
  · cases hfound
  · rename_i hcount
    exact List.count_pos_iff.mp (Nat.pos_of_ne_zero hcount)

theorem Entries.sum_put_succ (key : κ) (es : List (κ × Nat)) :
    ((put key ((es.lookup key).getD 0 + 1) es).map Prod.snd).foldr (· + ·) 0 =
      (es.map Prod.snd).foldr (· + ·) 0 + 1 := by
  induction es with
  | nil => rfl
  | cons e es ih =>
    obtain ⟨k, n⟩ := e
    by_cases h : k = key
    · subst h
      simp only [put, List.lookup_cons_self, if_true, List.map_cons, List.foldr_cons,
        Option.getD_some]
      omega
    · have h' : key ≠ k := fun e => h e.symm
      simp only [put, lookup_cons_of_ne h', h, if_false, List.map_cons, List.foldr_cons, ih]
      omega

theorem total_tally (items : List κ) : total (tally items) = items.length := by
  induction items using List.reverseRecOn with
  | nil => rfl
  | append_singleton items last ih =>
    rw [List.length_append, List.length_singleton, ← ih, tally_concat]
    exact Entries.sum_put_succ last _

end Archimate
