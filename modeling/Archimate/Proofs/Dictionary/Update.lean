import Archimate.Proofs.Dictionary

namespace Archimate

variable {κ α : Type} [DecidableEq κ]

namespace Entries

variable {es es' : List (κ × α)}

theorem eq_of_lookup (hkeys : es.map Prod.fst = es'.map Prod.fst)
    (hnodup : (es.map Prod.fst).Nodup) (h : ∀ key, es.lookup key = es'.lookup key) : es = es' := by
  induction es generalizing es' with
  | nil => exact (List.map_eq_nil_iff.mp hkeys.symm).symm
  | cons e es ih =>
    cases es' with
    | nil => cases hkeys
    | cons e' es' =>
      obtain ⟨k, v⟩ := e
      obtain ⟨k', v'⟩ := e'
      obtain ⟨rfl, htail⟩ := List.cons.inj hkeys
      obtain ⟨hnew, hrest⟩ := List.nodup_cons.mp hnodup
      have hvalue : v = v' := by simpa using h k
      have hfound : ∀ key, es.lookup key = es'.lookup key := by
        intro key
        by_cases hkey : key = k
        · have hnone {fs : List (κ × α)} (hfs : k ∉ fs.map Prod.fst) : fs.lookup k = none :=
            List.lookup_eq_none_iff.mpr fun e he =>
              bne_iff_ne.mpr fun heq => hfs (heq ▸ List.mem_map_of_mem he)
          rw [hkey, hnone hnew, hnone (htail ▸ hnew)]
        · simpa [lookup_cons_of_ne hkey] using h key
      rw [hvalue, ih htail hrest hfound]

end Entries

namespace Dictionary

variable {d d' : Dictionary κ α} {pairs pairs' : List (κ × α)}

theorem eq_of_find? (hkeys : d.keys = d'.keys) (h : ∀ key, d.find? key = d'.find? key) : d = d' :=
  ext (Entries.eq_of_lookup hkeys d.nodup_keys h)

/-- The same is found under each key exactly when the entries are the same, but for their order. -/
theorem perm_entries_iff : d.entries.Perm d'.entries ↔ ∀ key, d.find? key = d'.find? key := by
  constructor
  · intro h key
    exact Entries.lookup_perm h d.nodup_keys key
  · intro h
    rw [List.perm_ext_iff_of_nodup (d.nodup_keys.of_map _) (d'.nodup_keys.of_map _)]
    rintro ⟨key, value⟩
    rw [← find?_eq_some_iff, ← find?_eq_some_iff, h]

theorem keys_insertAll (d : Dictionary κ α) (pairs : List (κ × α)) :
    (d.insertAll pairs).keys = d.keys ++ (pairs.map Prod.fst).eraseDups.filter (!d.contains ·) := by
  induction pairs using List.reverseRecOn with
  | nil => rw [insertAll_nil, List.map_nil, List.eraseDups_nil, List.filter_nil, List.append_nil]
  | append_singleton pairs pair ih =>
    obtain ⟨key, value⟩ := pair
    rw [insertAll_append, insertAll_cons, insertAll_nil, keys_insert, ih, List.map_append,
      List.map_singleton, eraseDups_concat]
    have hcontains : d.contains key = decide (key ∈ d.keys) := by
      rw [Bool.eq_iff_iff, contains_iff, decide_eq_true_iff]
    by_cases hold : key ∈ d.keys <;> by_cases hwritten : key ∈ pairs.map Prod.fst <;>
      simp [hcontains, hold, hwritten]

section OfList

theorem find?_ofList (pairs : List (κ × α)) (key : κ) :
    (ofList pairs).find? key = pairs.reverse.lookup key := by
  unfold ofList
  rw [find?_insertAll, find?_empty, Option.or_none]

theorem keys_ofList (pairs : List (κ × α)) :
    (ofList pairs).keys = (pairs.map Prod.fst).eraseDups := by
  have hnew : ∀ key ∈ (pairs.map Prod.fst).eraseDups,
      (!(empty : Dictionary κ α).contains key) = true := fun _ _ => rfl
  unfold ofList
  rw [keys_insertAll, List.filter_eq_self.mpr hnew]
  rfl

/-- Pairs with distinct keys can be written in any order, whatever is written before and after. -/
theorem perm_entries_ofList (h : pairs.Perm pairs') (hkeys : (pairs.map Prod.fst).Nodup)
    (before after : List (κ × α)) :
    (ofList (before ++ pairs ++ after)).entries.Perm
      (ofList (before ++ pairs' ++ after)).entries := by
  have hreverse : pairs.reverse.Perm pairs'.reverse :=
    (List.reverse_perm _).trans (h.trans (List.reverse_perm _).symm)
  have hnodup : (pairs.reverse.map Prod.fst).Nodup := by
    rw [List.map_reverse]
    exact List.nodup_reverse.mpr hkeys
  rw [perm_entries_iff]
  intro key
  simp only [find?_ofList, List.reverse_append, List.lookup_append,
    Entries.lookup_perm hreverse hnodup]

end OfList

/-- Writes the entries of the other dictionary in order. -/
def update (d d' : Dictionary κ α) : Dictionary κ α := d.insertAll d'.entries

theorem find?_update (d d' : Dictionary κ α) (key : κ) :
    (d.update d').find? key = (d'.find? key).or (d.find? key) := by
  have hreverse := Entries.lookup_perm (List.reverse_perm d'.entries).symm d'.nodup_keys key
  unfold update
  rw [find?_insertAll, ← hreverse]
  rfl

theorem keys_update (d d' : Dictionary κ α) :
    (d.update d').keys = d.keys ++ d'.keys.filter (!d.contains ·) := by
  unfold update
  rw [keys_insertAll, eraseDups_of_nodup d'.nodup_keys]
  rfl

/-- Pairs that are written make the same as what is left of them when they are written alone. -/
theorem update_ofList (d : Dictionary κ α) (pairs : List (κ × α)) :
    d.update (ofList pairs) = d.insertAll pairs := by
  apply eq_of_find?
  · rw [keys_update, keys_insertAll, keys_ofList]
  · intro key
    rw [find?_update, find?_insertAll, find?_ofList]

theorem ofList_append (pairs pairs' : List (κ × α)) :
    ofList (pairs ++ pairs') = (ofList pairs).update (ofList pairs') := by
  rw [update_ofList]
  exact insertAll_append _ _ _

end Dictionary

end Archimate
