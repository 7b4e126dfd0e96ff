import Archimate.Dictionary
import Mathlib.Data.List.Nodup
import Mathlib.Data.List.Induction

namespace Archimate

variable {κ α β : Type} [DecidableEq κ]

theorem Entries.lookup_eq_some_iff [BEq κ] [LawfulBEq κ] {key : κ} {value : α}
    {es : List (κ × α)} (h : (es.map Prod.fst).Nodup) :
    es.lookup key = some value ↔ (key, value) ∈ es := by
  induction es with
  | nil => simp
  | cons e es ih =>
    obtain ⟨k, v⟩ := e
    rw [List.map_cons, List.nodup_cons] at h
    by_cases hk : key = k
    · subst hk
      have hout : (key, value) ∉ es := fun hm => h.1 (List.mem_map.mpr ⟨_, hm, rfl⟩)
      simp [hout, eq_comm]
    · simp [lookup_cons_of_ne hk, ih h.2, hk]

theorem Entries.lookup_perm [BEq κ] [LawfulBEq κ] {es es' : List (κ × α)} (h : es.Perm es')
    (hkeys : (es.map Prod.fst).Nodup) (key : κ) : es.lookup key = es'.lookup key := by
  have hkeys' : (es'.map Prod.fst).Nodup := (h.map Prod.fst).nodup_iff.mp hkeys
  apply Option.ext
  intro value
  rw [lookup_eq_some_iff hkeys, lookup_eq_some_iff hkeys', h.mem_iff]

theorem Entries.mem_put {key : κ} {value : α} {es : List (κ × α)} {e : κ × α}
    (h : e ∈ put key value es) : e = (key, value) ∨ e ∈ es := by
  induction es with
  | nil => exact Or.inl (List.mem_singleton.mp h)
  | cons first es ih =>
    obtain ⟨k, v⟩ := first
    unfold put at h
    split at h
    · rename_i hk
      subst hk
      exact (List.mem_cons.mp h).imp_right (List.mem_cons_of_mem _)
    · rcases List.mem_cons.mp h with rfl | h
      · exact Or.inr List.mem_cons_self
      · exact (ih h).imp_right (List.mem_cons_of_mem _)

theorem Entries.put_of_not_mem {key : κ} {value : α} {es : List (κ × α)}
    (h : key ∉ es.map Prod.fst) : put key value es = es ++ [(key, value)] := by
  induction es with
  | nil => rfl
  | cons e es ih =>
    obtain ⟨k, v⟩ := e
    rw [List.map_cons, List.mem_cons, not_or] at h
    have hk : ¬ k = key := fun heq => h.1 heq.symm
    unfold put
    rw [if_neg hk, ih h.2, List.cons_append]

theorem Entries.lookup_filter [BEq κ] [LawfulBEq κ] (keep : κ → Bool) (key : κ)
    (es : List (κ × α)) : (es.filter fun e => keep e.1).lookup key =
      if keep key then es.lookup key else none := by
  induction es with
  | nil => simp
  | cons e es ih =>
    obtain ⟨k, v⟩ := e
    by_cases hk : key = k
    · subst hk
      by_cases hkeep : keep key = true <;> simp [hkeep, ih]
    · by_cases hkeep : keep k = true <;> simp [lookup_cons_of_ne hk, hkeep, ih]

theorem Entries.filter_ne_put (key : κ) (value : α) (es : List (κ × α)) :
    (put key value es).filter (·.1 != key) = es.filter (·.1 != key) := by
  induction es with
  | nil => simp [put]
  | cons e es ih =>
    obtain ⟨k, v⟩ := e
    by_cases hk : k = key
    · simp [put, hk]
    · simp [put, hk, ih]

theorem Entries.put_put (key : κ) (value value' : α) (es : List (κ × α)) :
    put key value' (put key value es) = put key value' es := by
  induction es with
  | nil => simp [put]
  | cons e es ih =>
    obtain ⟨k, v⟩ := e
    by_cases hk : k = key
    · simp [put, hk]
    · simp [put, hk, ih]

theorem find?_eq_some_of_unique {p : β → Bool} {items : List β} {item : β}
    (hmem : item ∈ items) (hp : p item = true)
    (hunique : ∀ other ∈ items, p other = true → other = item) : items.find? p = some item := by
  obtain ⟨found, hfound⟩ := Option.isSome_iff_exists.mp (List.find?_isSome.mpr ⟨item, hmem, hp⟩)
  have hmatch := List.find?_some hfound
  rw [hfound, hunique found (List.mem_of_find?_eq_some hfound) hmatch]

section Occurrences

variable [BEq β] [LawfulBEq β]

theorem eraseDups_concat [DecidableEq β] (items : List β) (item : β) :
    (items ++ [item]).eraseDups =
      if item ∈ items then items.eraseDups else items.eraseDups ++ [item] := by
  rw [List.eraseDups_append]
  by_cases h : item ∈ items <;> simp [List.removeAll, h, List.eraseDups_cons]

theorem pairwise_idxOf_eraseDups (items : List β) :
    items.eraseDups.Pairwise fun a b => items.idxOf a < items.idxOf b := by
  classical
  induction items using List.reverseRecOn with
  | nil => exact List.Pairwise.nil
  | append_singleton items item ih =>
    have hbefore : items.eraseDups.Pairwise fun a b =>
        (items ++ [item]).idxOf a < (items ++ [item]).idxOf b := by
      refine ih.imp_of_mem fun {a b} ha hb h => ?_
      rw [List.idxOf_append_of_mem (List.mem_eraseDups.mp ha),
        List.idxOf_append_of_mem (List.mem_eraseDups.mp hb)]
      exact h
    rw [eraseDups_concat]
    split
    · exact hbefore
    · rename_i hnew
      refine List.pairwise_append.mpr ⟨hbefore, List.pairwise_singleton _ _, ?_⟩
      intro a ha b hb
      rw [List.mem_singleton.mp hb, List.idxOf_append_of_mem (List.mem_eraseDups.mp ha),
        List.idxOf_append_of_notMem hnew]
      have := List.idxOf_lt_length_of_mem (List.mem_eraseDups.mp ha)
      omega

theorem nodup_eraseDups (items : List β) : items.eraseDups.Nodup := by
  refine (pairwise_idxOf_eraseDups items).imp fun {a b} h => ?_
  rintro rfl
  exact Nat.lt_irrefl _ h

theorem eraseDups_of_nodup {items : List β} (h : items.Nodup) : items.eraseDups = items := by
  induction items with
  | nil => rfl
  | cons item items ih =>
    obtain ⟨hnew, hnodup⟩ := List.nodup_cons.mp h
    have hkeep : items.filter (fun other => !other == item) = items := by
      refine List.filter_eq_self.mpr fun other ho => ?_
      have hne : other ≠ item := fun heq => hnew (heq ▸ ho)
      simpa using hne
    rw [List.eraseDups_cons, hkeep, ih hnodup]

theorem filter_eraseDups (p : β → Bool) (items : List β) :
    items.eraseDups.filter p = (items.filter p).eraseDups := by
  classical
  induction items using List.reverseRecOn with
  | nil => rfl
  | append_singleton items item ih =>
    rw [eraseDups_concat, List.filter_append]
    by_cases hp : p item = true
    · rw [List.filter_cons_of_pos hp, List.filter_nil, eraseDups_concat, ← ih]
      by_cases hm : item ∈ items <;> simp [hm, hp]
    · rw [List.filter_cons_of_neg hp, List.filter_nil, List.append_nil, ← ih]
      by_cases hm : item ∈ items <;> simp [hm, hp]

end Occurrences

namespace Dictionary

theorem find?_eq_none_iff {d : Dictionary κ α} {key : κ} : d.find? key = none ↔ key ∉ d.keys := by
  unfold find? keys
  rw [List.lookup_eq_none_iff]
  simp only [bne_iff_ne, List.mem_map, not_exists, not_and]
  exact forall₂_congr fun _ _ => ne_comm

theorem find?_eq_some_iff {d : Dictionary κ α} {key : κ} {value : α} :
    d.find? key = some value ↔ (key, value) ∈ d.entries :=
  Entries.lookup_eq_some_iff d.nodup_keys

/-- Of the values that are written to a key the last counts. -/
theorem find?_insertAll (d : Dictionary κ α) (pairs : List (κ × α)) (key : κ) :
    (d.insertAll pairs).find? key = (pairs.reverse.lookup key).or (d.find? key) := by
  induction pairs generalizing d with
  | nil => rfl
  | cons pair pairs ih =>
    obtain ⟨other, value⟩ := pair
    rw [insertAll_cons, ih, find?_insert, List.reverse_cons, List.lookup_append, Option.or_assoc]
    congr 1
    by_cases hkey : key = other
    · simp [hkey]
    · simp [hkey, Entries.lookup_cons_of_ne hkey]

theorem find?_insertAll_of_not_mem {d : Dictionary κ α} {key : κ} {pairs : List (κ × α)}
    (h : key ∉ pairs.map Prod.fst) : (d.insertAll pairs).find? key = d.find? key := by
  have hreverse : pairs.reverse.lookup key = none := by
    rw [List.lookup_eq_none_iff]
    intro pair hpair
    have hne : key ≠ pair.1 := fun heq =>
      h (heq ▸ List.mem_map_of_mem (List.mem_reverse.mp hpair))
    simpa using hne
  rw [find?_insertAll, hreverse, Option.none_or]

theorem find?_insertAll_congr {d d' : Dictionary κ α} {key : κ} (h : d.find? key = d'.find? key)
    (pairs : List (κ × α)) : (d.insertAll pairs).find? key = (d'.insertAll pairs).find? key := by
  rw [find?_insertAll, find?_insertAll, h]

theorem mem_insertAll {d : Dictionary κ α} {pairs : List (κ × α)} {e : κ × α}
    (h : e ∈ (d.insertAll pairs).entries) : e ∈ d.entries ∨ e ∈ pairs := by
  induction pairs generalizing d with
  | nil => exact Or.inl h
  | cons pair pairs ih =>
    rcases ih h with h | h
    · rcases Entries.mem_put h with rfl | h
      · exact Or.inr List.mem_cons_self
      · exact Or.inl h
    · exact Or.inr (List.mem_cons_of_mem pair h)

theorem mem_of_mem_ofList {pairs : List (κ × α)} {e : κ × α}
    (h : e ∈ (Dictionary.ofList pairs).entries) : e ∈ pairs :=
  (mem_insertAll h).resolve_left List.not_mem_nil

theorem entries_insertAll_of_nodup {d : Dictionary κ α} {pairs : List (κ × α)}
    (h : (pairs.map Prod.fst).Nodup) (hnew : ∀ pair ∈ pairs, pair.1 ∉ d.keys) :
    (d.insertAll pairs).entries = d.entries ++ pairs := by
  induction pairs generalizing d with
  | nil => rw [insertAll_nil, List.append_nil]
  | cons pair pairs ih =>
    obtain ⟨key, value⟩ := pair
    rw [List.map_cons, List.nodup_cons] at h
    have hkey : key ∉ d.keys := hnew _ List.mem_cons_self
    have hlater : key ∉ pairs.map Prod.fst := h.1
    have hrest : ∀ pair ∈ pairs, pair.1 ∉ (d.insert key value).keys := by
      intro pair hpair
      rw [keys_insert, if_neg hkey, List.mem_append, List.mem_singleton, not_or]
      refine ⟨hnew pair (List.mem_cons_of_mem _ hpair), ?_⟩
      rintro rfl
      exact hlater (List.mem_map_of_mem hpair)
    rw [insertAll_cons, ih h.2 hrest, entries_insert, Entries.put_of_not_mem hkey]
    exact List.append_assoc _ _ _

theorem entries_ofList_of_nodup {pairs : List (κ × α)} (h : (pairs.map Prod.fst).Nodup) :
    (ofList pairs).entries = pairs :=
  entries_insertAll_of_nodup h fun _ _ => List.not_mem_nil

theorem entries_eq_map_keys {d : Dictionary κ α} {f : κ → α}
    (h : ∀ key ∈ d.keys, d.find? key = some (f key)) :
    d.entries = d.keys.map fun key => (key, f key) := by
  have hentry : ∀ e ∈ d.entries, (e.1, f e.1) = e := by
    intro e he
    have hfound := h e.1 (List.mem_map_of_mem he)
    rw [find?_eq_some_iff.mpr he] at hfound
    exact Prod.ext rfl (Option.some.inj hfound).symm
  unfold keys
  rw [List.map_map]
  exact ((List.map_congr_left hentry).trans (List.map_id _)).symm

theorem contains_iff {d : Dictionary κ α} {key : κ} : d.contains key = true ↔ key ∈ d.keys := by
  unfold contains
  rw [Option.isSome_iff_ne_none, ne_eq, find?_eq_none_iff, not_not]

theorem mem_keys_iff {d : Dictionary κ α} {key : κ} :
    key ∈ d.keys ↔ ∃ value, d.find? key = some value := by
  rw [← contains_iff, contains, Option.isSome_iff_exists]

theorem find?_erase (d : Dictionary κ α) (key other : κ) :
    (d.erase key).find? other = if other = key then none else d.find? other := by
  unfold find? erase
  rw [Entries.lookup_filter (· != key)]
  by_cases ho : other = key <;> simp [ho]

theorem keys_erase (d : Dictionary κ α) (key : κ) :
    (d.erase key).keys = d.keys.filter fun k => k ≠ key := by
  unfold erase keys
  rw [List.filter_map]
  apply congrArg
  exact List.filter_congr fun e _ => by simp [bne, beq_eq_decide]

theorem insert_insert (d : Dictionary κ α) (key : κ) (value value' : α) :
    (d.insert key value).insert key value' = d.insert key value' :=
  Dictionary.ext (Entries.put_put key value value' d.entries)

theorem erase_insert (d : Dictionary κ α) (key : κ) (value : α) :
    (d.insert key value).erase key = d.erase key :=
  Dictionary.ext (Entries.filter_ne_put key value d.entries)

theorem erase_erase (d : Dictionary κ α) (key : κ) : (d.erase key).erase key = d.erase key := by
  apply Dictionary.ext
  simp only [erase, List.filter_filter, Bool.and_self]

theorem erase_of_not_mem {d : Dictionary κ α} {key : κ} (h : key ∉ d.keys) : d.erase key = d := by
  apply Dictionary.ext
  apply List.filter_eq_self.mpr
  intro e he
  exact bne_iff_ne.mpr fun hk => h (hk ▸ List.mem_map_of_mem he)

theorem keys_alter (d : Dictionary κ α) (key : κ) (update : Option α → α) :
    (d.alter key update).keys = if key ∈ d.keys then d.keys else d.keys ++ [key] :=
  d.keys_insert key _

theorem find?_alter (d : Dictionary κ α) (key other : κ) (update : Option α → α) :
    (d.alter key update).find? other =
      if other = key then some (update (d.find? key)) else d.find? other :=
  d.find?_insert key other _

/-- The keys of a dictionary that each item writes to, in the order of first occurrence. -/
theorem keys_foldl_alter [BEq κ] [LawfulBEq κ] (key : β → κ) (update : β → Option α → α)
    (items : List β) :
    (items.foldl (fun d item => d.alter (key item) (update item)) empty).keys =
      (items.map key).eraseDups := by
  induction items using List.reverseRecOn with
  | nil => rfl
  | append_singleton items item ih =>
    rw [List.foldl_concat, List.map_append, List.map_cons, List.map_nil, eraseDups_concat,
      keys_alter, ih]
    simp only [List.mem_eraseDups]

end Dictionary

end Archimate
