namespace Archimate

namespace Entries

variable {κ α : Type} [DecidableEq κ]

/-- Replaces the value of a present key, or adds the key at the end. -/
def put (key : κ) (value : α) : List (κ × α) → List (κ × α)
  | [] => [(key, value)]
  | (k, v) :: rest => if k = key then (k, value) :: rest else (k, v) :: put key value rest

theorem map_fst_put (key : κ) (value : α) (es : List (κ × α)) :
    (put key value es).map Prod.fst =
      if key ∈ es.map Prod.fst then es.map Prod.fst else es.map Prod.fst ++ [key] := by
  induction es with
  | nil => rfl
  | cons e es ih =>
    obtain ⟨k, v⟩ := e
    by_cases h : k = key
    · simp [put, h]
    · have h' : key ≠ k := fun e => h e.symm
      simp only [put, h, if_false, List.map_cons, ih, List.mem_cons, h', false_or]
      split <;> simp

theorem nodup_put (key : κ) (value : α) {es : List (κ × α)}
    (h : (es.map Prod.fst).Nodup) : ((put key value es).map Prod.fst).Nodup := by
  rw [map_fst_put]
  split
  · exact h
  · rename_i hk
    rw [List.nodup_append]
    refine ⟨h, by simp, ?_⟩
    intro a ha b hb
    simp only [List.mem_singleton] at hb
    exact fun e => hk (hb ▸ e ▸ ha)

omit [DecidableEq κ] in
theorem lookup_cons_of_ne [BEq κ] [LawfulBEq κ] {key k : κ} (h : key ≠ k) (value : α)
    (es : List (κ × α)) : ((k, value) :: es).lookup key = es.lookup key := by
  rw [List.lookup_cons, beq_false_of_ne h]

theorem lookup_put (key other : κ) (value : α) (es : List (κ × α)) :
    (put key value es).lookup other = if other = key then some value else es.lookup other := by
  induction es with
  | nil =>
    by_cases ho : other = key
    · simp [put, ho]
    · simp [put, ho, lookup_cons_of_ne]
  | cons e es ih =>
    obtain ⟨k, v⟩ := e
    by_cases h : k = key
    · subst h
      by_cases ho : other = k
      · simp [put, ho]
      · simp [put, ho, lookup_cons_of_ne]
    · by_cases ho : other = k
      · subst ho
        simp [put, h]
      · simp [put, h, lookup_cons_of_ne ho, ih]

end Entries

/-- A finite map, ordered by when each key was first written. To write to a present key changes its
value in place. -/
structure Dictionary (κ α : Type) where
  entries : List (κ × α)
  nodup_keys : (entries.map Prod.fst).Nodup

namespace Dictionary

variable {κ α : Type}

theorem ext {a b : Dictionary κ α} (h : a.entries = b.entries) : a = b := by
  cases a; cases b; cases h; rfl

instance [DecidableEq κ] [DecidableEq α] : DecidableEq (Dictionary κ α) := fun a b =>
  decidable_of_iff (a.entries = b.entries) ⟨ext, fun h => h ▸ rfl⟩

def empty : Dictionary κ α := ⟨[], by simp⟩

instance : Inhabited (Dictionary κ α) := ⟨empty⟩

def keys (d : Dictionary κ α) : List κ := d.entries.map Prod.fst

def values (d : Dictionary κ α) : List α := d.entries.map Prod.snd

def size (d : Dictionary κ α) : Nat := d.entries.length

def isEmpty (d : Dictionary κ α) : Bool := d.entries.isEmpty

@[simp] theorem entries_empty : (empty : Dictionary κ α).entries = [] := rfl

variable [DecidableEq κ]

def find? (d : Dictionary κ α) (key : κ) : Option α := d.entries.lookup key

def contains (d : Dictionary κ α) (key : κ) : Bool := (d.find? key).isSome

def insert (d : Dictionary κ α) (key : κ) (value : α) : Dictionary κ α :=
  ⟨Entries.put key value d.entries, Entries.nodup_put key value d.nodup_keys⟩

def erase (d : Dictionary κ α) (key : κ) : Dictionary κ α :=
  ⟨d.entries.filter (·.1 != key), d.nodup_keys.sublist (List.filter_sublist.map _)⟩

/-- Writes what the update makes of the present value, or of none. -/
def alter (d : Dictionary κ α) (key : κ) (update : Option α → α) : Dictionary κ α :=
  d.insert key (update (d.find? key))

def insertAll (d : Dictionary κ α) (pairs : List (κ × α)) : Dictionary κ α :=
  pairs.foldl (fun d pair => d.insert pair.1 pair.2) d

def ofList (pairs : List (κ × α)) : Dictionary κ α := (empty : Dictionary κ α).insertAll pairs

@[simp] theorem entries_insert (d : Dictionary κ α) (key : κ) (value : α) :
    (d.insert key value).entries = Entries.put key value d.entries := rfl

theorem keys_insert (d : Dictionary κ α) (key : κ) (value : α) :
    (d.insert key value).keys = if key ∈ d.keys then d.keys else d.keys ++ [key] :=
  Entries.map_fst_put key value d.entries

theorem find?_insert (d : Dictionary κ α) (key other : κ) (value : α) :
    (d.insert key value).find? other = if other = key then some value else d.find? other :=
  Entries.lookup_put key other value d.entries

theorem find?_eq_lookup [BEq κ] [LawfulBEq κ] (d : Dictionary κ α) (key : κ) :
    d.find? key = d.entries.lookup key := by
  unfold find?
  induction d.entries with
  | nil => rfl
  | cons e es ih =>
    obtain ⟨k, v⟩ := e
    by_cases h : key = k
    · simp [h]
    · exact (@Entries.lookup_cons_of_ne κ α instBEqOfDecidableEq _ key k h v es).trans
        (ih.trans (Entries.lookup_cons_of_ne h v es).symm)

theorem find?_empty (key : κ) : (empty : Dictionary κ α).find? key = none := rfl

theorem insertAll_append (d : Dictionary κ α) (as bs : List (κ × α)) :
    d.insertAll (as ++ bs) = (d.insertAll as).insertAll bs := by
  simp [insertAll]

theorem insertAll_nil (d : Dictionary κ α) : d.insertAll [] = d := rfl

theorem insertAll_cons (d : Dictionary κ α) (key : κ) (value : α) (ps : List (κ × α)) :
    d.insertAll ((key, value) :: ps) = (d.insert key value).insertAll ps := rfl

end Dictionary

/-- How often each item occurs; the counts are ordered by first occurrence. -/
def tally {κ : Type} [DecidableEq κ] (items : List κ) : Dictionary κ Nat :=
  items.foldl (fun counts item => counts.alter item fun n => n.getD 0 + 1) .empty

def total {κ : Type} (counts : Dictionary κ Nat) : Nat :=
  counts.values.foldr (· + ·) 0

end Archimate
