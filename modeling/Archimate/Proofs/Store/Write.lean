import Archimate.Proofs.Dictionary
import Archimate.Service

namespace Archimate.Store

inductive Write where
  | saved (a : Architecture)
  | deleted (uid : Text)

namespace Write

def uid : Write → Text
  | .saved a => a.uid
  | .deleted uid => uid

def apply (store : Store) : Write → Store
  | .saved a => store.save a
  | .deleted uid => store.delete uid

end Write

def applyAll (store : Store) (writes : List Write) : Store := writes.foldl Write.apply store

/-- Without the entry of the uid the stores are the same, entry by entry. -/
def SameBut (uid : Text) (store store' : Store) : Prop := store'.delete uid = store.delete uid

variable {store store' : Store} {uid : Text}

@[simp] theorem applyAll_nil (store : Store) : store.applyAll [] = store := rfl

theorem applyAll_append (store : Store) (ws ws' : List Write) :
    store.applyAll (ws ++ ws') = (store.applyAll ws).applyAll ws' :=
  List.foldl_append

theorem find?_delete (store : Store) (uid other : Text) :
    (store.delete uid).find? other = if other = uid then none else store.find? other :=
  Dictionary.find?_erase store uid other

theorem save_save (store : Store) (a : Architecture) : (store.save a).save a = store.save a :=
  Dictionary.insert_insert store a.uid a a

theorem sameBut_apply (store : Store) (w : Write) : SameBut w.uid store (w.apply store) := by
  cases w with
  | saved a => exact Dictionary.erase_insert store a.uid a
  | deleted uid => exact Dictionary.erase_erase store uid

/-- Writes under one uid leave the other entries as they are. -/
theorem sameBut_applyAll {ws : List Write} (h : ∀ w ∈ ws, w.uid = uid) (store : Store) :
    SameBut uid store (store.applyAll ws) := by
  induction ws generalizing store with
  | nil => rfl
  | cons w ws ih =>
    obtain ⟨rfl, hws⟩ := List.forall_mem_cons.mp h
    exact (ih hws (w.apply store)).trans (sameBut_apply store w)

theorem find?_apply (store : Store) (w : Write) (uid : Text) :
    (w.apply store).find? uid =
      if uid = w.uid then match w with | .saved a => some a | .deleted _ => none
      else store.find? uid := by
  cases w with
  | saved a => exact find?_save store a uid
  | deleted other => exact find?_delete store other uid

theorem find?_applyAll_of_ne {ws : List Write} (h : ∀ w ∈ ws, w.uid ≠ uid) :
    (store.applyAll ws).find? uid = store.find? uid := by
  induction ws generalizing store with
  | nil => rfl
  | cons w ws ih =>
    obtain ⟨hw, hws⟩ := List.forall_mem_cons.mp h
    exact (ih hws).trans ((find?_apply store w uid).trans (if_neg hw.symm))

def Named (store : Store) : Prop := ∀ uid a, store.find? uid = some a → a.uid = uid

theorem Named.apply (h : Named store) (w : Write) : Named (w.apply store) := by
  intro uid a hfound
  rw [find?_apply] at hfound
  split at hfound
  · rename_i huid
    cases w with
    | saved b => cases hfound; exact huid.symm
    | deleted _ => cases hfound
  · exact h uid a hfound

theorem Named.map_uid_all (h : Named store) : store.all.map Architecture.uid = store.keys := by
  show (store.entries.map Prod.snd).map Architecture.uid = store.entries.map Prod.fst
  rw [List.map_map]
  apply List.map_congr_left
  intro e he
  exact h e.1 e.2 (Dictionary.find?_eq_some_iff.mpr he)

theorem Named.mem_all (h : Named store) {a : Architecture} :
    a ∈ store.all ↔ store.find? a.uid = some a := by
  constructor
  · intro ha
    obtain ⟨⟨uid, b⟩, he, rfl⟩ := List.mem_map.mp ha
    have hfound := Dictionary.find?_eq_some_iff.mpr he
    rw [h uid b hfound]
    exact hfound
  · intro hfound
    exact List.mem_map.mpr ⟨_, Dictionary.find?_eq_some_iff.mp hfound, rfl⟩

end Archimate.Store
