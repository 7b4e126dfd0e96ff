import Archimate.Proofs.Architecture.Validity
import Archimate.Proofs.Loader.Visits
import Archimate.Proofs.Store.Write
import Archimate.Service

namespace Archimate

open Store (Write)

namespace Service

theorem save_cases (s : Surroundings) (store : Store) (a : Architecture) :
    a.errors = [] ∧ save s store a = ⟨.ok a, store.save a, []⟩ ∨
      (a.errors = [] ∧ ∃ message, save s store a = ⟨.error (.fault message), store, []⟩) ∨
      a.errors ≠ [] ∧ save s store a = ⟨.error (.invalid a.errors), store, []⟩ := by
  unfold save write
  by_cases hvalid : a.errors = []
  · rw [if_pos (Architecture.isValid_validate_iff.mpr hvalid)]
    cases s.saveFault with
    | none => exact Or.inl ⟨hvalid, rfl⟩
    | some message => exact Or.inr (Or.inl ⟨hvalid, message, rfl⟩)
  · rw [if_neg (mt Architecture.isValid_validate_iff.mp hvalid)]
    exact Or.inr (Or.inr ⟨hvalid, rfl⟩)

theorem reload_cases (s : Surroundings) (store : Store) :
    (∃ logs, reload s store = ⟨.ok [], store, logs⟩) ∨
      (∃ logs, reload s store =
        ⟨.ok [s.source.readable], store.save s.source.readable, logs⟩) ∨
      ∃ uid logs, reload s store = ⟨.error (.notStored uid), store, logs⟩ := by
  unfold reload write
  dsimp only
  cases hloaded : s.source.loadAll.value with
  | none => exact Or.inl ⟨_, rfl⟩
  | some a =>
    rw [s.source.eq_readable_of_loadAll hloaded]
    cases s.saveFault with
    | none => exact Or.inr (Or.inl ⟨_, rfl⟩)
    | some message => exact Or.inr (Or.inr ⟨_, _, rfl⟩)

theorem require_cases (store : Store) (uid : Text) :
    (∃ a, store.find? uid = some a ∧ uid ∈ store.keys ∧ require store uid = .ok a) ∨
      store.find? uid = none ∧ uid ∉ store.keys ∧ require store uid = .error (.notFound uid) := by
  unfold require
  cases hfound : store.find? uid with
  | none => exact Or.inr ⟨rfl, Dictionary.find?_eq_none_iff.mp hfound, rfl⟩
  | some a => exact Or.inl ⟨a, rfl, Dictionary.mem_keys_iff.mpr ⟨a, hfound⟩, rfl⟩

theorem delete_cases (store : Store) (uid : Text) :
    uid ∈ store.keys ∧ delete store uid = (true, store.delete uid) ∨
      uid ∉ store.keys ∧ delete store uid = (false, store) := by
  unfold delete
  by_cases hin : uid ∈ store.keys
  · rw [Dictionary.contains_iff.mpr hin]
    exact Or.inl ⟨hin, rfl⟩
  · rw [Bool.eq_false_iff.mpr (mt Dictionary.contains_iff.mp hin)]
    exact Or.inr ⟨hin, congrArg _ (Dictionary.erase_of_not_mem hin)⟩

inductive Operation where
  | save (s : Surroundings) (a : Architecture)
  | delete (uid : Text)
  | reload (s : Surroundings)

namespace Operation

def after (store : Store) : Operation → Store
  | .save s a => (Service.save s store a).store
  | .delete uid => (Service.delete store uid).2
  | .reload s => (Service.reload s store).store

/-- What the operation wrote, as its result tells. -/
def writes (store : Store) : Operation → List Write
  | .save s a =>
    match (Service.save s store a).result with
    | .ok saved => [.saved saved]
    | .error _ => []
  | .delete uid => if (Service.delete store uid).1 then [.deleted uid] else []
  | .reload s =>
    match (Service.reload s store).result with
    | .ok loaded => loaded.map .saved
    | .error _ => []

theorem after_eq (store : Store) (op : Operation) :
    op.after store = store.applyAll (op.writes store) := by
  cases op with
  | save s a =>
    simp only [after, writes]
    rcases save_cases s store a with ⟨-, h⟩ | ⟨-, message, h⟩ | ⟨-, h⟩ <;> rw [h] <;> rfl
  | delete uid =>
    simp only [after, writes]
    rcases delete_cases store uid with ⟨-, h⟩ | ⟨-, h⟩ <;> rw [h] <;> rfl
  | reload s =>
    simp only [after, writes]
    rcases reload_cases s store with ⟨logs, h⟩ | ⟨logs, h⟩ | ⟨uid, logs, h⟩ <;>
      rw [h] <;> rfl

/-- Only valid architectures are saved. -/
theorem errors_of_saved {store : Store} {op : Operation} {a : Architecture}
    (h : .saved a ∈ op.writes store) : a.errors = [] := by
  cases op with
  | save s b =>
    simp only [writes] at h
    rcases save_cases s store b with ⟨hvalid, hsave⟩ | ⟨-, message, hsave⟩ | ⟨-, hsave⟩
    · rw [hsave] at h
      cases List.mem_singleton.mp h
      exact hvalid
    · rw [hsave] at h
      cases h
    · rw [hsave] at h
      cases h
  | delete uid =>
    simp only [writes] at h
    split at h
    · cases List.mem_singleton.mp h
    · cases h
  | reload s =>
    simp only [writes] at h
    rcases reload_cases s store with ⟨logs, hload⟩ | ⟨logs, hload⟩ | ⟨uid, logs, hload⟩
    · rw [hload] at h
      cases h
    · rw [hload] at h
      cases List.mem_singleton.mp h
      exact Architecture.errors_merge _ _ _
    · rw [hload] at h
      cases h

end Operation

end Service

end Archimate
