import Archimate.Loader
import Archimate.Proofs.Document.Reading

namespace Archimate

/-- The path leads nowhere, or to no text in UTF-8, or to a text that cannot be parsed. -/
def FileTree.Unloadable (files : FileTree) (path : Path) : Prop :=
  files.exists? path = .ok false ∨ (∃ e, ModelSource.readText files path = .error e) ∨
    ∃ text e, ModelSource.readText files path = .ok text ∧ Document.parse text path.name = .error e

namespace ModelSource

variable {files : FileTree} {path : Path} {d : Document} {found : Bool}

theorem readDocument_eq_ok_iff : readDocument files path = .ok d ↔
    ∃ text, readText files path = .ok text ∧ Document.parse text path.name = .ok d := by
  unfold readDocument
  cases readText files path with
  | error e => exact ⟨nofun, nofun⟩
  | ok text =>
    simp only [Except.ok.injEq, exists_eq_left']
    show Except.mapError _ _ = _ ↔ _
    cases Document.parse text path.name with
    | error e => exact ⟨nofun, nofun⟩
    | ok parsed =>
      show Except.ok parsed = _ ↔ _
      rw [Except.ok.injEq, Except.ok.injEq]

theorem toOption_readDocument_eq_none_iff : (readDocument files path).toOption = none ↔
    (∃ e, readText files path = .error e) ∨
      ∃ text e, readText files path = .ok text ∧ Document.parse text path.name = .error e := by
  unfold readDocument
  cases readText files path with
  | error e => exact iff_of_true rfl (Or.inl ⟨e, rfl⟩)
  | ok text =>
    simp only [reduceCtorEq, exists_false, false_or, Except.ok.injEq]
    show Except.toOption (Except.mapError _ _) = _ ↔ _
    cases hparse : Document.parse text path.name with
    | error e => exact iff_of_true rfl ⟨text, e, rfl, hparse⟩
    | ok parsed =>
      refine iff_of_false nofun ?_
      rintro ⟨_, e, rfl, herror⟩
      rw [hparse] at herror
      cases herror

theorem loadFile_value (h : files.exists? path = .ok found) :
    (loadFile files path).run.value = .ok
      (if found then (readDocument files path).toOption.map Architecture.ofDocument else none) := by
  unfold loadFile
  rw [h]
  cases found with
  | false => rfl
  | true => cases readDocument files path <;> rfl

/-- A file whose look-up is not refused is loaded, or there is something that keeps it from being
loaded. -/
theorem exists_loadFile_value (h : files.exists? path = .ok found) :
    ∃ loaded, (loadFile files path).run.value = .ok loaded ∧
      (loaded = none ↔ files.Unloadable path) := by
  refine ⟨_, loadFile_value h, ?_⟩
  unfold FileTree.Unloadable
  rw [h]
  cases found with
  | false => exact iff_of_true rfl (Or.inl rfl)
  | true =>
    rw [if_pos rfl, Option.map_eq_none_iff, toOption_readDocument_eq_none_iff]
    simp

end ModelSource

end Archimate
