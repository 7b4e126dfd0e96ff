import Archimate.Architecture
import Archimate.Architecture.Assembly

namespace Archimate

namespace Architecture

theorem blankFinding_eq_nil_iff {rule : Rule} {field : String} {value : Text} :
    blankFinding rule field value = [] ↔ ∃ c ∈ value, Text.isBlank c = false := by
  unfold blankFinding Text.allBlank
  split
  · rename_i h
    simpa using List.all_eq_true.mp h
  · rename_i h
    simpa using h

theorem errors_eq_nil_iff {a : Architecture} :
    a.errors = [] ↔
      (∃ c ∈ a.name, Text.isBlank c = false) ∧ ∃ c ∈ a.version, Text.isBlank c = false := by
  unfold errors
  rw [List.append_eq_nil_iff, blankFinding_eq_nil_iff, blankFinding_eq_nil_iff]

theorem isValid_validate_iff {a : Architecture} : a.validate.isValid = true ↔ a.errors = [] :=
  List.isEmpty_iff

theorem exists_version_char : ∃ c ∈ conventions.architectureVersion, Text.isBlank c = false :=
  ⟨'1', by decide, by decide⟩

/-- An architecture of a document is named after the module, or after the lack of one. -/
theorem errors_ofDocument (d : Document) : (ofDocument d).errors = [] := by
  have hword : CodePoint.char 'A' ∈ (" Architecture" : Text) := by decide
  exact errors_eq_nil_iff.mpr
    ⟨⟨'A', List.mem_append_right _ hword, by decide⟩, exists_version_char⟩

theorem errors_merge (business application technology : List Document) :
    (merge business application technology).errors = [] := by
  have hname : CodePoint.char 'M' ∈ conventions.mergedName := by decide
  exact errors_eq_nil_iff.mpr ⟨⟨'M', hname, by decide⟩, exists_version_char⟩

end Architecture

end Archimate
