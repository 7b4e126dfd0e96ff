import Archimate.Proofs.Literal.Written
import Archimate.Proofs.Loader.File
import Archimate.Proofs.Loader.Visits

namespace Archimate
open Text

structure Architecture.NamesWritable (a : Architecture) : Prop where
  element : ∀ e ∈ a.elements, e.uid.isWritable = true
  relationship : ∀ r ∈ a.relationships, r.uid.isWritable = true
  ends : ∀ r ∈ a.relationships, r.source.isWritable = true ∧ r.target.isWritable = true

namespace Architecture

theorem isWritable_uid_of_ofRecord? {r : Record} (hr : r.WithoutHalves) {kind : ElementKind}
    {e : Element kind} (h : Element.ofRecord? kind r = some e) : e.uid.isWritable = true := by
  unfold Element.ofRecord? at h
  split at h
  · obtain ⟨uid, huid, rfl⟩ := Option.map_eq_some_iff.mp h
    exact hr.text? huid
  · cases h

theorem namesWritable_of_relationship {r : Record} (hr : r.WithoutHalves)
    {relationship : Relationship} (h : Relationship.ofRecord? r = some relationship) :
    relationship.uid.isWritable = true ∧ relationship.source.isWritable = true ∧
      relationship.target.isWritable = true := by
  obtain ⟨uid, huid, rfl⟩ := Option.map_eq_some_iff.mp h
  exact ⟨hr.text? huid, hr.referenceOf _, hr.referenceOf _⟩

theorem namesWritable_merge {business application technology : List Document}
    (h : ∀ d ∈ business ++ application ++ technology, ∀ r ∈ d.objects, r.WithoutHalves) :
    (merge business application technology).NamesWritable := by
  have hrelationship : ∀ relationship ∈ (merge business application technology).relationships,
      relationship.uid.isWritable = true ∧ relationship.source.isWritable = true ∧
        relationship.target.isWritable = true := by
    intro relationship hmem
    obtain ⟨r, hr, hread⟩ := List.mem_filterMap.mp hmem
    obtain ⟨d, hd, hr⟩ := List.mem_flatMap.mp hr
    exact namesWritable_of_relationship (h d hd r (List.mem_filter.mp hr).1) hread
  refine ⟨?_, fun r hr => (hrelationship r hr).1, fun r hr => (hrelationship r hr).2⟩
  intro e he
  obtain ⟨kind, -, he⟩ := List.mem_flatMap.mp he
  obtain ⟨element, hmem, rfl⟩ := List.mem_map.mp he
  rw [container_merge] at hmem
  obtain ⟨r, hr, hread⟩ := List.mem_filterMap.mp hmem
  obtain ⟨d, hd, hr⟩ := List.mem_flatMap.mp hr
  exact isWritable_uid_of_ofRecord? (h d hd r hr) hread

end Architecture

namespace ModelSource

theorem isWritable_of_decode {bytes : ByteArray} {text : Text} (h : decode bytes = .ok text) :
    text.isWritable = true := by
  unfold decode at h
  split at h
  · cases h
    exact isWritable_unifyNewlines (isWritable_ofString _)
  · cases h

theorem isWritable_of_readText {files : FileTree} {path : Path} {text : Text}
    (h : readText files path = .ok text) : text.isWritable = true := by
  unfold readText at h
  split at h
  · cases h
  · split at h
    · rename_i bytes _
      cases hdecode : decode bytes with
      | ok read =>
        rw [hdecode] at h
        cases h
        exact isWritable_of_decode hdecode
      | error reason =>
        rw [hdecode] at h
        cases h
    · cases h

theorem withoutHalves_of_readDocument {files : FileTree} {path : Path} {d : Document}
    (h : readDocument files path = .ok d) : ∀ r ∈ d.objects, r.WithoutHalves := by
  obtain ⟨text, htext, hparse⟩ := readDocument_eq_ok_iff.mp h
  exact Document.withoutHalves_of_parse hparse (isWritable_of_readText htext)

theorem withoutHalves_of_mem_documentsIn {source : ModelSource} {layer : Layer} {d : Document}
    (h : d ∈ source.documentsIn layer) : ∀ r ∈ d.objects, r.WithoutHalves := by
  obtain ⟨v, -, hread⟩ := List.mem_filterMap.mp h
  cases hreading : source.reading v with
  | ok found =>
    rw [hreading] at hread
    cases hread
    exact withoutHalves_of_readDocument hreading
  | error failure =>
    rw [hreading] at hread
    cases hread

/-- What is loaded from files has names that can be written. -/
theorem namesWritable_readable (source : ModelSource) : source.readable.NamesWritable := by
  apply Architecture.namesWritable_merge
  intro d hd
  simp only [List.mem_append] at hd
  rcases hd with (hd | hd) | hd <;> exact withoutHalves_of_mem_documentsIn hd

end ModelSource

end Archimate
