import Archimate.Proofs.Literal.Numbers
import Archimate.Relationship

namespace Archimate
open Text

/-- No field of the record brings half of a surrogate pair into a text. -/
def Record.WithoutHalves (r : Record) : Prop :=
  ∀ field ∈ r.fields.entries, field.2.written.isWritable = true

namespace Atom

variable {atom : Atom}

theorem isWritable_quoted (h : atom.plain.isWritable = true) : atom.quoted.isWritable = true := by
  cases atom with
  | text value => exact Text.isWritable_quoted h
  | _ => exact h

end Atom

theorem isWritable_mapText {entries : Dictionary Text Atom}
    (h : ∀ entry ∈ entries.entries, entry.1.isWritable = true ∧ entry.2.plain.isWritable = true) :
    (mapText entries).isWritable = true := by
  have hentries : ∀ part ∈ entries.entries.map entryText, part.isWritable = true := by
    intro part hpart
    obtain ⟨entry, hentry, rfl⟩ := List.mem_map.mp hpart
    obtain ⟨hkey, hvalue⟩ := h entry hentry
    unfold entryText
    rw [isWritable_append, isWritable_append, Text.isWritable_quoted hkey,
      Atom.isWritable_quoted hvalue]
    rfl
  unfold mapText
  rw [isWritable_append, isWritable_append,
    isWritable_intercalate (isWritable_ofString _) hentries]
  rfl

namespace Literal

variable {t : Text} {value : Literal}

theorem bare_subset (t : Text) : bare t ⊆ t :=
  List.Subset.trans (dropEnds_subset _ _) (trim_subset t)

theorem withoutClosing_subset (t : Text) : withoutClosing t ⊆ t := by
  unfold withoutClosing
  split
  · exact List.dropLast_subset t
  · exact List.Subset.refl t

theorem subset_of_mem_arguments {opening part : Text} (h : part ∈ arguments opening t) :
    part ⊆ t := by
  obtain ⟨cut, hcut, rfl⟩ := List.mem_map.mp h
  have hclosed := List.Subset.trans (subset_of_mem_splitOn hcut) (withoutClosing_subset _)
  have hbehind := List.Subset.trans hclosed (List.drop_subset _ t)
  exact List.Subset.trans (trim_subset cut) hbehind

theorem subset_of_mem_mapEntries {entry : Text × Atom} (h : entry ∈ (mapEntries t).entries) :
    entry.1 ⊆ t ∧ ∃ value, entry.2 = .text value ∧ value ⊆ t := by
  have hbare {part : Text} (hpart : part ∈ (arguments mapOpening t).map bare) : part ⊆ t := by
    obtain ⟨argument, hargument, rfl⟩ := List.mem_map.mp hpart
    exact List.Subset.trans (bare_subset argument) (subset_of_mem_arguments hargument)
  obtain ⟨hkey, value, hvalue, hatom⟩ := mem_pairs (Dictionary.mem_of_mem_ofList h)
  exact ⟨hbare hkey, value, hatom, hbare hvalue⟩

theorem subset_of_quotedText? {inner : Text} (h : quotedText? t = some inner) : inner ⊆ t := by
  unfold quotedText? at h
  split at h
  · cases h
    exact List.Subset.trans (List.dropLast_subset _) (List.tail_sublist t).subset
  · cases h

/-- What is read from a text that can be written can be written again. -/
theorem isWritable_written_of_parse (h : parse t = .ok value) (ht : t.isWritable = true) :
    value.written.isWritable = true := by
  -- Quoted texts, maps and bare texts are pieces of what is read; flags and numbers are spelt anew.
  unfold parse at h
  split at h
  · rename_i hinner
    cases h
    exact isWritable_of_subset (subset_of_quotedText? hinner) ht
  · cases h
    exact isWritable_ofString _
  · split at h
    · unfold wholeNumber at h
      split at h <;> cases h
      exact isWritable_ofString _
    · split at h
      · cases h
        exact isWritable_ofString _
      · split at h <;> cases h
        · apply isWritable_mapText
          intro entry hentry
          obtain ⟨hkey, value, hatom, hvalue⟩ := subset_of_mem_mapEntries hentry
          rw [hatom]
          exact ⟨isWritable_of_subset hkey ht, isWritable_of_subset hvalue ht⟩
        · exact ht

end Literal

theorem Document.withoutHalves_of_parse {text source : Text} {d : Document}
    (h : parse text source = .ok d) (ht : text.isWritable = true) :
    ∀ r ∈ d.objects, r.WithoutHalves := by
  intro r hr field hfield
  obtain ⟨literal, hmem, hliteral⟩ := exists_literal_of_parse h r hr field hfield
  have hpiece := isWritable_of_subset (subset_of_mem_literals hmem) ht
  exact Literal.isWritable_written_of_parse hliteral hpiece

namespace Record

variable {r : Record} {key : Text}

theorem WithoutHalves.value? (h : r.WithoutHalves) {value : Literal}
    (hvalue : r.value? key = some value) : value.written.isWritable = true := by
  obtain ⟨stored, hfound, hpresent⟩ := Option.bind_eq_some_iff.mp hvalue
  have hstored := h _ (Dictionary.find?_eq_some_iff.mp hfound)
  cases stored <;> cases hpresent <;> exact hstored

theorem WithoutHalves.text? (h : r.WithoutHalves) {text : Text} (htext : r.text? key = some text) :
    text.isWritable = true := by
  obtain ⟨value, hvalue, hshape⟩ := Option.bind_eq_some_iff.mp htext
  have hwritten := h.value? hvalue
  cases value <;> cases hshape
  exact hwritten

theorem WithoutHalves.referenceOf (h : r.WithoutHalves) (key : Text) :
    (Relationship.referenceOf r key).isWritable = true := by
  unfold Relationship.referenceOf
  cases hvalue : r.value? key with
  | none => exact isWritable_ofString _
  | some value => exact h.value? hvalue

end Record

end Archimate
