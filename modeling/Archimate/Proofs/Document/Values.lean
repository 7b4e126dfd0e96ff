import Archimate.Proofs.Dictionary
import Archimate.Proofs.Document.Grammar
import Archimate.Proofs.Document.Line
import Archimate.Proofs.Document.Overlong
import Archimate.Proofs.Text.Pieces

namespace Archimate
open Text

theorem Body.exists_literal_of_lineEntry {line : Text} {es : List (Text × Literal)}
    (h : lineEntry line = .ok es) :
    ∀ e ∈ es, ∃ literal ∈ lineLiteral? line, Literal.parse literal = .ok e.2 := by
  unfold lineLiteral?
  unfold lineEntry at h
  split at h
  · cases h
    exact List.forall_mem_nil _
  · rename_i key literal hfield
    obtain ⟨value, hparse, rfl⟩ := map_eq_ok_iff.mp h
    intro e he
    rw [List.mem_singleton.mp he, hfield]
    exact ⟨literal, rfl, hparse⟩

theorem Body.exists_literal_of_entries {lines : List Text} {es : List (Text × Literal)}
    (h : entries lines = .ok es) :
    ∀ e ∈ es, ∃ literal ∈ lines.filterMap lineLiteral?, Literal.parse literal = .ok e.2 := by
  induction lines generalizing es with
  | nil =>
    cases h
    exact List.forall_mem_nil _
  | cons line lines ih =>
    obtain ⟨first, rest, hfirst, hrest, rfl⟩ := bind_eq_ok_iff.mp h
    intro e he
    rcases List.mem_append.mp he with he | he
    · obtain ⟨literal, hliteral, hparse⟩ := exists_literal_of_lineEntry hfirst e he
      exact ⟨literal, List.mem_filterMap.mpr ⟨line, List.mem_cons_self, hliteral⟩, hparse⟩
    · obtain ⟨literal, hliteral, hparse⟩ := ih hrest e he
      obtain ⟨other, hother, hliteral⟩ := List.mem_filterMap.mp hliteral
      have hmem := List.mem_filterMap.mpr ⟨other, List.mem_cons_of_mem line hother, hliteral⟩
      exact ⟨literal, hmem, hparse⟩

theorem Declaration.exists_literal_of_record {d : Declaration} {r : Record}
    (h : d.record = .ok r) :
    ∀ field ∈ r.fields.entries, ∃ literal ∈ d.literals, Literal.parse literal = .ok field.2 := by
  obtain ⟨fields, hfields, rfl⟩ := map_eq_ok_iff.mp h
  obtain ⟨es, hentries, rfl⟩ := map_eq_ok_iff.mp hfields
  intro field hfield
  exact Body.exists_literal_of_entries hentries field (Dictionary.mem_of_mem_ofList hfield)

theorem exists_literal_of_recordsOf {ds : List Declaration} {rs : List Record}
    (h : recordsOf ds = .ok rs) :
    ∀ r ∈ rs, ∀ field ∈ r.fields.entries, ∃ literal ∈ ds.flatMap Declaration.literals,
      Literal.parse literal = .ok field.2 := by
  induction ds generalizing rs with
  | nil =>
    cases h
    exact List.forall_mem_nil _
  | cons d ds ih =>
    obtain ⟨first, rest, hfirst, hrest, rfl⟩ := bind_eq_ok_iff.mp h
    intro r hr field hfield
    rw [List.flatMap_cons]
    rcases List.mem_cons.mp hr with rfl | hr
    · obtain ⟨literal, hliteral, hparse⟩ := Declaration.exists_literal_of_record hfirst field hfield
      exact ⟨literal, List.mem_append_left _ hliteral, hparse⟩
    · obtain ⟨literal, hliteral, hparse⟩ := ih hrest r hr field hfield
      exact ⟨literal, List.mem_append_right _ hliteral, hparse⟩

/-- The value of every field is read from a literal of the text. -/
theorem Document.exists_literal_of_parse {text source : Text} {d : Document}
    (h : parse text source = .ok d) :
    ∀ r ∈ d.objects, ∀ field ∈ r.fields.entries, ∃ literal ∈ literals text,
      Literal.parse literal = .ok field.2 := by
  obtain ⟨objects, hobjects, rfl⟩ := map_eq_ok_iff.mp h
  exact exists_literal_of_recordsOf hobjects

section Pieces

theorem Body.value_subset_of_field? {t key value : Text} (h : field? t = some (key, value)) :
    value ⊆ t := by
  obtain ⟨gap, gap', rfl, -⟩ := field?_eq_some_iff.mp h
  intro c hc
  simp [fieldText, hc]

theorem Body.value_subset_of_firstField? {t key value : Text}
    (h : firstField? t = some (key, value)) : value ⊆ t := by
  induction t with
  | nil => cases h
  | cons c t ih =>
    rw [firstField?, Option.or_eq_some_iff] at h
    rcases h with h | ⟨-, h⟩
    · exact value_subset_of_field? h
    · exact List.subset_cons_of_subset c (ih h)

theorem Body.withoutComma_subset (t : Text) : withoutComma t ⊆ t := by
  unfold withoutComma
  split
  · exact List.dropLast_subset t
  · exact List.Subset.refl t

theorem Body.literal_subset_of_lineField? {line key literal : Text}
    (h : lineField? line = some (key, literal)) : literal ⊆ line := by
  unfold lineField? at h
  dsimp only at h
  split at h
  · cases h
  · obtain ⟨⟨found, value⟩, hfield, hliteral⟩ := Option.map_eq_some_iff.mp h
    cases hliteral
    have hvalue := List.Subset.trans (value_subset_of_firstField? hfield) (trim_subset line)
    have htrimmed := List.Subset.trans (trim_subset value) hvalue
    exact List.Subset.trans (withoutComma_subset _) htrimmed

theorem Declaration.body_subset_of_read? {t rest : Text} {d : Declaration}
    (h : read? t = some (d, rest)) : d.body ⊆ t ∧ rest ⊆ t := by
  obtain ⟨text, rfl, gap, value, -, rfl, -, -, gap', gap'', gap''', -, -, -, rfl, -⟩ :=
    read?_eq_some_iff.mp h
  simp only [List.append_assoc]
  constructor <;> intro c hc <;> simp [hc]

theorem Declaration.body_subset_of_readLocal? {t rest : Text} {d : Declaration}
    (h : readLocal? t = some (d, rest)) : d.body ⊆ t ∧ rest ⊆ t := by
  unfold readLocal? at h
  simp only [Option.bind_eq_bind, Option.bind_eq_some_iff, after?_eq_some_iff] at h
  obtain ⟨behind, rfl, inner, hgap, hread⟩ := h
  have hinner : inner ⊆ behind := by
    rw [gap?_eq_some_iff] at hgap
    obtain ⟨gap, rfl, -⟩ := hgap
    exact List.subset_append_right gap inner
  have hall := List.Subset.trans hinner (List.subset_append_right ("local" : Text) behind)
  obtain ⟨hbody, hrest⟩ := body_subset_of_read? hread
  exact ⟨List.Subset.trans hbody hall, List.Subset.trans hrest hall⟩

theorem Form.subset_of_mem_scan {α : Type} {form : Form α} {piece : α → Text}
    (hread : ∀ {t a rest}, form.read? t = some (a, rest) → piece a ⊆ t ∧ rest ⊆ t)
    {t : Text} {a : α}
    (h : a ∈ form.scan t) : piece a ⊆ t := by
  fun_induction scan form t with
  | case1 => cases h
  | case2 c t first rest hfirst _ ih =>
    obtain ⟨hpiece, hrest⟩ := hread hfirst
    rcases List.mem_cons.mp h with rfl | h
    · exact hpiece
    · exact List.Subset.trans (ih h) hrest
  | case3 c t _ ih => exact List.subset_cons_of_subset c (ih h)

theorem Document.body_subset_of_mem_declarations {text : Text} {d : Declaration}
    (h : d ∈ declarations text) : d.body ⊆ text := by
  rcases List.mem_append.mp h with h | h
  · exact Form.subset_of_mem_scan Declaration.body_subset_of_readLocal? h
  · exact Form.subset_of_mem_scan Declaration.body_subset_of_read? h

theorem Document.subset_of_mem_literals {text literal : Text} (h : literal ∈ literals text) :
    literal ⊆ text := by
  obtain ⟨d, hd, line, hline, key, hfield⟩ := mem_literals.mp h
  have hbody := body_subset_of_mem_declarations hd
  have htext := List.Subset.trans (subset_of_mem_splitOn hline) hbody
  exact List.Subset.trans (Body.literal_subset_of_lineField? hfield) htext

end Pieces

end Archimate
