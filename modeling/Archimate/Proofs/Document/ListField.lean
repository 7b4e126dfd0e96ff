import Archimate.Element
import Archimate.Proofs.Document.FieldLine
import Archimate.Proofs.Literal.ListForm

namespace Archimate

open Text

namespace Body

variable {body key : Text} {items : List Text} {form : ListForm} {l : FieldLine}
  {before after : List (Text × Literal)}

/-- A line that writes a list field, with no blanks between the literal and a comma. -/
structure FieldLine.WritesList (l : FieldLine) (key : Text) (form : ListForm)
    (items : List Text) : Prop where
  key_eq : l.key = key
  literal_eq : l.literal = form.literal items
  blanks : ∀ gap ∈ l.blanks, Horizontal gap
  comma : l.comma = none ∨ l.behind = []

/-- A body with such a line, the entries of the lines around it, and none for the key behind it. -/
structure HoldsList (body key : Text) (form : ListForm) (items : List Text)
    (before after : List (Text × Literal)) : Prop where
  lines : ∃ (front : List Text) (l : FieldLine) (back : List Text),
    splitLines body = front ++ l.written :: back ∧ l.WritesList key form items ∧
      entries front = .ok before ∧ entries back = .ok after
  last : key ∉ after.map Prod.fst

theorem FieldLine.WritesList.wellFormed (h : l.WritesList key form items)
    (hitems : Listable items) (hkey : IsWord key) : l.WellFormed where
  key := h.key_eq ▸ hkey
  literal_ne_nil := h.literal_eq ▸ form.literal_ne_nil items
  literal_trimmed := h.literal_eq ▸ form.trimmed_literal items
  literal_line := h.literal_eq ▸ ListForm.newline_not_mem_literal hitems
  literal_comma := h.literal_eq ▸ form.getLast?_literal items
  blanks := h.blanks

theorem FieldLine.WritesList.lineEntry_written (h : l.WritesList key form items)
    (hitems : Listable items) (hkey : IsWord key) :
    lineEntry l.written = .ok [(key, .text (form.kept items))] := by
  unfold lineEntry
  rw [(h.wellFormed hitems hkey).lineField?_written, FieldLine.handed_eq_iff.mpr h.comma,
    h.key_eq, h.literal_eq]
  dsimp only
  rw [ListForm.parse_literal]
  rfl

/-- The form of the list is kept as a text, between the entries of the other lines. -/
theorem HoldsList.parse_eq (h : HoldsList body key form items before after)
    (hitems : Listable items) (hkey : IsWord key) :
    parse body = .ok (.ofList (before ++ (key, .text (form.kept items)) :: after)) := by
  obtain ⟨front, l, back, hlines, hwrites, hfront, hback⟩ := h.lines
  have hentries : entries (front ++ l.written :: back) =
      .ok (before ++ (key, .text (form.kept items)) :: after) := by
    rw [entries_append, entries, hfront, hback, hwrites.lineEntry_written hitems hkey]
    rfl
  unfold parse
  rw [hlines, hentries]
  rfl

end Body

def listKeys : List Text := ["stakeholders", "inputs", "outputs"]

namespace Record

/-- A record in which one entry stands between others. -/
def holding (name type : Text) (before : List (Text × Literal)) (key : Text) (value : Literal)
    (after : List (Text × Literal)) : Record :=
  ⟨name, type, .ofList (before ++ (key, value) :: after)⟩

section Holding

variable {name type key other : Text} {value value' : Literal}
  {before after : List (Text × Literal)}

theorem value?_holding (h : key ∉ after.map Prod.fst) :
    (holding name type before key value after).value? key = value.present? := by
  unfold value? holding Dictionary.ofList
  rw [Dictionary.insertAll_append, Dictionary.insertAll_cons,
    Dictionary.find?_insertAll_of_not_mem h, Dictionary.find?_insert, if_pos rfl]
  rfl

theorem value?_holding_of_ne (h : other ≠ key) :
    (holding name type before key value after).value? other =
      (holding name type before key value' after).value? other := by
  unfold value? holding Dictionary.ofList
  rw [Dictionary.insertAll_append, Dictionary.insertAll_append, Dictionary.insertAll_cons,
    Dictionary.insertAll_cons]
  refine congrArg (Option.bind · Literal.present?) (Dictionary.find?_insertAll_congr ?_ after)
  rw [Dictionary.find?_insert, Dictionary.find?_insert, if_neg h, if_neg h]

end Holding

/-- The same type, the same lists, and the same values under all keys but those of lists. -/
structure SameLists (r r' : Record) : Prop where
  type : r.type = r'.type
  items : ∀ key ∈ listKeys, r.items key = r'.items key
  value? : ∀ key, key ∉ listKeys → r.value? key = r'.value? key

variable {r r' : Record}

theorem SameLists.detail (h : SameLists r r') (kind : ElementKind) :
    Detail.ofRecord r kind = Detail.ofRecord r' kind := by
  have hitems := h.items
  have hvalue := h.value?
  cases kind <;>
    simp (disch := decide) only [Detail.ofRecord, Detail.choiceOr, text?, whole?, hvalue, hitems]

theorem SameLists.propertiesOf (h : SameLists r r') :
    Element.propertiesOf r = Element.propertiesOf r' := by
  have hproperties : ∀ key, key ∉ listKeys → r.properties key = r'.properties key := by
    intro key hkey
    unfold properties
    rw [h.value? key hkey]
  unfold Element.propertiesOf
  rw [hproperties "properties" (by decide), hproperties "metadata" (by decide)]

/-- An element depends on a list field through its items alone. -/
theorem SameLists.ofRecord? (h : SameLists r r') (kind : ElementKind) :
    Element.ofRecord? kind r = Element.ofRecord? kind r' := by
  have hvalue := h.value?
  unfold Element.ofRecord?
  simp (disch := decide) only [h.type, h.detail, h.propertiesOf, text?, hvalue]

end Record

theorem Element.eq_items_of_mem_attributes {kind : ElementKind} {r : Record} {e : Element kind}
    (h : Element.ofRecord? kind r = some e) {label : String} {values : List Text}
    (hmem : (label, .texts values) ∈ e.attributes) : values = r.items label := by
  unfold Element.ofRecord? at h
  split at h
  · obtain ⟨uid, -, rfl⟩ := Option.map_eq_some_iff.mp h
    cases kind with
    | businessDomain =>
      obtain ⟨rfl, rfl⟩ : label = "stakeholders" ∧ values = r.items "stakeholders" := by
        simpa [attributes, Detail.attributes, Detail.ofRecord] using hmem
      rfl
    | businessProcess =>
      have hlists : label = "inputs" ∧ values = r.items "inputs" ∨
          label = "outputs" ∧ values = r.items "outputs" := by
        simpa [attributes, Detail.attributes, Detail.ofRecord, Attribute.member] using hmem
      rcases hlists with ⟨rfl, rfl⟩ | ⟨rfl, rfl⟩ <;> rfl
    | _ => simp [attributes, Detail.attributes, Detail.ofRecord, Attribute.member] at hmem
  · cases h

namespace Body

variable {items : List Text} {name type key : Text} {before after : List (Text × Literal)}

theorem items_holding (hitems : Listable items) (hlast : key ∉ after.map Prod.fst)
    (form : ListForm) :
    (Record.holding name type before key (.text (form.kept items)) after).items key = items :=
  form.items_of_kept hitems (Record.value?_holding hlast)

theorem sameLists_holding (hitems : Listable items) (hlast : key ∉ after.map Prod.fst)
    (hlist : key ∈ listKeys) (form form' : ListForm) :
    Record.SameLists (.holding name type before key (.text (form.kept items)) after)
      (.holding name type before key (.text (form'.kept items)) after) where
  type := rfl
  items other _ := by
    by_cases hsame : other = key
    · rw [hsame, items_holding hitems hlast, items_holding hitems hlast]
    · unfold Record.items Record.text?
      rw [Record.value?_holding_of_ne hsame]
  value? other hother := by
    refine Record.value?_holding_of_ne ?_
    rintro rfl
    exact hother hlist

/-- A list is read as its items from either form, with or without a comma behind the literal, and
where elements read lists they do not depend on the form. -/
theorem list_forms_agree (hitems : Listable items) (hkey : IsWord key)
    (before after : List (Text × Literal)) :
    (∀ form body, HoldsList body key form items before after →
      ∃ fields, parse body = .ok fields ∧ ∀ name type,
        (Record.mk name type fields).items key = items ∧
        ∀ (kind : ElementKind) (e : Element kind),
          Element.ofRecord? kind ⟨name, type, fields⟩ = some e →
          ∀ (label : String) values, (label, .texts values) ∈ e.attributes → (label : Text) = key →
            values = items) ∧
    (key ∈ listKeys → ∀ form form' body body', HoldsList body key form items before after →
      HoldsList body' key form' items before after →
      ∃ fields fields', parse body = .ok fields ∧ parse body' = .ok fields' ∧
        ∀ name type kind, Element.ofRecord? kind ⟨name, type, fields⟩ =
          Element.ofRecord? kind ⟨name, type, fields'⟩) := by
  refine ⟨fun form body h => ?_, fun hlist form form' body body' h h' => ?_⟩
  · refine ⟨_, h.parse_eq hitems hkey, fun name type => ?_⟩
    have hread : (Record.holding name type before key (.text (form.kept items)) after).items key =
        items := items_holding hitems h.last form
    refine ⟨hread, fun kind e he label values hmem hlabel => ?_⟩
    rw [Element.eq_items_of_mem_attributes he hmem, hlabel]
    exact hread
  · refine ⟨_, _, h.parse_eq hitems hkey, h'.parse_eq hitems hkey, fun name type kind => ?_⟩
    exact (sameLists_holding hitems h.last hlist form form').ofRecord? kind

def stakeholdersLine (form : ListForm) : FieldLine where
  indent := "  "
  key := "stakeholders"
  gap := " "
  gap' := " "
  literal := form.literal ["Sales (EMEA)", "a/b c", "Listing"]
  behind := []
  comma := some []

def domainBody (form : ListForm) : Text :=
  "\n  uid = \"d\"\n" ++ (stakeholdersLine form).written ++ "\n"

theorem holdsList_domainBody (form : ListForm) :
    HoldsList (domainBody form) "stakeholders" form ["Sales (EMEA)", "a/b c", "Listing"]
      [("uid", .text "d")] [] where
  lines := by
    refine ⟨["", "  uid = \"d\""], stakeholdersLine form, [""], ?_, ⟨rfl, rfl, ?_, Or.inr rfl⟩,
      by decide, by decide⟩ <;> cases form <;> decide +kernel
  last := List.not_mem_nil

theorem list_forms_agree_domain :
    ∃ fields fields', parse (domainBody .listing) = .ok fields ∧
      parse (domainBody .joined) = .ok fields' ∧ fields ≠ fields' ∧
      (Record.mk "d" "BusinessDomain" fields').items "stakeholders" =
        ["Sales (EMEA)", "a/b c", "Listing"] ∧
      Element.ofRecord? .businessDomain ⟨"d", "BusinessDomain", fields⟩ =
        Element.ofRecord? .businessDomain ⟨"d", "BusinessDomain", fields'⟩ := by
  have hitems : Listable ["Sales (EMEA)", "a/b c", "Listing"] := by
    constructor <;> decide
  have hkey : IsWord "stakeholders" := by decide
  obtain ⟨hread, hagree⟩ := list_forms_agree hitems hkey [("uid", .text "d")] []
  obtain ⟨fields, fields', hparse, hparse', hsame⟩ := hagree (by decide) _ _ _ _
    (holdsList_domainBody .listing) (holdsList_domainBody .joined)
  obtain ⟨read, hread, hshown⟩ := hread _ _ (holdsList_domainBody .joined)
  obtain rfl : fields' = read := Except.ok.inj (hparse'.symm.trans hread)
  refine ⟨fields, fields', hparse, hparse', ?_, (hshown _ _).1, hsame _ _ _⟩
  have hlisting := (holdsList_domainBody .listing).parse_eq hitems hkey
  have hjoined := (holdsList_domainBody .joined).parse_eq hitems hkey
  rw [Except.ok.inj (hparse.symm.trans hlisting), Except.ok.inj (hparse'.symm.trans hjoined)]
  decide

end Body

end Archimate
