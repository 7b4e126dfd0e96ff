import Archimate.Architecture.Assembly
import Archimate.Proofs.Architecture.Merge
import Archimate.Proofs.Tally
import Mathlib.Data.List.Perm.Basic

namespace Archimate

namespace ElementKind

theorem flatMap_all_eq {β : Type} {f : ElementKind → List β} (kind : ElementKind)
    (h : ∀ other, other ≠ kind → f other = []) : all.flatMap f = f kind := by
  obtain ⟨before, after, hall⟩ := List.append_of_mem (mem_all kind)
  have hnodup : (before ++ kind :: after).Nodup := hall ▸ nodup_all
  obtain ⟨-, hafter, hbefore⟩ := List.nodup_append.mp hnodup
  have hnone : ∀ others : List ElementKind, kind ∉ others → others.flatMap f = [] := by
    intro others hout
    apply List.flatMap_eq_nil_iff.mpr
    intro other hother
    exact h other fun e => hout (e ▸ hother)
  have hout : kind ∉ before := fun hm => hbefore kind hm kind List.mem_cons_self rfl
  rw [hall, List.flatMap_append, List.flatMap_cons, hnone before hout,
    hnone after (List.nodup_cons.mp hafter).1, List.nil_append, List.append_nil]

theorem typeName_ne_relationshipType (kind : ElementKind) :
    Text.ofString kind.typeName ≠ Record.relationshipType := by
  cases kind <;> decide

theorem typeName_inj {a b : ElementKind} :
    Text.ofString a.typeName = Text.ofString b.typeName ↔ a = b :=
  ⟨fun h => typeName_injective (Text.ofString_inj.mp h), fun h => h ▸ rfl⟩

theorem ofTypeName?_eq_some_iff {name : Text} {kind : ElementKind} :
    ofTypeName? name = some kind ↔ name = kind.typeName := by
  constructor
  · intro h
    have hfound := List.find?_some h
    exact (beq_iff_eq.mp hfound).symm
  · rintro rfl
    exact ofTypeName?_typeName kind

end ElementKind

namespace Record

/-- The uids of the records that declare the type and have a text for their uid, in order. -/
def uidsOf (type : Text) (records : List Record) : List Text :=
  (records.filter (·.type == type)).filterMap (·.text? "uid")

/-- The record has no uid, or its type is neither a kind of element nor a relationship. -/
def IsDropped (r : Record) : Prop :=
  r.text? "uid" = none ∨
    r.type ≠ relationshipType ∧ ∀ kind ∈ ElementKind.all, r.type ≠ kind.typeName

instance (r : Record) : Decidable r.IsDropped := by unfold IsDropped; infer_instance

end Record

section Uids

variable {r : Record} {kind : ElementKind}

theorem map_uid_ofRecord? (kind : ElementKind) (r : Record) :
    (Element.ofRecord? kind r).map Element.uid =
      if r.type = kind.typeName then r.text? "uid" else none := by
  unfold Element.ofRecord?
  split
  · rw [Option.map_map]
    exact Option.map_id'
  · rfl

theorem Relationship.map_uid_ofRecord? (r : Record) :
    (Relationship.ofRecord? r).map Relationship.uid = r.text? "uid" := by
  unfold Relationship.ofRecord?
  rw [Option.map_map]
  exact Option.map_id'

/-- A container holds the uids of the records that declare its kind. -/
theorem map_uid_elementsOf (kind : ElementKind) (records : List Record) :
    (elementsOf kind records).map Element.uid = Record.uidsOf kind.typeName records := by
  unfold elementsOf Record.uidsOf
  rw [List.map_filterMap, List.filterMap_filter]
  simp only [map_uid_ofRecord?, beq_iff_eq]

theorem map_uid_relationshipsOf (records : List Record) :
    (relationshipsOf (records.filter Record.isRelationship)).map Relationship.uid =
      Record.uidsOf Record.relationshipType records := by
  unfold relationshipsOf Record.uidsOf
  rw [List.map_filterMap]
  simp only [Relationship.map_uid_ofRecord?]
  rfl

end Uids

namespace AnyElement

theorem flatMap_ofRecord? (r : Record) :
    (ElementKind.all.flatMap fun kind =>
      ((Element.ofRecord? kind r).map (AnyElement.mk kind)).toList) = (ofRecord? r).toList := by
  unfold ofRecord?
  cases hkind : ElementKind.ofTypeName? r.type with
  | none =>
    apply List.flatMap_eq_nil_iff.mpr
    intro kind _
    have hne : r.type ≠ kind.typeName := by
      intro h
      rw [ElementKind.ofTypeName?_eq_some_iff.mpr h] at hkind
      cases hkind
    simp [Element.ofRecord?, hne]
  | some kind =>
    rw [ElementKind.ofTypeName?_eq_some_iff] at hkind
    rw [ElementKind.flatMap_all_eq kind]
    · rfl
    · intro other hother
      have hne : r.type ≠ other.typeName := by
        rw [hkind]
        exact fun e => hother (ElementKind.typeName_inj.mp e).symm
      simp [Element.ofRecord?, hne]

theorem ofRecord?_eq_none_iff {r : Record} :
    ofRecord? r = none ↔
      r.text? "uid" = none ∨ ∀ kind ∈ ElementKind.all, r.type ≠ kind.typeName := by
  unfold ofRecord?
  cases hkind : ElementKind.ofTypeName? r.type with
  | none =>
    have hnone : ∀ kind ∈ ElementKind.all, r.type ≠ kind.typeName := by
      intro kind _ h
      rw [ElementKind.ofTypeName?_eq_some_iff.mpr h] at hkind
      cases hkind
    exact ⟨fun _ => Or.inr hnone, fun _ => rfl⟩
  | some kind =>
    rw [ElementKind.ofTypeName?_eq_some_iff] at hkind
    have huid := map_uid_ofRecord? kind r
    rw [if_pos hkind] at huid
    rw [Option.bind_some, Option.map_eq_none_iff, ← huid, Option.map_eq_none_iff]
    exact ⟨Or.inl, fun h => h.resolve_right fun hnone => hnone kind kind.mem_all hkind⟩

end AnyElement

/-- A record is an element, a relationship or dropped, and only one of these. -/
theorem Record.filed_once (r : Record) :
    (∃ e, AnyElement.ofRecord? r = some e ∧ r.isRelationship = false ∧ ¬ r.IsDropped) ∨
    (∃ s, Relationship.ofRecord? r = some s ∧ r.isRelationship = true ∧
      AnyElement.ofRecord? r = none ∧ ¬ r.IsDropped) ∨
    r.IsDropped ∧ AnyElement.ofRecord? r = none ∧
      (r.isRelationship = true → Relationship.ofRecord? r = none) := by
  have hnone : AnyElement.ofRecord? r = none ↔ _ := AnyElement.ofRecord?_eq_none_iff
  have hrelation : r.isRelationship = true ↔ r.type = relationshipType := beq_iff_eq
  have huid : Relationship.ofRecord? r = none ↔ r.text? "uid" = none := by
    rw [← Relationship.map_uid_ofRecord?, Option.map_eq_none_iff]
  by_cases hmissing : r.text? "uid" = none
  · exact Or.inr (Or.inr ⟨Or.inl hmissing, hnone.mpr (Or.inl hmissing), fun _ => huid.mpr hmissing⟩)
  by_cases htype : r.type = relationshipType
  · have hkind : ∀ kind ∈ ElementKind.all, r.type ≠ kind.typeName := fun kind _ h =>
      kind.typeName_ne_relationshipType (h.symm.trans htype)
    obtain ⟨s, hs⟩ := Option.ne_none_iff_exists'.mp (mt huid.mp hmissing)
    refine Or.inr (Or.inl ⟨s, hs, hrelation.mpr htype, hnone.mpr (Or.inr hkind), ?_⟩)
    exact fun h => h.elim hmissing fun h => h.1 htype
  by_cases hkind : ∀ kind ∈ ElementKind.all, r.type ≠ kind.typeName
  · refine Or.inr (Or.inr ⟨Or.inr ⟨htype, hkind⟩, hnone.mpr (Or.inr hkind), ?_⟩)
    exact fun h => absurd (hrelation.mp h) htype
  · obtain ⟨e, he⟩ := Option.ne_none_iff_exists'.mp (mt hnone.mp (not_or.mpr ⟨hmissing, hkind⟩))
    refine Or.inl ⟨e, he, beq_false_of_ne htype, ?_⟩
    exact fun h => h.elim hmissing fun h => hkind h.2

/-- Elements, relationships and dropped records are all records. -/
theorem length_eq_filed (records : List Record) :
    records.length = (records.filterMap AnyElement.ofRecord?).length +
      (relationshipsOf (records.filter Record.isRelationship)).length +
      (records.filter fun r => r.IsDropped).length := by
  unfold relationshipsOf
  induction records with
  | nil => rfl
  | cons r records ih =>
    rcases r.filed_once with ⟨e, he, hr, hd⟩ | ⟨s, hs, hr, he, hd⟩ | ⟨hd, he, hr⟩
    · simp only [List.length_cons, List.filterMap_cons, he, List.filter_cons, hr, hd, ih,
        decide_false, Bool.false_eq_true, if_false]
      omega
    · simp only [List.length_cons, List.filterMap_cons, he, List.filter_cons, hr, hs, hd, ih,
        decide_false, Bool.false_eq_true, if_false, if_true]
      omega
    · by_cases hrelation : r.isRelationship = true
      · simp only [List.length_cons, List.filterMap_cons, he, List.filter_cons, hrelation,
          hr hrelation, hd, ih, decide_true, if_true]
        omega
      · simp only [List.length_cons, List.filterMap_cons, he, List.filter_cons, hrelation, hd, ih,
          decide_true, Bool.false_eq_true, if_false, if_true]
        omega

namespace Architecture

/-- The elements of a merge are those of its records, sorted by kind. -/
theorem elements_merge_perm (business application technology : List Document) :
    (merge business application technology).elements.Perm
      (((business ++ application ++ technology).flatMap Document.objects).filterMap
        AnyElement.ofRecord?) := by
  unfold elements
  simp only [container_merge, elementsOf]
  generalize (business ++ application ++ technology).flatMap Document.objects = records
  induction records with
  | nil => simp
  | cons r records ih =>
    have hhead : ∀ kind,
        ((r :: records).filterMap (Element.ofRecord? kind)).map (AnyElement.mk kind) =
        ((Element.ofRecord? kind r).map (AnyElement.mk kind)).toList ++
          (records.filterMap (Element.ofRecord? kind)).map (AnyElement.mk kind) := by
      intro kind
      cases h : Element.ofRecord? kind r <;> simp [h]
    have hrecord : (r :: records).filterMap AnyElement.ofRecord? =
        (AnyElement.ofRecord? r).toList ++ records.filterMap AnyElement.ofRecord? := by
      cases h : AnyElement.ofRecord? r <;> simp [h]
    simp only [hhead]
    rw [hrecord, ← AnyElement.flatMap_ofRecord?]
    exact (List.flatMap_append_perm _ _ _).symm.trans (ih.append_left _)

theorem filter_kind_elements (a : Architecture) (kind : ElementKind) :
    a.elements.filter (fun e => e.kind = kind) = (a.container kind).map (⟨kind, ·⟩) := by
  unfold elements
  rw [List.filter_flatMap, ElementKind.flatMap_all_eq kind]
  · apply List.filter_eq_self.mpr
    intro e he
    obtain ⟨_, -, rfl⟩ := List.mem_map.mp he
    exact decide_eq_true rfl
  · intro other hother
    apply List.filter_eq_nil_iff.mpr
    intro e he
    obtain ⟨_, -, rfl⟩ := List.mem_map.mp he
    simpa using hother

theorem count_typeName_elements (a : Architecture) (kind : ElementKind) :
    (a.elements.map fun e => e.kind.typeName).count kind.typeName = (a.container kind).length := by
  have hkind := congrArg List.length (filter_kind_elements a kind)
  rw [List.length_map] at hkind
  rw [← hkind, List.count, List.countP_map, List.countP_eq_length_filter]
  congr 2
  funext e
  simp only [Function.comp_apply, beq_eq_decide]
  exact decide_eq_decide.mpr ⟨fun h => ElementKind.typeName_injective h, fun h => h ▸ rfl⟩

def elementsIn (a : Architecture) : Layer → List AnyElement
  | .business =>
    a.business.domains.map (⟨_, ·⟩) ++ a.business.capabilities.map (⟨_, ·⟩) ++
      a.business.actors.map (⟨_, ·⟩) ++ a.business.processes.map (⟨_, ·⟩) ++
      a.business.services.map (⟨_, ·⟩)
  | .application =>
    a.application.applications.map (⟨_, ·⟩) ++ a.application.components.map (⟨_, ·⟩) ++
      a.application.services.map (⟨_, ·⟩) ++ a.application.interfaces.map (⟨_, ·⟩)
  | .technology =>
    a.technology.nodes.map (⟨_, ·⟩) ++ a.technology.services.map (⟨_, ·⟩) ++
      a.technology.artifacts.map (⟨_, ·⟩) ++ a.technology.interfaces.map (⟨_, ·⟩) ++
      a.technology.systemSoftware.map (⟨_, ·⟩)

theorem elementsIn_eq_flatMap (a : Architecture) (layer : Layer) :
    a.elementsIn layer =
      (ElementKind.ofLayer layer).flatMap fun kind => (a.container kind).map (⟨kind, ·⟩) := by
  cases layer <;>
    simp [elementsIn, ElementKind.ofLayer, ElementKind.all, ElementKind.layer, container]

theorem elements_eq_layers (a : Architecture) :
    a.elements =
      a.elementsIn .business ++ a.elementsIn .application ++ a.elementsIn .technology := by
  simp only [elementsIn_eq_flatMap, ← List.flatMap_append]
  rfl

theorem layer_of_mem_elementsIn {a : Architecture} {layer : Layer} {e : AnyElement}
    (h : e ∈ a.elementsIn layer) : e.kind.layer = layer := by
  rw [elementsIn_eq_flatMap] at h
  obtain ⟨kind, hkind, he⟩ := List.mem_flatMap.mp h
  obtain ⟨_, -, rfl⟩ := List.mem_map.mp he
  exact beq_iff_eq.mp (List.mem_filter.mp hkind).2

/-- Every record is accounted for. The containers and the relationships hold the uids of the records
that declare their type, in order; each layer holds elements of its own kinds; all counts agree; and
what is not counted among elements and relationships has been dropped. -/
structure AccountsFor (a : Architecture) (records : List Record) : Prop where
  containers : ∀ kind, (a.container kind).map Element.uid = Record.uidsOf kind.typeName records
  elementsByType : ∀ kind : ElementKind, a.summary.elementsByType.find? kind.typeName =
    if (Record.uidsOf kind.typeName records).length = 0 then none
    else some (Record.uidsOf kind.typeName records).length
  relationships : a.relationships.map Relationship.uid =
    Record.uidsOf Record.relationshipType records
  layer : ∀ layer, ∀ e ∈ a.elementsIn layer, e.kind.layer = layer
  elements : a.elements =
    a.elementsIn .business ++ a.elementsIn .application ++ a.elementsIn .technology
  totalElements : a.summary.totalElements = a.elementCount
  totalByLayer : total a.summary.elementsByLayer = a.elementCount
  totalByType : total a.summary.elementsByType = a.elementCount
  totalObjects : ∃ sources objects relationships,
    a.provenance = .merge sources objects relationships ∧ objects = records.length ∧
      objects = a.summary.totalElements + a.summary.totalRelationships +
        (records.filter fun r => r.IsDropped).length

section Merge

variable (business application technology : List Document)

theorem relationships_merge :
    (merge business application technology).relationships =
      relationshipsOf (((business ++ application ++ technology).flatMap Document.objects).filter
        Record.isRelationship) := by
  rw [List.filter_flatMap]
  rfl

theorem map_uid_container_merge (kind : ElementKind) :
    ((merge business application technology).container kind).map Element.uid =
      Record.uidsOf kind.typeName
        ((business ++ application ++ technology).flatMap Document.objects) := by
  rw [container_merge, map_uid_elementsOf]

/-- A merge accounts for every record of its documents. -/
theorem merge_accounts_for_records :
    (merge business application technology).AccountsFor
      ((business ++ application ++ technology).flatMap Document.objects) := by
  set records := (business ++ application ++ technology).flatMap Document.objects
  set a := merge business application technology
  have hcontainer : ∀ kind, (a.container kind).map Element.uid =
      Record.uidsOf kind.typeName records :=
    map_uid_container_merge business application technology
  have hlayers : total a.summary.elementsByLayer = a.elementCount :=
    (total_tally _).trans (List.length_map _)
  have htypes : total a.summary.elementsByType = a.elementCount :=
    (total_tally _).trans (List.length_map _)
  have hcount : a.elementCount = (records.filterMap AnyElement.ofRecord?).length :=
    (elements_merge_perm business application technology).length_eq
  have hrelationships : a.relationships = relationshipsOf (records.filter Record.isRelationship) :=
    relationships_merge business application technology
  refine ⟨hcontainer, fun kind => ?_, ?_, fun layer e he => layer_of_mem_elementsIn he,
    a.elements_eq_layers, hlayers, hlayers, htypes, _, _, _, rfl, rfl, ?_⟩
  · rw [← hcontainer kind, List.length_map, ← count_typeName_elements]
    exact find?_tally _ _
  · rw [hrelationships, map_uid_relationshipsOf]
  · calc records.length
        = a.elementCount + (relationshipsOf (records.filter Record.isRelationship)).length +
            (records.filter fun r => r.IsDropped).length := by rw [hcount, length_eq_filed]
      _ = _ := by rw [← hrelationships, ← hlayers]; rfl

end Merge

/-- Two actors and the relationship between them; the record without a uid is dropped. -/
theorem merge_accounts_for_records_staff :
    (∃ e ∈ (merge [staff] [] [duties]).elementsIn .business,
      e.uid = "clerk" ∧ e.kind.layer = .business) ∧
    ((merge [staff] [] [duties]).container .businessActor).map Element.uid = ["clerk", "manager"] ∧
    (merge [staff] [] [duties]).summary.elementsByType.find? "BusinessActor" = some 2 ∧
    (merge [staff] [] [duties]).summary.elementsByType.find? "Application" = none ∧
    ∃ sources objects relationships,
      (merge [staff] [] [duties]).provenance = .merge sources objects relationships ∧
      objects = 4 ∧ objects = 2 + 1 + 1 := by
  have haccounts := merge_accounts_for_records [staff] [] [duties]
  obtain ⟨sources, objects, relationships, hprovenance, hlength, haccount⟩ := haccounts.totalObjects
  have hclerk : ∃ e ∈ (merge [staff] [] [duties]).elementsIn .business, e.uid = "clerk" :=
    ⟨_, List.mem_append_left _ (List.mem_append_left _ (List.mem_append_right _
      List.mem_cons_self)), rfl⟩
  obtain ⟨e, he, huid⟩ := hclerk
  exact ⟨⟨e, he, huid, haccounts.layer _ e he⟩, haccounts.containers .businessActor,
    haccounts.elementsByType .businessActor, haccounts.elementsByType .application, sources,
    objects, relationships, hprovenance, hlength, haccount⟩

end Architecture

end Archimate
