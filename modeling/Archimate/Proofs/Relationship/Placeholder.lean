import Archimate.Proofs.Architecture.Checked
import Archimate.Proofs.Architecture.Merge
import Archimate.Proofs.Relationship.Cycles

namespace Archimate
open Relation

/-- Walks from node to node: all steps are of the narrower kind, unless the walk leads through the
one node at which the wider kind differs. -/
theorem transGen_or_through {α : Type} {wide narrow : α → α → Prop} {hub : α}
    (hstep : ∀ a b, wide a b → narrow a b ∨ a = hub ∨ b = hub) {a b : α}
    (hwalk : TransGen wide a b) :
    TransGen narrow a b ∨ (ReflTransGen wide a hub ∧ ReflTransGen wide hub b) := by
  induction hwalk with
  | single e =>
    rcases hstep _ _ e with hnarrow | rfl | rfl
    · exact Or.inl (TransGen.single hnarrow)
    · exact Or.inr ⟨ReflTransGen.refl, ReflTransGen.single e⟩
    · exact Or.inr ⟨ReflTransGen.single e, ReflTransGen.refl⟩
  | tail walk e ih =>
    rcases ih with hall | ⟨hto, hfrom⟩
    · rcases hstep _ _ e with hnarrow | rfl | rfl
      · exact Or.inl (hall.tail hnarrow)
      · exact Or.inr ⟨walk.to_reflTransGen, ReflTransGen.single e⟩
      · exact Or.inr ⟨walk.to_reflTransGen.tail e, ReflTransGen.refl⟩
    · exact Or.inr ⟨hto, hfrom.tail e⟩

namespace Record

def hasEnds (r : Record) : Bool :=
  (r.value? "source").isSome && (r.value? "target").isSome

end Record

namespace Relationship

theorem referenceOf_eq_unknown {r : Record} {key : Text} (h : (r.value? key).isSome = false) :
    referenceOf r key = conventions.unknownReference := by
  rw [Option.isSome_eq_false_iff, Option.isNone_iff_eq_none] at h
  unfold referenceOf
  rw [h]
  rfl

theorem ends_of_ofRecord? {r : Record} {relationship : Relationship}
    (h : ofRecord? r = some relationship) :
    relationship.source = referenceOf r "source" ∧
      relationship.target = referenceOf r "target" := by
  obtain ⟨uid, -, rfl⟩ := Option.map_eq_some_iff.mp h
  exact ⟨rfl, rfl⟩

/-- A relationship without an end begins or ends at the placeholder. -/
theorem unknown_end_of_not_hasEnds {r : Record} {relationship : Relationship}
    (h : ofRecord? r = some relationship) (hends : r.hasEnds = false) :
    relationship.source = conventions.unknownReference ∨
      relationship.target = conventions.unknownReference := by
  obtain ⟨hsource, htarget⟩ := ends_of_ofRecord? h
  unfold Record.hasEnds at hends
  rw [hsource, htarget]
  rcases Bool.and_eq_false_iff.mp hends with hmissing | hmissing
  · exact Or.inl (referenceOf_eq_unknown hmissing)
  · exact Or.inr (referenceOf_eq_unknown hmissing)

end Relationship

namespace Relationships

variable {records : List Record}

theorem structuralEdge_cases {a b : Text} (h : StructuralEdge (relationshipsOf records) a b) :
    StructuralEdge (relationshipsOf (records.filter Record.hasEnds)) a b ∨
      a = conventions.unknownReference ∨ b = conventions.unknownReference := by
  obtain ⟨relationship, hmem, hstructural, rfl, rfl⟩ := h
  obtain ⟨r, hr, hread⟩ := List.mem_filterMap.mp hmem
  cases hends : r.hasEnds with
  | false => exact Or.inr (Relationship.unknown_end_of_not_hasEnds hread hends)
  | true =>
    have hfiltered : r ∈ records.filter Record.hasEnds := List.mem_filter.mpr ⟨hr, hends⟩
    have hkept := List.mem_filterMap.mpr ⟨r, hfiltered, hread⟩
    exact Or.inl ⟨relationship, hkept, hstructural, rfl, rfl⟩

/-- A cycle of structural relationships is one of records that have both ends, or it leads through
the placeholder. -/
theorem cycle_cases {node : Text}
    (h : TransGen (StructuralEdge (relationshipsOf records)) node node) :
    TransGen (StructuralEdge (relationshipsOf (records.filter Record.hasEnds))) node node ∨
      (ReflTransGen (StructuralEdge (relationshipsOf records)) node conventions.unknownReference ∧
        TransGen (StructuralEdge (relationshipsOf records)) conventions.unknownReference
          conventions.unknownReference) := by
  rcases transGen_or_through (fun _ _ => structuralEdge_cases) h with hends | ⟨hto, hfrom⟩
  · exact Or.inl hends
  · exact Or.inr ⟨hto, TransGen.trans_right hfrom (TransGen.trans_left h hto)⟩

end Relationships

namespace Architecture
open Relationships

def relationshipRecords (documents : List Document) : List Record :=
  documents.flatMap Document.relationships

theorem relationships_merge_records (business application technology : List Document) :
    (merge business application technology).relationships =
      relationshipsOf (relationshipRecords (business ++ application ++ technology)) := rfl

/-- Every report of a cycle in a merge stands for a cycle that is reached from the reported element
and whose relationships have both ends in their records, unless it is a cycle through the
placeholder. -/
theorem reported_cycle_has_ends_or_unknown (business application technology : List Document) :
    ∀ f ∈ (Relationships.validate (merge business application technology).relationships).errorsOf
        .circularDependency,
      ∃ root, f.element = some root ∧ ∃ node,
        ReflTransGen (StructuralEdge (merge business application technology).relationships)
          root node ∧
        TransGen (StructuralEdge (merge business application technology).relationships)
          node node ∧
        (TransGen (StructuralEdge (relationshipsOf ((relationshipRecords
            (business ++ application ++ technology)).filter Record.hasEnds))) node node ∨
          node = conventions.unknownReference) := by
  intro f hf
  rw [relationships_merge_records] at hf ⊢
  rw [errorsOf_circularDependency] at hf
  obtain ⟨root, hroot, rfl⟩ := mem_cycleFindings.mp hf
  obtain ⟨node, hreach, hcycle⟩ := Digraph.onCycle_of_mem_cycleRootsFrom hroot
  unfold Digraph.Reaches at hreach
  unfold Digraph.OnCycle at hcycle
  rw [edge_structuralGraph] at hreach hcycle
  refine ⟨root, rfl, ?_⟩
  rcases cycle_cases hcycle with hends | ⟨hto, hhub⟩
  · exact ⟨node, hreach, hcycle, Or.inl hends⟩
  · exact ⟨conventions.unknownReference, hreach.trans hto, hhub, Or.inr rfl⟩

/-- A part that is also the whole of its whole. -/
def ring : Document where
  moduleName := none
  source := "ring.pkl"
  objects := [
    ⟨"r", "Relationship", .ofList [("uid", .text "r"), ("relationshipType", .text "Composition"),
      ("source", .text "a"), ("target", .text "b")]⟩,
    ⟨"q", "Relationship", .ofList [("uid", .text "q"), ("relationshipType", .text "Composition"),
      ("source", .text "b"), ("target", .text "a")]⟩]

theorem reported_cycle_has_ends_or_unknown_ring :
    cycleFinding "a" ∈ (Relationships.validate (merge [ring] [] []).relationships).errorsOf
        .circularDependency ∧
      ∃ node, ReflTransGen (StructuralEdge (merge [ring] [] []).relationships) "a" node ∧
        TransGen (StructuralEdge (relationshipsOf ((relationshipRecords
          ([ring] ++ [] ++ [])).filter Record.hasEnds))) node node := by
  have hreported : cycleFinding "a" ∈
      (Relationships.validate (merge [ring] [] []).relationships).errorsOf .circularDependency := by
    decide +kernel
  refine ⟨hreported, ?_⟩
  obtain ⟨root, hroot, node, hreach, hcycle, hends⟩ :=
    reported_cycle_has_ends_or_unknown [ring] [] [] _ hreported
  obtain rfl : "a" = root := Option.some.inj hroot
  rcases hends with hends | hunknown
  · exact ⟨node, hreach, hends⟩
  · -- No relationship of the ring leads to the placeholder.
    obtain ⟨_, -, r, hr, -, -, htarget⟩ := TransGen.tail'_iff.mp hcycle
    have htargets : ∀ r ∈ (merge [ring] [] []).relationships,
        r.target ≠ conventions.unknownReference := by decide +kernel
    exact absurd (htarget.trans hunknown) (htargets r hr)

def looseText : Text := "r: Relationship = new \x7b\n  uid = \"r1\"\n\x7d\n"

def loose : Document where
  moduleName := none
  source := "loose.pkl"
  objects := [⟨"r", "Relationship", .ofList [("uid", .text "r1")]⟩]

/-- A relationship without ends is a cycle of its own. -/
theorem not_all_reported_cycles_declared :
    ¬ ∀ business application technology : List Document,
      (∀ d ∈ business ++ application ++ technology, d.IsRead) →
      ∀ f ∈ (Relationships.validate (merge business application technology).relationships).errorsOf
          .circularDependency,
        ∃ root, f.element = some root ∧ ∃ node,
          ReflTransGen (StructuralEdge (merge business application technology).relationships)
            root node ∧
          TransGen (StructuralEdge (relationshipsOf ((relationshipRecords
              (business ++ application ++ technology)).filter fun r =>
                r.fields.contains "source" && r.fields.contains "target"))) node node := by
  intro h
  have hread : loose.IsRead := ⟨looseText, "loose.pkl", by decide +kernel⟩
  have hall : ∀ d ∈ [loose] ++ [] ++ [], d.IsRead := by simp [hread]
  have hreported : cycleFinding "unknown" ∈
      (Relationships.validate (merge [loose] [] []).relationships).errorsOf
        .circularDependency := by
    decide +kernel
  have hnone : (relationshipRecords ([loose] ++ [] ++ [])).filter (fun r =>
      r.fields.contains "source" && r.fields.contains "target") = [] := by decide
  obtain ⟨_, _, node, -, hcycle⟩ := h [loose] [] [] hall _ hreported
  rw [hnone] at hcycle
  obtain ⟨_, ⟨_, hmem, _⟩, _⟩ := TransGen.head'_iff.mp hcycle
  simp [relationshipsOf] at hmem

end Architecture

end Archimate
