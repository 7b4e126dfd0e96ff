import Archimate.Architecture.Assembly
import Mathlib.Data.List.Perm.Basic

namespace Archimate

structure Summary.SameCounts (s t : Summary) : Prop where
  totalElements_eq : s.totalElements = t.totalElements
  totalRelationships_eq : s.totalRelationships = t.totalRelationships
  elementsByLayer_eq : s.elementsByLayer = t.elementsByLayer
  elementsByType_eq : s.elementsByType = t.elementsByType

namespace Architecture

variable {a b : Architecture}

theorem container_merge_eq_flatMap (business application technology : List Document)
    (kind : ElementKind) :
    (merge business application technology).container kind =
      (business ++ application ++ technology).flatMap fun d => (ofDocument d).container kind := by
  simp only [container_merge, container_ofDocument, elementsOf]
  exact List.filterMap_flatMap

theorem relationships_merge_eq_flatMap (business application technology : List Document) :
    (merge business application technology).relationships =
      (business ++ application ++ technology).flatMap fun d => (ofDocument d).relationships := by
  show relationshipsOf (List.flatMap Document.relationships _) = _
  exact List.filterMap_flatMap

/-- Only the documents as a whole count, not how they are spread over the directories. -/
theorem merge_eq_of_append_eq {business application technology : List Document}
    {business' application' technology' : List Document}
    (h : business ++ application ++ technology = business' ++ application' ++ technology') :
    merge business application technology = merge business' application' technology' := by
  unfold merge
  rw [h]

/-- What is counted of the elements by kind depends on the sizes of the containers alone. -/
theorem map_kind_elements {β : Type} (a : Architecture) (f : ElementKind → β) :
    (a.elements.map fun e => f e.kind) =
      ElementKind.all.flatMap fun kind => List.replicate (a.container kind).length (f kind) := by
  unfold elements
  rw [List.map_flatMap]
  apply List.flatMap_congr
  intro kind _
  rw [List.map_map]
  exact List.eq_replicate_iff.mpr ⟨List.length_map _, by simp⟩

theorem sameCounts_summary
    (hcontainers : ∀ kind, (a.container kind).length = (b.container kind).length)
    (hrelationships : a.relationships.length = b.relationships.length) :
    a.summary.SameCounts b.summary := by
  have hkinds {β : Type} (f : ElementKind → β) :
      (a.elements.map fun e => f e.kind) = b.elements.map fun e => f e.kind := by
    rw [map_kind_elements, map_kind_elements]
    simp only [hcontainers]
  have hlayer : a.summary.elementsByLayer = b.summary.elementsByLayer :=
    congrArg tally (hkinds fun kind => kind.layer.title)
  have htype : a.summary.elementsByType = b.summary.elementsByType :=
    congrArg tally (hkinds ElementKind.typeName)
  exact ⟨congrArg total hlayer, hrelationships, hlayer, htype⟩

/-- Merging is concatenation: every container and the relationships of a merge are those of the
documents alone, one after the other. Directories do not count; documents in another order, or in
other directories, permute the containers and leave all counts as they are. -/
theorem merge_concatenates (business application technology : List Document) :
    (∀ kind, (merge business application technology).container kind =
      (business ++ application ++ technology).flatMap fun d => (ofDocument d).container kind) ∧
    (merge business application technology).relationships =
      (business ++ application ++ technology).flatMap (fun d => (ofDocument d).relationships) ∧
    merge business application technology = merge [] [] (business ++ application ++ technology) ∧
    ∀ business' application' technology' : List Document,
      (business ++ application ++ technology).Perm (business' ++ application' ++ technology') →
        (∀ kind, ((merge business application technology).container kind).Perm
          ((merge business' application' technology').container kind)) ∧
        (merge business application technology).relationships.Perm
          (merge business' application' technology').relationships ∧
        (merge business application technology).summary.SameCounts
          (merge business' application' technology').summary := by
  refine ⟨container_merge_eq_flatMap _ _ _, relationships_merge_eq_flatMap _ _ _,
    merge_eq_of_append_eq rfl, ?_⟩
  intro business' application' technology' hperm
  have hcontainers : ∀ kind, ((merge business application technology).container kind).Perm
      ((merge business' application' technology').container kind) := by
    intro kind
    rw [container_merge_eq_flatMap, container_merge_eq_flatMap]
    exact hperm.flatMap_right _
  have hrelationships : (merge business application technology).relationships.Perm
      (merge business' application' technology').relationships := by
    rw [relationships_merge_eq_flatMap, relationships_merge_eq_flatMap]
    exact hperm.flatMap_right _
  refine ⟨hcontainers, hrelationships, sameCounts_summary ?_ hrelationships.length_eq⟩
  exact fun kind => (hcontainers kind).length_eq

/-- An actor beside a record without a uid. -/
def staff : Document where
  moduleName := some "staff"
  source := "staff.pkl"
  objects := [⟨"clerk", "BusinessActor", .ofList [("uid", .text "clerk")]⟩,
    ⟨"nobody", "BusinessActor", .empty⟩]

def duties : Document where
  moduleName := none
  source := []
  objects := [⟨"manager", "BusinessActor", .ofList [("uid", .text "manager")]⟩,
    ⟨"reports", "Relationship", .ofList [("uid", .text "reports"), ("source", .text "clerk"),
      ("target", .text "manager")]⟩]

theorem merge_concatenates_exchanged :
    ([staff] ++ [] ++ [duties]).Perm ([] ++ [duties] ++ [staff]) ∧
      ((merge [staff] [] [duties]).container .businessActor).map Element.uid =
        ["clerk", "manager"] ∧
      ((merge [] [duties] [staff]).container .businessActor).map Element.uid =
        ["manager", "clerk"] ∧
      ((merge [staff] [] [duties]).container .businessActor).Perm
        ((merge [] [duties] [staff]).container .businessActor) ∧
      (merge [staff] [] [duties]).relationships.Perm (merge [] [duties] [staff]).relationships ∧
      (merge [staff] [] [duties]).summary.SameCounts (merge [] [duties] [staff]).summary := by
  have hperm : ([staff] ++ [] ++ [duties]).Perm ([] ++ [duties] ++ [staff]) := List.Perm.swap _ _ _
  obtain ⟨-, -, -, hsame⟩ := merge_concatenates [staff] [] [duties]
  obtain ⟨hcontainers, hrest⟩ := hsame [] [duties] [staff] hperm
  exact ⟨hperm, by decide, by decide, hcontainers _, hrest⟩

end Architecture

end Archimate
