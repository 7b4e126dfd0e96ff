import Archimate.Proofs.Dictionary
import Archimate.Proofs.Relationship.Findings
import Mathlib.Data.List.Flatten
import Mathlib.Data.List.Nodup

namespace Archimate.Relationships

variable {rs : List Relationship}

def withPair (rs : List Relationship) (pair : Text) : List Relationship :=
  rs.filter fun r => r.pairText = pair

theorem keys_groups (rs : List Relationship) :
    (groups rs).keys = (rs.map Relationship.pairText).eraseDups :=
  Dictionary.keys_foldl_alter Relationship.pairText
    (fun r group => group.getD [] ++ [r]) rs

theorem find?_groups (rs : List Relationship) (pair : Text) :
    ((groups rs).find? pair).getD [] = withPair rs pair := by
  unfold groups withPair
  induction rs using List.reverseRecOn with
  | nil => rfl
  | append_singleton rs r ih =>
    rw [List.foldl_concat, Dictionary.find?_alter, List.filter_append]
    by_cases h : r.pairText = pair
    · subst h
      simp [ih]
    · have h' : pair ≠ r.pairText := fun e => h e.symm
      simp [h, h', ih]

theorem entries_groups (rs : List Relationship) :
    (groups rs).entries =
      (rs.map Relationship.pairText).eraseDups.map fun pair => (pair, withPair rs pair) := by
  rw [← keys_groups]
  apply Dictionary.entries_eq_map_keys
  intro pair hpair
  rw [← find?_groups rs pair]
  cases hfind : (groups rs).find? pair with
  | none => exact absurd hpair (Dictionary.find?_eq_none_iff.mp hfind)
  | some group => rfl

theorem pairFindings_eq (rs : List Relationship) :
    pairFindings rs = (rs.map Relationship.pairText).eraseDups.flatMap fun pair =>
      groupFindings pair (withPair rs pair) := by
  unfold pairFindings
  rw [entries_groups, List.flatMap_map]

/-- Two relationships whose types exclude each other under the rule. -/
def Conflicting : Rule → Relationship → Relationship → Prop
  | .compositionAggregation, r, s => r.type = .composition ∧ s.type = .aggregation
  | .multipleStructural, r, s =>
    r.category = .structural ∧ s.category = .structural ∧ r.type ≠ s.type
  | _, _, _ => False

theorem hasType_iff {type : RelationshipType} {group : List Relationship} :
    hasType type group = true ↔ ∃ r ∈ group, r.type = type := by
  simp [hasType]

theorem mem_structuralTypes {type : RelationshipType} {group : List Relationship} :
    type ∈ structuralTypes group ↔ type.category = .structural ∧ ∃ r ∈ group, r.type = type := by
  have hmember : type ∈ (Choice.members : List RelationshipType) := by cases type <;> decide
  simp [structuralTypes, hmember, RelationshipType.isStructural, hasType]

theorem nodup_structuralTypes (group : List Relationship) : (structuralTypes group).Nodup := by
  have hmembers : (Choice.members : List RelationshipType).Nodup := by decide
  exact hmembers.filter _

theorem one_lt_length_structuralTypes_iff {group : List Relationship} :
    1 < (structuralTypes group).length ↔
      ∃ r ∈ group, ∃ s ∈ group, Conflicting .multipleStructural r s := by
  constructor
  · intro hlen
    match htypes : structuralTypes group with
    | [] => simp [htypes] at hlen
    | [_] => simp [htypes] at hlen
    | first :: second :: rest =>
      have hnodup := nodup_structuralTypes group
      rw [htypes] at hnodup
      obtain ⟨hcr, r, hr, rfl⟩ : first.category = .structural ∧ ∃ r ∈ group, r.type = first :=
        mem_structuralTypes.mp (by simp [htypes])
      obtain ⟨hcs, s, hs, rfl⟩ : second.category = .structural ∧ ∃ s ∈ group, s.type = second :=
        mem_structuralTypes.mp (by simp [htypes])
      have hne : r.type ≠ s.type := fun e => by simp [e] at hnodup
      exact ⟨r, hr, s, hs, hcr, hcs, hne⟩
  · rintro ⟨r, hr, s, hs, hcr, hcs, hne⟩
    have hmr : r.type ∈ structuralTypes group := mem_structuralTypes.mpr ⟨hcr, r, hr, rfl⟩
    have hms : s.type ∈ structuralTypes group := mem_structuralTypes.mpr ⟨hcs, s, hs, rfl⟩
    match htypes : structuralTypes group with
    | [] => simp [htypes] at hmr
    | [only] =>
      rw [htypes, List.mem_singleton] at hmr hms
      exact absurd (hmr.trans hms.symm) hne
    | _ :: _ :: _ => simp

theorem not_conflicting_of_length_lt {rule : Rule} {group : List Relationship}
    (h : group.length < 2) : ∀ r ∈ group, ∀ s ∈ group, ¬Conflicting rule r s := by
  intro r hr s hs hc
  have hrs : r = s := by
    match group with
    | [] => simp at hr
    | [only] => rw [List.mem_singleton.mp hr, List.mem_singleton.mp hs]
    | _ :: _ :: rest =>
      simp only [List.length_cons] at h
      omega
  subst hrs
  cases rule with
  | compositionAggregation => exact absurd (hc.1.symm.trans hc.2) (by decide)
  | multipleStructural => exact hc.2.2 rfl
  | _ => exact hc

/-- The size of the group need not be looked at. -/
theorem groupFindings_eq (pair : Text) (group : List Relationship) :
    groupFindings pair group =
      (if hasType .composition group && hasType .aggregation group then
        [pairFinding .compositionAggregation pair] else []) ++
      (if 1 < (structuralTypes group).length then [pairFinding .multipleStructural pair]
        else []) := by
  unfold groupFindings
  split
  · rename_i hlen
    have hmixed : ¬(hasType .composition group && hasType .aggregation group) = true := by
      rw [Bool.and_eq_true, hasType_iff, hasType_iff]
      rintro ⟨⟨r, hr, hrt⟩, s, hs, hst⟩
      have hc : Conflicting .compositionAggregation r s := ⟨hrt, hst⟩
      exact not_conflicting_of_length_lt hlen r hr s hs hc
    have hmultiple : ¬1 < (structuralTypes group).length := by
      rw [one_lt_length_structuralTypes_iff]
      rintro ⟨r, hr, s, hs, hc⟩
      exact not_conflicting_of_length_lt hlen r hr s hs hc
    rw [if_neg hmixed, if_neg hmultiple]
    rfl
  · rfl

theorem mem_groupFindings {f : Finding} {pair : Text} {group : List Relationship} :
    f ∈ groupFindings pair group ↔
      ∃ r ∈ group, ∃ s ∈ group, Conflicting f.rule r s ∧ f = pairFinding f.rule pair := by
  rw [groupFindings_eq, List.mem_append]
  constructor
  · rintro (hf | hf)
    · split at hf
      · rename_i htypes
        rw [Bool.and_eq_true, hasType_iff, hasType_iff] at htypes
        obtain ⟨⟨r, hr, hrt⟩, s, hs, hst⟩ := htypes
        rw [List.mem_singleton] at hf
        subst hf
        exact ⟨r, hr, s, hs, ⟨hrt, hst⟩, rfl⟩
      · simp at hf
    · split at hf
      · rename_i htypes
        obtain ⟨r, hr, s, hs, hc⟩ := one_lt_length_structuralTypes_iff.mp htypes
        rw [List.mem_singleton] at hf
        subst hf
        exact ⟨r, hr, s, hs, hc, rfl⟩
      · simp at hf
  · rintro ⟨r, hr, s, hs, hc, hf⟩
    cases hrule : f.rule with
    | compositionAggregation =>
      rw [hrule] at hc hf
      have htypes : (hasType .composition group && hasType .aggregation group) = true := by
        rw [Bool.and_eq_true, hasType_iff, hasType_iff]
        exact ⟨⟨r, hr, hc.1⟩, s, hs, hc.2⟩
      rw [if_pos htypes]
      exact Or.inl (List.mem_singleton.mpr hf)
    | multipleStructural =>
      rw [hrule] at hc hf
      rw [if_pos (one_lt_length_structuralTypes_iff.mpr ⟨r, hr, s, hs, hc⟩)]
      exact Or.inr (List.mem_singleton.mpr hf)
    | _ =>
      rw [hrule] at hc
      exact hc.elim

theorem groupFindings_congr_mem {pair : Text} {group group' : List Relationship}
    (h : ∀ r, r ∈ group ↔ r ∈ group') : groupFindings pair group = groupFindings pair group' := by
  have htype : ∀ type, hasType type group = hasType type group' := by
    intro type
    rw [Bool.eq_iff_iff, hasType_iff, hasType_iff]
    simp only [h]
  have hstructural : structuralTypes group = structuralTypes group' := by
    unfold structuralTypes
    simp only [htype]
  rw [groupFindings_eq, groupFindings_eq, hstructural, htype, htype]

theorem mem_withPair {r : Relationship} {pair : Text} :
    r ∈ withPair rs pair ↔ r ∈ rs ∧ r.pairText = pair := by
  simp [withPair]

/-- A pair finding is due to two relationships with the same pair text whose types exclude each
other, and every such two are reported. -/
theorem mem_pairFindings {f : Finding} :
    f ∈ pairFindings rs ↔ ∃ r ∈ rs, ∃ s ∈ rs, Conflicting f.rule r s ∧
      r.pairText = s.pairText ∧ f = pairFinding f.rule r.pairText := by
  simp only [pairFindings_eq, List.mem_flatMap, List.mem_eraseDups, List.mem_map,
    mem_groupFindings, mem_withPair]
  constructor
  · rintro ⟨pair, _, r, ⟨hr, rfl⟩, s, ⟨hs, hpair⟩, hc, hf⟩
    exact ⟨r, hr, s, hs, hc, hpair.symm, hf⟩
  · rintro ⟨r, hr, s, hs, hc, hpair, hf⟩
    exact ⟨r.pairText, ⟨r, hr, rfl⟩, r, ⟨hr, rfl⟩, s, ⟨hs, hpair.symm⟩, hc, hf⟩

theorem pairFinding_inj {rule : Rule} {pair pair' : Text}
    (h : pairFinding rule pair = pairFinding rule pair') : pair = pair' := by
  have hmessage := congrArg Finding.message h
  exact List.append_cancel_left hmessage

theorem nodup_groupFindings (pair : Text) (group : List Relationship) :
    (groupFindings pair group).Nodup := by
  have hrules : pairFinding .compositionAggregation pair ≠
      pairFinding .multipleStructural pair := by
    intro h
    have hrule : Rule.compositionAggregation = Rule.multipleStructural := congrArg Finding.rule h
    exact absurd hrule (by decide)
  rw [groupFindings_eq]
  split_ifs <;> simp [hrules]

/-- Each pair of ends has its own text, so no two groups report the same. -/
theorem nodup_pairFindings (rs : List Relationship) : (pairFindings rs).Nodup := by
  rw [pairFindings_eq, List.nodup_flatMap]
  refine ⟨fun pair _ => nodup_groupFindings pair _, ?_⟩
  apply (nodup_eraseDups (rs.map Relationship.pairText)).imp
  intro pair pair' hne f hf hf'
  -- The message of a finding ends with the text of its pair.
  obtain ⟨-, -, -, -, -, hpair⟩ := mem_groupFindings.mp hf
  obtain ⟨-, -, -, -, -, hpair'⟩ := mem_groupFindings.mp hf'
  exact hne (pairFinding_inj (hpair.symm.trans hpair'))

end Archimate.Relationships
