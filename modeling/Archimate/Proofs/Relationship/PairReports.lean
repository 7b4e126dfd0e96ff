import Archimate.Proofs.Relationship.Members
import Archimate.Proofs.Relationship.PairText

namespace Archimate.Relationships
open Relationship

variable {rs : List Relationship} {r s : Relationship} {rule : Rule}

theorem errorsOf_pairRule (hrule : IsPairRule rule) :
    (validate rs).errorsOf rule = (pairFindings rs).filter fun f => f.rule = rule := by
  have hown : (rs.flatMap Relationship.ownFindings).filter (fun f => f.rule = rule) = [] := by
    apply List.filter_eq_nil_iff.mpr
    intro f hf
    obtain ⟨r, _, hown⟩ := List.mem_flatMap.mp hf
    rcases rule_of_mem_ownFindings hown with h | h <;> rcases hrule with rfl | rfl <;> simp [h]
  have hcycle : (cycleFindings rs).filter (fun f => f.rule = rule) = [] := by
    apply List.filter_eq_nil_iff.mpr
    intro f hf
    have h := rule_of_mem_cycleFindings hf
    rcases hrule with rfl | rfl <;> simp [h]
  unfold Verdict.errorsOf validate findings
  rw [List.filter_append, List.filter_append, hown, hcycle, List.nil_append, List.append_nil]

/-- The message names the pair, and no two reports of a rule name the same one. -/
theorem countP_message_eq_one (hr : r ∈ rs) (hs : s ∈ rs) (hc : Conflicting rule r s)
    (hpair : r.pairText = s.pairText) :
    ((validate rs).errorsOf rule).countP
      (fun f => f.message = pairRule rule ++ r.pairText) = 1 := by
  have hreported : pairFinding rule r.pairText ∈ pairFindings rs :=
    mem_pairFindings.mpr ⟨r, hr, s, hs, hc, hpair, rfl⟩
  have hnamed : ∀ f ∈ pairFindings rs,
      (decide (f.message = pairRule rule ++ r.pairText) && decide (f.rule = rule)) = true ↔
        (f == pairFinding rule r.pairText) = true := by
    intro f hf
    rw [Bool.and_eq_true, decide_eq_true_iff, decide_eq_true_iff, beq_iff_eq]
    constructor
    · rintro ⟨hmessage, rfl⟩
      obtain ⟨t, -, -, -, -, -, hf⟩ := mem_pairFindings.mp hf
      have htext : t.pairText = r.pairText := by
        rw [hf] at hmessage
        exact List.append_cancel_left hmessage
      rw [hf, htext]
      rfl
    · rintro rfl
      exact ⟨rfl, rfl⟩
  rw [errorsOf_pairRule (isPairRule_of_conflicting hc), List.countP_filter,
    List.countP_congr hnamed]
  exact List.count_eq_one_of_mem (nodup_pairFindings rs) hreported

/-- Every report of a composition beside an aggregation is followed at once by the report of more
than one structural type for the same pair. -/
def Followed (findings : List Finding) : Prop :=
  ∀ i f, findings[i]? = some f → f.rule = .compositionAggregation →
    ∃ pair, f = pairFinding .compositionAggregation pair ∧
      findings[i + 1]? = some (pairFinding .multipleStructural pair)

theorem followed_of_rule_ne {findings : List Finding}
    (h : ∀ f ∈ findings, f.rule ≠ .compositionAggregation) : Followed findings :=
  fun _ f hf hrule => absurd hrule (h f (List.mem_of_getElem? hf))

theorem Followed.append {before after : List Finding} (h : Followed before) (h' : Followed after) :
    Followed (before ++ after) := by
  intro i f hf hrule
  rw [List.getElem?_append] at hf
  split at hf
  · obtain ⟨pair, hpair, hnext⟩ := h i f hf hrule
    refine ⟨pair, hpair, ?_⟩
    -- The follower stands in the same part, so its place is not behind the part's end.
    have hlt := (List.getElem?_eq_some_iff.mp hnext).1
    rw [List.getElem?_append_left hlt, hnext]
  · rename_i hle
    obtain ⟨pair, hpair, hnext⟩ := h' (i - before.length) f hf hrule
    refine ⟨pair, hpair, ?_⟩
    rw [List.getElem?_append_right (by omega), ← hnext]
    congr 1
    omega

theorem Followed.flatMap {α : Type} {report : α → List Finding} {items : List α}
    (h : ∀ item ∈ items, Followed (report item)) : Followed (items.flatMap report) := by
  induction items with
  | nil => exact followed_of_rule_ne (by simp)
  | cons item items ih =>
    rw [List.flatMap_cons]
    exact (h item List.mem_cons_self).append
      (ih fun other ho => h other (List.mem_cons_of_mem _ ho))

/-- A composition and an aggregation are two structural types, so a conflict always is of two. -/
theorem Conflicting.structural (h : Conflicting rule r s) :
    Conflicting .multipleStructural r s := by
  cases rule with
  | compositionAggregation =>
    obtain ⟨hr, hs⟩ := h
    simp [Conflicting, Relationship.category, RelationshipType.category, hr, hs]
  | multipleStructural => exact h
  | _ => exact h.elim

theorem followed_groupFindings (pair : Text) (group : List Relationship) :
    Followed (groupFindings pair group) := by
  by_cases hmixed : (hasType .composition group && hasType .aggregation group) = true
  · have hmultiple : 1 < (structuralTypes group).length := by
      rw [Bool.and_eq_true, hasType_iff, hasType_iff] at hmixed
      obtain ⟨⟨r, hr, hrt⟩, s, hs, hst⟩ := hmixed
      have hc : Conflicting .compositionAggregation r s := ⟨hrt, hst⟩
      exact one_lt_length_structuralTypes_iff.mpr ⟨r, hr, s, hs, hc.structural⟩
    rw [groupFindings_eq, if_pos hmixed, if_pos hmultiple]
    intro i f hf hrule
    match i with
    | 0 => exact ⟨pair, (Option.some.inj hf).symm, rfl⟩
    | 1 =>
      rw [← Option.some.inj hf] at hrule
      exact absurd hrule (by simp [pairFinding])
    | _ + 2 => simp at hf
  · rw [groupFindings_eq, if_neg hmixed, List.nil_append]
    apply followed_of_rule_ne
    intro f hf
    split at hf
    · rw [List.mem_singleton.mp hf]
      simp [pairFinding]
    · simp at hf

theorem followed_errors (rs : List Relationship) : Followed (validate rs).errors := by
  have hown : Followed (rs.flatMap Relationship.ownFindings) := by
    apply followed_of_rule_ne
    intro f hf
    obtain ⟨r, _, hown⟩ := List.mem_flatMap.mp hf
    rcases rule_of_mem_ownFindings hown with h | h <;> simp [h]
  have hpairs : Followed (pairFindings rs) := Followed.flatMap fun _ _ => followed_groupFindings _ _
  have hcycles : Followed (cycleFindings rs) :=
    followed_of_rule_ne fun f hf => by simp [rule_of_mem_cycleFindings hf]
  exact (hown.append hpairs).append hcycles

def Joins (source target : Text) (r : Relationship) : Prop := r.source = source ∧ r.target = target

instance (source target : Text) (r : Relationship) : Decidable (Joins source target r) :=
  inferInstanceAs (Decidable (_ ∧ _))

theorem Joins.pairText {source target : Text} (h : Joins source target r) :
    r.pairText = source ++ "-" ++ target := by
  unfold Relationship.pairText
  rw [h.1, h.2]

/-- Conflicts between the same ends are all reported, each pair text once by each rule; the report
of a composition beside an aggregation is followed by the other one for the same pair; and nothing
is reported where no pair text has two structural types. -/
theorem pair_conflicts_reported_once (rs : List Relationship) :
    (∀ source target, (∃ r ∈ rs, ∃ s ∈ rs, Joins source target r ∧ Joins source target s ∧
        r.category = .structural ∧ s.category = .structural ∧ r.type ≠ s.type) →
      ((validate rs).errorsOf .multipleStructural).countP (fun f =>
        f.message = pairRule .multipleStructural ++ (source ++ "-" ++ target)) = 1) ∧
    (∀ source target, (∃ r ∈ rs, ∃ s ∈ rs, Joins source target r ∧ Joins source target s ∧
        r.type = .composition ∧ s.type = .aggregation) →
      ((validate rs).errorsOf .compositionAggregation).countP (fun f =>
        f.message = pairRule .compositionAggregation ++ (source ++ "-" ++ target)) = 1) ∧
    Followed (validate rs).errors ∧
    ((∀ r ∈ rs, ∀ s ∈ rs, r.pairText = s.pairText → r.category = .structural →
        s.category = .structural → r.type = s.type) →
      (validate rs).errorsOf .compositionAggregation = [] ∧
      (validate rs).errorsOf .multipleStructural = []) := by
  refine ⟨?_, ?_, followed_errors rs, ?_⟩
  · rintro source target ⟨r, hr, s, hs, hjr, hjs, hc⟩
    rw [← hjr.pairText]
    have hconflict : Conflicting .multipleStructural r s := hc
    exact countP_message_eq_one hr hs hconflict (hjr.pairText.trans hjs.pairText.symm)
  · rintro source target ⟨r, hr, s, hs, hjr, hjs, hc⟩
    rw [← hjr.pairText]
    have hconflict : Conflicting .compositionAggregation r s := hc
    exact countP_message_eq_one hr hs hconflict (hjr.pairText.trans hjs.pairText.symm)
  · intro hone
    have hnone : ∀ rule, IsPairRule rule → (validate rs).errorsOf rule = [] := by
      intro rule hrule
      apply List.eq_nil_iff_forall_not_mem.mpr
      intro f hf
      obtain ⟨hpair, rfl⟩ := (mem_errorsOf_pairRule hrule).mp hf
      obtain ⟨r, hr, s, hs, hc, htext, -⟩ := mem_pairFindings.mp hpair
      obtain ⟨hcr, hcs, hne⟩ := hc.structural
      exact hne (hone r hr s hs htext hcr hcs)
    exact ⟨hnone _ (Or.inl rfl), hnone _ (Or.inr rfl)⟩

theorem pair_conflicts_reported_once_tangled :
    ((validate tangled).errorsOf .multipleStructural).countP (fun f =>
      f.message = pairRule .multipleStructural ++ (("a" : Text) ++ "-" ++ "b")) = 1 ∧
    ((validate tangled).errorsOf .compositionAggregation).countP (fun f =>
      f.message = pairRule .compositionAggregation ++ (("a" : Text) ++ "-" ++ "b")) = 1 := by
  obtain ⟨hmultiple, hmixed, -⟩ := pair_conflicts_reported_once tangled
  exact ⟨hmultiple "a" "b" (by decide), hmixed "a" "b" (by decide)⟩

end Archimate.Relationships
