import Archimate.Proofs.Relationship.Pairs

namespace Archimate

namespace Relationship

def SameEnds (r s : Relationship) : Prop := r.source = s.source ∧ r.target = s.target

/-- The first source is longer by what the second target is longer. -/
def Shifted (r s : Relationship) : Prop :=
  ∃ middle : Text, r.source = s.source ++ "-" ++ middle ∧ s.target = middle ++ "-" ++ r.target

theorem pairText_eq_of_shifted {r s : Relationship} (h : Shifted r s) :
    r.pairText = s.pairText := by
  obtain ⟨middle, hsource, htarget⟩ := h
  unfold pairText
  rw [hsource, htarget]
  simp only [List.append_assoc]

theorem hyphen_mem_of_shifted {r s : Relationship} (h : Shifted r s) :
    .char '-' ∈ r.source ∧ .char '-' ∈ s.target := by
  obtain ⟨middle, hsource, htarget⟩ := h
  have hhyphen : .char '-' ∈ ("-" : Text) := by decide
  constructor
  · rw [hsource]
    exact List.mem_append_left middle (List.mem_append_right s.source hhyphen)
  · rw [htarget]
    exact List.mem_append_left r.target (List.mem_append_right middle hhyphen)

/-- A pair text can be read in two ways only if it holds a second hyphen. -/
theorem shifted_of_source_eq_append {r s : Relationship} {c : CodePoint} {middle : Text}
    (hsource : r.source = s.source ++ c :: middle)
    (h : Text.ofString "-" ++ s.target = c :: middle ++ (Text.ofString "-" ++ r.target)) :
    Shifted r s := by
  have hc : CodePoint.char '-' = c := (List.cons.inj h).1
  have htarget : s.target = middle ++ (Text.ofString "-" ++ r.target) := (List.cons.inj h).2
  refine ⟨middle, ?_, ?_⟩
  · rw [hsource, ← hc, List.append_assoc]
    rfl
  · rw [htarget, List.append_assoc]

theorem pairText_eq_iff {r s : Relationship} :
    r.pairText = s.pairText ↔ SameEnds r s ∨ Shifted r s ∨ Shifted s r := by
  constructor
  · intro h
    unfold pairText at h
    rw [List.append_assoc, List.append_assoc, List.append_eq_append_iff] at h
    rcases h with ⟨rest, hsource, htarget⟩ | ⟨rest, hsource, htarget⟩
    · cases rest with
      | nil => exact Or.inl ⟨by simpa using hsource.symm, by simpa using htarget⟩
      | cons c middle => exact Or.inr (Or.inr (shifted_of_source_eq_append hsource htarget))
    · cases rest with
      | nil => exact Or.inl ⟨by simpa using hsource, by simpa using htarget.symm⟩
      | cons c middle => exact Or.inr (Or.inl (shifted_of_source_eq_append hsource htarget))
  · rintro (h | h | h)
    · unfold pairText
      rw [h.1, h.2]
    · exact pairText_eq_of_shifted h
    · exact (pairText_eq_of_shifted h).symm

end Relationship

namespace Relationships
open Relationship

/-- Two relationships from the source to the target of one pair have types that the rule excludes,
and the finding names that pair. -/
def Justified (rs : List Relationship) (f : Finding) : Prop :=
  ∃ r ∈ rs, ∃ s ∈ rs, Conflicting f.rule r s ∧ SameEnds r s ∧ f = pairFinding f.rule r.pairText

section Reported

variable {rs : List Relationship} {f : Finding} {r s : Relationship}

theorem isPairRule_of_conflicting {rule : Rule} (h : Conflicting rule r s) : IsPairRule rule := by
  cases rule with
  | compositionAggregation => exact Or.inl rfl
  | multipleStructural => exact Or.inr rfl
  | _ => exact h.elim

theorem mem_errors_iff_of_isPairRule (hrule : IsPairRule f.rule) : f ∈ (validate rs).errors ↔
    ∃ r ∈ rs, ∃ s ∈ rs, Conflicting f.rule r s ∧ r.pairText = s.pairText ∧
      f = pairFinding f.rule r.pairText := by
  rw [← mem_pairFindings]
  have h : f ∈ (validate rs).errorsOf f.rule ↔ f ∈ pairFindings rs ∧ f.rule = f.rule :=
    mem_errorsOf_pairRule hrule
  rwa [mem_errorsOf, and_iff_left rfl, and_iff_left rfl] at h

theorem justified_or_shifted (hf : f ∈ (validate rs).errors) (hrule : IsPairRule f.rule) :
    Justified rs f ∨ ∃ r ∈ rs, ∃ s ∈ rs, Conflicting f.rule r s ∧ (Shifted r s ∨ Shifted s r) ∧
      f = pairFinding f.rule r.pairText := by
  obtain ⟨r, hr, s, hs, hc, hpair, heq⟩ := (mem_errors_iff_of_isPairRule hrule).mp hf
  rcases pairText_eq_iff.mp hpair with hsame | hshift
  · exact Or.inl ⟨r, hr, s, hs, hc, hsame, heq⟩
  · exact Or.inr ⟨r, hr, s, hs, hc, hshift, heq⟩

/-- A shift needs a hyphen in a source and another in a target. -/
theorem not_shifted_of_no_hyphen
    (h : (∀ r ∈ rs, .char '-' ∉ r.source) ∨ (∀ r ∈ rs, .char '-' ∉ r.target)) (hr : r ∈ rs)
    (hs : s ∈ rs) : ¬ Shifted r s := by
  intro hshift
  obtain ⟨hsource, htarget⟩ := hyphen_mem_of_shifted hshift
  rcases h with h | h
  · exact h r hr hsource
  · exact h s hs htarget

end Reported

/-- What the pair rules report, exactly, and exactly when all of it is justified: every conflict
across shifted ends has to stand beside a conflict between the same ends with the same pair text.
Sources without hyphens suffice for it, and so do targets. -/
theorem pair_findings_justified_iff (rs : List Relationship) :
    (∀ f, IsPairRule f.rule → (f ∈ (validate rs).errors ↔
      ∃ r ∈ rs, ∃ s ∈ rs, Conflicting f.rule r s ∧ (SameEnds r s ∨ Shifted r s ∨ Shifted s r) ∧
        f = pairFinding f.rule r.pairText)) ∧
    ((∀ f ∈ (validate rs).errors, IsPairRule f.rule → Justified rs f) ↔
      ∀ rule, ∀ r ∈ rs, ∀ s ∈ rs, Conflicting rule r s → Shifted r s ∨ Shifted s r →
        ∃ r' ∈ rs, ∃ s' ∈ rs, Conflicting rule r' s' ∧ SameEnds r' s' ∧
          r'.pairText = r.pairText) ∧
    ((∀ r ∈ rs, .char '-' ∉ r.source) ∨ (∀ r ∈ rs, .char '-' ∉ r.target) →
      ∀ f ∈ (validate rs).errors, IsPairRule f.rule → Justified rs f) := by
  refine ⟨?_, ⟨?_, ?_⟩, ?_⟩
  · intro f hrule
    simp only [mem_errors_iff_of_isPairRule hrule, pairText_eq_iff]
  · intro hall rule r hr s hs hc hshift
    have hrule := isPairRule_of_conflicting hc
    have hf : pairFinding rule r.pairText ∈ (validate rs).errors :=
      (mem_errors_iff_of_isPairRule (f := pairFinding rule r.pairText) hrule).mpr
        ⟨r, hr, s, hs, hc, pairText_eq_iff.mpr (Or.inr hshift), rfl⟩
    obtain ⟨r', hr', s', hs', hc', hsame, heq⟩ := hall _ hf hrule
    have hmessage := congrArg Finding.message heq
    exact ⟨r', hr', s', hs', hc', hsame, (List.append_cancel_left hmessage).symm⟩
  · intro hall f hf hrule
    rcases justified_or_shifted hf hrule with h | ⟨r, hr, s, hs, hc, hshift, heq⟩
    · exact h
    · obtain ⟨r', hr', s', hs', hc', hsame, hpair'⟩ := hall f.rule r hr s hs hc hshift
      exact ⟨r', hr', s', hs', hc', hsame, by rw [hpair', ← heq]⟩
  · intro hhyphen f hf hrule
    rcases justified_or_shifted hf hrule with h | ⟨r, hr, s, hs, -, hshift | hshift, -⟩
    · exact h
    · exact absurd hshift (not_shifted_of_no_hyphen hhyphen hr hs)
    · exact absurd hshift (not_shifted_of_no_hyphen hhyphen hs hr)

/-- A composition one way and an aggregation the other way, with one pair text. -/
def oppositeEnds : List Relationship :=
  [{ uid := "r1", type := .composition, source := "a", target := "a-a" },
   { uid := "r2", type := .aggregation, source := "a-a", target := "a" }]

/-- Relationships in opposite directions are reported as a conflict of one pair. -/
theorem not_all_pair_findings_justified :
    ¬∀ rs : List Relationship, ∀ f ∈ (validate rs).errors, IsPairRule f.rule → Justified rs f := by
  intro hall
  have hf : pairFinding .compositionAggregation "a-a-a" ∈ (validate oppositeEnds).errors := by
    rw [mem_errors_validate]
    exact Or.inr (Or.inl (by decide))
  obtain ⟨r, hr, s, hs, hc, hsame, _⟩ := hall oppositeEnds _ hf (Or.inl rfl)
  have hdiffer : ∀ r ∈ oppositeEnds, ∀ s ∈ oppositeEnds, r.type = .composition →
      s.type = .aggregation → r.source ≠ s.source := by decide
  exact hdiffer r hr s hs hc.1 hc.2 hsame.1

end Relationships

end Archimate
