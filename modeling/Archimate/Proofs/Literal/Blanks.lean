import Archimate.Proofs.Literal.Arguments

namespace Archimate.Literal
open Text

variable {t s gap : Text} {c : CodePoint}

theorem digitRanges_blankRanges_disjoint :
    ∀ range ∈ digitRanges, ∀ other ∈ blankRanges, range.2 < other.1 ∨ other.2 < range.1 := by
  decide +kernel

theorem blankRanges_beside_digits :
    ∀ range ∈ blankRanges, range.2 < '0'.toNat ∨ '9'.toNat < range.1 := by
  decide

theorem isDigit_of_isBlank (h : isBlank c = true) : isDigit c = false := by
  cases c with
  | half offset => rfl
  | char c =>
    obtain ⟨blank, hblank, hlo, hhi⟩ := covers_iff.mp h
    have hascii : c.isDigit = false := by
      rw [← Bool.not_eq_true]
      intro hdigit
      have hrange : '0'.toNat ≤ c.toNat ∧ c.toNat ≤ '9'.toNat := by
        simpa [Char.isDigit, UInt32.le_iff_toNat_le] using hdigit
      have := blankRanges_beside_digits blank hblank
      omega
    have hother : digitRanges.find? (fun range => range.holds c) = none := by
      rw [List.find?_eq_none]
      intro range hrange hholds
      have hdigit : range.1 ≤ c.toNat ∧ c.toNat ≤ range.2 := by
        simpa [CodeRange.holds] using hholds
      have := digitRanges_blankRanges_disjoint range hrange blank hblank
      omega
    unfold isDigit digitValue?
    simp [hascii, hother]

theorem isWhole_of_blank_last (hlast : t.getLast? = some c) (hblank : isBlank c = true) :
    isWhole t = false := by
  rw [← Bool.not_eq_true]
  intro hwhole
  obtain ⟨-, hdigits⟩ := Bool.and_eq_true_iff.mp hwhole
  have hdigit := List.all_eq_true.mp hdigits c (List.mem_of_getLast? hlast)
  rw [isDigit_of_isBlank hblank] at hdigit
  cases hdigit

theorem places?_of_blank_last (hlast : t.getLast? = some c) (hblank : isBlank c = true) :
    places? t = none := by
  unfold places?
  split
  · rename_i places hpoint
    have htext : t.takeWhile isDigit ++ .char '.' :: places = t := by
      rw [← hpoint]
      exact List.takeWhile_append_dropWhile
    cases hplaces : places.getLast? with
    | none =>
      rw [List.getLast?_eq_none_iff.mp hplaces]
      rfl
    | some d =>
      -- The last place would be the blank.
      rw [← htext, List.getLast?_append, List.getLast?_cons, hplaces] at hlast
      have hd : d = c := Option.some.inj hlast
      rw [isWhole_of_blank_last hplaces (hd ▸ hblank)]
      rfl
  · rfl

theorem parse_of_blank_last (hlast : t.getLast? = some c) (hblank : isBlank c = true)
    (hmap : ¬ mapOpening <+: t) : parse t = .ok (.text t) := by
  have hne : ∀ word : Text, (∀ d ∈ word.getLast?, isBlank d = false) → t ≠ word := by
    rintro word hword rfl
    rw [hword c hlast] at hblank
    cases hblank
  have hquoted : quotedText? t = none := by
    unfold quotedText?
    rw [if_neg]
    rintro ⟨-, -, hquote⟩
    have hdouble : c = doubleQuote := Option.some.inj (hlast.symm.trans hquote)
    rw [hdouble] at hblank
    revert hblank
    decide
  have hflag : flag? t = none := by
    unfold flag?
    rw [if_neg (hne "true" (by decide)), if_neg (hne "false" (by decide))]
  have hopening : mapOpening.isPrefixOf t = false := by
    rwa [← Bool.not_eq_true, List.isPrefixOf_iff_prefix]
  unfold parse
  rw [hquoted, hflag, places?_of_blank_last hlast hblank]
  simp only [isWhole_of_blank_last hlast hblank, hopening, Bool.false_eq_true, if_false]

/-- A text that is read from a literal is no longer than the literal. -/
theorem length_le_of_parse_eq_text (h : parse t = .ok (.text s)) : s.length ≤ t.length := by
  unfold parse at h
  split at h
  · rename_i inner _ _ hinner
    cases h
    unfold quotedText? at hinner
    split at hinner
    · cases hinner
      rw [List.length_dropLast, List.length_tail]
      omega
    · cases hinner
  · cases h
  · split at h
    · unfold wholeNumber at h
      split at h <;> cases h
    · split at h
      · cases h
      · split at h <;> cases h
        exact Nat.le_refl _

theorem mapOpening_prefix_of_append (hgap : allBlank gap = true) (h : mapOpening <+: t ++ gap) :
    mapOpening <+: t := by
  obtain ⟨behind, heq⟩ := h
  rcases List.append_eq_append_iff.mp heq with ⟨rest, rfl, -⟩ | ⟨rest, hopening, rfl⟩
  · exact List.prefix_append _ _
  · by_cases hrest : rest = []
    · rw [hrest] at hopening
      exact ⟨[], by rw [hopening, List.append_nil, List.append_nil]⟩
    · have hblanks : allBlank rest = true :=
        allBlank_iff.mpr fun c hc => allBlank_iff.mp hgap c (List.mem_append_left _ hc)
      obtain ⟨c, hlast, hblank⟩ := exists_blank_last hblanks hrest t
      rw [← hopening] at hlast
      have hc : .char '(' = c := Option.some.inj hlast
      rw [← hc] at hblank
      exact absurd hblank (by decide)

theorem parse_append_blanks_iff (hgap : allBlank gap = true) (hne : gap ≠ []) :
    parse (t ++ gap) = parse t ↔
      mapOpening <+: t ∧
        (t.getLast? ≠ some (.char ')') ∨ (arguments mapOpening t).length % 2 = 1) := by
  by_cases hmap : mapOpening <+: t
  · have hmap' : mapOpening <+: t ++ gap := hmap.trans (List.prefix_append t gap)
    rw [parse_of_mapOpening hmap, parse_of_mapOpening hmap', Except.ok.injEq, Literal.map.injEq,
      mapEntries_append_blanks_iff hmap hgap hne, and_iff_right hmap]
  · obtain ⟨c, hlast, hblank⟩ := exists_blank_last hgap hne t
    have hopening : ¬ mapOpening <+: t ++ gap := fun h => hmap (mapOpening_prefix_of_append hgap h)
    have hkept := parse_of_blank_last hlast hblank hopening
    refine iff_of_false ?_ fun h => hmap h.1
    intro heq
    have hlength := length_le_of_parse_eq_text (heq ▸ hkept)
    rw [List.length_append] at hlength
    have := List.length_pos_of_ne_nil hne
    omega

end Archimate.Literal
