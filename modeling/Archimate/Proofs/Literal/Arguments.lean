import Archimate.Literal.Parse
import Archimate.Proofs.Dictionary
import Archimate.Proofs.Text.Ends

namespace Archimate.Literal
open Text

section Bare

variable {t gap : Text}

theorem bare_trim (t : Text) : bare (trim t) = bare t := by
  unfold bare
  rw [trim_trim]

theorem quote_ne_of_not_mem (h : doubleQuote ∉ t) : ∀ c ∈ t, (c == .char '"') = false := by
  intro c hc
  rw [beq_eq_false_iff_ne]
  rintro rfl
  exact h hc

def inQuotes (t : Text) : Text := doubleQuote :: (t ++ [doubleQuote])

theorem trimmed_inQuotes (t : Text) : Trimmed (inQuotes t) := by
  have hquote : isBlank doubleQuote = false := by decide
  refine ⟨endsBlanks_cons.mpr hquote, ?_⟩
  unfold inQuotes
  rw [List.reverse_cons, List.reverse_append]
  exact endsBlanks_cons.mpr hquote

theorem bare_inQuotes (hgap : allBlank gap = true) (h : doubleQuote ∉ t) :
    bare (gap ++ inQuotes t) = t := by
  have htrim := trim_append_of_trimmed hgap (trimmed_inQuotes t) (List.cons_ne_nil _ _) allBlank_nil
  rw [List.append_nil] at htrim
  unfold bare
  rw [htrim, inQuotes, dropEnds_cons (by decide),
    dropEnds_concat (by decide) (quote_ne_of_not_mem h)]

theorem bare_of_not_mem (h : doubleQuote ∉ t) : bare t = trim t := by
  have hkept : doubleQuote ∉ trim t := fun hm => h (trim_subset t hm)
  unfold bare
  rw [dropEnds_of_forall_not (quote_ne_of_not_mem hkept)]

theorem bare_opened (hgap : allBlank gap = true) (h : doubleQuote ∉ t) :
    bare (gap ++ doubleQuote :: t) = trimEnd t := by
  have hkept : doubleQuote ∉ trimEnd t := fun hm => h (dropTail_subset isBlank t hm)
  have hquote : isBlank doubleQuote = false := by decide
  have htrim : trim (gap ++ doubleQuote :: t) = doubleQuote :: trimEnd t := by
    unfold trim
    rw [trimStart_append_of_ends hgap (endsBlanks_cons.mpr hquote), trimEnd,
      dropTail_cons_of_not hquote]
    rfl
  unfold bare
  rw [htrim, dropEnds_cons (by decide), dropEnds_of_forall_not (quote_ne_of_not_mem hkept)]

theorem bare_closed (h : doubleQuote ∉ t) : bare (t ++ [doubleQuote]) = trimStart t := by
  have hkept : doubleQuote ∉ trimStart t := fun hm => h (trimStart_subset t hm)
  have hquote : isBlank doubleQuote = false := by decide
  have htrim : trim (t ++ [doubleQuote]) = trimStart t ++ [doubleQuote] := by
    unfold trim
    rw [trimStart, dropWhile_concat_of_not hquote]
    exact dropTail_append_of_not _ hquote
  unfold bare
  rw [htrim, dropEnds_concat (by decide) (quote_ne_of_not_mem hkept)]

theorem bare_append_of_allBlank (hgap : allBlank gap = true) (t : Text) :
    bare (t ++ gap) = bare t := by
  unfold bare
  rw [trim_append_of_allBlank hgap]

theorem count_bare (t : Text) : (bare t).count (.char ')') = t.count (.char ')') := by
  unfold bare
  rw [count_dropEnds (by decide), count_trim (by decide)]

end Bare

section Calls

variable {opening body t gap : Text}

theorem withoutClosing_append : withoutClosing (body ++ ")") = body := by
  unfold withoutClosing
  have hlast : (body ++ (")" : Text)).getLast? = some (.char ')') := List.getLast?_concat
  rw [if_pos hlast]
  exact List.dropLast_concat

theorem withoutClosing_of_getLast?_ne (h : t.getLast? ≠ some (.char ')')) :
    withoutClosing t = t := if_neg h

theorem map_bare_arguments (opening t : Text) :
    (arguments opening t).map bare =
      (splitOn (.char ',') (withoutClosing (t.drop opening.length))).map bare := by
  unfold arguments
  rw [List.map_map]
  exact List.map_congr_left fun part _ => bare_trim part

theorem map_bare_arguments_closed (opening body : Text) :
    (arguments opening (opening ++ (body ++ ")"))).map bare =
      (splitOn (.char ',') body).map bare := by
  rw [map_bare_arguments, List.drop_left, withoutClosing_append]

/-- A text that begins like no quoted text, flag or number is a map or stays as it is. -/
theorem parse_cons {c : CodePoint}
    (hc : c ∉ ([doubleQuote, .char '.', .char 't', .char 'f'] : Text))
    (hdigit : isDigit c = false) (t : Text) :
    parse (c :: t) =
      if mapOpening.isPrefixOf (c :: t) then .ok (.map (mapEntries (c :: t)))
      else .ok (.text (c :: t)) := by
  simp only [List.mem_cons, List.not_mem_nil, or_false, not_or] at hc
  obtain ⟨hquote, hdot, htrue, hfalse⟩ := hc
  have hquoted : quotedText? (c :: t) = none := by
    unfold quotedText?
    rw [if_neg]
    rintro ⟨-, hhead, -⟩
    exact hquote (Option.some.inj hhead)
  have hflag : flag? (c :: t) = none := by
    have hhead : ∀ word : Text, word.head? ≠ some c → c :: t ≠ word := by
      rintro word hword rfl
      exact hword rfl
    unfold flag?
    rw [if_neg (hhead "true" fun h => htrue (Option.some.inj h).symm),
      if_neg (hhead "false" fun h => hfalse (Option.some.inj h).symm)]
  have hplaces : places? (c :: t) = none := by
    unfold places?
    rw [List.dropWhile_cons_of_neg (by simp [hdigit])]
    split
    · rename_i heq
      exact absurd (List.cons.inj heq).1 hdot
    · rfl
  have hwhole : isWhole (c :: t) = false := by simp [isWhole, hdigit]
  unfold parse
  rw [hquoted, hflag, hplaces]
  simp only [hwhole, Bool.false_eq_true, if_false]

theorem parse_of_mapOpening (h : mapOpening <+: t) : parse t = .ok (.map (mapEntries t)) := by
  obtain ⟨behind, rfl⟩ := h
  have hshape : parse (mapOpening ++ behind) =
      if mapOpening.isPrefixOf (mapOpening ++ behind) then
        .ok (.map (mapEntries (mapOpening ++ behind)))
      else .ok (.text (mapOpening ++ behind)) := parse_cons (by decide) (by decide) _
  rw [hshape, if_pos (List.isPrefixOf_iff_prefix.mpr (List.prefix_append _ _))]

/-- A listing has no shape of its own among the literals. -/
theorem parse_of_listingOpening (t : Text) :
    parse (listingOpening ++ t) = .ok (.text (listingOpening ++ t)) := by
  have hshape : parse (listingOpening ++ t) =
      if mapOpening.isPrefixOf (listingOpening ++ t) then
        .ok (.map (mapEntries (listingOpening ++ t)))
      else .ok (.text (listingOpening ++ t)) := parse_cons (by decide) (by decide) _
  have hmap : mapOpening.isPrefixOf (listingOpening ++ t) = false := rfl
  rw [hshape, hmap]
  rfl

end Calls

section Pairs

variable {t gap : Text}

theorem pairs_append_of_even : ∀ {parts : List Text}, parts.length % 2 = 0 →
    ∀ behind, pairs (parts ++ behind) = pairs parts ++ pairs behind
  | [], _, _ => rfl
  | [_], h, _ => absurd h (by simp)
  | key :: value :: rest, h, behind => by
    have hrest : rest.length % 2 = 0 := by
      rw [List.length_cons, List.length_cons] at h
      omega
    show (key, .text value) :: pairs (rest ++ behind) = (key, .text value) :: pairs rest ++ _
    rw [pairs_append_of_even hrest behind, List.cons_append]

/-- A last argument matters to a map only as a value. -/
theorem ofList_pairs_concat_eq_iff {parts : List Text} {value value' : Text} :
    Dictionary.ofList (pairs (parts ++ [value])) = Dictionary.ofList (pairs (parts ++ [value'])) ↔
      parts.length % 2 = 0 ∨ value = value' := by
  constructor
  · intro h
    by_cases heven : parts.length % 2 = 0
    · exact Or.inl heven
    · right
      obtain ⟨front, key, rfl⟩ : ∃ front key, parts = front ++ [key] := by
        cases parts using List.reverseRecOn with
        | nil => simp at heven
        | append_singleton front key => exact ⟨front, key, rfl⟩
      have hfront : front.length % 2 = 0 := by
        rw [List.length_append, List.length_singleton] at heven
        omega
      have hfound : ∀ v, (Dictionary.ofList (pairs (front ++ [key] ++ [v]))).find? key =
          some (.text v) := by
        intro v
        rw [List.append_assoc, pairs_append_of_even hfront]
        show (Dictionary.insertAll .empty (pairs front ++ [(key, .text v)])).find? key = _
        rw [Dictionary.insertAll_append, Dictionary.insertAll_cons, Dictionary.insertAll_nil,
          Dictionary.find?_insert, if_pos rfl]
      have hvalues := hfound value
      rw [h, hfound value'] at hvalues
      exact (Atom.text.inj (Option.some.inj hvalues)).symm
  · rintro (heven | rfl)
    · rw [pairs_append_of_even heven, pairs_append_of_even heven]
      rfl
    · rfl

theorem map_bare_arguments_blanks (hgap : allBlank gap = true) (hne : gap ≠ [])
    (opening content : Text) :
    (arguments opening (opening ++ content ++ gap)).map bare =
      (splitOn (.char ',') (content ++ gap)).map bare := by
  obtain ⟨c, hc, hblank⟩ := exists_blank_last hgap hne content
  have hopen : (content ++ gap).getLast? ≠ some (.char ')') := by
    rw [hc, ne_eq, Option.some.injEq]
    rintro rfl
    revert hblank
    decide
  rw [map_bare_arguments, List.append_assoc, List.drop_left, withoutClosing_of_getLast?_ne hopen]

theorem mapEntries_append_blanks_of_open {content : Text} (hgap : allBlank gap = true)
    (hne : gap ≠ []) (hopen : content.getLast? ≠ some (.char ')')) :
    mapEntries (mapOpening ++ content ++ gap) = mapEntries (mapOpening ++ content) := by
  have hcomma : .char ',' ∉ gap := not_mem_of_forall (allBlank_iff.mp hgap) (by decide)
  obtain ⟨parts, last, hparts, hbehind⟩ := exists_splitOn_append (.char ',') content
  unfold mapEntries
  rw [map_bare_arguments_blanks hgap hne, map_bare_arguments, List.drop_left,
    withoutClosing_of_getLast?_ne hopen, hparts, hbehind gap hcomma, List.map_append,
    List.map_append, List.map_singleton, List.map_singleton, bare_append_of_allBlank hgap]

/-- The parenthesis that is not removed makes the last argument another one. -/
theorem mapEntries_append_blanks_of_closed {body : Text} (hgap : allBlank gap = true)
    (hne : gap ≠ []) :
    mapEntries (mapOpening ++ (body ++ ")") ++ gap) = mapEntries (mapOpening ++ (body ++ ")")) ↔
      (arguments mapOpening (mapOpening ++ (body ++ ")"))).length % 2 = 1 := by
  have hcomma : .char ',' ∉ ((")" : Text) ++ gap) := by
    rw [List.mem_append, not_or]
    exact ⟨by decide, not_mem_of_forall (allBlank_iff.mp hgap) (by decide)⟩
  obtain ⟨parts, last, hparts, hbehind⟩ := exists_splitOn_append (.char ',') body
  have hlength : (arguments mapOpening (mapOpening ++ (body ++ ")"))).length =
      parts.length + 1 := by
    unfold arguments
    rw [List.drop_left, withoutClosing_append, hparts, List.length_map, List.length_append]
    rfl
  have hother : bare (last ++ (")" ++ gap)) ≠ bare last := by
    intro heq
    have hcount := congrArg (List.count (.char ')')) heq
    rw [count_bare, count_bare, List.count_append, List.count_append] at hcount
    have hclosing : (")" : Text).count (.char ')') = 1 := by decide
    omega
  unfold mapEntries
  rw [map_bare_arguments_blanks hgap hne, map_bare_arguments_closed, hlength, hparts,
    List.append_assoc, hbehind _ hcomma, List.map_append, List.map_append, List.map_singleton,
    List.map_singleton, ofList_pairs_concat_eq_iff, List.length_map, or_iff_left hother]
  omega

/-- Blanks behind a map literal are read as part of it. That changes what is read when they keep the
closing parenthesis from being removed and the last argument is a value. -/
theorem mapEntries_append_blanks_iff (h : mapOpening <+: t) (hgap : allBlank gap = true)
    (hne : gap ≠ []) :
    mapEntries (t ++ gap) = mapEntries t ↔
      t.getLast? ≠ some (.char ')') ∨ (arguments mapOpening t).length % 2 = 1 := by
  obtain ⟨content, rfl⟩ := h
  have hlast : (mapOpening ++ content).getLast? = some (.char ')') ↔
      content.getLast? = some (.char ')') := by
    rw [List.getLast?_append]
    cases content.getLast? with
    | none => decide
    | some c => rfl
  rw [ne_eq, hlast]
  by_cases hclosed : content.getLast? = some (.char ')')
  · obtain ⟨body, rfl⟩ := List.getLast?_eq_some_iff.mp hclosed
    exact (mapEntries_append_blanks_of_closed hgap hne).trans
      (or_iff_right (not_not.mpr hclosed)).symm
  · exact iff_of_true (mapEntries_append_blanks_of_open hgap hne hclosed) (Or.inl hclosed)

end Pairs

end Archimate.Literal
