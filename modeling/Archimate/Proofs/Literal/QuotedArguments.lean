import Archimate.Proofs.Literal.Arguments
import Archimate.Proofs.Literal.Numbers

namespace Archimate.Literal
open Text

section Pieces

variable {s t gap piece : Text}

/-- The pieces behind the first comma of an argument. -/
def laterPieces : List Text → List Text
  | [] => []
  | [last] => [trimStart last]
  | part :: parts => trim part :: laterPieces parts

/-- What is read of an argument between quotes: the parts between its commas, without the blanks
next to a comma. -/
def pieces (s : Text) : List Text :=
  match splitOn (.char ',') s with
  | first :: second :: later => trimEnd first :: laterPieces (second :: later)
  | parts => parts

theorem laterPieces_concat (parts : List Text) (last : Text) :
    laterPieces (parts ++ [last]) = parts.map trim ++ [trimStart last] := by
  induction parts with
  | nil => rfl
  | cons part parts ih =>
    have hne : parts ++ [last] ≠ [] := List.append_ne_nil_of_right_ne_nil _ (List.cons_ne_nil _ _)
    obtain ⟨next, later, hlater⟩ := List.exists_cons_of_ne_nil hne
    rw [List.cons_append, List.map_cons, List.cons_append, ← ih, hlater]
    rfl

theorem pieces_of_not_mem (h : .char ',' ∉ s) : pieces s = [s] := by
  unfold pieces
  rw [splitOn_eq_singleton h]

theorem pieces_append_comma (h : .char ',' ∉ s) (t : Text) :
    pieces (s ++ .char ',' :: t) = trimEnd s :: laterPieces (splitOn (.char ',') t) := by
  obtain ⟨part, parts, hparts⟩ := List.exists_cons_of_ne_nil (splitOn_ne_nil (.char ',') t)
  unfold pieces
  rw [splitOn_append_separator, splitOn_eq_singleton h, hparts]
  rfl

theorem flatMap_pieces_of_not_mem {args : List Text} (h : ∀ arg ∈ args, .char ',' ∉ arg) :
    args.flatMap pieces = args := by
  rw [List.flatMap_congr fun arg harg => pieces_of_not_mem (h arg harg), List.flatMap_singleton']

theorem comma_not_mem_of_mem_pieces (h : piece ∈ pieces s) : .char ',' ∉ piece := by
  by_cases hcomma : .char ',' ∈ s
  · obtain ⟨first, behind, rfl, hfirst⟩ := List.eq_append_cons_of_mem hcomma
    obtain ⟨parts, last, hparts, -⟩ := exists_splitOn_append (.char ',') behind
    have hpart : ∀ part ∈ parts ++ [last], .char ',' ∉ part := by
      rw [← hparts]
      exact fun part => not_mem_of_mem_splitOn
    rw [pieces_append_comma hfirst, hparts, laterPieces_concat, List.mem_cons, List.mem_append,
      List.mem_map, List.mem_singleton] at h
    rcases h with rfl | ⟨part, hmem, rfl⟩ | rfl
    · exact fun hc => hfirst (dropTail_subset isBlank first hc)
    · exact fun hc => hpart part (List.mem_append_left _ hmem) (trim_subset part hc)
    · exact fun hc => hpart last List.mem_concat_self (trimStart_subset last hc)
  · rw [pieces_of_not_mem hcomma, List.mem_singleton] at h
    rwa [h]

theorem map_bare_splitOn_closed (h : doubleQuote ∉ t) :
    (splitOn (.char ',') (t ++ [doubleQuote])).map bare = laterPieces (splitOn (.char ',') t) := by
  obtain ⟨parts, last, hparts, hbehind⟩ := exists_splitOn_append (.char ',') t
  have hquote : ∀ part ∈ parts ++ [last], doubleQuote ∉ part := by
    intro part hpart hc
    rw [← hparts] at hpart
    exact h (subset_of_mem_splitOn hpart hc)
  have htrim : parts.map bare = parts.map trim := by
    apply List.map_congr_left
    exact fun part hpart => bare_of_not_mem (hquote part (List.mem_append_left _ hpart))
  rw [hbehind [doubleQuote] (by decide), hparts, laterPieces_concat, List.map_append, htrim,
    List.map_singleton, bare_closed (hquote last List.mem_concat_self)]

theorem map_bare_splitOn_inQuotes (hgap : allBlank gap = true) (h : doubleQuote ∉ s) :
    (splitOn (.char ',') (gap ++ inQuotes s)).map bare = pieces s := by
  have hgapComma : .char ',' ∉ gap := not_mem_of_forall (allBlank_iff.mp hgap) (by decide)
  by_cases hcomma : .char ',' ∈ s
  · obtain ⟨first, behind, rfl, hfirst⟩ := List.eq_append_cons_of_mem hcomma
    rw [List.mem_append, List.mem_cons, not_or, not_or] at h
    have hopened : .char ',' ∉ gap ++ doubleQuote :: first := by
      rw [List.mem_append, List.mem_cons, not_or, not_or]
      exact ⟨hgapComma, by decide, hfirst⟩
    -- The first piece keeps the quote in front of it, the last piece the quote behind it.
    have htext : gap ++ inQuotes (first ++ .char ',' :: behind) =
        (gap ++ doubleQuote :: first) ++ .char ',' :: (behind ++ [doubleQuote]) := by
      simp [inQuotes]
    rw [htext, splitOn_append_separator, splitOn_eq_singleton hopened, List.map_append,
      List.map_singleton, bare_opened hgap h.1, map_bare_splitOn_closed h.2.2,
      pieces_append_comma hfirst]
    rfl
  · have hwhole : .char ',' ∉ gap ++ inQuotes s := by
      simp only [inQuotes, List.mem_append, List.mem_cons, List.not_mem_nil, not_or, or_false]
      exact ⟨hgapComma, by decide, hcomma, by decide⟩
    rw [splitOn_eq_singleton hwhole, List.map_singleton, bare_inQuotes hgap h,
      pieces_of_not_mem hcomma]

end Pieces

section Written

variable {args items : List Text} {entries : List (Text × Text)} {gap : Text}

/-- Arguments between quotes, with a comma and a space between two of them. -/
def argumentsText (args : List Text) : Text :=
  (", " : Text).intercalate (args.map inQuotes)

def callText (opening : Text) (args : List Text) : Text :=
  opening ++ (argumentsText args ++ ")")

def inTurn (entries : List (Text × Text)) : List Text :=
  entries.flatMap fun entry => [entry.1, entry.2]

theorem intercalate_comma_cons_cons (part next : Text) (parts : List Text) :
    (", " : Text).intercalate (part :: next :: parts) =
      part ++ .char ',' :: ((" " : Text) ++ (", " : Text).intercalate (next :: parts)) := by
  rw [List.intercalate_cons_cons, List.append_assoc]
  rfl

theorem argumentsText_cons_cons (arg next : Text) (args : List Text) :
    argumentsText (arg :: next :: args) =
      inQuotes arg ++ .char ',' :: ((" " : Text) ++ argumentsText (next :: args)) :=
  intercalate_comma_cons_cons (inQuotes arg) (inQuotes next) (args.map inQuotes)

/-- Each argument is cut on its own. -/
theorem map_bare_splitOn_argumentsText (hgap : allBlank gap = true)
    (h : ∀ arg ∈ args, doubleQuote ∉ arg) (hne : args ≠ []) :
    (splitOn (.char ',') (gap ++ argumentsText args)).map bare = args.flatMap pieces := by
  -- The space behind a comma is a gap in front of the argument that follows.
  induction args generalizing gap with
  | nil => exact absurd rfl hne
  | cons arg args ih =>
    have harg : doubleQuote ∉ arg := h arg List.mem_cons_self
    cases args with
    | nil =>
      have htext : argumentsText [arg] = inQuotes arg := by simp [argumentsText, List.intercalate]
      rw [htext, map_bare_splitOn_inQuotes hgap harg, List.flatMap_singleton]
    | cons next args =>
      have hspace : allBlank (" " : Text) = true := by decide
      have hrest := ih hspace (fun a ha => h a (List.mem_cons_of_mem arg ha))
        (List.cons_ne_nil _ _)
      rw [argumentsText_cons_cons, ← List.append_assoc, splitOn_append_separator, List.map_append,
        map_bare_splitOn_inQuotes hgap harg, hrest]
      rfl

theorem map_bare_arguments_callText (opening : Text) (h : ∀ arg ∈ args, doubleQuote ∉ arg)
    (hne : args ≠ []) :
    (arguments opening (callText opening args)).map bare = args.flatMap pieces := by
  unfold callText
  rw [map_bare_arguments_closed]
  exact map_bare_splitOn_argumentsText allBlank_nil h hne

theorem mapEntries_callText (h : ∀ arg ∈ inTurn entries, doubleQuote ∉ arg) :
    mapEntries (callText mapOpening (inTurn entries)) =
      .ofList (pairs ((inTurn entries).flatMap pieces)) := by
  cases entries with
  | nil => rfl
  | cons entry entries =>
    unfold mapEntries
    rw [map_bare_arguments_callText mapOpening h (List.cons_ne_nil _ _)]

theorem listingItems_callText (h : ∀ item ∈ items, doubleQuote ∉ item) :
    listingItems (callText listingOpening items) =
      (items.flatMap pieces).filter (!·.isEmpty) := by
  have hopening : listingOpening.isPrefixOf (callText listingOpening items) = true :=
    List.isPrefixOf_iff_prefix.mpr (List.prefix_append _ _)
  unfold listingItems
  rw [if_pos hopening]
  cases items with
  | nil => rfl
  | cons item items =>
    rw [map_bare_arguments_callText listingOpening h (List.cons_ne_nil _ _)]

theorem pairs_inTurn (entries : List (Text × Text)) :
    pairs (inTurn entries) = entries.map fun entry => (entry.1, .text entry.2) := by
  induction entries with
  | nil => rfl
  | cons entry entries ih =>
    show (entry.1, Atom.text entry.2) :: pairs (inTurn entries) = _
    rw [ih, List.map_cons]

theorem comma_not_mem_of_mem_flatMap_pieces {piece : Text} (h : piece ∈ args.flatMap pieces) :
    .char ',' ∉ piece := by
  obtain ⟨arg, -, hpiece⟩ := List.mem_flatMap.mp h
  exact comma_not_mem_of_mem_pieces hpiece

/-- A map of distinct keys that is read back has lost no comma. -/
theorem comma_not_mem_of_ofList_pairs_eq (hkeys : (entries.map Prod.fst).Nodup)
    (h : Dictionary.ofList (pairs ((inTurn entries).flatMap pieces)) =
      .ofList (entries.map fun entry => (entry.1, Atom.text entry.2))) :
    ∀ arg ∈ inTurn entries, .char ',' ∉ arg := by
  have hnodup : ((entries.map fun entry => (entry.1, Atom.text entry.2)).map Prod.fst).Nodup := by
    rwa [List.map_map]
  intro arg harg
  obtain ⟨entry, hentry, hpart⟩ := List.mem_flatMap.mp harg
  have hread : (entry.1, Atom.text entry.2) ∈ pairs ((inTurn entries).flatMap pieces) := by
    apply Dictionary.mem_of_mem_ofList
    rw [h, Dictionary.entries_ofList_of_nodup hnodup]
    exact List.mem_map_of_mem hentry
  obtain ⟨hkey, value, hvalue, htext⟩ := mem_pairs hread
  rw [← Atom.text.inj htext] at hvalue
  rcases List.mem_pair.mp hpart with rfl | rfl
  · exact comma_not_mem_of_mem_flatMap_pieces hkey
  · exact comma_not_mem_of_mem_flatMap_pieces hvalue

/-- A map and a listing whose arguments stand between quotes are read with every argument cut at
its commas. They are read as they are written when no argument has a comma, and, for a listing and
for a map of distinct keys, only then. -/
theorem quoted_arguments_cut (entries : List (Text × Text)) (items : List Text)
    (hentries : ∀ arg ∈ inTurn entries, doubleQuote ∉ arg)
    (hitems : ∀ item ∈ items, doubleQuote ∉ item ∧ item ≠ []) :
    parse (callText mapOpening (inTurn entries)) =
      .ok (.map (.ofList (pairs ((inTurn entries).flatMap pieces)))) ∧
    ((∀ arg ∈ inTurn entries, .char ',' ∉ arg) →
      parse (callText mapOpening (inTurn entries)) =
        .ok (.map (.ofList (entries.map fun entry => (entry.1, .text entry.2))))) ∧
    ((entries.map Prod.fst).Nodup →
      parse (callText mapOpening (inTurn entries)) =
        .ok (.map (.ofList (entries.map fun entry => (entry.1, .text entry.2)))) →
      ∀ arg ∈ inTurn entries, .char ',' ∉ arg) ∧
    listingItems (callText listingOpening items) =
      (items.flatMap pieces).filter (!·.isEmpty) ∧
    (listingItems (callText listingOpening items) = items ↔ ∀ item ∈ items, .char ',' ∉ item) := by
  have hparse : parse (callText mapOpening (inTurn entries)) =
      .ok (.map (.ofList (pairs ((inTurn entries).flatMap pieces)))) := by
    have hopening : mapOpening <+: callText mapOpening (inTurn entries) := List.prefix_append _ _
    rw [parse_of_mapOpening hopening, mapEntries_callText hentries]
  have hlisting := listingItems_callText fun item hitem => (hitems item hitem).1
  refine ⟨hparse, fun hcomma => ?_, fun hkeys hread => ?_, hlisting, ?_, ?_⟩
  · rw [hparse, flatMap_pieces_of_not_mem hcomma, pairs_inTurn]
  · rw [hparse] at hread
    exact comma_not_mem_of_ofList_pairs_eq hkeys (Literal.map.inj (Except.ok.inj hread))
  · intro hread item hitem
    rw [← hread, hlisting] at hitem
    exact comma_not_mem_of_mem_flatMap_pieces (List.mem_of_mem_filter hitem)
  · intro hcomma
    rw [hlisting, flatMap_pieces_of_not_mem hcomma, List.filter_eq_self]
    intro item hitem
    rw [Bool.not_eq_true', List.isEmpty_eq_false_iff]
    exact (hitems item hitem).2

theorem quoted_arguments_cut_team :
    let team : List (Text × Text) := [("team", "Sales, EMEA")]
    let items : List Text := ["Q1 (a)", " b, c"]
    parse (callText mapOpening (inTurn team)) =
      .ok (.map (.ofList [("team", .text "Sales")])) ∧
    parse (callText mapOpening (inTurn team)) ≠
      .ok (.map (.ofList [("team", .text "Sales, EMEA")])) ∧
    listingItems (callText listingOpening items) = ["Q1 (a)", " b", "c"] := by
  intro team items
  obtain ⟨hparse, -, honly, hlisting, -⟩ :=
    quoted_arguments_cut team items (by decide) (by decide)
  refine ⟨hparse, fun hread => ?_, hlisting⟩
  have hcomma := honly (List.nodup_singleton _) hread
  revert hcomma
  decide

/-- A comma in a value cuts the value, and what is behind the comma is a key without a value. -/
theorem not_all_quoted_arguments_whole :
    ¬ ∀ entries : List (Text × Text), (∀ arg ∈ inTurn entries, doubleQuote ∉ arg) →
      parse (callText mapOpening (inTurn entries)) =
        .ok (.map (.ofList (entries.map fun entry => (entry.1, .text entry.2)))) := by
  intro h
  have hteam := h [("team", "Sales, EMEA")] (by decide)
  revert hteam
  decide +kernel

end Written

end Archimate.Literal
