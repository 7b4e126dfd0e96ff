import Archimate.Proofs.Literal.QuotedArguments
import Archimate.Record

namespace Archimate

open Text

/-- Items that both forms can hold. -/
structure Listable (items : List Text) : Prop where
  ne_nil : ∀ item ∈ items, item ≠ []
  trimmed : ∀ item ∈ items, Trimmed item
  comma : ∀ item ∈ items, .char ',' ∉ item
  quote : ∀ item ∈ items, doubleQuote ∉ item
  newline : ∀ item ∈ items, .char '\n' ∉ item
  /-- A text that begins like a listing is taken for one. -/
  opening : ∀ item ∈ items.head?, ¬ Literal.listingOpening <+: item

inductive ListForm where
  | listing
  | joined

namespace ListForm

open Literal

def joinedText (items : List Text) : Text := (", " : Text).intercalate items

def literal (items : List Text) : ListForm → Text
  | listing => callText listingOpening items
  | joined => inQuotes (joinedText items)

/-- The text as which the literal is kept. -/
def kept (items : List Text) : ListForm → Text
  | listing => callText listingOpening items
  | joined => joinedText items

variable {items : List Text} {form : ListForm} {gap t : Text} {c : CodePoint}

theorem joinedText_cons_cons (item next : Text) (items : List Text) :
    joinedText (item :: next :: items) =
      item ++ .char ',' :: ((" " : Text) ++ joinedText (next :: items)) :=
  intercalate_comma_cons_cons item next items

theorem joinedText_singleton (item : Text) : joinedText [item] = item := by
  simp [joinedText, List.intercalate]

theorem not_mem_joinedText (hseparator : c ∉ (", " : Text)) (h : ∀ item ∈ items, c ∉ item) :
    c ∉ joinedText items := by
  induction items with
  | nil => exact List.not_mem_nil
  | cons item items ih =>
    obtain ⟨hitem, hitems⟩ := List.forall_mem_cons.mp h
    cases items with
    | nil => rwa [joinedText_singleton]
    | cons next items =>
      have hrest := ih hitems
      obtain ⟨hcomma, hspace⟩ := List.ne_and_not_mem_of_not_mem_cons hseparator
      rw [joinedText_cons_cons, List.mem_append, List.mem_cons, List.mem_append, not_or, not_or,
        not_or]
      exact ⟨hitem, hcomma, hspace, hrest⟩

theorem newline_not_mem_literal (h : Listable items) : .char '\n' ∉ form.literal items := by
  have hseparator : .char '\n' ∉ (", " : Text) := by decide
  have hquote : CodePoint.char '\n' ≠ doubleQuote := by decide
  have hquoted (t : Text) (ht : .char '\n' ∉ t) : .char '\n' ∉ inQuotes t := by
    simp [inQuotes, hquote, ht]
  cases form with
  | joined => exact hquoted _ (not_mem_joinedText hseparator h.newline)
  | listing =>
    have harguments : .char '\n' ∉ argumentsText items :=
      not_mem_joinedText hseparator (List.forall_mem_map.mpr fun item hitem =>
        hquoted item (h.newline item hitem))
    unfold literal callText
    simp only [List.mem_append, not_or]
    exact ⟨by decide, harguments, by decide⟩

theorem trimmed_literal (form : ListForm) (items : List Text) : Trimmed (form.literal items) := by
  cases form with
  | joined => exact trimmed_inQuotes _
  | listing =>
    refine ⟨endsBlanks_cons.mpr (by decide), ?_⟩
    unfold literal callText
    rw [← List.append_assoc, List.reverse_append]
    exact endsBlanks_cons.mpr (by decide)

theorem literal_ne_nil (form : ListForm) (items : List Text) : form.literal items ≠ [] := by
  cases form <;> exact List.cons_ne_nil _ _

theorem getLast?_literal (form : ListForm) (items : List Text) :
    (form.literal items).getLast? ≠ some (.char ',') := by
  cases form with
  | joined =>
    have hlast : (inQuotes (joinedText items)).getLast? = some doubleQuote :=
      List.getLast?_concat (l := doubleQuote :: joinedText items)
    rw [literal, hlast]
    decide
  | listing =>
    have hlast : (callText listingOpening items).getLast? = some (.char ')') := by
      unfold callText
      rw [← List.append_assoc]
      exact List.getLast?_concat
    rw [literal, hlast]
    decide

theorem quotedText?_inQuotes (t : Text) : quotedText? (inQuotes t) = some t := by
  have hlast : (inQuotes t).getLast? = some doubleQuote :=
    List.getLast?_concat (l := doubleQuote :: t)
  have hlength : 2 ≤ (inQuotes t).length := by simp [inQuotes]
  unfold quotedText?
  rw [if_pos ⟨hlength, rfl, hlast⟩]
  exact congrArg some List.dropLast_concat

theorem parse_literal (form : ListForm) (items : List Text) :
    parse (form.literal items) = .ok (.text (form.kept items)) := by
  cases form with
  | listing => exact parse_of_listingOpening _
  | joined =>
    unfold literal parse
    rw [quotedText?_inQuotes]
    rfl

theorem map_trim_splitOn_joinedText (hgap : allBlank gap = true) (hne : items ≠ [])
    (hnil : ∀ item ∈ items, item ≠ []) (htrimmed : ∀ item ∈ items, Trimmed item)
    (hcomma : ∀ item ∈ items, .char ',' ∉ item) :
    (splitOn (.char ',') (gap ++ joinedText items)).map trim = items := by
  -- The space behind a comma is a gap in front of the item that follows.
  induction items generalizing gap with
  | nil => exact absurd rfl hne
  | cons item items ih =>
    rw [List.forall_mem_cons] at hnil htrimmed hcomma
    have hfirst : .char ',' ∉ gap ++ item := by
      rw [List.mem_append, not_or]
      exact ⟨not_mem_of_forall (allBlank_iff.mp hgap) (by decide), hcomma.1⟩
    have htrim : trim (gap ++ item) = item := by
      have h := trim_append_of_trimmed hgap htrimmed.1 hnil.1 allBlank_nil
      rwa [List.append_nil] at h
    cases items with
    | nil => rw [joinedText_singleton, splitOn_eq_singleton hfirst, List.map_singleton, htrim]
    | cons next items =>
      have hspace : allBlank (" " : Text) = true := by decide
      have hrest := ih hspace (List.cons_ne_nil _ _) hnil.2 htrimmed.2 hcomma.2
      rw [joinedText_cons_cons, ← List.append_assoc, splitOn_append_separator,
        splitOn_eq_singleton hfirst, List.map_append, hrest, List.map_singleton, htrim]
      rfl

theorem filter_ne_nil (h : ∀ item ∈ items, item ≠ []) : items.filter (!·.isEmpty) = items := by
  refine List.filter_eq_self.mpr fun item hitem => ?_
  rw [Bool.not_eq_true', List.isEmpty_eq_false_iff]
  exact h item hitem

theorem commaItems_joinedText (h : Listable items) :
    Record.commaItems (joinedText items) = items := by
  cases items with
  | nil => decide
  | cons item items =>
    have hparts := map_trim_splitOn_joinedText allBlank_nil (List.cons_ne_nil item items) h.ne_nil
      h.trimmed h.comma
    unfold Record.commaItems
    rw [← List.nil_append (joinedText _), hparts, filter_ne_nil h.ne_nil]

theorem listingItems_kept (h : Listable items) :
    listingItems (callText listingOpening items) = items := by
  rw [listingItems_callText h.quote, flatMap_pieces_of_not_mem h.comma, filter_ne_nil h.ne_nil]

/-- No comma stands in the opening of a listing, so it would have to stand in the first item. -/
theorem not_listingOpening_prefix (h : Listable items) :
    ¬ listingOpening <+: joinedText items := by
  cases items with
  | nil => decide
  | cons item items =>
    have hitem : ¬ listingOpening <+: item := h.opening item rfl
    cases items with
    | nil => rwa [joinedText_singleton]
    | cons next items =>
      intro hprefix
      rw [joinedText_cons_cons] at hprefix
      rcases List.prefix_or_prefix_of_prefix hprefix (List.prefix_append item _) with hin | hbefore
      · exact hitem hin
      · obtain ⟨rest, hrest⟩ := hbefore
        rw [← hrest, List.prefix_append_right_inj] at hprefix
        cases rest with
        | nil =>
          rw [List.append_nil] at hrest
          exact hitem (hrest ▸ List.prefix_refl item)
        | cons c rest =>
          have hc : c = .char ',' := (List.cons_prefix_cons.mp hprefix).1
          have hcomma : .char ',' ∉ listingOpening := by decide
          rw [← hrest, hc] at hcomma
          exact hcomma (List.mem_append_right item List.mem_cons_self)

theorem items_of_kept (form : ListForm) (h : Listable items) {r : Record} {key : Text}
    (hvalue : r.value? key = some (.text (form.kept items))) : r.items key = items := by
  have htext : r.text? key = some (form.kept items) := by
    unfold Record.text?
    rw [hvalue]
    rfl
  unfold Record.items
  rw [htext]
  dsimp only
  cases form with
  | listing =>
    have hopening : listingOpening.isPrefixOf (kept items listing) = true :=
      List.isPrefixOf_iff_prefix.mpr (List.prefix_append _ _)
    rw [if_pos hopening]
    exact listingItems_kept h
  | joined =>
    have hopening : ¬ listingOpening.isPrefixOf (kept items joined) = true := by
      rw [List.isPrefixOf_iff_prefix]
      exact not_listingOpening_prefix h
    rw [if_neg hopening]
    exact commaItems_joinedText h

end ListForm

end Archimate
