import Archimate.Document
import Archimate.Proofs.Document.Grammar
import Archimate.Proofs.Text.Newline

namespace Archimate
open Text

namespace Body

variable {l l' : Text}

theorem lineEntry_congr_sameLine (h : SameLine l l') : lineEntry l = lineEntry l' := by
  unfold lineEntry lineField?
  rw [h.trim_eq]

theorem entries_congr_sameLine {ls ls' : List Text} (h : List.Forall₂ SameLine ls ls') :
    entries ls = entries ls' := by
  induction h with
  | nil => rfl
  | cons hline _ ih => rw [entries, entries, lineEntry_congr_sameLine hline, ih]

theorem parse_dropReturns (body : Text) : parse (dropReturns body) = parse body := by
  unfold parse
  rw [entries_congr_sameLine (splitLines_dropReturns body)]

end Body

namespace Form

variable {α : Type} {form : Form α} {f : α → α}

/-- The form is found wherever it was when the returns are dropped. -/
def IgnoresReturns (form : Form α) (f : α → α) : Prop :=
  ∀ t, form.read? (dropReturns t) = (form.read? t).map (Prod.map f dropReturns)

theorem scan_dropReturns (h : form.IgnoresReturns f) (t : Text) :
    form.scan (dropReturns t) = (form.scan t).map f := by
  -- An occurrence leaves a shorter text, so the induction is on the length and not on the text.
  induction hn : t.length using Nat.strongRecOn generalizing t with
  | _ n ih =>
  cases hread : form.read? t with
  | some found =>
    obtain ⟨a, rest⟩ := found
    have hdropped : form.read? (dropReturns t) = some (f a, dropReturns rest) := by
      rw [h, hread]
      rfl
    rw [scan_of_read hread, scan_of_read hdropped, List.map_cons,
      ih rest.length (hn ▸ form.shorter hread) rest rfl]
  | none =>
    have hdropped : form.read? (dropReturns t) = none := by
      rw [h, hread]
      rfl
    cases t using returns_induction with
    | nil => rw [dropReturns, scan_nil]; rfl
    | lineEnd t =>
      rw [scan_cons_of_none hread]
      exact ih (.char '\n' :: t).length (hn ▸ Nat.lt_succ_self _) _ rfl
    | cons c t hc =>
      rw [dropReturns_cons hc] at hdropped ⊢
      rw [scan_cons_of_none hread, scan_cons_of_none hdropped]
      exact ih t.length (hn ▸ Nat.lt_succ_self _) t rfl

theorem first?_dropReturns (h : form.IgnoresReturns id) (t : Text) :
    form.first? (dropReturns t) = form.first? t := by
  rw [first?_eq_head?_scan, first?_eq_head?_scan, scan_dropReturns h, List.map_id]

end Form

namespace Declaration

def withoutReturns (d : Declaration) : Declaration := { d with body := dropReturns d.body }

theorem record_withoutReturns (d : Declaration) : d.withoutReturns.record = d.record := by
  unfold record withoutReturns
  rw [Body.parse_dropReturns]

theorem word?_dropReturns (t : Text) :
    word? (dropReturns t) = (word? t).map (Prod.map id dropReturns) := by
  unfold word?
  rw [spanWord_dropReturns]
  obtain ⟨word, rest⟩ := spanWord t
  cases word <;> rfl

theorem gap?_dropReturns (t : Text) : gap? (dropReturns t) = (gap? t).map dropReturns := by
  cases t using returns_induction with
  | nil => rfl
  | lineEnd t =>
    show some (trimStart (dropReturns t)) = some (dropReturns (trimStart (.char '\n' :: t)))
    rw [trimStart_dropReturns]
    rfl
  | cons c t h =>
    rw [dropReturns_cons h, gap?_cons, gap?_cons, trimStart_dropReturns]
    split <;> rfl

theorem body?_dropReturns (t : Text) :
    body? (dropReturns t) = (body? t).map (Prod.map dropReturns dropReturns) := by
  unfold body?
  rw [takeWhile_dropReturns (by decide), dropWhile_dropReturns (by decide)]
  have hbrace := List.head?_dropWhile_not isBodyChar t
  cases htake : t.takeWhile isBodyChar with
  | nil => rfl
  | cons c body =>
    obtain ⟨c', body', hbody⟩ := List.exists_cons_of_ne_nil
      (mt dropReturns_eq_nil_iff.mp (List.cons_ne_nil c body))
    cases hdrop : t.dropWhile isBodyChar with
    | nil =>
      rw [hbody]
      rfl
    | cons brace rest =>
      -- What ends a body is no carriage return.
      have hne : brace ≠ .char '\r' := by
        have hend : isBodyChar brace = false := by simpa [hdrop] using hbrace
        rintro rfl
        revert hend
        decide
      rw [dropReturns_cons_of_ne hne, hbody]
      show some (c' :: body', dropReturns rest) = some (dropReturns (c :: body), dropReturns rest)
      rw [hbody]

theorem value?_dropReturns (t : Text) :
    value? (dropReturns t) = (value? t).map (Prod.map dropReturns dropReturns) := by
  have hequals : .char '\r' ∉ ("=" : Text) ∧ .char '\n' ∉ ("=" : Text) := by decide
  have hnew : .char '\r' ∉ ("new" : Text) ∧ .char '\n' ∉ ("new" : Text) := by decide
  have hopening : .char '\r' ∉ ("\x7b" : Text) ∧ .char '\n' ∉ ("\x7b" : Text) := by decide
  simp only [value?, Option.bind_eq_bind, trimStart_dropReturns, after?_dropReturns hequals,
    after?_dropReturns hnew, after?_dropReturns hopening, body?_dropReturns, Option.bind_map,
    Option.map_bind, Function.comp_def]

theorem ignoresReturns_form : form.IgnoresReturns withoutReturns := by
  intro t
  have hcolon : .char '\r' ∉ (":" : Text) ∧ .char '\n' ∉ (":" : Text) := by decide
  simp only [form, read?, Option.bind_eq_bind, word?_dropReturns, after?_dropReturns hcolon,
    trimStart_dropReturns, value?_dropReturns, Option.bind_map, Option.map_bind,
    Function.comp_def, Prod.map, id, Option.map_some, withoutReturns]

theorem ignoresReturns_localForm : localForm.IgnoresReturns withoutReturns := by
  intro t
  have hlocal : .char '\r' ∉ ("local" : Text) ∧ .char '\n' ∉ ("local" : Text) := by decide
  have hread (t : Text) : read? (dropReturns t) =
      (read? t).map (Prod.map withoutReturns dropReturns) := ignoresReturns_form t
  simp only [localForm, readLocal?, Option.bind_eq_bind, after?_dropReturns hlocal,
    gap?_dropReturns, hread, Option.bind_map, Option.map_bind, Function.comp_def]

theorem ignoresReturns_headerForm : headerForm.IgnoresReturns id := by
  intro t
  have hmodule : .char '\r' ∉ ("module" : Text) ∧ .char '\n' ∉ ("module" : Text) := by decide
  simp only [headerForm, readHeader?, Option.bind_eq_bind, after?_dropReturns hmodule,
    gap?_dropReturns, word?_dropReturns, Option.bind_map, Option.map_bind, Function.comp_def]

end Declaration

theorem recordsOf_map_withoutReturns (ds : List Declaration) :
    recordsOf (ds.map Declaration.withoutReturns) = recordsOf ds := by
  induction ds with
  | nil => rfl
  | cons d ds ih => rw [List.map_cons, recordsOf, recordsOf, d.record_withoutReturns, ih]

namespace Document

/-- A document is read alike with returns in front of its line feeds and without. -/
theorem parse_dropReturns (text source : Text) :
    parse (dropReturns text) source = parse text source := by
  have hdeclarations : declarations (dropReturns text) =
      (declarations text).map Declaration.withoutReturns := by
    unfold declarations
    rw [List.map_append, Form.scan_dropReturns Declaration.ignoresReturns_form,
      Form.scan_dropReturns Declaration.ignoresReturns_localForm]
  unfold parse
  rw [hdeclarations, recordsOf_map_withoutReturns,
    Form.first?_dropReturns Declaration.ignoresReturns_headerForm]

end Document

end Archimate
