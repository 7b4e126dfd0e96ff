import Archimate.Proofs.Dictionary.Update
import Archimate.Proofs.Document.IdleLine
import Archimate.Proofs.Document.Reading

namespace Archimate.Body
open Text

variable {body body' line : Text} {lines lines' front part part' back : List Text}
  {es : List (Text × Literal)}

section Lines

def key? (line : Text) : Option Text := (lineField? line).map Prod.fst

theorem map_fst_of_lineEntry (h : lineEntry line = .ok es) :
    es.map Prod.fst = (key? line).toList := by
  unfold lineEntry at h
  unfold key?
  split at h
  · rename_i hfield
    cases h
    rw [hfield]
    rfl
  · rename_i hfield
    obtain ⟨value, -, rfl⟩ := map_eq_ok_iff.mp h
    rw [hfield]
    rfl

theorem keys_of_parse_line {d : Dictionary Text Literal} (hline : .char '\n' ∉ line)
    (h : parse line = .ok d) : d.keys = (key? line).toList := by
  rw [parse_of_line hline] at h
  obtain ⟨es, hentry, rfl⟩ := map_eq_ok_iff.mp h
  rw [Dictionary.keys_ofList, map_fst_of_lineEntry hentry]
  cases key? line <;> rfl

theorem parse_line_eq_empty_iff (hline : .char '\n' ∉ line) :
    parse line = .ok .empty ↔ Idle line := by
  constructor
  · intro h
    have hkeys : [] = (key? line).toList := keys_of_parse_line hline h
    have hnone : key? line = none := Option.toList_eq_nil_iff.mp hkeys.symm
    exact lineField?_eq_none_iff.mp (Option.map_eq_none_iff.mp hnone)
  · intro h
    rw [parse_of_line hline, h.lineEntry]
    rfl

end Lines

section Parts

theorem foldlM_update (h : ∀ line ∈ lines, .char '\n' ∉ line) (d : Dictionary Text Literal) :
    lines.foldlM (fun d line => (parse line).map d.update) d =
      (entries lines).map d.insertAll := by
  induction lines generalizing d with
  | nil => rfl
  | cons line lines ih =>
    have hlines := ih fun other hother => h other (List.mem_cons_of_mem line hother)
    rw [List.foldlM_cons, parse_of_line (h line List.mem_cons_self), entries]
    cases lineEntry line with
    | error e => rfl
    | ok es =>
      show lines.foldlM _ (d.update (Dictionary.ofList es)) = _
      rw [hlines, Dictionary.update_ofList]
      cases entries lines with
      | error e => rfl
      | ok rest => exact congrArg Except.ok (d.insertAll_append es rest).symm

theorem parse_eq_foldlM (body : Text) :
    parse body = (splitLines body).foldlM (fun d line => (parse line).map d.update) .empty :=
  (foldlM_update (fun _ hline => not_mem_of_mem_splitOn hline) .empty).symm

theorem parse_append (body body' : Text) :
    parse (body ++ "\n" ++ body') =
      (do let d ← parse body; let d' ← parse body'; .ok (d.update d')) := by
  unfold parse
  rw [splitLines_append, entries_append]
  cases entries (splitLines body) with
  | error e => rfl
  | ok es =>
    cases entries (splitLines body') with
    | error e => rfl
    | ok es' => exact congrArg Except.ok (Dictionary.ofList_append es es')

theorem exists_error_append_iff (body body' : Text) :
    (∃ e, parse (body ++ "\n" ++ body') = .error e) ↔
      (∃ e, parse body = .error e) ∨ ∃ e, parse body' = .error e := by
  rw [parse_append]
  cases parse body <;> cases parse body' <;> simp [bind, Except.bind]

end Parts

section Order

theorem entries_cons_eq_ok_iff :
    entries (line :: lines) = .ok es ↔
      ∃ first rest, lineEntry line = .ok first ∧ entries lines = .ok rest ∧ es = first ++ rest := by
  rw [entries]
  exact bind_eq_ok_iff

theorem entries_append_eq_ok_iff :
    entries (front ++ back) = .ok es ↔
      ∃ xs ys, entries front = .ok xs ∧ entries back = .ok ys ∧ es = xs ++ ys := by
  rw [entries_append]
  exact bind_eq_ok_iff

theorem map_fst_of_entries (h : entries lines = .ok es) :
    es.map Prod.fst = lines.filterMap key? := by
  induction lines generalizing es with
  | nil =>
    cases h
    rfl
  | cons line lines ih =>
    obtain ⟨first, rest, hfirst, hrest, rfl⟩ := entries_cons_eq_ok_iff.mp h
    rw [List.map_append, map_fst_of_lineEntry hfirst, ih hrest]
    cases hkey : key? line <;> simp [hkey]

theorem entries_perm (hperm : lines.Perm lines') (h : entries lines = .ok es) :
    ∃ es', entries lines' = .ok es' ∧ es.Perm es' := by
  induction hperm generalizing es with
  | nil => exact ⟨es, h, List.Perm.refl es⟩
  | cons line _ ih =>
    obtain ⟨first, rest, hfirst, hrest, rfl⟩ := entries_cons_eq_ok_iff.mp h
    obtain ⟨rest', hrest', hperm⟩ := ih hrest
    exact ⟨_, entries_cons_eq_ok_iff.mpr ⟨first, rest', hfirst, hrest', rfl⟩,
      hperm.append_left first⟩
  | swap line line' lines =>
    obtain ⟨second, _, hsecond, htail, rfl⟩ := entries_cons_eq_ok_iff.mp h
    obtain ⟨first, rest, hfirst, hrest, rfl⟩ := entries_cons_eq_ok_iff.mp htail
    have hswapped := entries_cons_eq_ok_iff.mpr ⟨second, rest, hsecond, hrest, rfl⟩
    exact ⟨_, entries_cons_eq_ok_iff.mpr ⟨first, _, hfirst, hswapped, rfl⟩,
      List.perm_append_comm_assoc second first rest⟩
  | trans _ _ ih ih' =>
    obtain ⟨middle, hmiddle, hperm⟩ := ih h
    obtain ⟨es', hes', hperm'⟩ := ih' hmiddle
    exact ⟨es', hes', hperm.trans hperm'⟩

/-- Both readings fail, or both end with the same entries, in whatever order. -/
inductive AgreeButForOrder :
    Except LiteralError (Dictionary Text Literal) → Except LiteralError (Dictionary Text Literal) →
      Prop
  | read {d d' : Dictionary Text Literal} (h : d.entries.Perm d'.entries) :
    AgreeButForOrder (.ok d) (.ok d')
  | failed (e e' : LiteralError) : AgreeButForOrder (.error e) (.error e')

theorem exists_entries_reordered (hperm : part.Perm part') (hkeys : (part.filterMap key?).Nodup)
    (h : entries (front ++ part ++ back) = .ok es) :
    ∃ es', entries (front ++ part' ++ back) = .ok es' ∧
      (Dictionary.ofList es).entries.Perm (Dictionary.ofList es').entries := by
  obtain ⟨_, after, hhead, hback, rfl⟩ := entries_append_eq_ok_iff.mp h
  obtain ⟨before, xs, hfront, hpart, rfl⟩ := entries_append_eq_ok_iff.mp hhead
  obtain ⟨xs', hpart', hxs⟩ := entries_perm hperm hpart
  have hhead' := entries_append_eq_ok_iff.mpr ⟨before, xs', hfront, hpart', rfl⟩
  rw [← map_fst_of_entries hpart] at hkeys
  exact ⟨_, entries_append_eq_ok_iff.mpr ⟨_, after, hhead', hback, rfl⟩,
    Dictionary.perm_entries_ofList hxs hkeys before after⟩

theorem agreeButForOrder_of_perm (hlines : splitLines body = front ++ part ++ back)
    (hlines' : splitLines body' = front ++ part' ++ back) (hperm : part.Perm part')
    (hkeys : (part.filterMap key?).Nodup) : AgreeButForOrder (parse body) (parse body') := by
  unfold parse
  rw [hlines, hlines']
  cases hread : entries (front ++ part ++ back) with
  | ok es =>
    obtain ⟨es', hread', hsame⟩ := exists_entries_reordered hperm hkeys hread
    rw [hread']
    exact .read hsame
  | error e =>
    cases hread' : entries (front ++ part' ++ back) with
    | error e' => exact .failed e e'
    | ok es' =>
      have hkeys' : (part'.filterMap key?).Nodup := (hperm.filterMap key?).nodup_iff.mp hkeys
      obtain ⟨es, hes, -⟩ := exists_entries_reordered hperm.symm hkeys' hread'
      rw [hread] at hes
      cases hes

end Order

/-- A body is read line by line and part by part: a line writes to one key, or to none when it is
idle; the second part updates what is read of the first, and the whole fails when a part does. Idle
lines count nowhere. Where lines that write to different keys change places, the fields change their
order and nothing else. -/
theorem parse_line_by_line (body body' : Text) :
    parse body = (splitLines body).foldlM (fun d line => (parse line).map d.update) .empty ∧
    (∀ line ∈ splitLines body, (parse line = .ok .empty ↔ Idle line) ∧
      ∀ d, parse line = .ok d → d.keys = (key? line).toList) ∧
    parse (body ++ "\n" ++ body') =
      (do let d ← parse body; let d' ← parse body'; .ok (d.update d')) ∧
    (∀ d d' : Dictionary Text Literal,
      (d.update d').keys = d.keys ++ d'.keys.filter (!d.contains ·) ∧
      ∀ key, (d.update d').find? key = (d'.find? key).or (d.find? key)) ∧
    ((∃ e, parse (body ++ "\n" ++ body') = .error e) ↔
      (∃ e, parse body = .error e) ∨ ∃ e, parse body' = .error e) ∧
    (∀ line, ¬ HoldsField line → Idle line) ∧
    (fieldLines body = fieldLines body' → parse body = parse body') ∧
    (∀ front part part' back, splitLines body = front ++ part ++ back →
      splitLines body' = front ++ part' ++ back → part.Perm part' → (part.filterMap key?).Nodup →
        AgreeButForOrder (parse body) (parse body')) := by
  refine ⟨parse_eq_foldlM body, fun line hline => ?_, parse_append body body', fun d d' => ?_,
    exists_error_append_iff body body', fun line => idle_of_not_holdsField,
    parse_congr_fieldLines, fun front part part' back => agreeButForOrder_of_perm⟩
  · have hfeed : .char '\n' ∉ line := not_mem_of_mem_splitOn hline
    exact ⟨parse_line_eq_empty_iff hfeed, fun d => keys_of_parse_line hfeed⟩
  · exact ⟨d.keys_update d', d.find?_update d'⟩

def draftBody : Text := "level = 1\nname = Sales\nlevel = 3"

/-- The same fields among lines without a field. -/
def notedBody : Text := "\nlevel = 1\n  // level = 9\nowner =\nname = Sales\n \nlevel = 3\n"

/-- The first two lines have changed places; a later line writes to the key of one of them. -/
def turnedBody : Text := "name = Sales\nlevel = 1\nlevel = 3"

theorem parse_line_by_line_draft :
    parse "owner =" = .ok .empty ∧
    (∃ d, parse "name = Sales" = .ok d ∧ d.keys = ["name"]) ∧
    parse (draftBody ++ "\n" ++ "owner = Ann\nname = \"EMEA\"") =
      .ok (.ofList [("level", .whole 3), ("name", .text "EMEA"), ("owner", .text "Ann")]) ∧
    parse notedBody = parse draftBody ∧
    AgreeButForOrder (parse draftBody) (parse turnedBody) ∧ parse draftBody ≠ parse turnedBody := by
  obtain ⟨-, hlines, -, -, -, hfree, hidle, -⟩ := parse_line_by_line notedBody draftBody
  obtain ⟨-, -, hparts, -⟩ := parse_line_by_line draftBody "owner = Ann\nname = \"EMEA\""
  obtain ⟨-, -, -, -, -, -, -, horder⟩ := parse_line_by_line draftBody turnedBody
  have howner : ¬ HoldsField "owner =" :=
    mt (isSome_firstField?_iff (by decide)).mpr (by decide)
  have hname : parse "name = Sales" = .ok (.ofList [("name", .text "Sales")]) := by decide +kernel
  refine ⟨?_, ⟨_, hname, ?_⟩, ?_, hidle ?_, ?_, by decide +kernel⟩
  · exact (hlines "owner =" (by decide)).1.mpr (hfree "owner =" howner)
  · exact (hlines "name = Sales" (by decide)).2 _ hname
  · rw [hparts]
    decide +kernel
  · decide +kernel
  · exact horder [] ["level = 1", "name = Sales"] ["name = Sales", "level = 1"] ["level = 3"]
      (by decide +kernel) (by decide +kernel) (List.Perm.swap _ _ _) (by decide +kernel)

end Archimate.Body
