import Archimate.Proofs.Document.Comment
import Archimate.Proofs.Document.Reading

namespace Archimate
open Text

variable {before comment feed after : Text}

theorem exists_of_append_eq {front behind occurrence rest : Text}
    (heq : front ++ behind = occurrence ++ rest) (hlength : behind.length ≤ rest.length) :
    ∃ left, front = occurrence ++ left ∧ rest = left ++ behind := by
  rcases List.append_eq_append_iff.mp heq with ⟨reach, hreach, hrest⟩ | ⟨left, hleft, hrest⟩
  · have hnil : reach = [] := by
      rw [hrest, List.length_append] at hlength
      exact List.length_eq_zero_iff.mp (by omega)
    subst hnil
    refine ⟨[], ?_, ?_⟩
    · rw [List.append_nil, hreach, List.append_nil]
    · rw [hrest, List.nil_append, List.nil_append]
  · exact ⟨left, hleft, hrest⟩

theorem CommentLine.of_suffix {left : Text} (h : CommentLine before comment feed after)
    (hleft : left <:+ before) : CommentLine left comment feed after := by
  refine ⟨?_, h.isComment, h.oneLine, h.ends⟩
  obtain ⟨passed, rfl⟩ := hleft
  rcases h.starts with hnil | hlast
  · exact Or.inl (List.append_eq_nil_iff.mp hnil).2
  · by_cases hne : left = []
    · exact Or.inl hne
    · rw [List.getLast?_append, List.getLast?_eq_some_getLast hne, Option.some_or] at hlast
      rw [List.getLast?_eq_some_getLast hne]
      exact Or.inr hlast

namespace Declaration

/-- A line has nothing to do with the declarations that a scan finds: none begins or ends in it,
and the place where it stood is not inside a head when it is gone. -/
@[mk_iff]
structure Undisturbed (f : Form Declaration) (before line after : Text) : Prop where
  begins : ∀ o ∈ f.found (before ++ (line ++ after)), ¬ o.BeginsIn line after
  ends : ∀ o ∈ f.found (before ++ (line ++ after)), ¬ o.EndsIn line after
  opens : ∀ o ∈ f.found (before ++ after), o.Crosses after →
    after.length ≤ o.value.body.length + 1 + o.rest.length

instance (f : Form Declaration) (before line after : Text) :
    Decidable (Undisturbed f before line after) :=
  decidable_of_iff _ (undisturbed_iff ..).symm

variable {f : Form Declaration} {Head : Text → Text → Text → Prop}

theorem Undisturbed.of_found {left line : Text} (h : Undisturbed f before line after)
    (hwith : f.found (left ++ (line ++ after)) ⊆ f.found (before ++ (line ++ after)))
    (hwithout : f.found (left ++ after) ⊆ f.found (before ++ after)) :
    Undisturbed f left line after where
  begins o ho := h.begins o (hwith ho)
  ends o ho := h.ends o (hwith ho)
  opens o ho := h.opens o (hwithout ho)

/-- What is read in front of a place is read whatever stands behind the place. -/
theorem Braced.exists_left (hf : Braced f Head) {d : Declaration} {rest : Text}
    (hread : f.read? (before ++ after) = some (d, rest)) (hlength : after.length ≤ rest.length) :
    ∃ left, left <:+ before ∧ left.length < before.length ∧ rest = left ++ after ∧
      ∀ behind, f.read? (before ++ behind) = some (d, left ++ behind) := by
  have hshorter := f.shorter hread
  obtain ⟨head, hhead, heq, hbody⟩ := hf.read?_iff.mp hread
  rw [← List.append_assoc] at heq
  obtain ⟨left, rfl, rfl⟩ := exists_of_append_eq heq hlength
  refine ⟨left, List.suffix_append _ _, ?_, rfl, fun behind => ?_⟩
  · rw [List.length_append, List.length_append] at hshorter
    omega
  · rw [List.append_assoc] at hread ⊢
    exact hf.read?_append hread _

/-- One step of the two scans, with the line and without it: both move on, or both find the same
declaration in front of the line, or they find declarations around it that mean the same. -/
theorem read?_cases (hf : Braced f Head) (h : CommentLine before comment feed after)
    (hline : Undisturbed f before (comment ++ feed) after) (hne : before ≠ []) :
    (f.read? (before ++ (comment ++ feed ++ after)) = none ∧ f.read? (before ++ after) = none) ∨
    (∃ d left, left <:+ before ∧ left.length < before.length ∧
      f.read? (before ++ (comment ++ feed ++ after)) =
        some (d, left ++ (comment ++ feed ++ after)) ∧
      f.read? (before ++ after) = some (d, left ++ after)) ∨
    ∃ d d' rest, f.read? (before ++ (comment ++ feed ++ after)) = some (d, rest) ∧
      f.read? (before ++ after) = some (d', rest) ∧ d'.record = d.record := by
  cases hwith : f.read? (before ++ (comment ++ feed ++ after)) with
  | some found =>
    obtain ⟨d, rest⟩ := found
    have hends := hline.ends _ (Form.found_of_read hwith ▸ List.mem_cons_self)
    rcases Nat.lt_or_ge rest.length after.length with hbehind | hafter
    · obtain ⟨d', hread, hrecord⟩ := hf.read?_without h hwith hbehind
      exact Or.inr (Or.inr ⟨d, d', rest, rfl, hread, hrecord⟩)
    · have hbefore := Nat.le_of_not_lt fun hin => hends ⟨hafter, hin⟩
      obtain ⟨left, hsuffix, hleft, rfl, hread⟩ := hf.exists_left hwith hbefore
      exact Or.inr (Or.inl ⟨d, left, hsuffix, hleft, rfl, hread after⟩)
  | none =>
    refine Or.inl ⟨rfl, ?_⟩
    -- What is read here without the line is read with it, unless the line stood inside the head.
    rw [Option.eq_none_iff_forall_ne_some]
    rintro ⟨d, rest⟩ hread
    have hopens := hline.opens _ (Form.found_of_read hread ▸ List.mem_cons_self)
    rcases Nat.lt_or_ge rest.length after.length with hbehind | hafter
    · have hcrosses : after.length < (before ++ after).length := by
        rw [List.length_append]
        exact Nat.lt_add_of_pos_left (List.length_pos_iff.mpr hne)
      exact hf.read?_with h hread hbehind (hopens ⟨hcrosses, hbehind⟩) hwith
    · obtain ⟨left, -, -, -, hreadWith⟩ := hf.exists_left hread hafter
      rw [hreadWith] at hwith
      cases hwith

/-- With or without the line, a scan finds declarations that mean the same. -/
theorem map_record_scan (hf : Braced f Head) (h : CommentLine before comment feed after)
    (hline : Undisturbed f before (comment ++ feed) after) :
    (f.scan (before ++ (comment ++ feed ++ after))).map record =
      (f.scan (before ++ after)).map record := by
  -- Each step leaves less in front of the line, or comes to what stands behind it.
  induction hn : before.length using Nat.strongRecOn generalizing before with
  | _ n ih =>
  cases before with
  | nil =>
    have hfound := Form.found_append fun o ho => hline.begins o (List.mem_of_mem_head? ho)
    rw [List.nil_append, List.nil_append, ← f.map_value_found, ← f.map_value_found, hfound]
  | cons c before =>
    rcases read?_cases hf h hline (List.cons_ne_nil c before) with
      ⟨hwith, hwithout⟩ | ⟨d, left, hsuffix, hleft, hwith, hwithout⟩ |
      ⟨d, d', rest, hwith, hwithout, hrecord⟩
    · rw [List.cons_append] at hwith hwithout
      rw [List.cons_append, List.cons_append, Form.scan_cons_of_none hwith,
        Form.scan_cons_of_none hwithout]
      apply ih before.length (hn ▸ Nat.lt_succ_self _) (h.of_suffix (List.suffix_cons c before))
        _ rfl
      apply hline.of_found
      · rw [List.cons_append, Form.found_cons_of_none hwith]
        exact List.Subset.refl _
      · rw [List.cons_append, Form.found_cons_of_none hwithout]
        exact List.Subset.refl _
    · rw [Form.scan_of_read hwith, Form.scan_of_read hwithout, List.map_cons, List.map_cons]
      congr 1
      apply ih left.length (hn ▸ hleft) (h.of_suffix hsuffix) _ rfl
      apply hline.of_found
      · rw [Form.found_of_read hwith]
        exact List.subset_cons_self _ _
      · rw [Form.found_of_read hwithout]
        exact List.subset_cons_self _ _
    · rw [Form.scan_of_read hwith, Form.scan_of_read hwithout, List.map_cons, List.map_cons,
        hrecord]

/-- A line has nothing to do with the header: the first header does not begin in it, and the place
where it stood is not inside the first header when it is gone. -/
@[mk_iff]
structure HeaderUndisturbed (before line after : Text) : Prop where
  begins : ∀ o ∈ (headerForm.found (before ++ (line ++ after))).head?, ¬ o.BeginsIn line after
  joins : ∀ o ∈ (headerForm.found (before ++ after)).head?, ¬ o.Crosses after

instance (before line after : Text) : Decidable (HeaderUndisturbed before line after) :=
  decidable_of_iff _ (headerUndisturbed_iff ..).symm

theorem exists_header {text name rest : Text} (hread : readHeader? text = some (name, rest)) :
    ∃ header : Text, text = header ++ rest ∧ header ≠ [] ∧ .char '/' ∉ header ∧
      ∀ c ∈ header.getLast?, isBlank c = false := by
  obtain ⟨gap, heq, -, hblank, hname, -⟩ := readHeader?_eq_some_iff.mp hread
  refine ⟨_, heq, List.append_ne_nil_of_right_ne_nil _ hname.ne_nil, ?_, ?_⟩
  · have hmodule : .char '/' ∉ ("module" : Text) := by decide
    simp only [List.mem_append, not_or]
    exact ⟨⟨hmodule, slash_not_mem_of_allBlank hblank⟩, slash_not_mem_of_isWord hname⟩
  · intro c hc
    rw [List.getLast?_append, List.getLast?_eq_some_getLast hname.ne_nil, Option.some_or] at hc
    obtain rfl := Option.some.inj hc
    exact isBlank_of_isWordChar (hname.isWordChar _ (List.getLast_mem hname.ne_nil))

theorem readHeader?_append (h : CommentLine before comment feed after) {behind name rest : Text}
    (hread : readHeader? (before ++ behind) = some (name, rest))
    (hlength : behind.length ≤ rest.length) (other : Text) :
    ∃ left, readHeader? (before ++ other) = some (name, left) := by
  obtain ⟨header, heq, hne, -, hlast⟩ := exists_header hread
  obtain ⟨left, rfl, rfl⟩ := exists_of_append_eq heq hlength
  obtain ⟨lines, rfl⟩ := h.exists_feed hne hlast
  obtain ⟨gap, htext, hgap, hblank, hname, hends⟩ := readHeader?_eq_some_iff.mp hread
  refine ⟨lines ++ "\n" ++ other, readHeader?_eq_some_iff.mpr ⟨gap, ?_, hgap, hblank, hname, ?_⟩⟩
  · rw [List.append_assoc] at htext
    rw [List.append_assoc, List.append_cancel_right htext]
  · cases lines with
    | nil => exact endsWord_cons.mpr (by decide)
    | cons c lines => exact hends

theorem first?_headerForm (h : CommentLine before comment feed after)
    (hline : HeaderUndisturbed before (comment ++ feed) after) :
    headerForm.first? (before ++ (comment ++ feed ++ after)) =
      headerForm.first? (before ++ after) := by
  rw [Form.first?_eq_found, Form.first?_eq_found]
  induction before with
  | nil => rw [List.nil_append, List.nil_append, Form.found_append hline.begins]
  | cons c before ih =>
    cases hwith : headerForm.read? (c :: before ++ (comment ++ feed ++ after)) with
    | some found =>
      obtain ⟨name, rest⟩ := found
      obtain ⟨header, heq, -, hslash, hlast⟩ := exists_header hwith
      -- No slash stands in a header and no blank ends it, so it ends in front of the line.
      obtain ⟨left, hleft⟩ := h.prefix_of_append_eq heq hslash hlast
      have hlength : (comment ++ feed ++ after).length ≤ rest.length := by
        rw [← hleft, List.append_assoc] at heq
        have hrest := congrArg List.length (List.append_cancel_left heq)
        rw [List.length_append] at hrest
        omega
      obtain ⟨behind, hread⟩ := readHeader?_append h hwith hlength after
      have hwithout : headerForm.read? (c :: before ++ after) = some (name, behind) := hread
      rw [Form.found_of_read hwith, Form.found_of_read hwithout]
      rfl
    | none =>
      have hwithout : headerForm.read? (c :: before ++ after) = none := by
        rw [Option.eq_none_iff_forall_ne_some]
        rintro ⟨name, rest⟩ hread
        have hjoins := hline.joins _ (by rw [Form.found_of_read hread]; rfl)
        have hlength : after.length ≤ rest.length := by
          refine Nat.le_of_not_lt fun hbehind => hjoins ⟨?_, hbehind⟩
          rw [List.length_append]
          exact Nat.lt_add_of_pos_left (Nat.succ_pos _)
        obtain ⟨behind, hreadWith⟩ := readHeader?_append h hread hlength _
        exact absurd (hwith.symm.trans hreadWith) (Option.some_ne_none _).symm
      rw [List.cons_append] at hwith hwithout
      have hline : HeaderUndisturbed before (comment ++ feed) after := by
        obtain ⟨hbegins, hjoins⟩ := hline
        rw [List.cons_append, Form.found_cons_of_none hwith] at hbegins
        rw [List.cons_append, Form.found_cons_of_none hwithout] at hjoins
        exact ⟨hbegins, hjoins⟩
      rw [List.cons_append, List.cons_append, Form.found_cons_of_none hwith,
        Form.found_cons_of_none hwithout]
      exact ih (h.of_suffix (List.suffix_cons c before)) hline

end Declaration

theorem recordsOf_congr {ds es : List Declaration}
    (h : ds.map Declaration.record = es.map Declaration.record) : recordsOf ds = recordsOf es := by
  induction ds generalizing es with
  | nil =>
    rw [List.map_nil, eq_comm, List.map_eq_nil_iff] at h
    rw [h]
  | cons d ds ih =>
    cases es with
    | nil => cases h
    | cons e es =>
      obtain ⟨hrecord, hrest⟩ := List.cons.inj h
      rw [recordsOf, recordsOf, hrecord, ih hrest]

namespace Document

/-- A line that neither of the scans for declarations has to do with. -/
@[mk_iff]
structure Undisturbed (before line after : Text) : Prop where
  locals : Declaration.Undisturbed Declaration.localForm before line after
  plain : Declaration.Undisturbed Declaration.form before line after

instance (before line after : Text) : Decidable (Undisturbed before line after) :=
  decidable_of_iff _ (undisturbed_iff ..).symm

theorem recordsOf_without_comment (h : CommentLine before comment feed after)
    (hline : Undisturbed before (comment ++ feed) after) :
    recordsOf (declarations (before ++ (comment ++ feed ++ after))) =
      recordsOf (declarations (before ++ after)) := by
  apply recordsOf_congr
  unfold declarations
  rw [List.map_append, List.map_append,
    Declaration.map_record_scan Declaration.braced_localForm h hline.locals,
    Declaration.map_record_scan Declaration.braced_form h hline.plain]

/-- A comment line that the search for the header has nothing to do with can be deleted without a
change of the module, and one that the scans for declarations have nothing to do with, without a
change of the objects, the relationships or the error. -/
theorem parse_without_comment (h : CommentLine before comment feed after) (source : Text) :
    (Declaration.HeaderUndisturbed before (comment ++ feed) after → ∀ d d',
      parse (before ++ (comment ++ feed ++ after)) source = .ok d →
      parse (before ++ after) source = .ok d' → d.moduleName = d'.moduleName) ∧
    (Undisturbed before (comment ++ feed) after →
      (parse (before ++ (comment ++ feed ++ after)) source).map
          (fun d => (d.objects, d.relationships)) =
        (parse (before ++ after) source).map fun d => (d.objects, d.relationships)) ∧
    (Declaration.HeaderUndisturbed before (comment ++ feed) after →
      Undisturbed before (comment ++ feed) after →
      parse (before ++ (comment ++ feed ++ after)) source = parse (before ++ after) source) := by
  refine ⟨?_, ?_, ?_⟩
  · intro hline d d' hwith hwithout
    obtain ⟨objects, -, rfl⟩ := map_eq_ok_iff.mp hwith
    obtain ⟨objects', -, rfl⟩ := map_eq_ok_iff.mp hwithout
    exact Declaration.first?_headerForm h hline
  · intro hline
    unfold parse
    rw [recordsOf_without_comment h hline]
    cases recordsOf (declarations (before ++ after)) <;> rfl
  · intro hheader hline
    unfold parse
    rw [recordsOf_without_comment h hline, Declaration.first?_headerForm h hheader]

def headerLine : Text := "module Orders\n"

def openBody : Text := "a: B = new \x7b\n  x = 1\n"

def closedBody : Text := "  z = 3\n\x7d\n"

/-- Comments in front of the header, inside a body, and on a last line without a line feed; and one
that names another module but leaves the objects as they are. -/
theorem parse_without_comment_spots :
    parse (([] : Text) ++ (("// about orders" : Text) ++ "\n" ++ headerLine)) "a.pkl" =
        parse (([] : Text) ++ headerLine) "a.pkl" ∧
      parse (openBody ++ (("  // y = \x7b2" : Text) ++ "\n" ++ closedBody)) "a.pkl" =
        parse (openBody ++ closedBody) "a.pkl" ∧
      parse (openBody ++ closedBody ++ (("\t// local" : Text) ++ [] ++ [])) "a.pkl" =
        parse (openBody ++ closedBody ++ []) "a.pkl" ∧
      (parse (openBody ++ (("// module Old" : Text) ++ "\n" ++ closedBody)) "a.pkl").map
          (fun d => (d.objects, d.relationships)) =
        (parse (openBody ++ closedBody) "a.pkl").map (fun d => (d.objects, d.relationships)) ∧
      (parse (openBody ++ closedBody) "a.pkl").toOption.isSome = true := by
  refine ⟨?_, ?_, ?_, ?_, by decide +kernel⟩
  · exact (parse_without_comment (by decide) _).2.2 (by decide +kernel) (by decide +kernel)
  · exact (parse_without_comment (by decide) _).2.2 (by decide +kernel) (by decide +kernel)
  · exact (parse_without_comment (by decide) _).2.2 (by decide +kernel) (by decide +kernel)
  · exact (parse_without_comment (by decide) _).2.1 (by decide +kernel)

/-- What a document says: its module, its objects and its relationships. -/
def said (d : Document) : Option Text × List Record × List Record :=
  (d.moduleName, d.objects, d.relationships)

/-- A comment in front of the header that names another module. -/
theorem not_forall_comment_inert :
    ¬ ∀ before comment feed after source : Text, CommentLine before comment feed after →
      (parse (before ++ (comment ++ feed ++ after)) source).map said =
        (parse (before ++ after) source).map said := by
  intro h
  have hcomment := h [] "// module Old" "\n" "module New\n" "unknown" (by decide)
  exact absurd hcomment (by decide +kernel)

/-- A comment that holds a declaration, one that closes a body, and one inside a head. -/
example :
    (parse "// a: B = new \x7bx = 1\x7d\n" "a.pkl").map said ≠ (parse "" "a.pkl").map said ∧
      (parse (openBody ++ (("// \x7d" : Text) ++ "\n" ++ closedBody)) "a.pkl").map said ≠
        (parse (openBody ++ closedBody) "a.pkl").map said ∧
      (parse "a: B =\n// c\nnew \x7bx = 1\x7d\n" "a.pkl").map said ≠
        (parse "a: B =\nnew \x7bx = 1\x7d\n" "a.pkl").map said := by
  decide +kernel

end Document

end Archimate
