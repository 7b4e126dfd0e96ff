import Archimate.Proofs.Document.Layout
import Archimate.Proofs.Document.Scan

namespace Archimate.Layout
open Text Declaration

variable {b : Block} {h : Header} {l : Layout} {rest : Text}

theorem Line.WellFormed.noBrace_written {l : Line} (h : l.WellFormed) : NoBrace l.written := by
  cases l with
  | blank blanks => exact noBrace_of_allBlank h.1
  | field f =>
    have hf : f.WellFormed := h
    have hsign : NoBrace " = " := by decide
    have hcomma : NoBrace "," := by decide
    unfold Line.written Field.written Field.rightSide
    simp only [noBrace_append]
    refine ⟨⟨⟨noBrace_of_allBlank hf.indent, noBrace_of_isWord hf.key⟩, hsign⟩, ?_⟩
    split
    · exact noBrace_append.mpr ⟨hf.literal_brace, hcomma⟩
    · exact hf.literal_brace

theorem noBrace_linesText {ls : List Line} (h : ∀ l ∈ ls, l.WellFormed) :
    NoBrace (Block.linesText ls) := by
  induction ls with
  | nil => decide
  | cons l ls ih =>
    have hline := (h l List.mem_cons_self).noBrace_written
    have hlines := ih fun l' hl' => h l' (List.mem_cons_of_mem l hl')
    unfold Block.linesText
    rw [List.flatMap_cons, noBrace_append, noBrace_append]
    exact ⟨⟨hline, by decide⟩, hlines⟩

theorem Block.WellFormed.noBrace_body (h : b.WellFormed) : NoBrace b.body := by
  unfold Block.body
  rw [noBrace_append, noBrace_append]
  exact ⟨⟨by decide, noBrace_linesText h.lines⟩, noBrace_of_allBlank h.closing⟩

theorem Block.WellFormed.declarationText (h : b.WellFormed) :
    DeclarationText b.declaration b.text := by
  have hvalue : ValueText b.body (" = new \x7b" ++ b.body ++ "\x7d") := by
    refine ⟨" ", " ", " ", by decide, by decide, by decide, rfl, List.cons_ne_nil _ _, ?_⟩
    exact h.noBrace_body.2
  refine ⟨" ", _, by decide, ?_, h.name, h.type, hvalue⟩
  unfold Block.text Block.declaration
  simp only [List.append_assoc]
  rfl

theorem Block.WellFormed.scan_form (h : b.WellFormed) :
    form.scan (b.written ++ rest) = b.declaration :: form.scan rest := by
  have hread : form.read? (b.text ++ (b.gap ++ rest)) = some (b.declaration, b.gap ++ rest) :=
    read?_eq_some_iff.mpr ⟨b.text, rfl, h.declarationText⟩
  have hopening : form.Passes b.opening (b.text ++ (b.gap ++ rest)) := by
    unfold Block.opening
    split
    · have hsplit : ("local " : Text) = "local" ++ " " := rfl
      rw [hsplit, Form.passes_append]
      refine ⟨passes_form_of_word (by decide) ?_, beginsWithWord_form.passes_allBlank (by decide)⟩
      exact isBlank_head_of_allBlank (by decide) (by decide)
    · exact trivial
  have hgap : form.Passes b.gap rest := beginsWithWord_form.passes_allBlank h.gap
  unfold Block.written
  rw [List.append_assoc, List.append_assoc, Form.scan_append_of_passes hopening,
    Form.scan_of_read hread, Form.scan_append_of_passes hgap]

theorem Block.WellFormed.passes_localForm (h : b.WellFormed) :
    localForm.Passes b.text rest := by
  have htext : b.text =
      b.name ++ (": " ++ (b.type ++ (" = " ++ ("new" ++ (" \x7b" ++ (b.body ++ "\x7d")))))) := by
    unfold Block.text
    simp only [List.append_assoc]
    rfl
  have hnil : allBlank [] = true := rfl
  have hspace : allBlank " " = true := by decide
  rw [htext]
  simp only [Form.passes_append]
  -- No part of the head is `local` in front of a name, and a body opens nothing before its brace.
  refine ⟨?name, ?colon, ?type, ?equals, ?new, ?brace, ?body⟩
  case name =>
    refine passes_localForm_of_word h.name.isWordChar (endsWord_cons.mpr (by decide)) (.inr ?_)
    exact endsWord_trimStart hnil (by decide) (by decide)
  case colon => exact beginsWithWord_localForm.passes (by decide)
  case type =>
    refine passes_localForm_of_word h.type.isWordChar (endsWord_cons.mpr (by decide)) (.inr ?_)
    exact endsWord_trimStart hspace (by decide) (by decide)
  case equals => exact beginsWithWord_localForm.passes (by decide)
  case new =>
    exact passes_localForm_of_word (by decide) (endsWord_cons.mpr (by decide)) (.inl (by decide))
  case brace => exact beginsWithWord_localForm.passes (by decide)
  case body => exact Form.passes_append.mp (passes_localForm_of_closing h.noBrace_body)

theorem Block.WellFormed.scan_localForm (h : b.WellFormed) :
    localForm.scan (b.written ++ rest) =
      (if b.isLocal then [b.declaration] else []) ++ localForm.scan rest := by
  have hgap : localForm.Passes b.gap rest := beginsWithWord_localForm.passes_allBlank h.gap
  unfold Block.written Block.opening
  rw [List.append_assoc, List.append_assoc]
  split
  · have hread : localForm.read? ("local " ++ (b.text ++ (b.gap ++ rest))) =
        some (b.declaration, b.gap ++ rest) := by
      refine readLocal?_eq_some_iff.mpr ⟨" ", b.text, ?_, by decide, by decide, h.declarationText⟩
      simp only [List.append_assoc]
      rfl
    rw [Form.scan_of_read hread, Form.scan_append_of_passes hgap]
    rfl
  · show localForm.scan (b.text ++ (b.gap ++ rest)) = _
    rw [Form.scan_append_of_passes h.passes_localForm, Form.scan_append_of_passes hgap]
    rfl

section Scans

variable {bs : List Block}

theorem scan_form_blocks (h : ∀ b ∈ bs, b.WellFormed) :
    form.scan (bs.flatMap Block.written) = bs.map Block.declaration := by
  induction bs with
  | nil => exact Form.scan_nil form
  | cons b bs ih =>
    have hblocks := ih fun b' hb' => h b' (List.mem_cons_of_mem b hb')
    rw [List.flatMap_cons, (h b List.mem_cons_self).scan_form, hblocks, List.map_cons]

theorem scan_localForm_blocks (h : ∀ b ∈ bs, b.WellFormed) :
    localForm.scan (bs.flatMap Block.written) =
      (bs.filter Block.isLocal).map Block.declaration := by
  induction bs with
  | nil => exact Form.scan_nil localForm
  | cons b bs ih =>
    have hblocks := ih fun b' hb' => h b' (List.mem_cons_of_mem b hb')
    rw [List.flatMap_cons, (h b List.mem_cons_self).scan_localForm, hblocks, List.filter_cons]
    split
    · rfl
    · rfl

theorem recordsOf_map_declaration (h : ∀ b ∈ bs, b.WellFormed) :
    recordsOf (bs.map Block.declaration) = .ok (bs.map Block.record) := by
  induction bs with
  | nil => rfl
  | cons b bs ih =>
    have hrecord := (h b List.mem_cons_self).record_declaration
    have hrecords := ih fun b' hb' => h b' (List.mem_cons_of_mem b hb')
    rw [List.map_cons]
    unfold recordsOf
    rw [hrecord, hrecords]
    rfl

theorem Header.WellFormed.blank_behind (hh : h.WellFormed) (hrest : h.gap ≠ [] ∨ rest = []) :
    ∀ c ∈ (h.gap ++ rest).head?, isBlank c = true := by
  rcases hrest with hne | rfl
  · exact isBlank_head_of_allBlank hh.gap hne
  · intro c hc
    rw [List.append_nil] at hc
    exact allBlank_iff.mp hh.gap c (List.mem_of_mem_head? hc)

/-- The name of the header is no declaration, and no `local` in front of one. -/
theorem Header.WellFormed.passes (hh : h.WellFormed) (hrest : h.gap ≠ [] ∨ rest = []) :
    form.Passes h.written rest ∧ localForm.Passes h.written rest := by
  have hsplit : h.written = "module" ++ (" " ++ (h.name ++ h.gap)) := by
    unfold Header.written
    simp only [List.append_assoc]
    rfl
  have hspace {rest : Text} : ∀ c ∈ (" " ++ rest : Text).head?, isBlank c = true :=
    isBlank_head_of_allBlank (by decide) (by decide)
  have hgap := hh.blank_behind hrest
  rw [hsplit]
  simp only [Form.passes_append]
  refine ⟨⟨?_, ?_, ?_, ?_⟩, ?_, ?_, ?_, ?_⟩
  · exact passes_form_of_word (by decide) hspace
  · exact beginsWithWord_form.passes_allBlank (by decide)
  · exact passes_form_of_word hh.name.isWordChar hgap
  · exact beginsWithWord_form.passes_allBlank hh.gap
  · exact passes_localForm_of_word (by decide) (endsWord_cons.mpr (by decide)) (.inl (by decide))
  · exact beginsWithWord_localForm.passes_allBlank (by decide)
  · exact passes_localForm_of_word hh.name.isWordChar
      (fun c hc => isWordChar_of_isBlank (hgap c hc))
      (.inl hh.name_local)
  · exact beginsWithWord_localForm.passes_allBlank hh.gap

end Scans

theorem WellFormed.gap_or_end (hl : l.WellFormed) (hh : h ∈ l.header) :
    h.gap ≠ [] ∨ l.blocks.flatMap Block.written = [] := by
  refine (hl.header_gap h hh).imp_right ?_
  intro hnil
  rw [hnil]
  rfl

theorem WellFormed.passes_head (hl : l.WellFormed) :
    form.Passes (l.before ++ l.headerText) (l.blocks.flatMap Block.written) ∧
      localForm.Passes (l.before ++ l.headerText) (l.blocks.flatMap Block.written) := by
  rw [Form.passes_append, Form.passes_append]
  have hheader : form.Passes l.headerText (l.blocks.flatMap Block.written) ∧
      localForm.Passes l.headerText (l.blocks.flatMap Block.written) := by
    unfold headerText
    cases hsome : l.header with
    | none => exact ⟨trivial, trivial⟩
    | some h => exact (hl.header h hsome).passes (hl.gap_or_end hsome)
  exact ⟨⟨beginsWithWord_form.passes_allBlank hl.before, hheader.1⟩,
    beginsWithWord_localForm.passes_allBlank hl.before, hheader.2⟩

theorem WellFormed.declarations_written (hl : l.WellFormed) :
    Document.declarations l.written =
      (l.blocks.filter Block.isLocal ++ l.blocks).map Block.declaration := by
  obtain ⟨hform, hlocal⟩ := hl.passes_head
  unfold Document.declarations written
  rw [Form.scan_append_of_passes hform, Form.scan_append_of_passes hlocal,
    scan_form_blocks hl.blocks, scan_localForm_blocks hl.blocks, List.map_append]

theorem first?_headerForm_of_not_mentionsModule {t : Text} (h : ¬ MentionsModule t) :
    headerForm.first? t = none := by
  apply Form.first?_eq_none
  intro before behind heq
  rw [Option.eq_none_iff_forall_ne_some]
  rintro ⟨name, rest⟩ hread
  obtain ⟨gap, rfl, hne, hgap, hname, -⟩ := readHeader?_eq_some_iff.mp hread
  cases name with
  | nil => exact hname.ne_nil rfl
  | cons c name =>
    apply h
    refine ⟨before, gap, c, name ++ rest, ?_, hne, hgap, hname.isWordChar c List.mem_cons_self⟩
    rw [heq]
    simp only [List.append_assoc, List.cons_append]

theorem WellFormed.first?_headerForm (hl : l.WellFormed) :
    headerForm.first? l.written = l.header.map Header.name := by
  cases hsome : l.header with
  | none => exact first?_headerForm_of_not_mentionsModule (hl.no_header hsome)
  | some h =>
    have hh := hl.header h hsome
    have hbefore : headerForm.Passes l.before (h.written ++ l.blocks.flatMap Block.written) :=
      beginsWithWord_headerForm.passes_allBlank hl.before
    have hread : headerForm.read? (h.written ++ l.blocks.flatMap Block.written) =
        some (h.name, h.gap ++ l.blocks.flatMap Block.written) := by
      refine readHeader?_eq_some_iff.mpr ⟨" ", ?_, by decide, by decide, hh.name, ?_⟩
      · unfold Header.written
        simp only [List.append_assoc]
        rfl
      · intro c hc
        exact isWordChar_of_isBlank (hh.blank_behind (hl.gap_or_end hsome) c hc)
    unfold written headerText
    rw [hsome, List.append_assoc, Form.first?_append_of_passes hbefore, Form.first?_of_read hread]
    rfl

theorem WellFormed.parse_literals (hl : l.WellFormed) :
    ∀ f ∈ l.fields, Literal.parse f.literal = .ok f.value := by
  intro f hf
  obtain ⟨b, hb, hf⟩ := List.mem_flatMap.mp hf
  obtain ⟨line, hline, hf⟩ := List.mem_flatMap.mp hf
  have hwell := (hl.blocks b hb).lines line hline
  cases line with
  | blank blanks => cases hf
  | field f' =>
    rw [List.mem_singleton.mp hf]
    exact Field.WellFormed.parse_literal hwell

/-- A well-formed document is read exactly, and the value of a field is what its literal says. -/
theorem parse_written (hl : l.WellFormed) (source : Text) :
    Document.parse l.written source =
        .ok { moduleName := l.header.map Header.name, source := source, objects := l.objects } ∧
      ∀ f ∈ l.fields, Literal.parse f.literal = .ok f.value := by
  refine ⟨?_, hl.parse_literals⟩
  have hblocks : ∀ b ∈ l.blocks.filter Block.isLocal ++ l.blocks, b.WellFormed := by
    intro b hb
    rcases List.mem_append.mp hb with hb | hb
    · exact hl.blocks b (List.mem_filter.mp hb).1
    · exact hl.blocks b hb
  unfold Document.parse objects
  rw [hl.declarations_written, recordsOf_map_declaration hblocks, hl.first?_headerForm,
    List.map_append]
  rfl

/-- Literals that look like a header and like a declaration, and the name and key `local`. -/
def orders : Layout where
  before := []
  header := some ⟨"orders", "\n\n"⟩
  blocks := [
    ⟨true, "clerk", "BusinessActor",
      [.field ⟨"  ", "name", "module of orders", true⟩, .blank " "], [], "\n"⟩,
    ⟨false, "local", "Relationship", [.field ⟨"\t", "local", "local a: B = new", false⟩], [], []⟩]

theorem wellFormed_orders : orders.WellFormed where
  before := rfl
  header := by decide
  header_gap := by decide
  no_header := nofun
  blocks := by decide

theorem parse_written_orders :
    orders.WellFormed ∧
      Document.parse orders.written "orders.pkl" = .ok {
        moduleName := some "orders"
        source := "orders.pkl"
        objects := [
          ⟨"clerk", "BusinessActor", .ofList [("name", .text "module of orders")]⟩,
          ⟨"clerk", "BusinessActor", .ofList [("name", .text "module of orders")]⟩,
          ⟨"local", "Relationship", .ofList [("local", .text "local a: B = new")]⟩] } := by
  refine ⟨wellFormed_orders, ?_⟩
  rw [(parse_written wellFormed_orders _).1]
  apply congrArg Except.ok
  decide +kernel

end Archimate.Layout
