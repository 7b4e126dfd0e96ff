import Archimate.Document
import Archimate.Proofs.Document.Grammar
import Archimate.Proofs.Document.Line

namespace Archimate

namespace Layout
open Text

/-- One line `key = literal`, with or without a comma behind the literal. -/
structure Field where
  indent : Text
  key : Text
  literal : Text
  comma : Bool
deriving DecidableEq

/-- A line of a body that holds a field, or nothing but blanks. -/
inductive Line where
  | blank (blanks : Text)
  | field (field : Field)
deriving DecidableEq

/-- A declaration, the blanks in front of its closing brace, and the blank text behind it. -/
structure Block where
  isLocal : Bool
  name : Text
  type : Text
  lines : List Line
  closing : Text
  gap : Text
deriving DecidableEq

structure Header where
  name : Text
  gap : Text
deriving DecidableEq

namespace Field

def value (f : Field) : Literal := (Literal.parse f.literal).toOption.getD .absent

def entry (f : Field) : Text × Literal := (f.key, f.value)

def rightSide (f : Field) : Text := if f.comma then f.literal ++ "," else f.literal

def written (f : Field) : Text := f.indent ++ f.key ++ " = " ++ f.rightSide

@[mk_iff]
structure WellFormed (f : Field) : Prop where
  indent : allBlank f.indent = true
  indent_line : .char '\n' ∉ f.indent
  key : IsWord f.key
  literal_ne_nil : f.literal ≠ []
  literal_trimmed : Trimmed f.literal
  literal_comma : f.literal.getLast? ≠ some (.char ',')
  literal_line : .char '\n' ∉ f.literal
  literal_brace : Declaration.NoBrace f.literal
  literal_digits : ¬ (f.literal.all isDigit = true ∧ digitLimit < f.literal.length)

instance (f : Field) : Decidable f.WellFormed := decidable_of_iff _ (wellFormed_iff f).symm

end Field

namespace Line

def fields : Line → List Field
  | blank _ => []
  | field f => [f]

def written : Line → Text
  | blank blanks => blanks
  | field f => f.written

def WellFormed : Line → Prop
  | blank blanks => allBlank blanks = true ∧ .char '\n' ∉ blanks
  | field f => f.WellFormed

instance : (l : Line) → Decidable l.WellFormed
  | blank _ => inferInstanceAs (Decidable (_ ∧ _))
  | field f => inferInstanceAs (Decidable f.WellFormed)

end Line

namespace Block

def fields (b : Block) : List Field := b.lines.flatMap Line.fields

def record (b : Block) : Record :=
  ⟨b.name, b.type, Dictionary.ofList (b.fields.map Field.entry)⟩

def linesText (ls : List Line) : Text := ls.flatMap fun l => l.written ++ "\n"

def body (b : Block) : Text := "\n" ++ linesText b.lines ++ b.closing

def declaration (b : Block) : Declaration := ⟨b.name, b.type, b.body⟩

def text (b : Block) : Text := b.name ++ ": " ++ b.type ++ " = new \x7b" ++ b.body ++ "\x7d"

def opening (b : Block) : Text := if b.isLocal then "local " else ""

def written (b : Block) : Text := b.opening ++ b.text ++ b.gap

@[mk_iff]
structure WellFormed (b : Block) : Prop where
  name : IsWord b.name
  type : IsWord b.type
  lines : ∀ l ∈ b.lines, l.WellFormed
  closing : allBlank b.closing = true
  closing_line : .char '\n' ∉ b.closing
  gap : allBlank b.gap = true

instance (b : Block) : Decidable b.WellFormed := decidable_of_iff _ (wellFormed_iff b).symm

end Block

def Header.written (h : Header) : Text := "module " ++ h.name ++ h.gap

/-- A name that ends in `local` would make the first declaration a local one. -/
@[mk_iff]
structure Header.WellFormed (h : Header) : Prop where
  name : IsWord h.name
  name_local : ¬ ("local" : Text) <:+ h.name
  gap : allBlank h.gap = true

instance (h : Header) : Decidable h.WellFormed := decidable_of_iff _ (Header.wellFormed_iff h).symm

end Layout

/-- A document in parts, `before` being blank text at its head. -/
structure Layout where
  before : Text
  header : Option Layout.Header
  blocks : List Layout.Block
deriving DecidableEq

namespace Layout
open Text

def fields (l : Layout) : List Field := l.blocks.flatMap Block.fields

def objects (l : Layout) : List Record :=
  (l.blocks.filter Block.isLocal).map Block.record ++ l.blocks.map Block.record

def headerText (l : Layout) : Text :=
  match l.header with
  | none => []
  | some h => h.written

def written (l : Layout) : Text := l.before ++ l.headerText ++ l.blocks.flatMap Block.written

/-- Somewhere `module` stands in front of blanks and a word character. -/
def MentionsModule (t : Text) : Prop :=
  ∃ (before gap : Text) (c : CodePoint) (behind : Text),
    t = before ++ "module" ++ gap ++ c :: behind ∧ gap ≠ [] ∧ allBlank gap = true ∧
      isWordChar c = true

structure WellFormed (l : Layout) : Prop where
  before : allBlank l.before = true
  header : ∀ h ∈ l.header, h.WellFormed
  header_gap : ∀ h ∈ l.header, h.gap ≠ [] ∨ l.blocks = []
  no_header : l.header = none → ¬ MentionsModule l.written
  blocks : ∀ b ∈ l.blocks, b.WellFormed

section Lines

variable {f : Field} {l : Line} {ls : List Line} {b : Block}

theorem Field.WellFormed.parse_literal (h : f.WellFormed) :
    Literal.parse f.literal = .ok f.value := by
  unfold Field.value
  cases hparse : Literal.parse f.literal with
  | ok value => rfl
  | error e =>
    obtain ⟨hdigits, hlength, -⟩ := Literal.parse_eq_error_iff.mp hparse
    exact absurd ⟨hdigits, hlength⟩ h.literal_digits

theorem Field.WellFormed.rightSide_ne_nil (h : f.WellFormed) : f.rightSide ≠ [] := by
  unfold Field.rightSide
  split
  · exact List.append_ne_nil_of_left_ne_nil h.literal_ne_nil _
  · exact h.literal_ne_nil

theorem Field.WellFormed.trimmed_rightSide (h : f.WellFormed) : Trimmed f.rightSide := by
  unfold Field.rightSide
  split
  · refine ⟨h.literal_trimmed.starts.append h.literal_ne_nil, ?_⟩
    rw [List.reverse_append]
    exact endsBlanks_cons.mpr (by decide)
  · exact h.literal_trimmed

theorem Field.WellFormed.withoutComma_rightSide (h : f.WellFormed) :
    Body.withoutComma f.rightSide = f.literal := by
  unfold Field.rightSide
  split
  · exact Body.withoutComma_append_comma
  · exact Body.withoutComma_of_getLast?_ne h.literal_comma

theorem Field.WellFormed.lineField?_written (h : f.WellFormed) :
    Body.lineField? f.written = some (f.key, f.literal) := by
  have hspace : allBlank " " = true := by decide
  have hline := Body.lineField?_fieldText h.indent h.key hspace hspace h.trimmed_rightSide
    h.rightSide_ne_nil allBlank_nil
  have hwritten : f.written = f.indent ++ Body.fieldText f.key " " " " f.rightSide ++ [] := by
    unfold Field.written Body.fieldText
    simp only [List.append_assoc, List.append_nil]
    rfl
  rw [hwritten, hline, h.withoutComma_rightSide]

theorem Field.WellFormed.newline_not_mem_written (h : f.WellFormed) : .char '\n' ∉ f.written := by
  have hkey : .char '\n' ∉ f.key := by
    intro hm
    have hword := h.key.isWordChar _ hm
    revert hword
    decide
  have hsign : .char '\n' ∉ (" = " : Text) := by decide
  have hcomma : .char '\n' ∉ ("," : Text) := by decide
  unfold Field.written Field.rightSide
  simp only [List.mem_append, not_or]
  refine ⟨⟨⟨h.indent_line, hkey⟩, hsign⟩, ?_⟩
  split
  · rw [List.mem_append, not_or]
    exact ⟨h.literal_line, hcomma⟩
  · exact h.literal_line

theorem Line.WellFormed.newline_not_mem_written (h : l.WellFormed) : .char '\n' ∉ l.written := by
  cases l with
  | blank blanks => exact h.2
  | field f => exact Field.WellFormed.newline_not_mem_written h

theorem Line.WellFormed.lineEntry_written (h : l.WellFormed) :
    Body.lineEntry l.written = .ok (l.fields.map Field.entry) := by
  cases l with
  | blank blanks =>
    unfold Body.lineEntry Line.written
    rw [Body.lineField?_of_allBlank h.1]
    rfl
  | field f =>
    unfold Body.lineEntry Line.written
    rw [Field.WellFormed.lineField?_written h]
    dsimp only
    rw [Field.WellFormed.parse_literal h]
    rfl

theorem entries_written (h : ∀ l ∈ ls, l.WellFormed) :
    Body.entries (ls.map Line.written) = .ok ((ls.flatMap Line.fields).map Field.entry) := by
  induction ls with
  | nil => rfl
  | cons l ls ih =>
    have hentry := (h l List.mem_cons_self).lineEntry_written
    have hentries := ih fun l' hl' => h l' (List.mem_cons_of_mem l hl')
    rw [List.map_cons, List.flatMap_cons, List.map_append]
    unfold Body.entries
    rw [hentry, hentries]
    rfl

theorem splitLines_linesText {t : Text} (h : ∀ l ∈ ls, l.WellFormed) :
    splitLines (Block.linesText ls ++ t) = ls.map Line.written ++ splitLines t := by
  induction ls with
  | nil => rfl
  | cons l ls ih =>
    have hline := splitOn_eq_singleton (h l List.mem_cons_self).newline_not_mem_written
    have hlines := ih fun l' hl' => h l' (List.mem_cons_of_mem l hl')
    have htext : Block.linesText (l :: ls) ++ t =
        l.written ++ .char '\n' :: (Block.linesText ls ++ t) := by
      unfold Block.linesText
      rw [List.flatMap_cons, List.append_assoc, List.append_assoc]
      rfl
    unfold splitLines at hlines ⊢
    rw [htext, splitOn_append_separator, hline, hlines, List.map_cons]
    rfl

theorem Block.WellFormed.splitLines_body (h : b.WellFormed) :
    splitLines b.body = [] :: (b.lines.map Line.written ++ [b.closing]) := by
  have hlines := splitLines_linesText (t := b.closing) h.lines
  have hclosing : splitLines b.closing = [b.closing] := splitOn_eq_singleton h.closing_line
  have hbody : b.body = .char '\n' :: (Block.linesText b.lines ++ b.closing) := by
    unfold Block.body
    rw [List.append_assoc]
    rfl
  rw [hbody, ← hclosing, ← hlines]
  exact splitOn_cons_separator _ _

theorem Block.WellFormed.entries_body (h : b.WellFormed) :
    Body.entries (splitLines b.body) = .ok (b.fields.map Field.entry) := by
  -- What stands before the first line feed and behind the last are blank lines as well.
  have hlines : ∀ l ∈ .blank [] :: (b.lines ++ [.blank b.closing]), Line.WellFormed l := by
    intro l hl
    rw [List.mem_cons, List.mem_append, List.mem_singleton] at hl
    rcases hl with rfl | hl | rfl
    · exact ⟨rfl, List.not_mem_nil⟩
    · exact h.lines l hl
    · exact ⟨h.closing, h.closing_line⟩
  have hsplit : splitLines b.body =
      (.blank [] :: (b.lines ++ [.blank b.closing])).map Line.written := by
    rw [h.splitLines_body, List.map_cons, List.map_append]
    rfl
  have hfields : (.blank [] :: (b.lines ++ [.blank b.closing])).flatMap Line.fields = b.fields := by
    rw [List.flatMap_cons, List.flatMap_append]
    exact List.append_nil _
  rw [hsplit, entries_written hlines, hfields]

theorem Block.WellFormed.record_declaration (h : b.WellFormed) :
    b.declaration.record = .ok b.record := by
  unfold Declaration.record Body.parse Block.declaration
  dsimp only
  rw [h.entries_body]
  rfl

end Lines

end Layout

end Archimate
