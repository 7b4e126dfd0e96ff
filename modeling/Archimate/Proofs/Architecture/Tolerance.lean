import Archimate.Architecture
import Archimate.Failure
import Archimate.Proofs.Architecture.Checked
import Archimate.Proofs.Document.Grammar
import Archimate.Proofs.Document.Line
import Archimate.Proofs.Document.Overlong

namespace Archimate

/-- The built architecture with the verdicts on it and on its relationships. -/
def Checked.judged (built : Except Unwritable Architecture) :
    Except Unwritable (Architecture × Verdict × Verdict) :=
  built.map fun a => (a, a.validate, Relationships.validate a.relationships)

namespace Document
open Text

/-- Some field line of a declaration that a scan finds holds a literal that is too long. -/
def HasOverlong (text : Text) : Prop :=
  ∃ d ∈ declarations text, ∃ line ∈ splitLines d.body, ∃ key literal,
    Body.lineField? line = some (key, literal) ∧
      literal.all isDigit = true ∧ digitLimit < literal.length

theorem hasOverlong_iff {text : Text} :
    HasOverlong text ↔ ∃ literal ∈ literals text, Literal.Overlong literal := by
  simp only [mem_literals]
  constructor
  · rintro ⟨d, hd, line, hline, key, literal, hfield, hlong⟩
    exact ⟨literal, ⟨d, hd, line, hline, key, hfield⟩, hlong⟩
  · rintro ⟨literal, ⟨d, hd, line, hline, key, hfield⟩, hlong⟩
    exact ⟨d, hd, line, hline, key, literal, hfield, hlong⟩

instance (text : Text) : Decidable (HasOverlong text) := decidable_of_iff _ hasOverlong_iff.symm

/-- Reading fails exactly on a text with a literal that is too long, with the error about the first
one. What is made of documents that were read, and the verdicts on it, never fail. -/
theorem fails_only_on_overlong_literals :
    (∀ text source : Text,
      ((∃ e, parse text source = .error e ∧ (Failure.ofLiteral e).kind = "ValueError") ↔
        HasOverlong text) ∧
      (¬ HasOverlong text → ∃ d, parse text source = .ok d) ∧
      ∀ e, parse text source = .error e ↔ firstOverlong (literals text) = some e) ∧
    (∀ d : Document, d.IsRead →
      Checked.judged (Checked.ofDocument d) =
        .ok (.ofDocument d, (Architecture.ofDocument d).validate,
          Relationships.validate (Architecture.ofDocument d).relationships)) ∧
    ∀ business application technology : List Document,
      (∀ d ∈ business ++ application ++ technology, d.IsRead) →
        Checked.judged (Checked.merge business application technology) =
          .ok (.merge business application technology,
            (Architecture.merge business application technology).validate,
            Relationships.validate
              (Architecture.merge business application technology).relationships) := by
  refine ⟨fun text source => ⟨?_, ?_, fun e => parse_eq_error_iff⟩, ?_, ?_⟩
  · constructor
    · rintro ⟨e, herror, -⟩
      by_contra hnone
      rw [hasOverlong_iff] at hnone
      push Not at hnone
      obtain ⟨d, hd⟩ := exists_parse_eq_ok_iff.mpr hnone
      rw [hd] at herror
      cases herror
    · intro hlong
      cases hparse : parse text source with
      | error e => exact ⟨e, rfl, rfl⟩
      | ok d =>
        obtain ⟨literal, hliteral, hover⟩ := hasOverlong_iff.mp hlong
        exact absurd hover (exists_parse_eq_ok_iff.mp ⟨d, hparse⟩ literal hliteral)
  · intro hnone
    apply exists_parse_eq_ok_iff.mpr
    intro literal hliteral hover
    exact hnone (hasOverlong_iff.mpr ⟨literal, hliteral, hover⟩)
  · intro d hd
    rw [Checked.ofDocument_eq_ok hd]
    rfl
  · intro business application technology h
    rw [Checked.merge_eq_ok h]
    rfl

def ones (count : Nat) : Text := List.replicate count (.char '1')

def onesText (count : Nat) : Text :=
  "a: B = new \x7b" ++ Body.fieldText "x" " " " " (ones count) ++ "\x7d"

theorem eq_of_mem_ones {count : Nat} {c : CodePoint} (h : c ∈ ones count) : c = .char '1' :=
  List.eq_of_mem_replicate h

theorem not_mem_fieldText_ones {count : Nat} {c : CodePoint} (hhead : c ∉ ("x = " : Text))
    (hones : c ≠ .char '1') : c ∉ Body.fieldText "x" " " " " (ones count) := by
  intro hm
  have hm : c ∈ ("x = " : Text) ++ ones count := hm
  rcases List.mem_append.mp hm with hm | hm
  · exact hhead hm
  · exact hones (eq_of_mem_ones hm)

theorem mem_declarations_onesText (count : Nat) :
    ⟨"a", "B", Body.fieldText "x" " " " " (ones count)⟩ ∈ declarations (onesText count) := by
  have hbrace : .char '\x7d' ∉ Body.fieldText "x" " " " " (ones count) :=
    not_mem_fieldText_ones (by decide) (by decide)
  have hspace : allBlank " " = true := by decide
  have hread : Declaration.form.read? (onesText count) =
      some (⟨"a", "B", Body.fieldText "x" " " " " (ones count)⟩, []) := by
    refine Declaration.read?_eq_some_iff.mpr ⟨_, (List.append_nil _).symm, " ", _, hspace, rfl,
      by dsimp only; decide, by dsimp only; decide, " ", " ", " ", hspace, hspace, hspace, rfl, ?_,
      hbrace⟩
    exact List.cons_ne_nil _ _
  apply List.mem_append_right
  rw [Form.scan_of_read hread]
  exact List.mem_cons_self

theorem hasOverlong_onesText {count : Nat} (h : digitLimit < count) :
    HasOverlong (onesText count) := by
  have hne : ones count ≠ [] := by
    intro hnil
    have hzero : count = 0 := List.replicate_eq_nil_iff _ |>.mp hnil
    rw [hzero] at h
    exact absurd h (Nat.not_lt_zero _)
  have hends : EndsBlanks (ones count) := by
    intro c hc
    rw [eq_of_mem_ones (List.mem_of_mem_head? hc)]
    decide
  have htrimmed : Trimmed (ones count) := by
    refine ⟨hends, ?_⟩
    unfold ones at hends ⊢
    rwa [List.reverse_replicate]
  have hnil : allBlank ([] : Text) = true := allBlank_nil
  have hfield := Body.lineField?_fieldText hnil
    (by decide : IsWord "x") (by decide : allBlank " " = true) (by decide : allBlank " " = true)
    htrimmed hne hnil
  have hcomma : (ones count).getLast? ≠ some (.char ',') := by
    intro hlast
    exact absurd (eq_of_mem_ones (List.mem_of_getLast? hlast)) (by decide)
  rw [List.nil_append, List.append_nil, Body.withoutComma_of_getLast?_ne hcomma] at hfield
  have hline : splitLines (Body.fieldText "x" " " " " (ones count)) =
      [Body.fieldText "x" " " " " (ones count)] :=
    splitOn_eq_singleton (not_mem_fieldText_ones (by decide) (by decide))
  refine ⟨_, mem_declarations_onesText count, _, ?_, _, _, hfield, ?_, ?_⟩
  · rw [hline]
    exact List.mem_singleton.mpr rfl
  · apply List.all_eq_true.mpr
    intro c hc
    rw [eq_of_mem_ones hc]
    decide
  · rwa [ones, List.length_replicate]

/-- A relationship with a number and a map for its ends. -/
def oddEnds : Document where
  moduleName := none
  source := "odd.pkl"
  objects := [⟨"r", "Relationship", .ofList [("uid", .text "r"), ("source", .whole 7),
    ("target", .map (.ofList [("a", .text "b")]))]⟩]

def oddEndsText : Text :=
  "r: Relationship = new \x7buid = \"r\"\nsource = 7\ntarget = Map(\"a\", \"b\")\x7d"

theorem fails_only_on_overlong_literals_instance :
    (∃ e, parse (onesText 4301) "ones.pkl" = .error e ∧
        (Failure.ofLiteral e).kind = "ValueError") ∧
      ¬ HasOverlong oddEndsText ∧ (∃ d, parse oddEndsText "odd.pkl" = .ok d) ∧
      oddEnds.IsRead ∧
      Checked.judged (Checked.ofDocument oddEnds) = .ok (.ofDocument oddEnds,
        (Architecture.ofDocument oddEnds).validate,
        Relationships.validate (Architecture.ofDocument oddEnds).relationships) ∧
      Checked.judged (Checked.merge [oddEnds] [] [oddEnds]) =
        .ok (.merge [oddEnds] [] [oddEnds], (Architecture.merge [oddEnds] [] [oddEnds]).validate,
          Relationships.validate (Architecture.merge [oddEnds] [] [oddEnds]).relationships) ∧
      (Architecture.ofDocument oddEnds).relationships.map (fun r => (r.source, r.target)) =
        [⟨"7", "\x7b'a': 'b'\x7d"⟩] := by
  obtain ⟨hread, hdocument, hmerge⟩ := fails_only_on_overlong_literals
  have hshort : ¬ HasOverlong oddEndsText := by decide +kernel
  have hodd : oddEnds.IsRead := ⟨oddEndsText, "odd.pkl", by decide +kernel⟩
  have hall : ∀ d ∈ [oddEnds] ++ [] ++ [oddEnds], d.IsRead := by
    intro d hd
    have hd : d ∈ [oddEnds, oddEnds] := hd
    simp only [List.mem_cons, List.not_mem_nil, or_false, or_self] at hd
    exact hd ▸ hodd
  exact ⟨(hread _ _).1.mpr (hasOverlong_onesText (by decide)), hshort, (hread _ _).2.1 hshort, hodd,
    hdocument oddEnds hodd, hmerge _ _ _ hall, by decide +kernel⟩

end Document

end Archimate
