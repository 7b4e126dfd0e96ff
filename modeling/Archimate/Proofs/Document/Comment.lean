import Archimate.Document
import Archimate.Proofs.Document.Found
import Archimate.Proofs.Document.Head
import Archimate.Proofs.Text.Ends
import Mathlib.Data.List.Induction

namespace Archimate
open Text

/-- The first code points that are no blanks are the comment mark. -/
def Body.IsComment (line : Text) : Prop := commentMark <+: trimStart line

instance (line : Text) : Decidable (Body.IsComment line) :=
  inferInstanceAs (Decidable (Body.commentMark <+: trimStart line))

/-- A comment that fills a line between two parts of a text, and the line feed behind it. -/
@[mk_iff]
structure CommentLine (before comment feed after : Text) : Prop where
  starts : before = [] ∨ before.getLast? = some (.char '\n')
  isComment : Body.IsComment comment
  oneLine : .char '\n' ∉ comment
  ends : feed = "\n" ∨ feed = [] ∧ after = []

instance (before comment feed after : Text) : Decidable (CommentLine before comment feed after) :=
  decidable_of_iff _ (commentLine_iff ..).symm

namespace Body

variable {line : Text}

theorem IsComment.exists_indent (h : IsComment line) :
    ∃ indent words, allBlank indent = true ∧ line = indent ++ (commentMark ++ words) := by
  obtain ⟨indent, hindent, hline⟩ := exists_allBlank_append_trimStart line
  obtain ⟨words, hwords⟩ := h
  exact ⟨indent, words, hindent, hwords ▸ hline⟩

theorem commentMark_prefix_trimEnd (words : Text) :
    commentMark <+: trimEnd (commentMark ++ words) := by
  unfold trimEnd dropTail
  rw [List.reverse_append, List.dropWhile_append]
  split
  · exact ⟨[], rfl⟩
  · rw [List.reverse_append]
    exact List.prefix_append _ _

theorem isComment_iff : IsComment line ↔ commentMark <+: trim line := by
  constructor
  · rintro ⟨words, hwords⟩
    unfold trim
    rw [← hwords]
    exact commentMark_prefix_trimEnd words
  · intro h
    exact h.trans (trim_prefix_trimStart line)

theorem IsComment.lineEntry (h : IsComment line) : lineEntry line = .ok [] := by
  have hmark : commentMark.isPrefixOf (trim line) = true := by
    rw [List.isPrefixOf_iff_prefix]
    exact isComment_iff.mp h
  have hfield : lineField? line = none := by
    unfold lineField?
    dsimp only
    rw [hmark, Bool.or_true]
    rfl
  unfold Body.lineEntry
  rw [hfield]

/-- A comment on a line of its own changes nothing of what is read from a body. -/
theorem parse_comment (h : IsComment line) (hline : .char '\n' ∉ line) (before after : Text) :
    parse (before ++ "\n" ++ (line ++ "\n" ++ after)) = parse (before ++ "\n" ++ after) := by
  have hlines : entries (splitLines (line ++ "\n" ++ after)) = entries (splitLines after) := by
    have hsingle : splitLines line = [line] := splitOn_eq_singleton hline
    rw [splitLines_append, hsingle, List.singleton_append, entries, h.lineEntry]
    cases entries (splitLines after) <;> rfl
  unfold parse
  rw [splitLines_append before, splitLines_append before, entries_append, entries_append, hlines]

end Body

section Position

variable {before comment feed after occurrence rest : Text}

/-- What has no slash in it and ends in no blank does not reach into a comment line. -/
theorem CommentLine.prefix_of_append_eq (h : CommentLine before comment feed after)
    (heq : before ++ (comment ++ feed ++ after) = occurrence ++ rest)
    (hslash : .char '/' ∉ occurrence) (hlast : ∀ c ∈ occurrence.getLast?, isBlank c = false) :
    occurrence <+: before := by
  obtain ⟨indent, words, hindent, hcomment⟩ := h.isComment.exists_indent
  rcases List.append_eq_append_iff.mp heq with ⟨reach, rfl, hreach⟩ | ⟨behind, rfl, -⟩
  · -- What reaches beyond `before` can only be blanks of the indent.
    have hblank : allBlank reach = true := by
      rw [hcomment] at hreach
      simp only [List.append_assoc] at hreach
      rcases List.append_eq_append_iff.mp hreach with ⟨mark, rfl, hmark⟩ | ⟨blanks, rfl, -⟩
      · cases mark with
        | nil => rwa [List.append_nil]
        | cons c mark =>
          have hc : .char '/' = c := (List.cons.inj hmark).1
          refine absurd ?_ hslash
          simp [hc]
      · rw [allBlank, List.all_append, Bool.and_eq_true] at hindent
        exact hindent.1
    rcases List.eq_nil_or_concat reach with rfl | ⟨blanks, c, rfl⟩
    · exact ⟨[], by rw [List.append_nil, List.append_nil]⟩
    · have hc : isBlank c = true := allBlank_iff.mp hblank c (by simp)
      have hfalse := hlast c (by simp)
      rw [hc] at hfalse
      cases hfalse
  · exact List.prefix_append _ _

theorem CommentLine.exists_feed {left : Text}
    (h : CommentLine (occurrence ++ left) comment feed after) (hne : occurrence ≠ [])
    (hlast : ∀ c ∈ occurrence.getLast?, isBlank c = false) :
    ∃ lines : Text, left = lines ++ "\n" := by
  have hfeed := h.starts.resolve_left (List.append_ne_nil_of_left_ne_nil hne left)
  rcases List.eq_nil_or_concat left with rfl | ⟨lines, c, rfl⟩
  · rw [List.append_nil] at hfeed
    have hblank := hlast _ hfeed
    rw [isBlank_newline] at hblank
    cases hblank
  · rw [List.concat_eq_append, ← List.append_assoc, List.getLast?_concat] at hfeed
    refine ⟨lines, ?_⟩
    rw [Option.some.inj hfeed, List.concat_eq_append]
    rfl

/-- A body that ends behind a place reaches from one side of it to the other. -/
theorem exists_tail_of_append_eq {front body : Text}
    (heq : front ++ after = body ++ "\x7d" ++ rest) (hrest : rest.length < after.length) :
    ∃ tail : Text, body = front ++ tail ∧ after = tail ++ "\x7d" ++ rest := by
  rcases List.append_eq_append_iff.mp heq with ⟨tail, htail, hafter⟩ | ⟨behind, -, hbehind⟩
  · rcases List.eq_nil_or_concat tail with rfl | ⟨tail, c, rfl⟩
    · rw [hafter] at hrest
      exact absurd hrest (Nat.lt_irrefl _)
    · rw [List.concat_eq_append] at htail hafter
      rw [← List.append_assoc] at htail
      obtain ⟨hbody, hc⟩ := List.append_inj' htail rfl
      exact ⟨tail, hbody, by rw [hafter, ← hc]⟩
  · have hlength := congrArg List.length hbehind
    rw [List.length_append] at hlength
    omega

end Position

namespace Declaration.Braced

variable {f : Form Declaration} {Head : Text → Text → Text → Prop} {d : Declaration}
  {before comment feed after rest : Text}

theorem read?_append (hf : Braced f Head) {occurrence : Text}
    (h : f.read? (occurrence ++ rest) = some (d, rest)) (behind : Text) :
    f.read? (occurrence ++ behind) = some (d, behind) := by
  obtain ⟨head, hhead, heq, hbody⟩ := hf.read?_iff.mp h
  rw [← List.append_assoc] at heq
  rw [List.append_cancel_right heq]
  exact hf.read?_iff.mpr ⟨head, hhead, List.append_assoc _ _ _, hbody⟩

theorem isBlank_of_opening (head : Text) :
    ∀ c ∈ (head ++ ("\x7b" : Text)).getLast?, isBlank c = false := by
  have hlast : (head ++ ("\x7b" : Text)).getLast? = some (.char '\x7b') := List.getLast?_concat
  intro c hc
  rw [hlast] at hc
  obtain rfl := Option.some.inj hc
  decide

theorem prefix_of_read? (hf : Braced f Head) (h : CommentLine before comment feed after)
    {name type head inside : Text} (hhead : Head name type head)
    (heq : before ++ (comment ++ feed ++ after) = head ++ "\x7b" ++ inside) :
    head ++ ("\x7b" : Text) <+: before := by
  apply h.prefix_of_append_eq heq
  · rw [List.mem_append, not_or]
    exact ⟨hf.slash hhead, by decide⟩
  · exact isBlank_of_opening head

/-- A declaration that begins before the comment line and ends behind it is read without it too,
and means the same. -/
theorem read?_without (hf : Braced f Head) (h : CommentLine before comment feed after)
    (hread : f.read? (before ++ (comment ++ feed ++ after)) = some (d, rest))
    (hrest : rest.length < after.length) :
    ∃ d', f.read? (before ++ after) = some (d', rest) ∧ d'.record = d.record := by
  obtain ⟨head, hhead, heq, hne, hclosing⟩ := hf.read?_iff.mp hread
  -- The body is open where the line begins, so the whole line lies in it.
  obtain ⟨inside, rfl⟩ := hf.prefix_of_read? h hhead heq
  obtain ⟨lines, rfl⟩ := h.exists_feed (List.concat_ne_nil _ head) (isBlank_of_opening head)
  rw [List.append_assoc (head ++ _)] at heq
  have hinside := List.append_cancel_left heq
  have hfeed : feed = "\n" := by
    refine h.ends.resolve_right fun hnil => ?_
    rw [hnil.2] at hrest
    exact Nat.not_lt_zero _ hrest
  subst hfeed
  rw [← List.append_assoc] at hinside
  obtain ⟨tail, hbody, rfl⟩ := exists_tail_of_append_eq hinside hrest
  have hparse : Body.parse (lines ++ "\n" ++ tail) = Body.parse d.body := by
    rw [hbody, List.append_assoc (lines ++ _)]
    exact (Body.parse_comment h.isComment h.oneLine lines tail).symm
  refine ⟨⟨d.name, d.type, lines ++ "\n" ++ tail⟩, ?_, ?_⟩
  · refine hf.read?_iff.mpr ⟨head, hhead, ?_, ?_, ?_⟩
    · simp only [List.append_assoc]
    · exact List.append_ne_nil_of_left_ne_nil (List.concat_ne_nil _ lines) tail
    · rw [hbody] at hclosing
      simp only [List.mem_append, not_or] at hclosing ⊢
      exact ⟨hclosing.1.1, hclosing.2⟩
  · unfold Declaration.record
    rw [hparse]

/-- A declaration that opens its body before the comment line is read with the line too, though the
line may close the body. -/
theorem read?_with (hf : Braced f Head) (h : CommentLine before comment feed after)
    (hread : f.read? (before ++ after) = some (d, rest)) (hrest : rest.length < after.length)
    (hopening : after.length ≤ d.body.length + 1 + rest.length) :
    f.read? (before ++ (comment ++ feed ++ after)) ≠ none := by
  obtain ⟨head, hhead, heq, -, hclosing⟩ := hf.read?_iff.mp hread
  have hbefore : head ++ ("\x7b" : Text) <+: before := by
    apply List.prefix_of_prefix_length_le (heq ▸ List.prefix_append _ _)
      (List.prefix_append _ after)
    have hlength := congrArg List.length heq
    simp only [List.length_append] at hlength ⊢
    have hbrace : ("\x7d" : Text).length = 1 := rfl
    omega
  obtain ⟨inside, rfl⟩ := hbefore
  obtain ⟨lines, rfl⟩ := h.exists_feed (List.concat_ne_nil _ head) (isBlank_of_opening head)
  rw [List.append_assoc (head ++ _)] at heq
  obtain ⟨tail, hbody, rfl⟩ := exists_tail_of_append_eq (List.append_cancel_left heq) hrest
  -- The first closing brace behind the opening one stands in the line or behind it.
  have hmem : .char '\x7d' ∈ comment ++ feed ++ (tail ++ "\x7d" ++ rest) := by
    apply List.mem_append_right
    rw [List.append_assoc]
    exact List.mem_append_right tail List.mem_cons_self
  obtain ⟨front, behind, hfirst, hfront⟩ := List.eq_append_cons_of_mem hmem
  have hinside : f.read? (head ++ "\x7b" ++ (lines ++ "\n") ++
      (comment ++ feed ++ (tail ++ "\x7d" ++ rest))) =
      some (⟨d.name, d.type, lines ++ "\n" ++ front⟩, behind) := by
    refine hf.read?_iff.mpr ⟨head, hhead, ?_, ?_, ?_⟩
    · rw [hfirst]
      simp only [List.append_assoc]
      rfl
    · exact List.append_ne_nil_of_left_ne_nil (List.concat_ne_nil _ lines) front
    · rw [hbody, List.mem_append, not_or] at hclosing
      rw [List.mem_append, not_or]
      exact ⟨hclosing.1, hfront⟩
  rw [hinside]
  exact Option.some_ne_none _

end Declaration.Braced

end Archimate
