import Archimate.Proofs.Document.Grammar

namespace Archimate.Declaration
open Text

variable {t rest name type head : Text} {d : Declaration}

/-- What a plain declaration looks like up to its opening brace. -/
def HeadText (name type head : Text) : Prop :=
  ∃ gap gap₁ gap₂ gap₃ : Text, allBlank gap = true ∧ allBlank gap₁ = true ∧
    allBlank gap₂ = true ∧ allBlank gap₃ = true ∧
    head = name ++ ":" ++ gap ++ type ++ gap₁ ++ "=" ++ gap₂ ++ "new" ++ gap₃ ∧
    IsWord name ∧ IsWord type

/-- The same for a local declaration. -/
def LocalHeadText (name type head : Text) : Prop :=
  ∃ gap plain : Text, gap ≠ [] ∧ allBlank gap = true ∧ head = "local" ++ gap ++ plain ∧
    HeadText name type plain

/-- A form of declarations whose heads look like this. -/
structure Braced (f : Form Declaration) (Head : Text → Text → Text → Prop) : Prop where
  read?_iff : ∀ {t rest : Text} {d : Declaration}, f.read? t = some (d, rest) ↔
    ∃ head, Head d.name d.type head ∧ t = head ++ "\x7b" ++ (d.body ++ "\x7d" ++ rest) ∧
      d.body ≠ [] ∧ .char '\x7d' ∉ d.body
  slash : ∀ {name type head : Text}, Head name type head → .char '/' ∉ head

theorem declarationText_iff : DeclarationText d t ↔
    ∃ head, HeadText d.name d.type head ∧ t = head ++ "\x7b" ++ d.body ++ "\x7d" ∧
      d.body ≠ [] ∧ .char '\x7d' ∉ d.body := by
  constructor
  · rintro ⟨gap, value, hgap, rfl, hname, htype, gap₁, gap₂, gap₃, hgap₁, hgap₂, hgap₃, rfl, hbody⟩
    refine ⟨_, ⟨gap, gap₁, gap₂, gap₃, hgap, hgap₁, hgap₂, hgap₃, rfl, hname, htype⟩, ?_, hbody⟩
    simp only [List.append_assoc]
  · rintro ⟨head, ⟨gap, gap₁, gap₂, gap₃, hgap, hgap₁, hgap₂, hgap₃, rfl, hname, htype⟩, rfl, hbody⟩
    refine ⟨gap, _, hgap, ?_, hname, htype, gap₁, gap₂, gap₃, hgap₁, hgap₂, hgap₃, rfl, hbody⟩
    simp only [List.append_assoc]

theorem slash_not_mem_of_allBlank (h : allBlank t = true) : .char '/' ∉ t :=
  not_mem_of_forall (allBlank_iff.mp h) (by decide)

theorem slash_not_mem_of_isWord (h : IsWord t) : .char '/' ∉ t :=
  not_mem_of_forall h.isWordChar (by decide)

theorem HeadText.slash (h : HeadText name type head) : .char '/' ∉ head := by
  obtain ⟨gap, gap₁, gap₂, gap₃, hgap, hgap₁, hgap₂, hgap₃, rfl, hname, htype⟩ := h
  have hcolon : .char '/' ∉ (":" : Text) := by decide
  have hequals : .char '/' ∉ ("=" : Text) := by decide
  have hnew : .char '/' ∉ ("new" : Text) := by decide
  simp only [List.mem_append, not_or]
  exact ⟨⟨⟨⟨⟨⟨⟨⟨slash_not_mem_of_isWord hname, hcolon⟩, slash_not_mem_of_allBlank hgap⟩,
    slash_not_mem_of_isWord htype⟩, slash_not_mem_of_allBlank hgap₁⟩, hequals⟩,
    slash_not_mem_of_allBlank hgap₂⟩, hnew⟩, slash_not_mem_of_allBlank hgap₃⟩

theorem LocalHeadText.slash (h : LocalHeadText name type head) : .char '/' ∉ head := by
  obtain ⟨gap, plain, -, hgap, rfl, hplain⟩ := h
  have hlocal : .char '/' ∉ ("local" : Text) := by decide
  simp only [List.mem_append, not_or]
  exact ⟨⟨hlocal, slash_not_mem_of_allBlank hgap⟩, hplain.slash⟩

theorem braced_form : Braced form HeadText where
  slash := HeadText.slash
  read?_iff := by
    intro t rest d
    simp only [form, read?_eq_some_iff, declarationText_iff]
    constructor
    · rintro ⟨_, rfl, head, hhead, rfl, hbody⟩
      refine ⟨head, hhead, ?_, hbody⟩
      simp only [List.append_assoc]
    · rintro ⟨head, hhead, rfl, hbody⟩
      refine ⟨_, ?_, head, hhead, rfl, hbody⟩
      simp only [List.append_assoc]

theorem braced_localForm : Braced localForm LocalHeadText where
  slash := LocalHeadText.slash
  read?_iff := by
    intro t rest d
    simp only [localForm, readLocal?_eq_some_iff, declarationText_iff]
    constructor
    · rintro ⟨gap, _, rfl, hne, hgap, plain, hplain, rfl, hbody⟩
      refine ⟨_, ⟨gap, plain, hne, hgap, rfl, hplain⟩, ?_, hbody⟩
      simp only [List.append_assoc]
    · rintro ⟨_, ⟨gap, plain, hne, hgap, rfl, hplain⟩, rfl, hbody⟩
      refine ⟨gap, _, ?_, hne, hgap, plain, hplain, rfl, hbody⟩
      simp only [List.append_assoc]

end Archimate.Declaration
