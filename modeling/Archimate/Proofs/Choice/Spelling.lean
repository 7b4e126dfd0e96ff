import Archimate.Json.Model
import Archimate.Proofs.Dictionary
import Archimate.Proofs.Text.Ends
import Mathlib.Data.List.Forall2
import Mathlib.Data.List.Nodup

namespace Archimate.Choice

open Text

def letters : List Char := "ABCDEFGHIJKLMNOPQRSTUVWXYZ".toList

def labelChars : List Char := '_' :: letters

/-- The ways in which one character of a label may be written. -/
def spellings (c : Char) : Text :=
  if c = '_' then ['_', ' ', '-'] else [.char c, .char c.toLower]

/-- Capital letters and underscores, with a letter at either end. -/
@[mk_iff]
structure IsLabel (label : String) : Prop where
  chars : label.toList.all (· ∈ labelChars) = true
  starts : label.toList.head?.any (· ∈ letters) = true
  stops : label.toList.getLast?.any (· ∈ letters) = true

/-- A label rewritten character by character. -/
def Respells (label : String) (word : Text) : Prop :=
  List.Forall₂ (fun c d => d ∈ spellings c) label.toList word

/-- A label rewritten, bare or behind a qualifier and a dot, with blanks around the whole. -/
inductive Spells (label : String) : Text → Prop
  | bare {before word after : Text} (hbefore : allBlank before = true)
      (hword : Respells label word) (hafter : allBlank after = true) :
      Spells label (before ++ word ++ after)
  | qualified {before word after : Text} (qualifier : Text) (hbefore : allBlank before = true)
      (hword : Respells label word) (hafter : allBlank after = true) :
      Spells label (before ++ (qualifier ++ "." ++ word) ++ after)

instance (label : String) : Decidable (IsLabel label) := decidable_of_iff _ (isLabel_iff label).symm

instance (label : String) (word : Text) : Decidable (Respells label word) :=
  inferInstanceAs (Decidable (List.Forall₂ _ _ _))

section Characters

variable {c : Char} {cs : List Char} {word : Text}

theorem upperOf_joinWords_of_mem_spellings {d : CodePoint} (hc : c ∈ labelChars)
    (hd : d ∈ spellings c) : upperOf (joinWords d) = [.char c] := by
  -- No label goes beyond this alphabet, so the case tables are never consulted here.
  have hall : (labelChars.all fun c => (spellings c).all fun d =>
      upperOf (joinWords d) == [.char c]) = true := by decide
  exact beq_iff_eq.mp (List.all_eq_true.mp (List.all_eq_true.mp hall c hc) d hd)

theorem isBlank_of_mem_spellings {d : CodePoint} (hc : c ∈ letters) (hd : d ∈ spellings c) :
    isBlank d = false := by
  have hall : (letters.all fun c => (spellings c).all fun d => !isBlank d) = true := by decide
  simpa using List.all_eq_true.mp (List.all_eq_true.mp hall c hc) d hd

theorem toLower_mem_spellings (hc : c ∈ labelChars) : .char c.toLower ∈ spellings c := by
  have hall : (labelChars.all fun c => .char c.toLower ∈ spellings c) = true := by decide
  exact of_decide_eq_true (List.all_eq_true.mp hall c hc)

theorem dot_not_mem_labelChars : '.' ∉ labelChars := by decide

theorem upper_map_joinWords (hcs : ∀ c ∈ cs, c ∈ labelChars)
    (h : List.Forall₂ (fun c d => d ∈ spellings c) cs word) :
    upper (word.map joinWords) = ofChars cs := by
  induction h with
  | nil => rfl
  | @cons c d cs word hd _ ih =>
    obtain ⟨hc, hcs⟩ := List.forall_mem_cons.mp hcs
    have hfirst := upperOf_joinWords_of_mem_spellings hc hd
    calc upper ((d :: word).map joinWords)
        = upperOf (joinWords d) ++ upper (word.map joinWords) := List.flatMap_cons
      _ = ofChars (c :: cs) := by rw [hfirst, ih hcs]; rfl

theorem endsBlanks_of_letter (hcs : cs.head?.any (· ∈ letters) = true)
    (h : List.Forall₂ (fun c d => d ∈ spellings c) cs word) : EndsBlanks word := by
  cases h with
  | nil => cases hcs
  | cons hd _ => exact endsBlanks_cons.mpr (isBlank_of_mem_spellings (of_decide_eq_true hcs) hd)

end Characters

section Words

variable {label : String} {word t : Text}

theorem IsLabel.mem_labelChars (hlabel : IsLabel label) : ∀ c ∈ label.toList, c ∈ labelChars :=
  fun c hc => of_decide_eq_true (List.all_eq_true.mp hlabel.chars c hc)

theorem IsLabel.dot_not_mem (hlabel : IsLabel label) : CodePoint.char '.' ∉ (label : Text) := by
  intro h
  obtain ⟨c, hc, hdot⟩ := List.mem_map.mp h
  cases hdot
  exact dot_not_mem_labelChars (hlabel.mem_labelChars _ hc)

theorem Respells.trimmed (hlabel : IsLabel label) (h : Respells label word) : Trimmed word := by
  have hstops : label.toList.reverse.head?.any (· ∈ letters) = true := by
    rw [List.head?_reverse]
    exact hlabel.stops
  exact ⟨endsBlanks_of_letter hlabel.starts h,
    endsBlanks_of_letter hstops (List.forall₂_reverse_iff.mpr h)⟩

theorem Respells.ne_nil (hlabel : IsLabel label) (h : Respells label word) : word ≠ [] := by
  rintro rfl
  have hstarts := hlabel.starts
  rw [List.forall₂_nil_right_iff.mp h] at hstarts
  cases hstarts

theorem Respells.upper_eq (hlabel : IsLabel label) (h : Respells label word) :
    upper (word.map joinWords) = label :=
  upper_map_joinWords hlabel.mem_labelChars h

theorem respells_toLower (hlabel : IsLabel label) : Respells label label.toLower := by
  have hlower : (label.toLower : Text) = label.toList.map fun c => .char c.toLower := by
    show ofChars (label.map Char.toLower).toList = _
    rw [String.toList_map, ofChars, List.map_map]
    rfl
  rw [hlower]
  apply List.forall₂_map_right_iff.mpr
  exact List.forall₂_same.mpr fun c hc => toLower_mem_spellings (hlabel.mem_labelChars c hc)

/-- Every spelling of a label is compared as the label itself. -/
theorem Spells.canonical_eq (hlabel : IsLabel label) (h : Spells label t) :
    canonical t = label := by
  unfold canonical
  cases h with
  | bare hbefore hword hafter =>
    rw [trim_append_of_trimmed hbefore (hword.trimmed hlabel) (hword.ne_nil hlabel) hafter,
      hword.upper_eq hlabel, afterLast_of_not_mem hlabel.dot_not_mem]
  | @qualified before word after qualifier hbefore hword hafter =>
    have hsplit : before ++ (qualifier ++ "." ++ word) ++ after =
        before ++ qualifier ++ .char '.' :: word ++ after := by
      simp [ofString, ofChars]
    -- The qualifier may begin with blanks of its own, and those go as well.
    rw [hsplit, trim_append_cons_of_trimmed (by decide) (hword.trimmed hlabel)
      (hword.ne_nil hlabel) hafter, List.map_append, List.map_cons, upper_append]
    have hdot : upper (joinWords (.char '.') :: word.map joinWords) =
        .char '.' :: (label : Text) := by
      show CodePoint.char '.' :: upper (word.map joinWords) = _
      rw [hword.upper_eq hlabel]
    rw [hdot, afterLast_append _ hlabel.dot_not_mem]

end Words

/-- A choice whose members are all listed and have labels of their own. -/
class LawfulChoice (α : Type) [Choice α] : Prop where
  mem_members : ∀ a : α, a ∈ members
  label_injective : Function.Injective (label : α → String)
  isLabel_label : ∀ a : α, IsLabel (label a)

section Members

variable {α : Type} [Choice α] {a b : α} {t : Text}

theorem LawfulChoice.of_nodup (hmem : ∀ a : α, a ∈ members)
    (hnodup : ((members : List α).map label).Nodup)
    (hlabel : ∀ a ∈ (members : List α), IsLabel (label a)) : LawfulChoice α where
  mem_members := hmem
  label_injective a b h := List.inj_on_of_nodup_map hnodup (hmem a) (hmem b) h
  isLabel_label a := hlabel a (hmem a)

variable [LawfulChoice α]

theorem ofLabel?_label (a : α) : ofLabel? (label a : Text) = some a := by
  refine find?_eq_some_of_unique (LawfulChoice.mem_members a) ?_ ?_
  · exact beq_self_eq_true (label a : Text)
  · intro b _ hlabel
    exact LawfulChoice.label_injective (ofString_inj.mp (beq_iff_eq.mp hlabel))

theorem ofText?_of_spells (h : Spells (label a) t) : ofText? t = some a := by
  rw [ofText?, h.canonical_eq (LawfulChoice.isLabel_label a), ofLabel?_label]

theorem eq_of_spells (ha : Spells (label a) t) (hb : Spells (label b) t) : a = b := by
  have h := ofText?_of_spells ha
  rw [ofText?_of_spells hb] at h
  exact (Option.some.inj h).symm

theorem spells_value (a : α) : Spells (label a) (value a : Text) := by
  have h : Spells (label a) ([] ++ (value a : Text) ++ []) :=
    .bare allBlank_nil (respells_toLower (LawfulChoice.isLabel_label a)) allBlank_nil
  rwa [List.nil_append, List.append_nil] at h

end Members

/-- Every spelling of a member's label chooses that member whatever the default is, no text spells
two members, and what is sent for a member chooses the member again. -/
structure SpellingTolerant (α : Type) [Choice α] : Prop where
  chosen : ∀ (a : α) (t : Text), Spells (label a) t →
    ∀ default : Option α, (ofLiteral? (some (.text t))).or default = some a
  read : ∀ (a : α) (t : Text), Spells (label a) t → ∀ (r : Record) (key : Text) (default : α),
    r.value? key = some (.text t) → Detail.choiceOr r key default = a
  apart : ∀ (a b : α) (t : Text), Spells (label a) t → Spells (label b) t → a = b
  sent : ∀ a : α, (Attribute.member a).toJson = .string (value a) ∧
    ∀ default : Option α, (ofLiteral? (some (.text (value a)))).or default = some a

theorem spellingTolerant_of_lawful (α : Type) [Choice α] [LawfulChoice α] : SpellingTolerant α := by
  have hchosen : ∀ (a : α) (t : Text), Spells (label a) t →
      ofLiteral? (some (.text t)) = some a := fun a t h => ofText?_of_spells h
  refine ⟨?_, ?_, fun a b t => eq_of_spells, ?_⟩
  · intro a t h default
    rw [hchosen a t h]
    rfl
  · intro a t h r key default hvalue
    rw [Detail.choiceOr, hvalue, hchosen a t h]
    rfl
  · intro a
    refine ⟨rfl, fun default => ?_⟩
    rw [hchosen a _ (spells_value a)]
    rfl

section Kinds

instance : LawfulChoice ActorType :=
  .of_nodup (by intro a; cases a <;> decide) (by decide) (by decide +kernel)

instance : LawfulChoice ProcessType :=
  .of_nodup (by intro a; cases a <;> decide) (by decide) (by decide +kernel)

instance : LawfulChoice ApplicationStereotype :=
  .of_nodup (by intro a; cases a <;> decide) (by decide) (by decide +kernel)

instance : LawfulChoice Lifecycle :=
  .of_nodup (by intro a; cases a <;> decide) (by decide) (by decide +kernel)

instance : LawfulChoice ComponentType :=
  .of_nodup (by intro a; cases a <;> decide) (by decide) (by decide +kernel)

instance : LawfulChoice InterfaceType :=
  .of_nodup (by intro a; cases a <;> decide) (by decide) (by decide +kernel)

instance : LawfulChoice NodeType :=
  .of_nodup (by intro a; cases a <;> decide) (by decide) (by decide +kernel)

instance : LawfulChoice ServiceCategory :=
  .of_nodup (by intro a; cases a <;> decide) (by decide) (by decide +kernel)

instance : LawfulChoice ArtifactType :=
  .of_nodup (by intro a; cases a <;> decide) (by decide) (by decide +kernel)

instance : LawfulChoice SoftwareType :=
  .of_nodup (by intro a; cases a <;> decide) (by decide) (by decide +kernel)

instance : LawfulChoice RelationshipType :=
  .of_nodup (by intro a; cases a <;> decide) (by decide) (by decide +kernel)

instance : LawfulChoice RelationshipCategory :=
  .of_nodup (by intro a; cases a <;> decide) (by decide) (by decide +kernel)

instance : LawfulChoice FlowType :=
  .of_nodup (by intro a; cases a <;> decide) (by decide) (by decide +kernel)

instance : LawfulChoice AccessType :=
  .of_nodup (by intro a; cases a <;> decide) (by decide) (by decide +kernel)

/-- The choices that elements and relationships offer. -/
theorem spellings_tolerated :
    SpellingTolerant ActorType ∧ SpellingTolerant ProcessType ∧
      SpellingTolerant ApplicationStereotype ∧ SpellingTolerant Lifecycle ∧
      SpellingTolerant ComponentType ∧ SpellingTolerant InterfaceType ∧
      SpellingTolerant NodeType ∧ SpellingTolerant ServiceCategory ∧
      SpellingTolerant ArtifactType ∧ SpellingTolerant SoftwareType ∧
      SpellingTolerant RelationshipType ∧ SpellingTolerant RelationshipCategory ∧
      SpellingTolerant FlowType ∧ SpellingTolerant AccessType := by
  refine ⟨?_, ?_, ?_, ?_, ?_, ?_, ?_, ?_, ?_, ?_, ?_, ?_, ?_, ?_⟩ <;>
    exact spellingTolerant_of_lawful _

theorem spellings_tolerated_read_write :
    ∀ default : Option AccessType,
      (ofLiteral? (some (.text
        ("\n" ++ (" Straße.1" ++ "." ++ "Read-wRITE") ++ "  ")))).or default =
          some .readWrite := by
  obtain ⟨-, -, -, -, -, -, -, -, -, -, -, -, -, haccess⟩ := spellings_tolerated
  have hword : Respells (label AccessType.readWrite) "Read-wRITE" := by decide
  exact haccess.chosen .readWrite _ (.qualified " Straße.1" (by decide) hword (by decide))

end Kinds

end Archimate.Choice
