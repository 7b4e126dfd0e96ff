import Archimate.Document
import Archimate.Proofs.Document.Scan

namespace Archimate

/-- An occurrence, and the text between it and the occurrence before. -/
structure Piece (α : Type) where
  gap : Text
  value : α
  text : Text

namespace Form

variable {α : Type} {form : Form α} {Looks : α → Text → Prop}
  {t gap rest last last' : Text} {pieces pieces' : List (Piece α)}

/-- The form is found at the head of a text exactly when the text begins with what looks so. -/
def Reads (form : Form α) (Looks : α → Text → Prop) : Prop :=
  ∀ t a rest, form.read? t = some (a, rest) ↔ ∃ text, t = text ++ rest ∧ Looks a text

/-- No occurrence begins inside the gap, wherever in the rest it may end. -/
def Free (Looks : α → Text → Prop) (gap rest : Text) : Prop :=
  ∀ behind, behind ≠ [] → behind <:+ gap →
    ∀ a text after, behind ++ rest = text ++ after → ¬ Looks a text

/-- The text is these pieces one behind the other and then the last gap. -/
inductive Cut (Looks : α → Text → Prop) : List (Piece α) → Text → Text → Prop
  | gap {gap : Text} (free : Free Looks gap []) : Cut Looks [] gap gap
  | piece {gap text rest last : Text} {a : α} {pieces : List (Piece α)}
      (free : Free Looks gap (text ++ rest)) (looks : Looks a text)
      (behind : Cut Looks pieces last rest) :
      Cut Looks (⟨gap, a, text⟩ :: pieces) last (gap ++ (text ++ rest))

theorem Reads.ne_nil (h : form.Reads Looks) {a : α} {text : Text} (hlooks : Looks a text) :
    text ≠ [] := by
  rintro rfl
  have hread : form.read? [] = some (a, []) := (h _ _ _).mpr ⟨[], rfl, hlooks⟩
  exact Nat.lt_irrefl _ (form.shorter hread)

theorem Reads.free_iff (h : form.Reads Looks) : Free Looks gap rest ↔ form.Passes gap rest := by
  have hread : ∀ t, form.read? t = none ↔ ∀ a text after, t = text ++ after → ¬ Looks a text := by
    intro t
    rw [Option.eq_none_iff_forall_ne_some]
    constructor
    · rintro hnone a text after rfl hlooks
      exact hnone (a, after) ((h _ _ _).mpr ⟨text, rfl, hlooks⟩)
    · rintro hnone ⟨a, after⟩ hsome
      obtain ⟨text, rfl, hlooks⟩ := (h _ _ _).mp hsome
      exact hnone a text after rfl hlooks
  constructor
  · intro hfree
    apply passes_of_forall_suffix
    intro behind hne hbehind
    exact (hread _).mpr (hfree behind hne hbehind)
  · induction gap with
    | nil =>
      intro _ behind hne hbehind
      exact absurd (List.suffix_nil.mp hbehind) hne
    | cons c gap ih =>
      rintro ⟨hnone, hpasses⟩ behind hne hbehind
      rcases List.suffix_cons_iff.mp hbehind with rfl | hbehind
      · exact (hread _).mp hnone
      · exact ih hpasses behind hne hbehind

theorem Cut.cons {c : CodePoint} (h : form.Reads Looks) (hnone : form.read? (c :: t) = none)
    (hcut : Cut Looks pieces last t) : ∃ pieces last, Cut Looks pieces last (c :: t) := by
  cases hcut with
  | gap free =>
    rw [h.free_iff] at free
    have hfree : Free Looks (c :: t) [] := by
      rw [h.free_iff]
      exact ⟨by rwa [List.append_nil], free⟩
    exact ⟨_, _, .gap hfree⟩
  | @piece gap text rest last a pieces free looks behind =>
    rw [h.free_iff] at free
    have hfree : Free Looks (c :: gap) (text ++ rest) := h.free_iff.mpr ⟨hnone, free⟩
    exact ⟨_, _, .piece hfree looks behind⟩

theorem exists_cut (h : form.Reads Looks) (t : Text) : ∃ pieces last, Cut Looks pieces last t := by
  fun_induction scan form t with
  | case1 => exact ⟨[], [], .gap (h.free_iff.mpr trivial)⟩
  | case2 c t a rest hread _ ih =>
    obtain ⟨text, htext, hlooks⟩ := (h _ _ _).mp hread
    obtain ⟨pieces, last, hcut⟩ := ih
    have hfree : Free Looks [] (text ++ rest) := h.free_iff.mpr trivial
    rw [htext]
    exact ⟨_, _, .piece hfree hlooks hcut⟩
  | case3 c t hnone ih =>
    obtain ⟨pieces, last, hcut⟩ := ih
    exact hcut.cons h hnone

/-- What looks like the form does not begin inside a gap. -/
theorem Free.eq_nil {behind text after : Text} {a : α} (h : Free Looks (gap ++ behind) rest)
    (hlooks : Looks a text) (heq : text ++ after = behind ++ rest) : behind = [] := by
  by_cases hne : behind = []
  · exact hne
  · exact absurd hlooks (h behind hne (List.suffix_append gap behind) a text after heq.symm)

theorem Reads.unique (h : form.Reads Looks) {a a' : α} {text text' rest' : Text}
    (hlooks : Looks a text) (hlooks' : Looks a' text') (heq : text ++ rest = text' ++ rest') :
    a = a' ∧ text = text' ∧ rest = rest' := by
  have hread : form.read? (text ++ rest) = some (a, rest) := (h _ _ _).mpr ⟨text, rfl, hlooks⟩
  rw [heq, (h _ _ _).mpr ⟨text', rfl, hlooks'⟩] at hread
  obtain ⟨rfl, rfl⟩ := Prod.mk.inj (Option.some.inj hread)
  exact ⟨rfl, List.append_cancel_right heq, rfl⟩

/-- Two cuts have their first occurrence at the same place, since neither lets one begin earlier. -/
theorem Cut.unique (h : form.Reads Looks) (hcut : Cut Looks pieces last t)
    (hcut' : Cut Looks pieces' last' t) : pieces' = pieces ∧ last' = last := by
  induction hcut generalizing pieces' last' with
  | gap free =>
    cases hcut' with
    | gap _ => exact ⟨rfl, rfl⟩
    | piece _ looks _ =>
      have hnil := Free.eq_nil free looks (List.append_nil _).symm
      exact absurd (List.append_eq_nil_iff.mp hnil).1 (h.ne_nil looks)
  | @piece gap text rest last a pieces free looks behind ih =>
    generalize hwhole : gap ++ (text ++ rest) = whole at hcut'
    cases hcut' with
    | gap free' =>
      rw [← hwhole] at free'
      have hnil := Free.eq_nil free' looks (List.append_nil _).symm
      exact absurd (List.append_eq_nil_iff.mp hnil).1 (h.ne_nil looks)
    | @piece gap' text' rest' _ a' _ free' looks' behind' =>
      -- Of two different gaps, the longer would hold the occurrence behind the shorter.
      have hgap : gap = gap' := by
        rcases List.append_eq_append_iff.mp hwhole with ⟨more, rfl, heq⟩ | ⟨more, rfl, heq⟩
        · rw [Free.eq_nil free' looks heq, List.append_nil]
        · rw [Free.eq_nil free looks' heq, List.append_nil]
      subst hgap
      obtain ⟨rfl, rfl, rfl⟩ := h.unique looks looks' (List.append_cancel_left hwhole)
      obtain ⟨rfl, rfl⟩ := ih behind'
      exact ⟨rfl, rfl⟩

theorem Cut.scan_eq (h : form.Reads Looks) (hcut : Cut Looks pieces last t) :
    form.scan t = pieces.map Piece.value := by
  induction hcut with
  | @gap gap free =>
    have hpasses := scan_append_of_passes (h.free_iff.mp free)
    rw [List.append_nil, scan_nil] at hpasses
    exact hpasses
  | @piece gap text rest last a pieces free looks behind ih =>
    have hread : form.read? (text ++ rest) = some (a, rest) := (h _ _ _).mpr ⟨text, rfl, looks⟩
    rw [scan_append_of_passes (h.free_iff.mp free), scan_of_read hread, ih, List.map_cons]

end Form

/-- A text cut into declarations, the gaps in front of them, and a last gap. -/
structure Cutting where
  pieces : List (Piece Declaration)
  last : Text

namespace Cutting

/-- This and no other is the way to cut the text so that no declaration begins inside a gap. -/
def IsOnlyCut (Looks : Declaration → Text → Prop) (t : Text) (cutting : Cutting) : Prop :=
  Form.Cut Looks cutting.pieces cutting.last t ∧
    ∀ other : Cutting, Form.Cut Looks other.pieces other.last t → other = cutting

def records (cutting : Cutting) : Except LiteralError (List Record) :=
  cutting.pieces.mapM fun piece => do
    let fields ← Body.parse piece.value.body
    pure ⟨piece.value.name, piece.value.type, fields⟩

end Cutting

section Declarations

variable {form : Form Declaration} {Looks : Declaration → Text → Prop}

theorem recordsOf_append (ds es : List Declaration) :
    recordsOf (ds ++ es) = (do let rs ← recordsOf ds; let ss ← recordsOf es; .ok (rs ++ ss)) := by
  induction ds with
  | nil => cases h : recordsOf es <;> simp [recordsOf, h, bind, Except.bind]
  | cons d ds ih =>
    rw [List.cons_append, recordsOf, recordsOf, ih]
    cases d.record with
    | error e => rfl
    | ok r =>
      cases recordsOf ds with
      | error e => rfl
      | ok rs => cases recordsOf es <;> rfl

theorem recordsOf_map_value (pieces : List (Piece Declaration)) (last : Text) :
    recordsOf (pieces.map Piece.value) = (Cutting.mk pieces last).records := by
  induction pieces with
  | nil => rfl
  | cons piece pieces ih =>
    unfold Cutting.records at ih ⊢
    rw [List.map_cons, recordsOf, ih, List.mapM_cons, Declaration.record]
    cases Body.parse piece.value.body with
    | error e => rfl
    | ok fields => rfl

theorem Form.Reads.exists_isOnlyCut (h : form.Reads Looks) (t : Text) :
    ∃ cutting : Cutting, cutting.IsOnlyCut Looks t ∧
      recordsOf (form.scan t) = cutting.records := by
  obtain ⟨pieces, last, hcut⟩ := Form.exists_cut h t
  refine ⟨⟨pieces, last⟩, ⟨hcut, ?_⟩, ?_⟩
  · rintro ⟨pieces', last'⟩ hcut'
    obtain ⟨rfl, rfl⟩ := hcut.unique h hcut'
    rfl
  · rw [hcut.scan_eq h, recordsOf_map_value pieces last]

end Declarations

namespace Declaration
open Text

def LocalDeclarationText (d : Declaration) (text : Text) : Prop :=
  ∃ gap plain : Text, gap ≠ [] ∧ allBlank gap = true ∧ text = "local" ++ gap ++ plain ∧
    DeclarationText d plain

theorem reads_form : form.Reads DeclarationText := fun _ _ _ => read?_eq_some_iff

theorem reads_localForm : localForm.Reads LocalDeclarationText := by
  intro t d rest
  show readLocal? t = some (d, rest) ↔ _
  rw [readLocal?_eq_some_iff]
  constructor
  · rintro ⟨gap, plain, rfl, hne, hgap, hplain⟩
    exact ⟨_, rfl, gap, plain, hne, hgap, rfl, hplain⟩
  · rintro ⟨_, rfl, gap, plain, hne, hgap, rfl, hplain⟩
    exact ⟨gap, plain, rfl, hne, hgap, hplain⟩

end Declaration

namespace Document
open Declaration

/-- Each scan is leftmost matching without overlaps: there is one way to cut a text so that no
declaration begins inside a gap, and the scan finds the records of that cut in order. The objects of
a document are those of the local declarations and then those of all declarations. -/
theorem scans_find_only_cut (t source : Text) :
    ∃ locals all : Cutting,
      locals.IsOnlyCut LocalDeclarationText t ∧
      recordsOf (localForm.scan t) = locals.records ∧
      all.IsOnlyCut DeclarationText t ∧
      recordsOf (form.scan t) = all.records ∧
      (parse t source).map Document.objects =
        (do let rs ← locals.records; let ss ← all.records; .ok (rs ++ ss)) := by
  obtain ⟨locals, hlocals, hlocalRecords⟩ := reads_localForm.exists_isOnlyCut t
  obtain ⟨all, hall, hrecords⟩ := reads_form.exists_isOnlyCut t
  refine ⟨locals, all, hlocals, hlocalRecords, hall, hrecords, ?_⟩
  have hobjects : (parse t source).map Document.objects = recordsOf (declarations t) := by
    unfold parse
    cases recordsOf (declarations t) <;> rfl
  rw [hobjects, declarations, recordsOf_append, hlocalRecords, hrecords]

/-- The search goes on at the next character after `a: b`, ends the body of `b` at the first closing
brace, and passes over a body with nothing in it. -/
example : form.scan "a: b: T = new \x7bx: U = new \x7b1\x7d\x7d c: V = new \x7b\x7d" =
    [{ name := "b", type := "T", body := "x: U = new \x7b1" }] := by
  decide +kernel

end Document

end Archimate
