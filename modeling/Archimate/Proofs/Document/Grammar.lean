import Archimate.Document.Declaration
import Archimate.Proofs.Text.Words

namespace Archimate.Declaration
open Text

variable {t rest : Text}

theorem word?_eq_some_iff {word : Text} :
    word? t = some (word, rest) ↔ t = word ++ rest ∧ IsWord word ∧ EndsWord rest := by
  constructor
  · intro h
    have happend := spanWord_append t
    have hends := endsWord_spanWord t
    have hchars : ∀ c ∈ (spanWord t).1, isWordChar c = true := fun _ => isWordChar_of_mem_spanWord
    unfold word? at h
    split at h
    · cases h
    · rename_i hne
      rw [Option.some.inj h] at happend hends hchars hne
      have hword : word ≠ [] := by
        rintro rfl
        exact hne rest rfl
      exact ⟨happend.symm, ⟨hword, hchars⟩, hends⟩
  · rintro ⟨rfl, hword, hends⟩
    unfold word?
    rw [spanWord_append_of_ends hword.isWordChar hends]
    split
    · rename_i heq
      exact absurd (Prod.mk.inj heq).1 hword.ne_nil
    · rfl

theorem gap?_cons (c : CodePoint) (t : Text) :
    gap? (c :: t) = if isBlank c = true then some (trimStart t) else none := rfl

theorem gap?_eq_some_iff :
    gap? t = some rest ↔ ∃ gap, t = gap ++ rest ∧ gap ≠ [] ∧ allBlank gap = true ∧
      EndsBlanks rest := by
  constructor
  · intro h
    cases t with
    | nil => cases h
    | cons c t =>
      rw [gap?_cons] at h
      by_cases hc : isBlank c = true
      · rw [if_pos hc, Option.some.injEq] at h
        subst h
        obtain ⟨gap, hgap, ht⟩ := exists_allBlank_append_trimStart t
        refine ⟨c :: gap, ?_, List.cons_ne_nil _ _, ?_, endsBlanks_trimStart t⟩
        · rw [List.cons_append, ← ht]
        · simpa [allBlank, hc] using hgap
      · rw [if_neg hc] at h
        cases h
  · rintro ⟨gap, rfl, hne, hgap, hends⟩
    cases gap with
    | nil => exact absurd rfl hne
    | cons c gap =>
      have hblank := allBlank_iff.mp hgap
      rw [List.cons_append, gap?_cons, if_pos (hblank c List.mem_cons_self)]
      congr 1
      apply trimStart_append_of_ends _ hends
      exact allBlank_iff.mpr fun d hd => hblank d (List.mem_cons_of_mem _ hd)

theorem isBodyChar_iff {c : CodePoint} : isBodyChar c = true ↔ c ≠ .char '\x7d' := by
  simp [isBodyChar]

theorem body?_eq_some_iff {body : Text} :
    body? t = some (body, rest) ↔
      t = body ++ .char '\x7d' :: rest ∧ body ≠ [] ∧ .char '\x7d' ∉ body := by
  constructor
  · intro h
    have happend := List.takeWhile_append_dropWhile (p := isBodyChar) (l := t)
    have hends := List.head?_dropWhile_not isBodyChar t
    have hchars : ∀ c ∈ t.takeWhile isBodyChar, isBodyChar c = true :=
      List.all_eq_true.mp List.all_takeWhile
    unfold body? at h
    split at h
    · rename_i c b brace r htake hdrop
      simp only [Option.some.injEq, Prod.mk.injEq] at h
      obtain ⟨rfl, rfl⟩ := h
      rw [htake] at happend hchars
      rw [hdrop] at happend hends
      have hbrace : brace = .char '\x7d' := by
        by_cases hne : brace = .char '\x7d'
        · exact hne
        · have hfalse : isBodyChar brace = false := hends
          rw [isBodyChar_iff.mpr hne] at hfalse
          cases hfalse
      rw [hbrace] at happend
      refine ⟨happend.symm, List.cons_ne_nil _ _, fun hm => ?_⟩
      exact isBodyChar_iff.mp (hchars _ hm) rfl
    · cases h
  · rintro ⟨rfl, hne, hbody⟩
    have hchars : ∀ c ∈ body, isBodyChar c = true := by
      intro c hc
      rw [isBodyChar_iff]
      rintro rfl
      exact hbody hc
    have hends : ∀ c ∈ (CodePoint.char '\x7d' :: rest).head?, isBodyChar c = false := by
      intro c hc
      cases hc
      decide
    unfold body?
    rw [takeWhile_append_of_ends hchars hends, dropWhile_append_of_ends hchars hends]
    cases body with
    | nil => exact absurd rfl hne
    | cons c body => rfl

theorem after?_trimStart_eq_some_iff {word : Text} (hword : ∀ rest, EndsBlanks (word ++ rest)) :
    after? word (trimStart t) = some rest ↔
      ∃ gap, allBlank gap = true ∧ t = gap ++ (word ++ rest) := by
  rw [after?_eq_some_iff]
  constructor
  · intro h
    obtain ⟨gap, hgap, ht⟩ := exists_allBlank_append_trimStart t
    exact ⟨gap, hgap, by rw [← h]; exact ht⟩
  · rintro ⟨gap, hgap, rfl⟩
    exact trimStart_append_of_ends hgap (hword rest)

/-- What a declaration looks like from its equals sign to its closing brace. -/
def ValueText (body text : Text) : Prop :=
  ∃ gap gap' gap'' : Text, allBlank gap = true ∧ allBlank gap' = true ∧ allBlank gap'' = true ∧
    text = gap ++ "=" ++ gap' ++ "new" ++ gap'' ++ "\x7b" ++ body ++ "\x7d" ∧
    body ≠ [] ∧ .char '\x7d' ∉ body

theorem value?_eq_some_iff {body : Text} :
    value? t = some (body, rest) ↔ ∃ text, t = text ++ rest ∧ ValueText body text := by
  have hequals (rest : Text) : EndsBlanks (("=" : Text) ++ rest) :=
    endsBlanks_cons.mpr (by decide)
  have hnew (rest : Text) : EndsBlanks (("new" : Text) ++ rest) :=
    endsBlanks_cons.mpr (by decide)
  have hbrace (rest : Text) : EndsBlanks (("\x7b" : Text) ++ rest) :=
    endsBlanks_cons.mpr (by decide)
  unfold value?
  simp only [Option.bind_eq_bind, Option.bind_eq_some_iff, after?_trimStart_eq_some_iff hequals,
    after?_trimStart_eq_some_iff hnew, after?_trimStart_eq_some_iff hbrace, body?_eq_some_iff]
  constructor
  · rintro ⟨_, ⟨gap, hgap, rfl⟩, _, ⟨gap', hgap', rfl⟩, _, ⟨gap'', hgap'', rfl⟩, rfl, hbody⟩
    refine ⟨_, ?_, gap, gap', gap'', hgap, hgap', hgap'', rfl, hbody⟩
    simp only [List.append_assoc]
    rfl
  · rintro ⟨_, rfl, gap, gap', gap'', hgap, hgap', hgap'', rfl, hbody⟩
    refine ⟨_, ⟨gap, hgap, ?_⟩, _, ⟨gap', hgap', rfl⟩, _, ⟨gap'', hgap'', rfl⟩, rfl, hbody⟩
    simp only [List.append_assoc]
    rfl

def DeclarationText (d : Declaration) (text : Text) : Prop :=
  ∃ gap value : Text, allBlank gap = true ∧ text = d.name ++ ":" ++ gap ++ d.type ++ value ∧
    IsWord d.name ∧ IsWord d.type ∧ ValueText d.body value

theorem endsWord_of_valueText {body value : Text} (h : ValueText body value) :
    EndsWord (value ++ rest) := by
  obtain ⟨gap, gap', gap'', hgap, -, -, rfl, -⟩ := h
  cases gap with
  | nil => exact endsWord_cons.mpr (by decide)
  | cons c gap =>
    exact endsWord_cons.mpr (isWordChar_of_isBlank (allBlank_iff.mp hgap c List.mem_cons_self))

theorem read?_eq_some_iff {d : Declaration} :
    read? t = some (d, rest) ↔ ∃ text, t = text ++ rest ∧ DeclarationText d text := by
  unfold read?
  simp only [Option.bind_eq_bind, Option.bind_eq_some_iff, Prod.exists, after?_eq_some_iff,
    word?_eq_some_iff, value?_eq_some_iff, Option.some.injEq, Prod.mk.injEq]
  constructor
  · rintro ⟨name, _, ⟨rfl, hname, -⟩, t, rfl, type, u, ⟨htype, hword, -⟩, body, _, ⟨value, rfl,
      hvalue⟩, rfl, rfl⟩
    obtain ⟨gap, hgap, ht⟩ := exists_allBlank_append_trimStart t
    refine ⟨_, ?_, gap, value, hgap, rfl, hname, hword, hvalue⟩
    rw [ht, htype]
    simp only [List.append_assoc]
  · rintro ⟨_, rfl, gap, value, hgap, rfl, hname, htype, hvalue⟩
    have hcolon : EndsWord (":" ++ (gap ++ (d.type ++ (value ++ rest)))) :=
      endsWord_cons.mpr (by decide)
    have htrim : trimStart (gap ++ (d.type ++ (value ++ rest))) = d.type ++ (value ++ rest) :=
      trimStart_append_of_ends hgap htype.endsBlanks
    refine ⟨d.name, _, ⟨?_, hname, hcolon⟩, _, rfl, d.type, _, ⟨htrim, htype, ?_⟩, d.body, rest,
      ⟨value, rfl, hvalue⟩, rfl, rfl⟩
    · simp only [List.append_assoc]
    · exact endsWord_of_valueText hvalue

theorem readLocal?_eq_some_iff {d : Declaration} :
    readLocal? t = some (d, rest) ↔ ∃ gap text, t = "local" ++ gap ++ text ++ rest ∧ gap ≠ [] ∧
      allBlank gap = true ∧ DeclarationText d text := by
  unfold readLocal?
  simp only [Option.bind_eq_bind, Option.bind_eq_some_iff, after?_eq_some_iff, gap?_eq_some_iff,
    read?_eq_some_iff]
  constructor
  · rintro ⟨_, rfl, _, ⟨gap, rfl, hne, hgap, -⟩, text, rfl, htext⟩
    exact ⟨gap, text, by simp only [List.append_assoc], hne, hgap, htext⟩
  · rintro ⟨gap, text, rfl, hne, hgap, htext⟩
    refine ⟨gap ++ (text ++ rest), by simp only [List.append_assoc], text ++ rest,
      ⟨gap, rfl, hne, hgap, ?_⟩, text, rfl, htext⟩
    obtain ⟨gap', value, -, rfl, hname, -⟩ := htext
    simp only [List.append_assoc]
    exact hname.endsBlanks

theorem readHeader?_eq_some_iff {name : Text} :
    readHeader? t = some (name, rest) ↔ ∃ gap, t = "module" ++ gap ++ name ++ rest ∧ gap ≠ [] ∧
      allBlank gap = true ∧ IsWord name ∧ EndsWord rest := by
  unfold readHeader?
  simp only [Option.bind_eq_bind, Option.bind_eq_some_iff, after?_eq_some_iff, gap?_eq_some_iff,
    word?_eq_some_iff]
  constructor
  · rintro ⟨_, rfl, _, ⟨gap, rfl, hne, hgap, -⟩, rfl, hname, hends⟩
    exact ⟨gap, by simp only [List.append_assoc], hne, hgap, hname, hends⟩
  · rintro ⟨gap, rfl, hne, hgap, hname, hends⟩
    refine ⟨gap ++ (name ++ rest), by simp only [List.append_assoc], name ++ rest,
      ⟨gap, rfl, hne, hgap, hname.endsBlanks⟩, rfl, hname, hends⟩

section Braces

def NoBrace (t : Text) : Prop := .char '\x7b' ∉ t ∧ .char '\x7d' ∉ t

instance : Decidable (NoBrace t) := inferInstanceAs (Decidable (_ ∧ _))

theorem noBrace_append {s : Text} : NoBrace (s ++ t) ↔ NoBrace s ∧ NoBrace t := by
  unfold NoBrace
  simp only [List.mem_append, not_or]
  exact and_and_and_comm

theorem noBrace_cons {c : CodePoint} : NoBrace (c :: t) ↔ NoBrace [c] ∧ NoBrace t :=
  noBrace_append (s := [c])

theorem noBrace_of_forall {p : CodePoint → Bool} (h : ∀ c ∈ t, p c = true)
    (hopening : p '\x7b' = false) (hclosing : p '\x7d' = false) : NoBrace t :=
  ⟨not_mem_of_forall h hopening, not_mem_of_forall h hclosing⟩

theorem noBrace_of_isWord (h : IsWord t) : NoBrace t :=
  noBrace_of_forall h.isWordChar (by decide) (by decide)

theorem noBrace_of_allBlank (h : allBlank t = true) : NoBrace t :=
  noBrace_of_forall (allBlank_iff.mp h) (by decide) (by decide)

/-- Before the first brace, the same text cannot be followed by both kinds. -/
theorem opening_ne_closing {s s' : Text} (hs : NoBrace s) (hs' : NoBrace s') (t t' : Text) :
    s ++ .char '\x7b' :: t ≠ s' ++ .char '\x7d' :: t' := by
  induction s generalizing s' with
  | nil =>
    cases s' with
    | nil => simp
    | cons c s' =>
      intro h
      rw [List.nil_append, List.cons_append] at h
      exact hs'.1 ((List.cons.inj h).1 ▸ List.mem_cons_self)
  | cons c s ih =>
    cases s' with
    | nil =>
      intro h
      rw [List.nil_append, List.cons_append] at h
      exact hs.2 ((List.cons.inj h).1 ▸ List.mem_cons_self)
    | cons c' s' =>
      intro h
      rw [List.cons_append, List.cons_append] at h
      exact ih (noBrace_cons.mp hs).2 (noBrace_cons.mp hs').2 (List.cons.inj h).2

/-- The first brace of a declaration opens its body. -/
theorem exists_noBrace_append {d : Declaration} {text : Text} (h : DeclarationText d text) :
    ∃ head, text = head ++ "\x7b" ++ d.body ++ "\x7d" ∧ NoBrace head := by
  obtain ⟨gap, value, hgap, rfl, hname, htype, gap', gap'', gap₃, hgap', hgap'', hgap₃, rfl, -⟩ := h
  refine ⟨d.name ++ ":" ++ gap ++ d.type ++ gap' ++ "=" ++ gap'' ++ "new" ++ gap₃, ?_, ?_⟩
  · simp only [List.append_assoc]
  · have hcolon : NoBrace ":" := by decide
    have hequals : NoBrace "=" := by decide
    have hnew : NoBrace "new" := by decide
    simp only [noBrace_append]
    exact ⟨⟨⟨⟨⟨⟨⟨⟨noBrace_of_isWord hname, hcolon⟩, noBrace_of_allBlank hgap⟩,
      noBrace_of_isWord htype⟩, noBrace_of_allBlank hgap'⟩, hequals⟩, noBrace_of_allBlank hgap''⟩,
      hnew⟩, noBrace_of_allBlank hgap₃⟩

end Braces

end Archimate.Declaration
