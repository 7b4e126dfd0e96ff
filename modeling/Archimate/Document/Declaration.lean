import Archimate.Document.Form
import Archimate.Text.Blank
import Archimate.Text.Split
import Archimate.Text.Word

namespace Archimate

structure Declaration where
  name : Text
  type : Text
  body : Text
deriving DecidableEq

namespace Declaration

def word? (t : Text) : Option (Text × Text) :=
  match Text.spanWord t with
  | ([], _) => none
  | found => some found

/-- Drops one blank or more. -/
def gap? : Text → Option Text
  | [] => none
  | c :: t => if Text.isBlank c then some (Text.trimStart t) else none

def isBodyChar (c : CodePoint) : Bool := c != '\x7d'

/-- What stands before the first closing brace, and what follows the brace. -/
def body? (t : Text) : Option (Text × Text) :=
  match t.takeWhile isBodyChar, t.dropWhile isBodyChar with
  | c :: body, _ :: rest => some (c :: body, rest)
  | _, _ => none

/-- From the equals sign to the end of the body. -/
def value? (t : Text) : Option (Text × Text) := do
  let t ← Text.after? "=" (Text.trimStart t)
  let t ← Text.after? "new" (Text.trimStart t)
  let t ← Text.after? "\x7b" (Text.trimStart t)
  body? t

def read? (t : Text) : Option (Declaration × Text) := do
  let (name, t) ← word? t
  let t ← Text.after? ":" t
  let (type, t) ← word? (Text.trimStart t)
  let (body, t) ← value? t
  some (⟨name, type, body⟩, t)

def readLocal? (t : Text) : Option (Declaration × Text) := do
  let t ← Text.after? "local" t
  let t ← gap? t
  read? t

def readHeader? (t : Text) : Option (Text × Text) := do
  let t ← Text.after? "module" t
  let t ← gap? t
  word? t

theorem length_trimStart_le (t : Text) : (Text.trimStart t).length ≤ t.length :=
  (List.dropWhile_sublist _).length_le

theorem length_of_word? {t word rest : Text} (h : word? t = some (word, rest)) :
    rest.length < t.length := by
  have hs := Text.spanWord_append t
  simp only [word?] at h
  split at h
  · simp at h
  · rename_i found hne
    simp only [Option.some.injEq] at h
    rw [h] at hs hne
    rw [← hs]
    cases word with
    | nil => exact absurd rfl (hne rest)
    | cons c w => simp only [List.length_append, List.length_cons]; omega

theorem length_of_body? {t body rest : Text} (h : body? t = some (body, rest)) :
    rest.length < t.length := by
  have hs := List.takeWhile_append_dropWhile (p := isBodyChar) (l := t)
  simp only [body?] at h
  split at h
  · rename_i c b d r ht hd
    simp only [Option.some.injEq, Prod.mk.injEq] at h
    rw [← hs, ht, hd, h.2]
    simp
    omega
  · simp at h

theorem length_of_gap? {t rest : Text} (h : gap? t = some rest) :
    rest.length < t.length := by
  cases t with
  | nil => simp [gap?] at h
  | cons c t =>
    simp only [gap?] at h
    split at h
    · simp only [Option.some.injEq] at h
      have := length_trimStart_le t
      rw [← h]
      simp
      omega
    · simp at h

theorem length_of_value? {t body rest : Text} (h : value? t = some (body, rest)) :
    rest.length < t.length := by
  simp only [value?, Option.bind_eq_bind, Option.bind_eq_some_iff] at h
  obtain ⟨a, ha, b, hb, c, hc, hbody⟩ := h
  have h1 := Text.length_of_after? ha
  have h2 := Text.length_of_after? hb
  have h3 := Text.length_of_after? hc
  have h4 := length_of_body? hbody
  have t1 := length_trimStart_le t
  have t2 := length_trimStart_le a
  have t3 := length_trimStart_le b
  omega

theorem length_of_read? {t rest : Text} {d : Declaration} (h : read? t = some (d, rest)) :
    rest.length < t.length := by
  simp only [read?, Option.bind_eq_bind, Option.bind_eq_some_iff] at h
  obtain ⟨⟨name, a⟩, ha, b, hb, ⟨type, c⟩, hc, ⟨body, e⟩, he, hd⟩ := h
  simp only [Option.some.injEq, Prod.mk.injEq] at hd
  have h1 := length_of_word? ha
  have h2 := Text.length_of_after? hb
  have h3 := length_of_word? hc
  have h4 := length_of_value? he
  have h5 := length_trimStart_le b
  rw [← hd.2]
  simp only at h2 h4
  omega

theorem length_of_readLocal? {t rest : Text} {d : Declaration}
    (h : readLocal? t = some (d, rest)) : rest.length < t.length := by
  simp only [readLocal?, Option.bind_eq_bind, Option.bind_eq_some_iff] at h
  obtain ⟨a, ha, b, hb, hd⟩ := h
  have h1 := Text.length_of_after? ha
  have h2 := length_of_gap? hb
  have h3 := length_of_read? hd
  omega

theorem length_of_readHeader? {t word rest : Text}
    (h : readHeader? t = some (word, rest)) : rest.length < t.length := by
  simp only [readHeader?, Option.bind_eq_bind, Option.bind_eq_some_iff] at h
  obtain ⟨a, ha, b, hb, hw⟩ := h
  have h1 := Text.length_of_after? ha
  have h2 := length_of_gap? hb
  have h3 := length_of_word? hw
  omega

def form : Form Declaration := ⟨read?, length_of_read?⟩

def localForm : Form Declaration := ⟨readLocal?, length_of_readLocal?⟩

def headerForm : Form Text := ⟨readHeader?, length_of_readHeader?⟩

end Declaration

end Archimate
