import Archimate.Text.Utf8

namespace Archimate.Text

theorem readContinuation_cons_eq_some {code code' : Nat} {low high : UInt8}
    {ranges : List ByteRange} {bytes rest : List UInt8}
    (h : readContinuation code ((low, high) :: ranges) bytes = (some code', rest)) :
    ∃ b bs, bytes = b :: bs ∧ low.toNat ≤ b.toNat ∧ b.toNat ≤ high.toNat ∧
      readContinuation (64 * code + (b.toNat - 0x80)) ranges bs = (some code', rest) := by
  cases bytes with
  | nil => simp [readContinuation] at h
  | cons b bs =>
    simp only [readContinuation] at h
    split at h
    · next hb => exact ⟨b, bs, rfl, UInt8.le_iff_toNat_le.mp hb.1, UInt8.le_iff_toNat_le.mp hb.2, h⟩
    · simp at h

theorem readContinuation_nil_eq_some {code code' : Nat} {bytes rest : List UInt8}
    (h : readContinuation code [] bytes = (some code', rest)) : code' = code ∧ rest = bytes := by
  simp only [readContinuation, Prod.mk.injEq, Option.some.injEq] at h
  exact ⟨h.1.symm, h.2.symm⟩

theorem val_ofNat {n : Nat} (h : n < 0xD800 ∨ 0xDFFF < n ∧ n < 0x110000) :
    (Char.ofNat n).val.toNat = n := by
  have hv : n.isValidChar := h
  rw [Char.ofNat, dif_pos hv]
  exact Nat.add_zero n

theorem eq_ofNat {b : UInt8} {n : Nat} (h : n = b.toNat) : UInt8.ofNat n = b := by
  simp [h]

theorem utf8_ofNat {n : Nat} (h : n < 0xD800 ∨ 0xDFFF < n ∧ n < 0x110000) :
    utf8 [Char.ofNat n] =
      if n ≤ 0x7F then [.ofNat n]
      else if n ≤ 0x7FF then [.ofNat (n / 64 % 32 + 192), .ofNat (n % 64 + 128)]
      else if n ≤ 0xFFFF then
        [.ofNat (n / 4096 % 16 + 224), .ofNat (n / 64 % 64 + 128), .ofNat (n % 64 + 128)]
      else [.ofNat (n / 262144 % 8 + 240), .ofNat (n / 4096 % 64 + 128),
        .ofNat (n / 64 % 64 + 128), .ofNat (n % 64 + 128)] := by
  simp only [utf8, List.flatMap_cons, List.flatMap_nil, List.append_nil, String.utf8EncodeChar,
    val_ofNat h]

theorem utf8_ofNat_one {a : UInt8} {bytes rest : List UInt8} {n : Nat}
    (ha : a.toNat < 0x80) (h : readContinuation a.toNat [] bytes = (some n, rest)) :
    utf8 [Char.ofNat n] ++ rest = a :: bytes := by
  obtain ⟨rfl, rfl⟩ := readContinuation_nil_eq_some h
  rw [utf8_ofNat (by omega), if_pos (by omega), eq_ofNat rfl, List.singleton_append]

theorem utf8_ofNat_two {a : UInt8} {bytes rest : List UInt8} {n : Nat}
    (h₁ : 0xC2 ≤ a.toNat) (h₂ : a.toNat < 0xE0)
    (h : readContinuation (a.toNat - 0xC0) [continuation] bytes = (some n, rest)) :
    utf8 [Char.ofNat n] ++ rest = a :: bytes := by
  obtain ⟨b, bs, rfl, hb₁, hb₂, h⟩ := readContinuation_cons_eq_some h
  obtain ⟨hn, rfl⟩ := readContinuation_nil_eq_some h
  simp only [UInt8.reduceToNat] at hb₁ hb₂
  rw [utf8_ofNat (by omega), if_neg (by omega), if_pos (by omega), eq_ofNat (b := a) (by omega),
    eq_ofNat (b := b) (by omega), List.cons_append, List.singleton_append]

/-- Three bytes, where the second byte keeps the code out of shorter forms and of the halves. -/
theorem utf8_ofNat_three {a low high : UInt8} {bytes rest : List UInt8} {k n : Nat}
    (h₁ : 0xE0 ≤ a.toNat) (h₂ : a.toNat < 0xF0)
    (hl : 0x80 ≤ low.toNat) (hh : high.toNat < 0xC0)
    (hE : a.toNat = 0xE0 → 0xA0 ≤ low.toNat) (hD : a.toNat = 0xED → high.toNat < 0xA0)
    (hk : k = a.toNat - 0xE0)
    (h : readContinuation k [(low, high), continuation] bytes = (some n, rest)) :
    utf8 [Char.ofNat n] ++ rest = a :: bytes := by
  obtain ⟨b, bs, rfl, hb₁, hb₂, h⟩ := readContinuation_cons_eq_some h
  obtain ⟨c, cs, rfl, hc₁, hc₂, h⟩ := readContinuation_cons_eq_some h
  obtain ⟨hn, rfl⟩ := readContinuation_nil_eq_some h
  simp only [UInt8.reduceToNat] at hc₁ hc₂
  rw [utf8_ofNat (by omega), if_neg (by omega), if_neg (by omega), if_pos (by omega),
    eq_ofNat (b := a) (by omega), eq_ofNat (b := b) (by omega), eq_ofNat (b := c) (by omega)]
  rfl

theorem utf8_ofNat_four {a low high : UInt8} {bytes rest : List UInt8} {k n : Nat}
    (h₁ : 0xF0 ≤ a.toNat) (h₂ : a.toNat < 0xF5)
    (hl : 0x80 ≤ low.toNat) (hh : high.toNat < 0xC0)
    (h0 : a.toNat = 0xF0 → 0x90 ≤ low.toNat) (h4 : a.toNat = 0xF4 → high.toNat < 0x90)
    (hk : k = a.toNat - 0xF0)
    (h : readContinuation k [(low, high), continuation, continuation] bytes =
      (some n, rest)) :
    utf8 [Char.ofNat n] ++ rest = a :: bytes := by
  obtain ⟨b, bs, rfl, hb₁, hb₂, h⟩ := readContinuation_cons_eq_some h
  obtain ⟨c, cs, rfl, hc₁, hc₂, h⟩ := readContinuation_cons_eq_some h
  obtain ⟨d, ds, rfl, hd₁, hd₂, h⟩ := readContinuation_cons_eq_some h
  obtain ⟨hn, rfl⟩ := readContinuation_nil_eq_some h
  simp only [UInt8.reduceToNat] at hc₁ hc₂ hd₁ hd₂
  rw [utf8_ofNat (by omega), if_neg (by omega), if_neg (by omega), if_neg (by omega),
    eq_ofNat (b := a) (by omega), eq_ofNat (b := b) (by omega), eq_ofNat (b := c) (by omega),
    eq_ofNat (b := d) (by omega)]
  rfl

theorem utf8_of_lead? {a : UInt8} {code n : Nat} {ranges : List ByteRange}
    {bytes rest : List UInt8} (hl : lead? a = some (code, ranges))
    (h : readContinuation code ranges bytes = (some n, rest)) :
    utf8 [Char.ofNat n] ++ rest = a :: bytes := by
  simp only [lead?, UInt8.lt_iff_toNat_lt, ← UInt8.toNat_inj, UInt8.reduceToNat] at hl
  repeat' split at hl
  all_goals simp only [Option.some.injEq, Prod.mk.injEq, reduceCtorEq] at hl
  all_goals obtain ⟨rfl, rfl⟩ := hl
  · exact utf8_ofNat_one (by omega) h
  · exact utf8_ofNat_two (by omega) (by omega) h
  · exact utf8_ofNat_three (by omega) (by omega) (by decide) (by decide) (fun _ => by decide)
      (by omega) (by omega) h
  · exact utf8_ofNat_three (by omega) (by omega) (by decide) (by decide) (by omega)
      (fun _ => by decide) (by omega) h
  · exact utf8_ofNat_three (by omega) (by omega) (by decide) (by decide) (by omega) (by omega)
      rfl h
  · exact utf8_ofNat_four (by omega) (by omega) (by decide) (by decide) (fun _ => by decide)
      (by omega) (by omega) h
  · exact utf8_ofNat_four (by omega) (by omega) (by decide) (by decide) (by omega) (by omega)
      rfl h
  · exact utf8_ofNat_four (by omega) (by omega) (by decide) (by decide) (by omega)
      (fun _ => by decide) (by omega) h

theorem lead?_of_lt {a : UInt8} (h : a.toNat < 0x80) : lead? a = some (a.toNat, []) := by
  simp [lead?, UInt8.lt_iff_toNat_lt, h]

theorem utf8_of_character? {bytes rest : List UInt8} {c : Char}
    (h : character? bytes = some (c, rest)) : utf8 [c] ++ rest = bytes := by
  cases bytes with
  | nil => simp [character?] at h
  | cons b bytes =>
    simp only [character?, Option.bind_eq_some_iff] at h
    obtain ⟨⟨code, ranges⟩, hl, h⟩ := h
    split at h
    · next n rest' hr =>
      simp only [Option.some.injEq, Prod.mk.injEq] at h
      obtain ⟨rfl, rfl⟩ := h
      exact utf8_of_lead? hl hr
    · simp at h

theorem le_of_character?_eq_none {b : UInt8} {bytes : List UInt8}
    (h : character? (b :: bytes) = none) : 0x80 ≤ b.toNat := by
  refine Nat.le_of_not_lt fun hb => ?_
  simp [character?, lead?_of_lt hb, readContinuation] at h

end Archimate.Text
