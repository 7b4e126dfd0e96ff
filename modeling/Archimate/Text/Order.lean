import Archimate.Text.CodePoint

namespace Archimate.Text

def le : Text → Text → Bool
  | [], _ => true
  | _ :: _, [] => false
  | c :: cs, d :: ds => c.code < d.code || (c.code == d.code && le cs ds)

theorem le_cons_iff {c d : CodePoint} {cs ds : Text} :
    le (c :: cs) (d :: ds) = true ↔ c.code < d.code ∨ c.code = d.code ∧ le cs ds = true := by
  simp [le]

theorem le_total (s t : Text) : (le s t || le t s) = true := by
  rw [Bool.or_eq_true]
  induction s generalizing t with
  | nil => simp [le]
  | cons c cs ih =>
    cases t with
    | nil => simp [le]
    | cons d ds =>
      rw [le_cons_iff, le_cons_iff]
      rcases Nat.lt_trichotomy c.code d.code with h | h | h
      · exact .inl (.inl h)
      · exact (ih ds).imp (fun hs => .inr ⟨h, hs⟩) fun hs => .inr ⟨h.symm, hs⟩
      · exact .inr (.inl h)

theorem le_trans {s t u : Text} (hst : le s t = true) (htu : le t u = true) : le s u = true := by
  induction s generalizing t u with
  | nil => simp [le]
  | cons c cs ih =>
    cases t with
    | nil => simp [le] at hst
    | cons d ds =>
      cases u with
      | nil => simp [le] at htu
      | cons e es =>
        rw [le_cons_iff] at hst htu ⊢
        rcases hst with hst | ⟨hst, hs⟩ <;> rcases htu with htu | ⟨htu, ht⟩
        · exact .inl (Nat.lt_trans hst htu)
        · exact .inl (htu ▸ hst)
        · exact .inl (hst ▸ htu)
        · exact .inr ⟨hst.trans htu, ih hs ht⟩

theorem sorted_mergeSort (ts : List Text) :
    (ts.mergeSort le).Pairwise fun s t => le s t = true := by
  apply List.pairwise_mergeSort
  · exact fun _ _ _ => le_trans
  · exact le_total

end Archimate.Text
