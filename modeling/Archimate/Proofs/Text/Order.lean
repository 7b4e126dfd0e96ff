import Archimate.Text.Order
import Mathlib.Data.List.Basic

namespace Archimate.Text

theorem le_antisymm {s t : Text} (hst : le s t = true) (hts : le t s = true) : s = t := by
  induction s generalizing t with
  | nil =>
    cases t with
    | nil => rfl
    | cons d ds => simp [le] at hts
  | cons c cs ih =>
    cases t with
    | nil => simp [le] at hst
    | cons d ds =>
      rw [le_cons_iff] at hst hts
      rcases hst with hlt | ⟨hcode, hst⟩
      · rcases hts with hgt | ⟨hcode, -⟩
        · exact absurd hgt (Nat.lt_asymm hlt)
        · exact absurd hcode.symm (Nat.ne_of_lt hlt)
      · rcases hts with hgt | ⟨-, hts⟩
        · exact absurd hcode.symm (Nat.ne_of_lt hgt)
        · rw [CodePoint.code_inj.mp hcode, ih hst hts]

theorem eq_of_sorted {ss ts : List Text} (hs : ss.Pairwise fun s t => le s t = true)
    (ht : ts.Pairwise fun s t => le s t = true) (h : ss.Perm ts) : ss = ts :=
  List.Perm.eq_of_pairwise (fun _ _ _ _ => le_antisymm) hs ht h

theorem mergeSort_eq_of_perm {ss ts : List Text} (h : ss.Perm ts) :
    ss.mergeSort le = ts.mergeSort le := by
  apply eq_of_sorted (sorted_mergeSort ss) (sorted_mergeSort ts)
  exact (List.mergeSort_perm ss le).trans (h.trans (List.mergeSort_perm ts le).symm)

/-- What is left of a sorted list is sorted as it stands. -/
theorem mergeSort_filter (p : Text → Bool) (ts : List Text) :
    (ts.filter p).mergeSort le = (ts.mergeSort le).filter p := by
  apply eq_of_sorted (sorted_mergeSort _) ((sorted_mergeSort ts).filter p)
  exact (List.mergeSort_perm _ le).trans ((List.mergeSort_perm ts le).symm.filter p)

end Archimate.Text
