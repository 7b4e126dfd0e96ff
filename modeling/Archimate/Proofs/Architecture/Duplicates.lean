import Archimate.Architecture
import Archimate.Proofs.Architecture.Filing

namespace Archimate.Architecture

def uids (a : Architecture) : List Text :=
  (a.elementsIn .business ++ a.elementsIn .application ++ a.elementsIn .technology).map
    AnyElement.uid

theorem map_uid_elements (a : Architecture) : a.elements.map AnyElement.uid = a.uids := by
  rw [uids, ← elements_eq_layers]

def sharedUids (a : Architecture) : List Text :=
  a.uids.eraseDups.filter fun uid => 1 < a.uids.count uid

theorem mem_sharedUids {a : Architecture} {uid : Text} :
    uid ∈ a.sharedUids ↔ 2 ≤ a.uids.count uid := by
  unfold sharedUids
  rw [List.mem_filter, List.mem_eraseDups, decide_eq_true_iff]
  constructor
  · exact fun h => h.2
  · intro hcount
    exact ⟨List.count_pos_iff.mp (Nat.lt_of_lt_of_le Nat.zero_lt_two hcount), hcount⟩

theorem pairwise_sharedUids (a : Architecture) :
    a.sharedUids.Pairwise fun uid other => a.uids.idxOf uid < a.uids.idxOf other :=
  (pairwise_idxOf_eraseDups a.uids).sublist List.filter_sublist

theorem duplicateFindings_eq (a : Architecture) :
    a.duplicateFindings =
      a.sharedUids.map fun uid => duplicateFinding uid (a.uids.count uid) := by
  unfold duplicateFindings sharedUids
  rw [map_uid_elements, entries_tally, List.filterMap_map, ← List.filterMap_eq_map,
    List.filterMap_filter]
  simp only [Function.comp_def, decide_eq_true_eq]

theorem find?_uid_of_nodup {a : Architecture} (h : a.uids.Nodup) {e : AnyElement}
    (he : e ∈ a.elements) : a.find? e.uid = some e := by
  rw [← map_uid_elements] at h
  refine find?_eq_some_of_unique he (beq_self_eq_true _) ?_
  intro other hother huid
  exact List.inj_on_of_nodup_map h hother he (beq_iff_eq.mp huid)

theorem nodup_uids_of_no_report {a : Architecture}
    (h : ∀ f ∈ a.validate.warnings, f.code ≠ "ARCH_003") : a.uids.Nodup := by
  rw [List.nodup_iff_count_le_one]
  intro uid
  by_contra hcount
  have hshared : uid ∈ a.sharedUids := mem_sharedUids.mpr (Nat.lt_of_not_le hcount)
  have hreport : duplicateFinding uid (a.uids.count uid) ∈ a.duplicateFindings := by
    rw [duplicateFindings_eq]
    exact List.mem_map_of_mem hshared
  exact h _ (List.mem_append_left _ hreport) rfl

/-- The warnings about an architecture are one report for each uid of several elements, in the order
in which these uids first occur, and then the findings about the relationships. Without such a
report no two elements have the same uid, and every element is found under its own. -/
theorem duplicates_reported_exactly (a : Architecture) :
    ∃ shared : List Text,
      (∀ uid, uid ∈ shared ↔ 2 ≤ a.uids.count uid) ∧
      (shared.Pairwise fun uid other => a.uids.idxOf uid < a.uids.idxOf other) ∧
      a.validate.warnings =
        shared.map (fun uid => duplicateFinding uid (a.uids.count uid)) ++
          (Relationships.validate a.relationships).errors ∧
      ((∀ f ∈ a.validate.warnings, f.code ≠ "ARCH_003") →
        a.uids.Nodup ∧ ∀ layer, ∀ e ∈ a.elementsIn layer, a.find? e.uid = some e) := by
  refine ⟨a.sharedUids, fun uid => mem_sharedUids, a.pairwise_sharedUids, ?_, ?_⟩
  · rw [← duplicateFindings_eq]
    rfl
  · intro h
    have hnodup := nodup_uids_of_no_report h
    refine ⟨hnodup, fun layer e he => find?_uid_of_nodup hnodup ?_⟩
    rw [elements_eq_layers]
    cases layer with
    | business => exact List.mem_append_left _ (List.mem_append_left _ he)
    | application => exact List.mem_append_left _ (List.mem_append_right _ he)
    | technology => exact List.mem_append_right _ he

/-- An application that has the uid of an actor, and a flow without a flow type. -/
def payroll : Document where
  moduleName := some "payroll"
  source := "payroll.pkl"
  objects := [⟨"payroll", "Application", .ofList [("uid", .text "clerk")]⟩,
    ⟨"pays", "Relationship", .ofList [("uid", .text "pays"), ("type", .text "flow")]⟩]

/-- Elements of every layer, each with its own uid, and a flow without a flow type. -/
def salaries : Document where
  moduleName := some "salaries"
  source := "salaries.pkl"
  objects := [⟨"host", "TechnologyNode", .ofList [("uid", .text "host")]⟩,
    ⟨"rates", "ApplicationComponent", .ofList [("uid", .text "rates")]⟩,
    ⟨"payroll", "Application", .ofList [("uid", .text "payroll")]⟩,
    ⟨"clerk", "BusinessActor", .ofList [("uid", .text "clerk")]⟩,
    ⟨"pays", "Relationship", .ofList [("uid", .text "pays"), ("type", .text "flow")]⟩]

theorem duplicates_reported_exactly_payroll :
    (merge [staff] [payroll] []).uids = [("clerk" : Text), "clerk"] ∧
      (merge [staff] [payroll] []).validate.warnings.map (fun f => (f.code, f.element)) =
        [("ARCH_003", some ("clerk" : Text)), ("REL_001", some ("pays" : Text))] ∧
      (ofDocument salaries).uids = [("clerk" : Text), "payroll", "rates", "host"] ∧
      (ofDocument salaries).validate.warnings.map Finding.code = ["REL_001"] ∧
      ∀ layer, ∀ e ∈ (ofDocument salaries).elementsIn layer,
        (ofDocument salaries).find? e.uid = some e := by
  have hsilent : ∀ f ∈ (ofDocument salaries).validate.warnings, f.code ≠ "ARCH_003" := by
    decide
  obtain ⟨-, -, -, -, hfound⟩ := duplicates_reported_exactly (ofDocument salaries)
  exact ⟨rfl, rfl, rfl, rfl, (hfound hsilent).2⟩

end Archimate.Architecture
