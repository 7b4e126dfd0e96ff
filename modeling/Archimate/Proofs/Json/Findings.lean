import Archimate.Proofs.Architecture.Names
import Archimate.Proofs.Json.Sent
import Archimate.Proofs.Relationship.Cycles
import Archimate.Proofs.Relationship.Pairs
import Archimate.Proofs.Tally
import Archimate.Web.Answer.Question

namespace Archimate

/-- The texts of a finding can be written in UTF-8. -/
structure Finding.TextsWritable (f : Finding) : Prop where
  message : f.message.isWritable = true
  element : ∀ uid ∈ f.element, uid.isWritable = true

namespace Json

variable {room : Nat}

theorem shown_ofOption (s : Option Text) : (ofOption s).shown = ofOption s := by
  cases s <;> simp [ofOption, shown]

theorem fits_ofOption {s : Option Text} (h : ∀ t ∈ s, t.isWritable = true) :
    (ofOption s).fits room = true := by
  cases s with
  | none => rfl
  | some t => exact h t rfl

theorem shown_finding (f : Finding) : f.toJson.shown = f.toJson := by
  apply shown_named
  have hnames : ∀ name ∈ ["code", "message", "field", "elementId"],
      isInternal (name : String) = false := by decide
  simp [shown_string, shown_ofOption] at hnames ⊢
  exact hnames

theorem shown_findingsJson (fs : List Finding) : (findingsJson fs).shown = findingsJson fs := by
  rw [findingsJson, shown, shownItems_eq, List.map_map]
  apply congrArg Json.array
  apply List.map_congr_left
  intro f _
  exact shown_finding f

theorem fits_finding {f : Finding} (h : f.TextsWritable) : f.toJson.fits (room + 1) = true := by
  rw [← shown_finding]
  apply fits_shown_named
  simp only [List.forall_mem_cons, shown_string, shown_ofOption]
  refine ⟨Text.isWritable_ofString _, h.message, fits_ofOption ?_, fits_ofOption h.element,
    List.forall_mem_nil _⟩
  intro t ht
  obtain ⟨field, -, hfield⟩ := Option.bind_eq_some_iff.mp ht
  cases hfield
  exact Text.isWritable_ofString field

theorem fits_findingsJson {fs : List Finding} (h : ∀ f ∈ fs, f.TextsWritable) :
    (findingsJson fs).fits (room + 2) = true := by
  rw [findingsJson, fits]
  refine Bool.and_eq_true_iff.mpr ⟨decide_eq_true (Nat.succ_pos _), itemsFit_iff.mpr ?_⟩
  intro item hitem
  obtain ⟨f, hf, rfl⟩ := List.mem_map.mp hitem
  exact fits_finding (h f hf)

theorem fits_shown_ofCounts (counts : Dictionary String Nat) :
    (ofCounts counts).shown.fits (room + 1) = true := by
  apply fits_shown_named
  intro member hmember
  obtain ⟨entry, -, rfl⟩ := List.mem_map.mp hmember
  exact fits_shown_whole room _

theorem fits_shown_bool (value : Bool) : (shown (.bool value)).fits room = true := by
  simp [shown, fits]

end Json

namespace Relationships
open Json Text

variable {rs : List Relationship} {f : Finding}

theorem textsWritable_of_mem_findings (huid : ∀ r ∈ rs, r.uid.isWritable = true)
    (hends : ∀ r ∈ rs, r.source.isWritable = true ∧ r.target.isWritable = true)
    (h : f ∈ findings rs) : f.TextsWritable := by
  rcases mem_errors_validate.mp h with ⟨r, hr, hown⟩ | hpair | hcycle
  · have hincomplete (rule : Rule) (field : String) :
        (r.incompleteFinding rule field).TextsWritable :=
      ⟨isWritable_ofString _, fun uid he => Option.some.inj he ▸ huid r hr⟩
    unfold Relationship.ownFindings at hown
    split at hown
    · cases hown
    · split at hown
      · exact List.mem_singleton.mp hown ▸ hincomplete _ _
      · exact List.mem_singleton.mp hown ▸ hincomplete _ _
      · cases hown
  · obtain ⟨r, hr, -, -, -, -, hf⟩ := mem_pairFindings.mp hpair
    obtain ⟨hsource, htarget⟩ := hends r hr
    rw [hf]
    refine ⟨?_, nofun⟩
    show isWritable (pairRule f.rule ++ (r.source ++ "-" ++ r.target)) = true
    simp only [isWritable_append, isWritable_ofString, hsource, htarget, Bool.and_self]
  · obtain ⟨root, hroot, rfl⟩ := mem_cycleFindings.mp hcycle
    -- A reported element is the source of a relationship.
    have hsource := List.mem_eraseDups.mp ((cycleRoots_sublist_sources rs).subset hroot)
    obtain ⟨r, hr, rfl⟩ := List.mem_map.mp hsource
    have hwritable := (hends r (List.mem_filter.mp hr).1).1
    refine ⟨?_, fun uid he => Option.some.inj he ▸ hwritable⟩
    show isWritable ((_ : Text) ++ r.source) = true
    rw [isWritable_append, isWritable_ofString, hwritable]
    rfl

/-- The answer about relationships with names that can be written can be sent. -/
theorem verdict_sent (huid : ∀ r ∈ rs, r.uid.isWritable = true)
    (hends : ∀ r ∈ rs, r.source.isWritable = true ∧ r.target.isWritable = true) :
    (Web.Question.relationshipVerdictJson rs).shown.canBeSent = true := by
  apply canBeSent_named
  simp only [List.forall_mem_cons, shown_findingsJson]
  exact ⟨fits_shown_bool _,
    fits_findingsJson fun _ hf => textsWritable_of_mem_findings huid hends hf,
    fits_shown_whole _ _, fits_shown_ofCounts _, List.forall_mem_nil _⟩

end Relationships

namespace Architecture
open Json Text

variable {a : Architecture}

theorem NamesWritable.findings (h : a.NamesWritable) :
    ∀ f ∈ Relationships.findings a.relationships, f.TextsWritable :=
  fun _ hf => Relationships.textsWritable_of_mem_findings h.relationship h.ends hf

theorem NamesWritable.duplicateFindings (h : a.NamesWritable) :
    ∀ f ∈ a.duplicateFindings, f.TextsWritable := by
  intro f hf
  obtain ⟨⟨uid, count⟩, hentry, hfinding⟩ := List.mem_filterMap.mp hf
  obtain ⟨e, he, huid⟩ := List.mem_map.mp (mem_of_mem_tally hentry)
  have hwritable := h.element e he
  rw [huid] at hwritable
  dsimp only at hfinding hwritable
  split at hfinding
  · cases hfinding
    refine ⟨?_, fun other hother => Option.some.inj hother ▸ hwritable⟩
    show isWritable ("Element uid '" ++ uid ++ "' is used by " ++ toString count ++ " elements") =
      true
    simp only [isWritable_append, isWritable_ofString, hwritable, Bool.and_self]
  · cases hfinding

theorem textsWritable_blankFinding {rule : Rule} {field : String} {value : Text} :
    ∀ f ∈ blankFinding rule field value, f.TextsWritable := by
  intro f hf
  unfold blankFinding at hf
  split at hf
  · rw [List.mem_singleton.mp hf]
    exact ⟨isWritable_ofString _, nofun⟩
  · cases hf

theorem NamesWritable.relationshipVerdict_sent (h : a.NamesWritable) :
    (Web.Question.relationshipVerdictJson a.relationships).shown.canBeSent = true :=
  Relationships.verdict_sent h.relationship h.ends

/-- The answer about an architecture with such names can be sent. -/
theorem NamesWritable.validation_sent (h : a.NamesWritable) :
    a.validate.toJson.shown.canBeSent = true := by
  have herrors : ∀ f ∈ a.errors, f.TextsWritable := by
    intro f hf
    rcases List.mem_append.mp hf with hf | hf <;> exact textsWritable_blankFinding f hf
  have hwarnings : ∀ f ∈ a.validate.warnings, f.TextsWritable := by
    intro f hf
    rcases List.mem_append.mp hf with hf | hf
    · exact h.duplicateFindings f hf
    · exact h.findings f hf
  apply canBeSent_named
  rw [List.forall_mem_append]
  simp only [List.forall_mem_cons, shown_findingsJson]
  refine ⟨⟨fits_shown_bool _, fits_findingsJson herrors, fits_findingsJson hwarnings,
    List.forall_mem_nil _⟩, ?_⟩
  split
  · exact List.forall_mem_nil _
  · exact List.forall_mem_singleton.mpr (fits_shown_ofCounts _)

end Architecture

end Archimate
