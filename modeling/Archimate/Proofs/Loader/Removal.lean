import Archimate.Proofs.Loader.Visits

namespace Archimate.ModelSource

variable {source : ModelSource} {layer : Layer} {v w : Visit} {home home' : Place}
  {name name' : FileName}

def withFiles (source : ModelSource) (files : FileTree) : ModelSource :=
  { source with files := files }

@[simp]
theorem files_withFiles (source : ModelSource) (files : FileTree) :
    (source.withFiles files).files = files := rfl

/-- The same source without one entry of a layer directory. -/
def remove (source : ModelSource) (v : Visit) : ModelSource :=
  match source.files.place (source.layerDirectory v.layer), FileName.ofText? v.name with
  | .ok home, some name => source.withFiles (source.files.without (home ++ [name]))
  | _, _ => source

def removeAll (source : ModelSource) (removed : List Visit) : ModelSource :=
  removed.foldl remove source

/-- The path of the models directory leads to the same place among changed files. -/
def SameDirectory (source changed : ModelSource) : Prop :=
  changed.files.walk source.directory = source.files.walk source.directory

section Removal

theorem remove_of_home (hname : v.NamedBy name)
    (h : source.files.place (source.layerDirectory v.layer) = .ok home) :
    source.remove v = source.withFiles (source.files.without (home ++ [name])) := by
  unfold remove
  rw [h, hname.1, FileName.ofText?_text]

theorem remove_of_no_home {e : FileError}
    (h : source.files.place (source.layerDirectory v.layer) = .error e) :
    source.remove v = source := by
  unfold remove
  rw [h]

theorem remove_cases (source : ModelSource) (v : Visit) :
    source.remove v = source ∨ ∃ base name, source.files.walk source.directory = .ok base ∧
      source.remove v =
        source.withFiles (source.files.without (base ++ [v.layer.directoryName] ++ [name])) := by
  unfold remove
  split
  · rename_i home name hhome _
    obtain ⟨base, hbase, rfl⟩ := exists_base_of_home hhome
    exact Or.inr ⟨base, name, hbase, rfl⟩
  · exact Or.inl rfl

@[simp]
theorem directory_remove (source : ModelSource) (v : Visit) :
    (source.remove v).directory = source.directory := by
  rcases source.remove_cases v with h | ⟨_, _, -, h⟩ <;> rw [h]
  rfl

theorem layerDirectory_remove (source : ModelSource) (v : Visit) (layer : Layer) :
    (source.remove v).layerDirectory layer = source.layerDirectory layer := by
  rw [layerDirectory, directory_remove]
  rfl

/-- Nothing on the way to a layer directory lies under a file of a layer. -/
theorem not_prefix_of_length_le {base place : Place} {layerName name : FileName}
    (h : place.length ≤ base.length + 1) : ¬ base ++ [layerName] ++ [name] <+: place := by
  intro hunder
  have hlength := hunder.length_le
  simp only [List.length_append, List.length_singleton] at hlength
  omega

/-- All layer directories lie equally deep, so a file lies under no other file. -/
theorem prefix_iff (hv : source.files.place (source.layerDirectory v.layer) = .ok home)
    (hw : source.files.place (source.layerDirectory w.layer) = .ok home')
    (hname : v.NamedBy name) (hname' : w.name = name'.text) :
    home ++ [name] <+: home' ++ [name'] ↔ w = v := by
  obtain ⟨base, hbase, rfl⟩ := exists_base_of_home hv
  obtain ⟨base', hbase', rfl⟩ := exists_base_of_home hw
  obtain rfl : base = base' := Except.ok.inj (hbase.symm.trans hbase')
  constructor
  · intro h
    have heq := h.eq_of_length (by simp)
    obtain ⟨hhome, hlast⟩ := List.append_inj' heq rfl
    have hlayer : v.layer = w.layer :=
      Layer.directoryName_injective (List.cons.inj (List.append_cancel_left hhome)).1
    have hnames : w.name = v.name := by rw [hname', hname.1, (List.cons.inj hlast).1]
    cases v
    cases w
    exact congrArg₂ Visit.mk hlayer.symm hnames
  · rintro rfl
    obtain rfl := FileName.text_injective (hname.1.symm.trans hname')
    exact List.prefix_refl _

theorem home_remove (hplace : source.SameDirectory (source.remove v)) (layer : Layer) :
    (source.remove v).files.place (source.layerDirectory layer) =
        source.files.place (source.layerDirectory layer) ∧
      ∀ home, source.files.place (source.layerDirectory layer) = .ok home →
        (source.remove v).files.stored? home = source.files.stored? home := by
  rcases source.remove_cases v with h | ⟨base, name, hbase, h⟩
  · rw [h]
    exact ⟨rfl, fun _ _ => rfl⟩
  · have hkept {place : Place} (hlength : place.length ≤ base.length + 1) :
        ¬ base ++ [v.layer.directoryName] ++ [name] <+: place := not_prefix_of_length_le hlength
    rw [SameDirectory, hbase] at hplace
    rw [h] at hplace ⊢
    constructor
    · apply FileTree.place_congr
      unfold layerDirectory
      rw [FileTree.walk_child, FileTree.walk_child, hplace, hbase]
      exact FileTree.stepFrom_without (hkept (Nat.le_succ _)) layer.word
    · intro home hhome
      obtain ⟨base', hbase', rfl⟩ := exists_base_of_home hhome
      obtain rfl : base = base' := Except.ok.inj (hbase.symm.trans hbase')
      exact FileTree.stored?_without (hkept (by simp))

theorem namesAt_remove (hname : v.NamedBy name)
    (hhome : source.files.place (source.layerDirectory layer) = .ok home) :
    (source.remove v).files.namesAt home =
      (source.files.namesAt home).filter fun m => Visit.mk layer m.text ≠ v := by
  cases hv : source.files.place (source.layerDirectory v.layer) with
  | error e =>
    -- Nothing is removed, and no file lies in a directory that is not there.
    have hother : ∀ m : FileName, Visit.mk layer m.text ≠ v := by
      rintro m rfl
      rw [hhome] at hv
      cases hv
    rw [remove_of_no_home hv, List.filter_eq_self.mpr fun m _ => decide_eq_true (hother m)]
  | ok home' =>
    rw [remove_of_home hname hv, files_withFiles, FileTree.namesAt_without]
    apply List.filter_congr
    intro m _
    rw [Bool.eq_iff_iff, Bool.not_eq_true', Bool.eq_false_iff, ne_eq,
      List.isPrefixOf_iff_prefix, decide_eq_true_iff]
    exact not_congr (prefix_iff (w := ⟨layer, m.text⟩) hv hhome hname rfl)

theorem shown_remove (hname : v.NamedBy name) (hplace : source.SameDirectory (source.remove v))
    (layer : Layer) : (source.remove v).shown layer =
      (source.shown layer).map (List.filter fun m => Visit.mk layer m.text ≠ v) := by
  obtain ⟨hhome, hentry⟩ := home_remove hplace layer
  rw [← layerDirectory_remove source v] at hhome
  cases h : source.files.place (source.layerDirectory layer) with
  | error e =>
    rw [shown_of_no_home h,
      shown_of_no_home (hhome.trans (layerDirectory_remove source v layer ▸ h))]
    split <;> rfl
  | ok home =>
    rw [shown_of_home h, shown_of_home (hhome.trans (layerDirectory_remove source v layer ▸ h))]
    unfold shownAt
    rw [hentry home h, namesAt_remove hname h]
    repeat' split
    all_goals rfl

/-- The visits of all other files stay, in their order. -/
theorem visitsIn_remove (hname : v.NamedBy name)
    (hplace : source.SameDirectory (source.remove v)) (layer : Layer) :
    (source.remove v).visitsIn layer = (source.visitsIn layer).filter fun w => w ≠ v := by
  have hshown := shown_remove hname hplace layer
  cases h : source.shown layer with
  | error e =>
    rw [h] at hshown
    rw [visitsIn_of_shown_error h, visitsIn_of_shown_error hshown, List.filter_nil]
  | ok names =>
    rw [h] at hshown
    rw [visitsIn_of_shown h, visitsIn_of_shown hshown, Layer.filter_visitsOf]

theorem refusalIn?_remove (hname : v.NamedBy name)
    (hplace : source.SameDirectory (source.remove v)) (layer : Layer) :
    (source.remove v).refusalIn? layer = source.refusalIn? layer := by
  rw [refusalIn?_eq, refusalIn?_eq, shown_remove hname hplace]
  cases source.shown layer <;> rfl

theorem reading_remove (hname : v.NamedBy name)
    (hplace : source.SameDirectory (source.remove v)) (hw : w ∈ source.visitsIn layer)
    (hne : w ≠ v) : (source.remove v).reading w = source.reading w := by
  obtain ⟨rfl, home', name', hlayer, -, hname'⟩ := exists_home_of_mem hw
  cases hhome : source.files.place (source.layerDirectory v.layer) with
  | error e => rw [remove_of_no_home hhome]
  | ok home =>
    have hout : ¬ home ++ [name] <+: home' ++ [name'] := fun hunder =>
      hne ((prefix_iff hhome hlayer hname hname'.1).mp hunder)
    have hbefore : ¬ home ++ [name] <+: home' := fun hunder =>
      hout (hunder.trans (List.prefix_append _ _))
    have hwalk' := FileTree.walk_of_place ((home_remove hplace w.layer).1.trans hlayer)
    unfold reading path
    rw [layerDirectory_remove]
    apply readDocument_congr
    rw [remove_of_home hname hhome, files_withFiles] at hwalk' ⊢
    -- Both ways lead through the directory of the layer, and on from there in the same step.
    have hwalk : (source.files.without (home ++ [name])).walk
          ((source.layerDirectory w.layer).child w.name) =
        source.files.walk ((source.layerDirectory w.layer).child w.name) := by
      rw [FileTree.walk_child, FileTree.walk_child, hwalk', FileTree.walk_of_place hlayer]
      exact FileTree.stepFrom_without hbefore w.name
    unfold FileTree.find
    rw [FileTree.place_congr hwalk]
    cases hpath : source.files.place ((source.layerDirectory w.layer).child w.name) with
    | error e => rfl
    | ok target =>
      have htarget : target = home' ++ [name'] := by
        have hstep := FileTree.walk_of_place hpath
        rw [FileTree.walk_child, FileTree.walk_of_place hlayer] at hstep
        exact hname'.eq_of_step (FileTree.stepFrom_eq_ok_iff.mp hstep).2
      subst htarget
      exact FileTree.entryAt_without hout

end Removal

section Run

variable {removed : List Visit}

theorem directory_removeAll (source : ModelSource) (removed : List Visit) :
    (source.removeAll removed).directory = source.directory := by
  induction removed generalizing source with
  | nil => rfl
  | cons v removed ih => exact (ih (source.remove v)).trans (source.directory_remove v)

theorem mergeFault_removeAll (source : ModelSource) (removed : List Visit) :
    (source.removeAll removed).mergeFault = source.mergeFault := by
  induction removed generalizing source with
  | nil => rfl
  | cons v removed ih =>
    refine (ih (source.remove v)).trans ?_
    rcases source.remove_cases v with h | ⟨_, _, -, h⟩ <;> rw [h]
    rfl

theorem walk_of_removeAll {p : Path} {target : Place}
    (h : (source.removeAll removed).files.walk p = .ok target) :
    source.files.walk p = .ok target := by
  induction removed generalizing source with
  | nil => exact h
  | cons v removed ih =>
    have hremoved := ih h
    rcases source.remove_cases v with hv | ⟨_, _, -, hv⟩
    · rwa [hv] at hremoved
    · rw [hv] at hremoved
      exact FileTree.follow_of_without hremoved

/-- A directory that is there in the end was there all the time. -/
theorem SameDirectory.remove (h : source.SameDirectory (source.removeAll (v :: removed))) :
    source.SameDirectory (source.remove v) := by
  rcases source.remove_cases v with hv | ⟨base, name, hbase, hv⟩
  · rw [hv]
    rfl
  · rw [SameDirectory, hbase] at h ⊢
    exact walk_of_removeAll h

theorem removeAll_isolates (hnames : ∀ v ∈ removed, ∃ name, v.NamedBy name)
    (h : source.SameDirectory (source.removeAll removed)) (layer : Layer) :
    (source.removeAll removed).refusalIn? layer = source.refusalIn? layer ∧
      (source.removeAll removed).visitsIn layer =
        (source.visitsIn layer).filter (fun w => w ∉ removed) ∧
      ∀ w ∈ source.visitsIn layer, w ∉ removed →
        (source.removeAll removed).reading w = source.reading w := by
  induction removed generalizing source with
  | nil =>
    refine ⟨rfl, ?_, fun w _ _ => rfl⟩
    simp [removeAll]
  | cons v removed ih =>
    obtain ⟨name, hname⟩ := hnames v List.mem_cons_self
    -- The directory is there in the end, so it is there after the first removal.
    have hstep : source.SameDirectory (source.remove v) := h.remove
    have hrest : (source.remove v).SameDirectory ((source.remove v).removeAll removed) := by
      rw [SameDirectory, directory_remove]
      exact h.trans hstep.symm
    have hvisits := visitsIn_remove hname hstep layer
    obtain ⟨hrefusal, hleft, hreading⟩ :=
      ih (fun w hw => hnames w (List.mem_cons_of_mem v hw)) hrest
    refine ⟨hrefusal.trans (refusalIn?_remove hname hstep layer), ?_, ?_⟩
    · rw [hvisits, List.filter_filter] at hleft
      refine hleft.trans (List.filter_congr fun w _ => ?_)
      simp [Bool.and_comm]
    · intro w hw hout
      obtain ⟨hne, hout⟩ := List.ne_and_not_mem_of_not_mem_cons hout
      have hw' : w ∈ (source.remove v).visitsIn layer := by
        rw [hvisits]
        exact List.mem_filter.mpr ⟨hw, decide_eq_true hne⟩
      exact (hreading w hw' hout).trans (reading_remove hname hstep hw hne)

/-- A path without upward steps does not lead through a file of a layer. -/
theorem sameDirectory_removeAll (hdown : Path.above ∉ source.directory.parts) :
    source.SameDirectory (source.removeAll removed) := by
  induction removed generalizing source with
  | nil => rfl
  | cons v removed ih =>
    have hrest : (source.remove v).SameDirectory ((source.remove v).removeAll removed) :=
      ih (by rwa [directory_remove])
    rw [SameDirectory, directory_remove] at hrest
    refine hrest.trans ?_
    rcases source.remove_cases v with hv | ⟨base, name, hbase, hv⟩
    · rw [hv]
    · rw [hv]
      have hout : ¬ base ++ [v.layer.directoryName] ++ [name] <+: base :=
        not_prefix_of_length_le (Nat.le_succ _)
      exact (FileTree.follow_without hdown hout hbase).trans hbase.symm

end Run

end Archimate.ModelSource
