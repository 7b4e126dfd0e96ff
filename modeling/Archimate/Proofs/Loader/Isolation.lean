import Archimate.Proofs.Loader.Removal

namespace Archimate

/-- The look-up of a directory is refused, or its listing for another reason than that it is not
permitted. -/
def FileTree.Refuses (files : FileTree) (directory : Path) : Prop :=
  ∃ e, files.isDirectory directory = .error e ∨
    files.isDirectory directory = .ok true ∧ files.names directory = .error e ∧
      e.isPermission = false

namespace ModelSource

variable {source : ModelSource} {layer : Layer} {v : Visit}

def bad (source : ModelSource) : List Visit :=
  source.modelFiles.filter fun v => (source.reading v).toOption.isNone

def withoutBad (source : ModelSource) : ModelSource := source.removeAll source.bad

section Bad

theorem mem_modelFiles : v ∈ source.modelFiles ↔ v ∈ source.visitsIn v.layer := by
  unfold modelFiles
  rw [List.mem_flatMap]
  constructor
  · rintro ⟨layer, -, hv⟩
    rwa [(exists_home_of_mem hv).1]
  · intro hv
    refine ⟨v.layer, ?_, hv⟩
    cases v.layer <;> decide

theorem mem_modelFiles_of_mem_visits (h : v ∈ source.visits) : v ∈ source.modelFiles := by
  unfold visits at h
  obtain ⟨layer, hlayer, hv⟩ := List.mem_flatMap.mp h
  exact List.mem_flatMap.mpr ⟨layer, List.takeWhile_subset _ hlayer, hv⟩

theorem not_mem_bad (hv : v ∈ source.visitsIn layer) :
    v ∉ source.bad ↔ (source.reading v).toOption.isSome = true := by
  have hfile : v ∈ source.modelFiles := mem_modelFiles.mpr ((exists_home_of_mem hv).1 ▸ hv)
  unfold bad
  rw [List.mem_filter, not_and, Option.isNone_iff_eq_none, ← ne_eq, ← Option.isSome_iff_ne_none]
  exact ⟨fun h => h hfile, fun h _ => h⟩

theorem namedBy_of_mem_bad (h : v ∈ source.bad) : ∃ name, v.NamedBy name := by
  obtain ⟨-, -, name, -, -, hname⟩ :=
    exists_home_of_mem (mem_modelFiles.mp (List.mem_filter.mp h).1)
  exact ⟨name, hname⟩

end Bad

section Outcome

theorem refusal?_eq_none_iff_forall :
    source.refusal? = none ↔ ∀ layer, source.refusalIn? layer = none := by
  unfold refusal?
  rw [List.findSome?_eq_none_iff]
  constructor
  · intro h layer
    exact Option.map_eq_none_iff.mp (h layer (by cases layer <;> decide))
  · intro h layer _
    rw [h layer, Option.map_none]

/-- The loader is refused a layer exactly when the operating system refuses its directory. -/
theorem refusalIn?_eq_none_iff :
    source.refusalIn? layer = none ↔ ¬ source.files.Refuses (source.layerDirectory layer) := by
  unfold refusalIn? modelNames shownNames FileTree.Refuses
  cases source.files.isDirectory (source.layerDirectory layer) with
  | error e => exact iff_of_false nofun fun h => h ⟨e, Or.inl rfl⟩
  | ok found =>
    cases found with
    | false => exact iff_of_true rfl nofun
    | true =>
      cases source.files.names (source.layerDirectory layer) with
      | ok names => exact iff_of_true rfl nofun
      | error e =>
        cases hpermission : e.isPermission with
        | true =>
          refine iff_of_true ?_ ?_
          · simp only [hpermission]
            rfl
          · rintro ⟨_, h | ⟨-, h, hother⟩⟩ <;> cases h
            rw [hpermission] at hother
            cases hother
        | false =>
          refine iff_of_false ?_ fun h => h ⟨e, Or.inr ⟨rfl, rfl, hpermission⟩⟩
          simp only [hpermission]
          exact nofun

theorem visits_of_refusal?_eq_none (h : source.refusal? = none) :
    source.visits = source.modelFiles := by
  have hall := refusal?_eq_none_iff_forall.mp h
  unfold visits modelFiles
  simp only [hall, Option.isNone_none]
  rfl

/-- What is left without the bad files are the visits that can be read, each read as before. -/
theorem withoutBad_isolates (h : source.SameDirectory source.withoutBad) (layer : Layer) :
    source.withoutBad.refusalIn? layer = source.refusalIn? layer ∧
      source.withoutBad.visitsIn layer =
        (source.visitsIn layer).filter (fun v => (source.reading v).toOption.isSome) ∧
      ∀ v ∈ source.withoutBad.visitsIn layer,
        source.withoutBad.reading v = source.reading v := by
  obtain ⟨hrefusal, hvisits, hreading⟩ :=
    removeAll_isolates (fun _ => namedBy_of_mem_bad) h layer
  refine ⟨hrefusal, ?_, ?_⟩
  · refine hvisits.trans (List.filter_congr fun v hv => ?_)
    rw [Bool.eq_iff_iff, decide_eq_true_iff]
    exact not_mem_bad hv
  · intro v hv
    have hv : v ∈ (source.visitsIn layer).filter fun w => w ∉ source.bad := hvisits ▸ hv
    obtain ⟨hv, hout⟩ := List.mem_filter.mp hv
    exact hreading v hv (of_decide_eq_true hout)

theorem documentsIn_withoutBad (h : source.SameDirectory source.withoutBad) (layer : Layer) :
    source.withoutBad.documentsIn layer = source.documentsIn layer := by
  obtain ⟨-, hvisits, hreading⟩ := withoutBad_isolates h layer
  -- Visits that fail have no document, so it does not matter that they are gone.
  have hdocuments : source.withoutBad.documentsIn layer =
      (source.withoutBad.visitsIn layer).filterMap fun v => (source.reading v).toOption :=
    List.filterMap_congr fun v hv => congrArg Except.toOption (hreading v hv)
  rw [hdocuments, hvisits, List.filterMap_filter]
  apply List.filterMap_congr
  intro v _
  cases source.reading v <;> rfl

theorem failures_withoutBad (h : source.SameDirectory source.withoutBad) :
    source.withoutBad.failures = [] := by
  unfold failures
  rw [List.filterMap_eq_nil_iff]
  intro v hv
  have hv := mem_modelFiles.mp (mem_modelFiles_of_mem_visits hv)
  obtain ⟨-, hvisits, hreading⟩ := withoutBad_isolates h v.layer
  unfold failure?
  rw [hreading v hv]
  rw [hvisits] at hv
  have hread := (List.mem_filter.mp hv).2
  cases hresult : source.reading v with
  | ok d => rfl
  | error failure =>
    rw [hresult] at hread
    cases hread

theorem refusal?_withoutBad (h : source.SameDirectory source.withoutBad) :
    source.withoutBad.refusal? = source.refusal? := by
  unfold refusal?
  simp only [fun layer => (withoutBad_isolates h layer).1]

theorem nodup_visitsIn (h : (source.files.entries.map Prod.fst).Nodup) (layer : Layer) :
    (source.visitsIn layer).Nodup := by
  cases hshown : source.shown layer with
  | error e =>
    rw [visitsIn_of_shown_error hshown]
    exact List.nodup_nil
  | ok names =>
    rw [visitsIn_of_shown hshown]
    apply layer.nodup_visitsOf
    obtain rfl | ⟨home, -, rfl⟩ := eq_namesAt_of_shown hshown
    · exact List.nodup_nil
    · exact FileTree.nodup_namesAt h home

theorem nodup_visits (h : (source.files.entries.map Prod.fst).Nodup) : source.visits.Nodup := by
  apply List.nodup_flatMap.mpr
  refine ⟨fun layer _ => nodup_visitsIn h layer, ?_⟩
  have hlayers : Layer.all.Nodup := by decide
  refine (hlayers.sublist (List.takeWhile_sublist _)).imp ?_
  intro layer layer' hne v hv hv'
  exact hne ((exists_home_of_mem hv).1.symm.trans (exists_home_of_mem hv').1)

theorem visitsIn_sorted (source : ModelSource) (layer : Layer) :
    (source.visitsIn layer).Pairwise fun v w => Text.le v.name w.name = true := by
  cases h : source.shown layer with
  | error e =>
    rw [visitsIn_of_shown_error h]
    exact List.Pairwise.nil
  | ok names =>
    rw [visitsIn_of_shown h]
    exact layer.visitsOf_sorted _

end Outcome

section Listing

variable {files : FileTree}

/-- A directory shows the same names, in whatever order it lists them. -/
theorem shown_of_relisted (h : source.files.Relisted files) (layer : Layer) :
    (∃ names names', source.shown layer = .ok names ∧
        (source.withFiles files).shown layer = .ok names' ∧ names'.Perm names) ∨
      ∃ e, source.shown layer = .error e ∧ (source.withFiles files).shown layer = .error e := by
  have hhome :
      (source.withFiles files).files.place ((source.withFiles files).layerDirectory layer) =
      source.files.place (source.layerDirectory layer) :=
    (FileTree.place_congr (h.walk_eq _)).symm
  cases hplace : source.files.place (source.layerDirectory layer) with
  | error e =>
    rw [shown_of_no_home hplace, shown_of_no_home (hhome.trans hplace)]
    split
    · exact Or.inl ⟨_, _, rfl, rfl, List.Perm.refl _⟩
    · exact Or.inr ⟨e, rfl, rfl⟩
  | ok home =>
    rw [shown_of_home hplace, shown_of_home (hhome.trans hplace)]
    unfold shownAt
    rw [files_withFiles, ← h.entry_eq home]
    repeat' split
    · exact Or.inl ⟨_, _, rfl, rfl, (h.namesAt_perm home).symm⟩
    · exact Or.inl ⟨_, _, rfl, rfl, List.Perm.refl _⟩
    · exact Or.inr ⟨_, rfl, rfl⟩
    · exact Or.inl ⟨_, _, rfl, rfl, List.Perm.refl _⟩
    · exact Or.inr ⟨_, rfl, rfl⟩
    · exact Or.inl ⟨_, _, rfl, rfl, List.Perm.refl _⟩

theorem visitsIn_of_relisted (h : source.files.Relisted files) (layer : Layer) :
    (source.withFiles files).refusalIn? layer = source.refusalIn? layer ∧
      (source.withFiles files).visitsIn layer = source.visitsIn layer := by
  rw [refusalIn?_eq, refusalIn?_eq]
  obtain ⟨names, names', hshown, hshown', hperm⟩ | ⟨e, hshown, hshown'⟩ := shown_of_relisted h layer
  · rw [visitsIn_of_shown hshown, visitsIn_of_shown hshown', hshown, hshown']
    exact ⟨rfl, layer.visitsOf_eq_of_perm hperm⟩
  · rw [visitsIn_of_shown_error hshown, visitsIn_of_shown_error hshown', hshown, hshown']
    exact ⟨rfl, rfl⟩

theorem reading_of_relisted (h : source.files.Relisted files) (v : Visit) :
    (source.withFiles files).reading v = source.reading v :=
  readDocument_congr (h.find_eq _).symm

theorem loadAll_of_relisted (hmerge : source.mergeFault = none) (h : source.files.Relisted files) :
    (source.withFiles files).loadAll = source.loadAll := by
  have hvisits := funext fun layer => (visitsIn_of_relisted h layer).2
  have hrefusals := funext fun layer => (visitsIn_of_relisted h layer).1
  have hreading := funext (reading_of_relisted h)
  have hrefusal : (source.withFiles files).refusal? = source.refusal? := by
    unfold refusal?
    rw [hrefusals]
  have hreadable : (source.withFiles files).readable = source.readable := by
    unfold readable documentsIn
    rw [hvisits, hreading]
  have hfailures : (source.withFiles files).failures = source.failures := by
    unfold failures visits failure?
    rw [hvisits, hrefusals, hreading]
  rw [loadAll_eq (source.withFiles files) hmerge, loadAll_eq source hmerge, hrefusal, hreadable,
    hfailures]
  rfl

end Listing

/-- Unless a directory is refused, a file that cannot be read costs one record in the log and
nothing else. A refusal leaves nothing, and costs one record more. -/
theorem loadAll_isolates_failures (hmerge : source.mergeFault = none) :
    (source.refusal? = none ↔ ∀ layer, ¬ source.files.Refuses (source.layerDirectory layer)) ∧
    (source.refusal? = none →
      source.visits = source.modelFiles ∧
      source.loadAll = ⟨some source.readable, source.failures.map source.record⟩) ∧
    (∀ refused, source.refusal? = some refused →
      source.loadAll =
        ⟨none, source.failures.map source.record ++ [source.refusalRecord refused]⟩) ∧
    (∀ record ∈ source.loadAll.logs, record.level = .error) ∧
    (∀ layer, (source.visitsIn layer).Pairwise fun v w => Text.le v.name w.name = true) ∧
    ((source.files.entries.map Prod.fst).Nodup → source.visits.Nodup) ∧
    (source.SameDirectory source.withoutBad →
      (∀ layer, source.withoutBad.visitsIn layer =
        (source.visitsIn layer).filter fun v => (source.reading v).toOption.isSome) ∧
      source.withoutBad.loadAll =
        ⟨source.loadAll.value, (source.refusal?.map source.refusalRecord).toList⟩) ∧
    (Path.above ∉ source.directory.parts → source.SameDirectory source.withoutBad) ∧
    ∀ files, source.files.Relisted files →
      (source.withFiles files).loadAll = source.loadAll := by
  have hload := source.loadAll_eq hmerge
  refine ⟨?_, ?_, ?_, fun _ => level_of_mem_logs hmerge, source.visitsIn_sorted, nodup_visits,
    ?_, ?_, ?_⟩
  · rw [refusal?_eq_none_iff_forall]
    exact forall_congr' fun layer => refusalIn?_eq_none_iff
  · intro hnone
    refine ⟨visits_of_refusal?_eq_none hnone, ?_⟩
    rw [hload, hnone, Option.map_none, Option.toList_none, List.append_nil, if_pos rfl]
  · intro refused hrefused
    rw [hload, hrefused]
    rfl
  · intro h
    refine ⟨fun layer => (withoutBad_isolates h layer).2.1, ?_⟩
    have hleft : source.withoutBad.mergeFault = none :=
      (mergeFault_removeAll source _).trans hmerge
    have hrecord : source.withoutBad.refusalRecord = source.refusalRecord := by
      unfold refusalRecord layerDirectory
      rw [withoutBad, directory_removeAll]
    rw [loadAll_eq _ hleft, failures_withoutBad h, refusal?_withoutBad h, hrecord, readable]
    simp only [documentsIn_withoutBad h, hload]
    rfl
  · exact sameDirectory_removeAll
  · intro files h
    exact loadAll_of_relisted hmerge h

def placeOf (words : List String) : Place :=
  words.map fun word => (FileName.ofText? word).getD []

/-- In one layer a directory and a file that may not be opened stand among the model files, in
another one stands a file that is no text. -/
def mixed : ModelSource where
  directory := .ofText "m"
  files :=
    { workingDirectory := []
      entries := [
        (placeOf ["m"], .directory),
        (placeOf ["m", "business"], .directory),
        (placeOf ["m", "business", "d.pkl"], .closed .denied),
        (placeOf ["m", "business", "b.pkl"], .directory),
        (placeOf ["m", "business", "a.pkl"],
          .file "a: BusinessActor = new \x7buid = \"a\"\x7d".toUTF8),
        (placeOf ["m", "technology"], .directory),
        (placeOf ["m", "technology", "c.pkl"], .file ⟨#[0xff]⟩)] }

theorem visitsIn_mixed :
    mixed.visitsIn .business =
        [⟨.business, "a.pkl"⟩, ⟨.business, "b.pkl"⟩, ⟨.business, "d.pkl"⟩] ∧
      mixed.visitsIn .application = [] ∧ mixed.visitsIn .technology = [⟨.technology, "c.pkl"⟩] := by
  have hshown : mixed.shown .business =
      .ok (mixed.files.namesAt (placeOf ["m", "business"])) := by decide +kernel
  refine ⟨?_, by decide +kernel, by decide +kernel⟩
  rw [visitsIn_of_shown hshown]
  refine Layer.visitsOf_eq_map _ (?_ : [("a.pkl" : Text), "b.pkl", "d.pkl"].Pairwise _) ?_
  · decide
  · decide +kernel

/-- The last of the directories may not be entered and cannot be listed. -/
def locked : ModelSource where
  directory := .ofText "m"
  files :=
    { workingDirectory := []
      entries := [
        (placeOf ["m"], .directory),
        (placeOf ["m", "business"], .directory),
        (placeOf ["m", "business", "b.pkl"], .directory),
        (placeOf ["m", "technology"],
          .directory (some .denied) (some ⟨5, "Input/output error"⟩))] }

theorem loadAll_isolates_failures_mixed :
    mixed.failures.map (fun failed => (failed.1, failed.2.kind)) =
        [(⟨.business, "b.pkl"⟩, "ModelLoadError"), (⟨.business, "d.pkl"⟩, "ModelLoadError"),
          (⟨.technology, "c.pkl"⟩, "ModelLoadError")] ∧
      mixed.loadAll = ⟨some mixed.readable, mixed.failures.map mixed.record⟩ ∧
      mixed.visits.Nodup ∧
      mixed.withoutBad.loadAll = ⟨some mixed.readable, []⟩ ∧
      mixed.readable.elements.map AnyElement.uid = ["a"] ∧
      (mixed.withFiles { mixed.files with entries := mixed.files.entries.reverse }).loadAll =
        mixed.loadAll ∧
      locked.failures.map Prod.fst = [⟨.business, "b.pkl"⟩] ∧
      locked.loadAll = ⟨none, locked.failures.map locked.record ++
        [locked.refusalRecord (.technology, ⟨5, "Input/output error"⟩)]⟩ ∧
      locked.withoutBad.loadAll =
        ⟨none, [locked.refusalRecord (.technology, ⟨5, "Input/output error"⟩)]⟩ := by
  have hdistinct : (mixed.files.entries.map Prod.fst).Nodup := by decide +kernel
  have hnone : mixed.refusal? = none := by decide +kernel
  have hrefused : locked.refusal? = some (.technology, ⟨5, "Input/output error"⟩) := by
    decide +kernel
  obtain ⟨-, hloaded, -, -, -, hnodup, hwithout, hsame, hlisted⟩ :=
    loadAll_isolates_failures (rfl : mixed.mergeFault = none)
  obtain ⟨-, -, hlocked, -, -, -, hlockedWithout, hlockedSame, -⟩ :=
    loadAll_isolates_failures (rfl : locked.mergeFault = none)
  obtain ⟨hvisits, hload⟩ := hloaded hnone
  have hleft := (hwithout (hsame (by decide))).2
  rw [hload, hnone] at hleft
  have hlockedLoad := hlocked _ hrefused
  have hlockedLeft := (hlockedWithout (hlockedSame (by decide))).2
  rw [hlockedLoad, hrefused] at hlockedLeft
  obtain ⟨hbusiness, happlication, htechnology⟩ := visitsIn_mixed
  refine ⟨?_, hload, hnodup hdistinct, hleft, ?_, ?_, by decide +kernel, hlockedLoad, hlockedLeft⟩
  · rw [failures, hvisits]
    unfold modelFiles Layer.all
    simp only [List.flatMap_cons, List.flatMap_nil, hbusiness, happlication, htechnology]
    decide +kernel
  · unfold readable documentsIn
    rw [hbusiness, happlication, htechnology]
    decide +kernel
  · exact hlisted _ ⟨(List.reverse_perm _).symm, hdistinct, rfl⟩

/-- A models directory whose name is longer than a name may be. -/
def overlong : ModelSource where
  files := .empty
  directory := .ofText (List.replicate 300 'a')

theorem overlong_loads_nothing :
    overlong.mergeFault = none ∧ overlong.modelFiles = [] ∧ overlong.loadAll.value = none ∧
      overlong.loadAll.logs.map (fun record => (record.level, record.message)) =
        [(.error, "Failed to load architecture models: [Errno 36] File name too long: '" ++
          Text.ofChars (List.replicate 300 'a') ++ "/business'")] := by
  decide +kernel

end ModelSource

end Archimate
