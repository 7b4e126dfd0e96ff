import Archimate.Loader
import Archimate.Proofs.Files
import Archimate.Proofs.Text.Order

namespace Archimate

structure Visit where
  layer : Layer
  name : Text
deriving DecidableEq

/-- The visit of an entry that has this name; the step upwards is no entry. -/
def Visit.NamedBy (v : Visit) (name : FileName) : Prop :=
  v.name = name.text ∧ v.name ≠ Path.above

def Layer.directoryName (layer : Layer) : FileName := (FileName.ofText? layer.word).getD []

theorem Layer.directoryName_injective : Function.Injective Layer.directoryName := by
  intro a b h
  cases a <;> cases b <;> first | rfl | exact absurd h (by decide)

theorem Layer.step_word (layer : Layer) (place : Place) :
    place.step layer.word = .ok (place ++ [layer.directoryName]) := by
  cases layer <;> rfl

theorem Visit.NamedBy.eq_of_step {v : Visit} {name : FileName} {place next : Place}
    (h : v.NamedBy name) (hstep : place.step v.name = .ok next) : next = place ++ [name] := by
  obtain ⟨found, hfound, rfl⟩ := Place.eq_of_step h.2 hstep
  rw [h.1, FileName.ofText?_text] at hfound
  rw [Option.some.inj hfound]

/-- The visits that the names of a directory call for. -/
def Layer.visitsOf (layer : Layer) (names : List FileName) : List Visit :=
  (ModelSource.modelsAmong names).map (Visit.mk layer)

theorem Layer.filter_visitsOf (layer : Layer) (keep : Visit → Bool) (names : List FileName) :
    (layer.visitsOf names).filter keep =
      layer.visitsOf (names.filter fun name => keep ⟨layer, name.text⟩) := by
  unfold visitsOf ModelSource.modelsAmong
  have hnames : (names.filter fun name => keep ⟨layer, name.text⟩).map FileName.text =
      (names.map FileName.text).filter fun text => keep ⟨layer, text⟩ := by
    rw [List.filter_map]
    rfl
  rw [List.filter_map, ← Text.mergeSort_filter, hnames, List.filter_comm]
  rfl

theorem Layer.mem_visitsOf {layer : Layer} {names : List FileName} {v : Visit} :
    v ∈ layer.visitsOf names ↔ v.layer = layer ∧ ModelSource.modelSuffix.isSuffixOf v.name = true ∧
      ∃ name ∈ names, v.name = name.text := by
  unfold visitsOf ModelSource.modelsAmong
  simp only [List.mem_map, List.mem_mergeSort, List.mem_filter]
  constructor
  · rintro ⟨_, ⟨⟨name, hname, rfl⟩, hsuffix⟩, rfl⟩
    exact ⟨rfl, hsuffix, name, hname, rfl⟩
  · rintro ⟨rfl, hsuffix, name, hname, htext⟩
    exact ⟨v.name, ⟨⟨name, hname, htext.symm⟩, hsuffix⟩, rfl⟩

theorem Layer.visitsOf_sorted (layer : Layer) (names : List FileName) :
    (layer.visitsOf names).Pairwise fun v w => Text.le v.name w.name = true :=
  List.pairwise_map.mpr (Text.sorted_mergeSort _)

theorem Layer.visitsOf_eq_of_perm (layer : Layer) {names names' : List FileName}
    (h : names.Perm names') : layer.visitsOf names = layer.visitsOf names' := by
  unfold visitsOf ModelSource.modelsAmong
  rw [Text.mergeSort_eq_of_perm ((h.map _).filter _)]

theorem Layer.visitsOf_eq_map (layer : Layer) {names : List FileName} {texts : List Text}
    (hsorted : texts.Pairwise fun s t => Text.le s t = true)
    (hperm : ((names.map FileName.text).filter ModelSource.modelSuffix.isSuffixOf).Perm texts) :
    layer.visitsOf names = texts.map (Visit.mk layer) := by
  rw [visitsOf, ModelSource.modelsAmong, Text.mergeSort_eq_of_perm hperm,
    List.mergeSort_of_pairwise hsorted]

theorem Layer.nodup_visitsOf (layer : Layer) {names : List FileName} (h : names.Nodup) :
    (layer.visitsOf names).Nodup := by
  have hmk : Function.Injective (Visit.mk layer) := fun _ _ heq => (Visit.mk.inj heq).2
  apply List.Nodup.map hmk
  rw [ModelSource.modelsAmong, (List.mergeSort_perm _ _).nodup_iff]
  exact (h.map FileName.text_injective).filter _

namespace Logged

variable {α β : Type}

theorem pure_eq (a : α) : (pure a : Logged α) = ⟨a, []⟩ := rfl

theorem bind_eq (x : Logged α) (f : α → Logged β) :
    x >>= f = ⟨(f x.value).value, x.logs ++ (f x.value).logs⟩ := rfl

theorem run_lift (x : Logged α) :
    (liftM x : ExceptT Failure Logged α).run = ⟨.ok x.value, x.logs⟩ := by
  show (⟨.ok x.value, x.logs ++ []⟩ : Logged (Except Failure α)) = _
  rw [List.append_nil]

variable {x : ExceptT Failure Logged α} {logs : List LogRecord}

theorem run_bind_ok {a : α} (h : x.run = ⟨.ok a, logs⟩) (f : α → ExceptT Failure Logged β) :
    (x >>= f).run = ⟨(f a).run.value, logs ++ (f a).run.logs⟩ := by
  rw [ExceptT.run_bind, h]
  rfl

theorem run_bind_error {e : Failure} (h : x.run = ⟨.error e, logs⟩)
    (f : α → ExceptT Failure Logged β) : (x >>= f).run = ⟨.error e, logs⟩ := by
  rw [ExceptT.run_bind, h, bind_eq]
  exact congrArg _ (List.append_nil logs)

end Logged

namespace ModelSource

variable (source : ModelSource)

def layerDirectory (layer : Layer) : Path := source.directory.child layer.word

/-- What keeps the directory of a layer from being looked up or listed. -/
def refusalIn? (layer : Layer) : Option FileError :=
  match modelNames source.files (source.layerDirectory layer) with
  | .ok _ => none
  | .error e => some e

/-- The model files of one layer, in order; none are known of a directory that is refused. -/
def visitsIn (layer : Layer) : List Visit :=
  match modelNames source.files (source.layerDirectory layer) with
  | .ok names => names.map (Visit.mk layer)
  | .error _ => []

def modelFiles : List Visit := Layer.all.flatMap source.visitsIn

/-- The first layer whose directory is refused. -/
def refusal? : Option (Layer × FileError) :=
  Layer.all.findSome? fun layer => (source.refusalIn? layer).map (layer, ·)

def visits : List Visit :=
  (Layer.all.takeWhile fun layer => (source.refusalIn? layer).isNone).flatMap source.visitsIn

def path (v : Visit) : Path := (source.layerDirectory v.layer).child v.name

/-- How a visit ends. -/
def reading (v : Visit) : Except Failure Document := readDocument source.files (source.path v)

def documentsIn (layer : Layer) : List Document :=
  (source.visitsIn layer).filterMap fun v => (source.reading v).toOption

def readable : Architecture :=
  .merge (source.documentsIn .business) (source.documentsIn .application)
    (source.documentsIn .technology)

def failure? (v : Visit) : Option (Visit × Failure) :=
  match source.reading v with
  | .ok _ => none
  | .error failure => some (v, failure)

/-- The visits that fail, in order, each with its failure. -/
def failures : List (Visit × Failure) := source.visits.filterMap source.failure?

def record (failed : Visit × Failure) : LogRecord :=
  failed.2.report [("model_file", .string failed.1.name),
    ("directory", .string (source.layerDirectory failed.1.layer).text)]

/-- What the log says of a layer whose directory is refused. -/
def refusalRecord (refused : Layer × FileError) : LogRecord where
  level := .error
  message := "Failed to load architecture models: " ++
    refused.2.message (source.layerDirectory refused.1)

theorem readDocument_congr {files files' : FileTree} {path : Path}
    (h : files.find path = files'.find path) :
    readDocument files path = readDocument files' path := by
  unfold readDocument readText FileTree.read
  rw [h]

section Loading

theorem readEntry_eq (v : Visit) :
    readEntry source.files (source.layerDirectory v.layer) v.name =
      ⟨(source.reading v).toOption, ((source.failure? v).map source.record).toList⟩ := by
  have hreading : readDocument source.files ((source.layerDirectory v.layer).child v.name) =
      source.reading v := rfl
  unfold readEntry failure?
  rw [hreading]
  cases source.reading v with
  | ok d => rfl
  | error failure => rfl

theorem readEntries_eq (layer : Layer) (names : List Text) :
    readEntries source.files (source.layerDirectory layer) names =
      ⟨(names.map (Visit.mk layer)).filterMap fun v => (source.reading v).toOption,
        ((names.map (Visit.mk layer)).filterMap source.failure?).map source.record⟩ := by
  induction names with
  | nil => rfl
  | cons name names ih =>
    have hentry := source.readEntry_eq ⟨layer, name⟩
    dsimp only at hentry
    rw [readEntries, ih, hentry, List.map_cons]
    simp only [Logged.bind_eq, Logged.pure_eq, List.append_nil]
    unfold failure?
    cases hreading : source.reading ⟨layer, name⟩ <;>
      simp [hreading, Except.toOption]

/-- A layer is read, or refused before anything of it is read. -/
theorem layerDocuments_cases (layer : Layer) :
    source.refusalIn? layer = none ∧ (source.layerDocuments layer).run =
        ⟨.ok (source.documentsIn layer),
          ((source.visitsIn layer).filterMap source.failure?).map source.record⟩ ∨
      ∃ e, source.refusalIn? layer = some e ∧ (source.layerDocuments layer).run =
        ⟨.error (.ofFile (source.layerDirectory layer) e), []⟩ := by
  have hdirectory : source.directory.child layer.word = source.layerDirectory layer := rfl
  unfold layerDocuments readDirectory documentsIn visitsIn refusalIn?
  rw [hdirectory]
  cases modelNames source.files (source.layerDirectory layer) with
  | ok names =>
    have hread := Logged.run_lift (readEntries source.files (source.layerDirectory layer) names)
    refine Or.inl ⟨rfl, Eq.trans ?_ (hread.trans ?_)⟩
    · rfl
    · rw [readEntries_eq]
  | error e => exact Or.inr ⟨e, rfl, rfl⟩

theorem run_merged : source.merged.run =
    ⟨match source.refusal?, source.mergeFault with
      | some refused, _ => .error (.ofFile (source.layerDirectory refused.1) refused.2)
      | none, some fault => .error (.fault fault)
      | none, none => .ok source.readable,
      source.failures.map source.record⟩ := by
  have hfailures : source.failures.map source.record =
      (Layer.all.takeWhile fun layer => (source.refusalIn? layer).isNone).flatMap fun layer =>
        ((source.visitsIn layer).filterMap source.failure?).map source.record := by
    unfold failures visits
    rw [List.filterMap_flatMap, List.map_flatMap]
  rw [hfailures]
  unfold merged refusal? Layer.all
  -- The layers are read in turn; one that is refused keeps the following ones from being read.
  obtain ⟨hbusiness, hrun⟩ | ⟨e, hbusiness, hrun⟩ := source.layerDocuments_cases .business
  · rw [Logged.run_bind_ok hrun]
    obtain ⟨happlication, hrun⟩ | ⟨e, happlication, hrun⟩ :=
      source.layerDocuments_cases .application
    · rw [Logged.run_bind_ok hrun]
      obtain ⟨htechnology, hrun⟩ | ⟨e, htechnology, hrun⟩ :=
        source.layerDocuments_cases .technology
      · rw [Logged.run_bind_ok hrun]
        cases source.mergeFault <;>
          simp [hbusiness, happlication, htechnology, readable, Logged.pure_eq]
      · rw [Logged.run_bind_error hrun]
        simp [hbusiness, happlication, htechnology]
    · rw [Logged.run_bind_error hrun]
      simp [hbusiness, happlication]
  · rw [Logged.run_bind_error hrun]
    simp [hbusiness]

/-- What is loaded, and what is logged on the way. -/
theorem loadAll_eq (h : source.mergeFault = none) :
    source.loadAll = ⟨if source.refusal? = none then some source.readable else none,
      source.failures.map source.record ++ (source.refusal?.map source.refusalRecord).toList⟩ := by
  unfold loadAll
  rw [source.run_merged, h, Logged.bind_eq]
  cases source.refusal? with
  | none => rfl
  | some refused => rfl

theorem level_of_mem_logs {source : ModelSource} {record : LogRecord}
    (h : source.mergeFault = none) (hrecord : record ∈ source.loadAll.logs) :
    record.level = .error := by
  rw [source.loadAll_eq h] at hrecord
  rcases List.mem_append.mp hrecord with hrecord | hrecord
  · obtain ⟨failed, -, rfl⟩ := List.mem_map.mp hrecord
    rfl
  · rw [Option.mem_toList] at hrecord
    obtain ⟨refused, -, rfl⟩ := Option.map_eq_some_iff.mp hrecord
    rfl

theorem eq_readable_of_loadAll {a : Architecture} (h : source.loadAll.value = some a) :
    a = source.readable := by
  unfold loadAll at h
  rw [source.run_merged, Logged.bind_eq] at h
  cases hrefusal : source.refusal? with
  | some refused =>
    rw [hrefusal] at h
    cases h
  | none =>
    cases hfault : source.mergeFault with
    | some fault =>
      rw [hrefusal, hfault] at h
      cases h
    | none =>
      rw [hrefusal, hfault] at h
      exact (Option.some.inj h).symm

end Loading

section Homes

/-- The names that the place of a directory shows. -/
def shownAt (files : FileTree) (place : Place) : Except FileError (List FileName) :=
  match files.stored? place with
  | some (.directory _ none) => .ok (files.namesAt place)
  | some (.directory _ (some e)) => if e.isPermission then .ok [] else .error e
  | some (.broken e) => if e.findsNothing then .ok [] else .error e
  | _ => .ok []

/-- The names that the directory of a layer shows; one that is not there shows none. -/
def shown (layer : Layer) : Except FileError (List FileName) :=
  match source.files.place (source.layerDirectory layer) with
  | .ok home => shownAt source.files home
  | .error e => if e.findsNothing then .ok [] else .error e

variable {source} in
theorem shown_of_home {layer : Layer} {home : Place}
    (h : source.files.place (source.layerDirectory layer) = .ok home) :
    source.shown layer = shownAt source.files home := by
  rw [shown, h]

variable {source} in
theorem shown_of_no_home {layer : Layer} {e : FileError}
    (h : source.files.place (source.layerDirectory layer) = .error e) :
    source.shown layer = if e.findsNothing then .ok [] else .error e := by
  rw [shown, h]

theorem modelNames_eq (layer : Layer) :
    modelNames source.files (source.layerDirectory layer) =
      (source.shown layer).map modelsAmong := by
  have hnone : (.ok [] : Except FileError (List Text)) = .ok (modelsAmong []) :=
    congrArg Except.ok List.mergeSort_nil.symm
  unfold modelNames
  cases hplace : source.files.place (source.layerDirectory layer) with
  | error e =>
    rw [FileTree.isDirectory_of_place_error hplace, shown_of_no_home hplace]
    cases e.findsNothing with
    | true => exact hnone
    | false => rfl
  | ok home =>
    have hnames : source.files.names (source.layerDirectory layer) = source.files.listAt home := by
      rw [FileTree.names, hplace]
      rfl
    unfold FileTree.isDirectory FileTree.finds shownNames
    rw [FileTree.find_of_place hplace, hnames, shown_of_home hplace]
    unfold FileTree.listAt FileTree.entryAt shownAt
    cases source.files.stored? home with
    | none => exact hnone
    | some entry =>
      cases entry with
      | directory entering listing =>
        cases listing with
        | none => rfl
        | some e =>
          dsimp only
          cases e.isPermission <;> rfl
      | file bytes => exact hnone
      | closed e => exact hnone
      | broken e =>
        dsimp only
        cases e.findsNothing with
        | true => exact hnone
        | false => rfl

variable {source} {layer : Layer} {v : Visit} {home : Place} {name : FileName}

theorem visitsIn_of_shown {names : List FileName} (h : source.shown layer = .ok names) :
    source.visitsIn layer = layer.visitsOf names := by
  unfold visitsIn
  rw [modelNames_eq, h]
  rfl

theorem visitsIn_of_shown_error {e : FileError} (h : source.shown layer = .error e) :
    source.visitsIn layer = [] := by
  unfold visitsIn
  rw [modelNames_eq, h]
  rfl

theorem refusalIn?_eq (source : ModelSource) (layer : Layer) :
    source.refusalIn? layer = match source.shown layer with
      | .ok _ => none
      | .error e => some e := by
  unfold refusalIn?
  rw [modelNames_eq]
  cases source.shown layer <;> rfl

theorem exists_base_of_home (h : source.files.place (source.layerDirectory layer) = .ok home) :
    ∃ base, source.files.walk source.directory = .ok base ∧
      home = base ++ [layer.directoryName] := by
  have hwalk := FileTree.walk_of_place h
  rw [layerDirectory, FileTree.walk_child] at hwalk
  cases hbase : source.files.walk source.directory with
  | error e =>
    rw [hbase] at hwalk
    cases hwalk
  | ok base =>
    rw [hbase] at hwalk
    have hstep := (FileTree.stepFrom_eq_ok_iff.mp hwalk).2
    rw [Layer.step_word] at hstep
    exact ⟨base, rfl, (Except.ok.inj hstep).symm⟩

/-- What a directory shows are the names of its entries, or none of them. -/
theorem eq_namesAt_of_shown {names : List FileName} (h : source.shown layer = .ok names) :
    names = [] ∨ ∃ home, source.files.place (source.layerDirectory layer) = .ok home ∧
      names = source.files.namesAt home := by
  cases hhome : source.files.place (source.layerDirectory layer) with
  | error e =>
    rw [shown_of_no_home hhome] at h
    split at h <;> cases h
    exact Or.inl rfl
  | ok home =>
    rw [shown_of_home hhome] at h
    unfold shownAt at h
    split at h
    · exact Or.inr ⟨home, rfl, (Except.ok.inj h).symm⟩
    · split at h <;> cases h
      exact Or.inl rfl
    · split at h <;> cases h
      exact Or.inl rfl
    · exact Or.inl (Except.ok.inj h).symm

/-- A visited file lies in the directory of its layer, and its name is no step upwards. -/
theorem exists_home_of_mem (h : v ∈ source.visitsIn layer) :
    v.layer = layer ∧ ∃ home name,
      source.files.place (source.layerDirectory layer) = .ok home ∧
      name ∈ source.files.namesAt home ∧ v.NamedBy name := by
  cases hshown : source.shown layer with
  | error e =>
    rw [visitsIn_of_shown_error hshown] at h
    cases h
  | ok names =>
    rw [visitsIn_of_shown hshown] at h
    obtain ⟨hlayer, hsuffix, name, hname, htext⟩ := Layer.mem_visitsOf.mp h
    have habove : v.name ≠ Path.above := by
      -- The step upwards does not end like a model file.
      intro habove
      rw [habove] at hsuffix
      exact absurd hsuffix (by decide)
    obtain rfl | ⟨home, hhome, rfl⟩ := eq_namesAt_of_shown hshown
    · cases hname
    · exact ⟨hlayer, home, name, hhome, hname, htext, habove⟩

end Homes

end ModelSource

end Archimate
