import Archimate.Command
import Archimate.Proofs.Loader.Isolation
import Archimate.Proofs.Web.Verdict

namespace Archimate.Command

variable {files : FileTree} {settings : Settings} {a : Arguments} {loaded : Architecture}
  {found : Option Architecture}

def sourceOf (files : FileTree) (settings : Settings) (a : Arguments) : ModelSource :=
  ⟨files, .ofText (directoryOf settings a), none⟩

/-- If a file is asked for, the operating system tells whether it is there. -/
def LookedUp (files : FileTree) (a : Arguments) : Prop :=
  ∀ file, given? a.file = some file → ∃ found, files.exists? (.ofText file) = .ok found

section Ending

def reportJson (loaded : Architecture) : Json :=
  .named [("architecture", loaded.summary.toJson),
    ("validation", (Relationships.validate loaded.relationships).toJson)]

theorem errors_reportJson (loaded : Architecture) :
    ((reportJson loaded).member? "validation").bind (Json.member? "errors") =
      some (findingsJson (Relationships.findings loaded.relationships)) := by
  simp [reportJson, Verdict.toJson, Json.member?_named_cons, Relationships.validate]

theorem run_of_load (elapsed : Text) (h : (load files settings a).run.value = .ok found) :
    run files settings a elapsed = .ok { conclude settings a elapsed found with
      logs := (load files settings a).run.logs } := by
  unfold run
  dsimp only
  rw [h]
  rfl

theorem code_conclude_some (settings : Settings) (a : Arguments) (elapsed : Text)
    (loaded : Architecture) : (conclude settings a elapsed (some loaded)).ending.code =
      if Relationships.findings loaded.relationships = [] then 0 else 1 := by
  simp only [conclude, report, Relationships.isValid_validate_iff]
  split <;> rfl

theorem code_conclude_eq_two_iff (settings : Settings) (a : Arguments) (elapsed : Text) :
    (conclude settings a elapsed found).ending.code = 2 ↔ found = none := by
  cases found with
  | none => exact iff_of_true rfl rfl
  | some loaded =>
    rw [code_conclude_some]
    split <;> simp

theorem code_conclude_eq_zero_iff (settings : Settings) (a : Arguments) (elapsed : Text)
    (loaded : Architecture) : (conclude settings a elapsed (some loaded)).ending.code = 0 ↔
      Relationships.findings loaded.relationships = [] := by
  rw [code_conclude_some]
  split
  · rename_i hquiet
    exact iff_of_true rfl hquiet
  · rename_i hfound
    exact iff_of_false Nat.one_ne_zero hfound

end Ending

section Loading

theorem load_file {file : Text} (h : given? a.file = some file) :
    load files settings a = ModelSource.loadFile files (.ofText file) := by
  unfold load
  rw [h]

theorem load_directory (h : given? a.file = none) :
    (load files settings a).run.value = .ok (sourceOf files settings a).loadAll.value := by
  unfold load
  rw [h]
  rfl

theorem loadAll_eq_none_iff : (sourceOf files settings a).loadAll.value = none ↔
    ∃ layer, files.Refuses ((sourceOf files settings a).layerDirectory layer) := by
  rw [ModelSource.loadAll_eq _ rfl]
  dsimp only
  simp only [ite_eq_right_iff, reduceCtorEq, imp_false, ModelSource.refusal?_eq_none_iff_forall,
    not_forall]
  exact exists_congr fun layer => not_iff_comm.mp ModelSource.refusalIn?_eq_none_iff.symm

/-- Unless the look-up of a file is refused, something or nothing is loaded. -/
theorem exists_load (settings : Settings) (h : LookedUp files a) :
    ∃ found, (load files settings a).run.value = .ok found ∧
      (∀ file, given? a.file = some file →
        (found = none ↔ files.Unloadable (.ofText file))) ∧
      (given? a.file = none → found = (sourceOf files settings a).loadAll.value) := by
  cases hfile : given? a.file with
  | none => exact ⟨_, load_directory hfile, nofun, fun _ => rfl⟩
  | some file =>
    obtain ⟨there, hthere⟩ := h file hfile
    obtain ⟨found, hfound, hnone⟩ := ModelSource.exists_loadFile_value hthere
    refine ⟨found, ?_, ?_, nofun⟩
    · rw [load_file hfile]
      exact hfound
    · intro other hother
      exact Option.some.inj hother ▸ hnone

end Loading

/-- A service over the models directory of the command. -/
structure SameModels (files : FileTree) (settings : Settings) (a : Arguments) (s : Surroundings) :
    Prop where
  source : s.source = sourceOf files settings a
  writable : s.saveFault = none

/-- What the command ends with and prints agrees with the answers of the service about the
relationships of an architecture and about the architecture as a whole. -/
structure SameVerdict (a : Arguments) (outcome : Outcome) (relationships whole : Json) : Prop where
  valid : outcome.ending.code = 0 ↔ relationships.member? "isValid" = some (.bool true)
  quiet : outcome.ending.code = 0 ↔ whole.relationshipWarnings = []
  errors : relationships.member? "errors" = some (.array whole.relationshipWarnings)
  printed : a.json = true → ∃ report : Json, outcome.output = report.print ++ "\n" ∧
    (report.member? "validation").bind (Json.member? "errors") =
      some (.array whole.relationshipWarnings)

section Service

theorem sameVerdict_of_loaded (settings : Settings) (a : Arguments) (elapsed : Text)
    (logs : List LogRecord) (loaded : Architecture) :
    SameVerdict a { conclude settings a elapsed (some loaded) with logs := logs }
      (Web.Question.relationshipVerdictJson loaded.relationships).shown
      loaded.validate.toJson.shown := by
  have hcode := code_conclude_eq_zero_iff settings a elapsed loaded
  have hwarnings := loaded.relationshipWarnings_validate
  constructor
  · rw [hcode, Web.member?_isValid_relationshipVerdict]
    simp [← Relationships.isValid_validate_iff]
  · rw [hcode, hwarnings, List.map_eq_nil_iff]
  · rw [hwarnings, Web.member?_errors_relationshipVerdict]
    rfl
  · intro hjson
    refine ⟨reportJson loaded, ?_, ?_⟩
    · simp only [conclude, report, if_pos hjson]
      rfl
    · rw [hwarnings, errors_reportJson]
      rfl

variable {s : Surroundings} {store : Store} {r : Web.Request}

theorem reply_of_reload (now : String) (store : Store)
    (hload : (sourceOf files settings a).loadAll.value = some loaded)
    (hsame : SameModels files settings a s)
    (hreload : Web.Destination.find r.method r.address = .endpoint (.change .reload)) :
    (Web.answer s now store r).store.find? "merged-architecture" = some loaded ∧
      (Web.answer s now store r).warnings = Service.reloadWarnings loaded := by
  have hmerge : s.source.mergeFault = none := by
    rw [hsame.source]
    rfl
  have hload : s.source.loadAll.value = some loaded := by rw [hsame.source, hload]
  -- A merge goes by the same uid whatever was read, so the id in the address needs no look-up.
  have huid : ("merged-architecture" : Text) = loaded.uid := by
    rw [s.source.eq_readable_of_loadAll hload]
    rfl
  rw [(Web.reply_reload now store hload hsame.writable hreload).1,
    Web.warnings_reload now store hmerge hload hsame.writable hreload, Store.find?_save]
  exact ⟨if_pos huid, rfl⟩

/-- A reload warns exactly when the command ends with 1. -/
theorem reloadWarnings_of_loaded (settings : Settings) (a : Arguments) (elapsed : Text)
    (loaded : Architecture) : Service.reloadWarnings loaded =
      if (conclude settings a elapsed (some loaded)).ending.code = 1 then
        [Service.findingsWarning loaded (Relationships.findings loaded.relationships)] else [] := by
  rw [code_conclude_some]
  unfold Service.reloadWarnings
  cases Relationships.findings loaded.relationships with
  | nil => rfl
  | cons f fs => rfl

/-- Both questions about what was loaded from a models directory are answered. -/
theorem responses_of_found {id : String} {r₁ r₂ : Web.Request} (s : Surroundings) (now : String)
    (hload : (sourceOf files settings a).loadAll.value = some loaded)
    (hfound : store.find? id = some loaded)
    (h₁ : Web.Destination.find r₁.method r₁.address =
      .endpoint (.question (.relationshipValidation id)))
    (h₂ : Web.Destination.find r₂.method r₂.address = .endpoint (.question (.validation id))) :
    (Web.answer s now store r₁).response =
        .ok (Web.Question.relationshipVerdictJson loaded.relationships).shown ∧
      (Web.answer s now store r₂).response = .ok loaded.validate.toJson.shown := by
  -- The names come from texts in UTF-8, so no answer can fail when it is sent.
  have hnames : loaded.NamesWritable :=
    (ModelSource.eq_readable_of_loadAll _ hload).symm ▸ ModelSource.namesWritable_readable _
  exact ⟨Web.response_relationshipValidation s now h₁ hfound hnames,
    Web.response_validation_of_names s now h₂ hfound hnames⟩

end Service

/-- What the service over the models directory of the command does and answers after a reload, when
the command has ended with this outcome. -/
structure AgreesAfterReload (files : FileTree) (settings : Settings) (a : Arguments)
    (outcome : Outcome) (loaded : Architecture) (s : Surroundings) (now : String) (store : Store)
    (r : Web.Request) : Prop where
  warnings : (Web.answer s now store r).warnings = if outcome.ending.code = 1 then
    [Service.findingsWarning loaded (Relationships.validate loaded.relationships).errors] else []
  answers : ∀ (s' : Surroundings) (now' : String) (r₁ r₂ : Web.Request),
    Web.Destination.find r₁.method r₁.address =
      .endpoint (.question (.relationshipValidation "merged-architecture")) →
    Web.Destination.find r₂.method r₂.address =
      .endpoint (.question (.validation "merged-architecture")) →
    ∃ relationships whole,
      (Web.answer s' now' (Web.answer s now store r).store r₁).response = .ok relationships ∧
      (Web.answer s' now' (Web.answer s now store r).store r₂).response = .ok whole ∧
      SameVerdict a outcome relationships whole

/-- Command, service and loader come to the same verdict. Unless the look-up of a file is refused,
the command ends with 2 on a file that cannot be loaded and on a models directory of which a layer
is refused, and else with 1 exactly when what is loaded has errors. The service over the same
directory has the same errors to report after a reload, or reloads nothing. -/
theorem run_agrees_with_service (settings : Settings) (elapsed : Text) (h : LookedUp files a) :
    ∃ outcome, run files settings a elapsed = .ok outcome ∧
      (∀ file, given? a.file = some file →
        (outcome.ending.code = 2 ↔ files.Unloadable (.ofText file))) ∧
      (given? a.file = none → (outcome.ending.code = 2 ↔
        ∃ layer, files.Refuses ((sourceOf files settings a).layerDirectory layer))) ∧
      (outcome.ending.code ≠ 2 →
        ∃ loaded, (load files settings a).run.value = .ok (some loaded) ∧
          outcome.ending.code =
            if (Relationships.validate loaded.relationships).errors = [] then 0 else 1) ∧
      (given? a.file = none →
        ∀ (s : Surroundings) (now : String) (store : Store) (r : Web.Request),
          SameModels files settings a s →
          Web.Destination.find r.method r.address = .endpoint (.change .reload) →
          outcome.ending.code = 2 ∧ (Web.answer s now store r).store = store ∧
              (Web.answer s now store r).warnings = [] ∨
            ∃ loaded, (load files settings a).run.value = .ok (some loaded) ∧
              AgreesAfterReload files settings a outcome loaded s now store r) := by
  obtain ⟨found, hload, hfile, hdirectory⟩ := exists_load settings h
  refine ⟨_, run_of_load elapsed hload, ?_, ?_, ?_, ?_⟩
  · intro file hgiven
    exact (code_conclude_eq_two_iff settings a elapsed).trans (hfile file hgiven)
  · intro hgiven
    rw [← loadAll_eq_none_iff, ← hdirectory hgiven]
    exact code_conclude_eq_two_iff settings a elapsed
  · intro hcode
    cases found with
    | none => exact absurd rfl hcode
    | some loaded => exact ⟨loaded, hload, code_conclude_some settings a elapsed loaded⟩
  · intro hgiven s now store r hsame hreload
    have hloaded := (hdirectory hgiven).symm
    have hmerge : s.source.mergeFault = none := by
      rw [hsame.source]
      rfl
    cases found with
    | none =>
      have hnone : s.source.loadAll.value = none := by rw [hsame.source, hloaded]
      obtain ⟨hstore, hlogs⟩ := Web.reply_reload_none now store hnone hreload
      refine Or.inl ⟨rfl, hstore, ?_⟩
      rw [Web.Reply.warnings, hlogs, Web.warnings_of_loadAll hmerge]
    | some loaded =>
      obtain ⟨hstored, hwarnings⟩ := reply_of_reload now store hloaded hsame hreload
      refine Or.inr ⟨loaded, hload, hwarnings.trans ?_, ?_⟩
      · exact reloadWarnings_of_loaded settings a elapsed loaded
      · intro s' now' r₁ r₂ h₁ h₂
        obtain ⟨hanswer₁, hanswer₂⟩ := responses_of_found s' now' hloaded hstored h₁ h₂
        exact ⟨_, _, hanswer₁, hanswer₂, sameVerdict_of_loaded settings a elapsed _ loaded⟩

/-- A model directory with a flow that has no flow type. -/
def flowing : FileTree where
  workingDirectory := []
  entries := [
    (ModelSource.placeOf ["m"], .directory),
    (ModelSource.placeOf ["m", "business"], .directory),
    (ModelSource.placeOf ["m", "business", "f.pkl"],
      .file "f: Relationship = new \x7b\n uid = \"f\"\n relationshipType = \"Flow\"\n\x7d".toUTF8)]

def usualSettings : Settings := ⟨"data/models", "INFO", "0.0.0.0", 8080, true⟩

def printFlowing : Arguments := { directory := some "m", json := true }

def flowingSource : ModelSource := sourceOf flowing usualSettings printFlowing

def untypedFlow : Relationship where
  uid := "f"
  type := .flow
  source := "unknown"
  target := "unknown"

theorem errors_flowing :
    (Relationships.validate flowingSource.readable.relationships).errors =
      untypedFlow.ownFindings := by
  decide +kernel

def reload : Web.Request := ⟨.post, .read "/api/v1/architectures/reload", ""⟩

def validateRelationships : Web.Request :=
  ⟨.post, .read "/api/v1/architectures/merged-architecture/relationships/validate", ""⟩

def validateWhole : Web.Request :=
  ⟨.post, .read "/api/v1/architectures/merged-architecture/validate", ""⟩

def readMissing : Arguments := { file := some "m/business/g.pkl" }

theorem run_agrees_with_service_flowing :
    Arguments.read ["--json", "m"] = .run printFlowing ∧
    (∃ outcome, run flowing usualSettings readMissing "0" = .ok outcome ∧
      outcome.ending.code = 2) ∧
    ∃ outcome, run flowing usualSettings printFlowing "0" = .ok outcome ∧
      outcome.ending.code = 1 ∧
      (Web.answer ⟨flowingSource, none⟩ "" .empty reload).warnings =
        [Service.findingsWarning flowingSource.readable untypedFlow.ownFindings] ∧
      ∃ relationships whole,
        (Web.answer ⟨flowingSource, none⟩ ""
          (Web.answer ⟨flowingSource, none⟩ "" .empty reload).store
          validateRelationships).response = .ok relationships ∧
        (Web.answer ⟨flowingSource, none⟩ ""
          (Web.answer ⟨flowingSource, none⟩ "" .empty reload).store
          validateWhole).response = .ok whole ∧
        relationships.member? "isValid" ≠ some (.bool true) ∧
        relationships.member? "errors" = some (.array whole.relationshipWarnings) ∧
        whole.relationshipWarnings ≠ [] := by
  have harguments : Arguments.read ["--json", "m"] = .run printFlowing := by decide
  have hmissing : given? readMissing.file = some ("m/business/g.pkl" : Text) := by decide
  have hnowhere : flowing.exists? (.ofText "m/business/g.pkl") = .ok false := by decide +kernel
  have hmissingLooked : LookedUp flowing readMissing := fun file hfile =>
    ⟨false, Option.some.inj (hmissing.symm.trans hfile) ▸ hnowhere⟩
  obtain ⟨missing, hmissingRun, hunloaded, -⟩ :=
    run_agrees_with_service usualSettings "0" hmissingLooked
  have hfile : given? printFlowing.file = none := by decide
  have hlooked : LookedUp flowing printFlowing := fun file hgiven => by
    rw [hfile] at hgiven
    cases hgiven
  obtain ⟨outcome, hrun, -, hrefused, hending, hservice⟩ :=
    run_agrees_with_service usualSettings "0" hlooked
  have hall : flowingSource.loadAll.value = some flowingSource.readable := by
    have hnone : flowingSource.refusal? = none := by decide +kernel
    rw [flowingSource.loadAll_eq rfl, hnone]
    rfl
  have hload : (load flowing usualSettings printFlowing).run.value =
      .ok (some flowingSource.readable) := by
    rw [load_directory hfile]
    exact congrArg Except.ok hall
  have hreload : Web.Destination.find reload.method reload.address =
      .endpoint (.change .reload) := by decide +kernel
  have hrelationships : Web.Destination.find validateRelationships.method
      validateRelationships.address =
        .endpoint (.question (.relationshipValidation "merged-architecture")) := by decide +kernel
  have hwhole : Web.Destination.find validateWhole.method validateWhole.address =
      .endpoint (.question (.validation "merged-architecture")) := by decide +kernel
  have hsame : SameModels flowing usualSettings printFlowing ⟨flowingSource, none⟩ := ⟨rfl, rfl⟩
  have hfound : (Relationships.validate flowingSource.readable.relationships).errors ≠ [] := by
    rw [errors_flowing]
    decide
  have hne : outcome.ending.code ≠ 2 := by
    intro htwo
    have hnone : flowingSource.loadAll.value = none :=
      loadAll_eq_none_iff.mpr ((hrefused hfile).mp htwo)
    rw [hall] at hnone
    cases hnone
  have hcode : outcome.ending.code = 1 := by
    obtain ⟨loaded, hloaded, hcode⟩ := hending hne
    obtain rfl : flowingSource.readable = loaded :=
      Option.some.inj (Except.ok.inj (hload.symm.trans hloaded))
    rw [hcode, if_neg hfound]
  obtain ⟨htwo, -⟩ | ⟨loaded, hloaded, hagrees⟩ :=
    hservice hfile ⟨flowingSource, none⟩ "" .empty reload hsame hreload
  · exact absurd htwo hne
  obtain rfl : flowingSource.readable = loaded :=
    Option.some.inj (Except.ok.inj (hload.symm.trans hloaded))
  have hwarnings := hagrees.warnings
  rw [hcode, if_pos rfl, errors_flowing] at hwarnings
  obtain ⟨relationships, whole, hanswer₁, hanswer₂, hverdict⟩ :=
    hagrees.answers ⟨flowingSource, none⟩ "" _ _ hrelationships hwhole
  have hnonzero : outcome.ending.code ≠ 0 := by
    rw [hcode]
    decide
  exact ⟨harguments, ⟨missing, hmissingRun, (hunloaded _ hmissing).mpr (Or.inl hnowhere)⟩,
    outcome, hrun, hcode, hwarnings, relationships, whole, hanswer₁, hanswer₂,
    mt hverdict.valid.mpr hnonzero, hverdict.errors, mt hverdict.quiet.mpr hnonzero⟩

/-- A models directory whose name is longer than a name may be. -/
def readOverlong : Arguments := { directory := some (List.replicate 300 'a') }

theorem readOverlong_loads_nothing :
    Arguments.read [List.replicate 300 'a'] = .run readOverlong ∧
      given? readOverlong.file = none ∧
      ((run .empty usualSettings readOverlong "0").toOption.map fun outcome =>
        outcome.ending.code) = some 2 := by
  decide +kernel

end Archimate.Command
