import Archimate.Proofs.Run.Answers

namespace Archimate

open Store (Write)

namespace Store

def Valid (store : Store) : Prop := ∀ uid a, store.find? uid = some a → a.errors = []

def Write.Valid : Write → Prop
  | .saved a => a.errors = []
  | .deleted _ => True

variable {store : Store}

theorem valid_empty : Valid .empty := nofun

theorem Valid.apply {w : Write} (h : store.Valid) (hw : w.Valid) : (w.apply store).Valid := by
  intro uid a hfound
  rw [find?_apply] at hfound
  split at hfound
  · cases w with
    | saved b => cases hfound; exact hw
    | deleted other => cases hfound
  · exact h uid a hfound

theorem Valid.applyAll {ws : List Write} (h : store.Valid) (hws : ∀ w ∈ ws, w.Valid) :
    (store.applyAll ws).Valid := by
  induction ws generalizing store with
  | nil => exact h
  | cons w ws ih =>
    obtain ⟨hw, hrest⟩ := List.forall_mem_cons.mp hws
    exact ih (h.apply hw) hrest

theorem Valid.errors_of_mem_all {a : Architecture} (h : store.Valid) (ha : a ∈ store.all) :
    a.errors = [] := by
  obtain ⟨e, he, rfl⟩ := List.mem_map.mp ha
  exact h e.1 e.2 (Dictionary.find?_eq_some_iff.mpr he)

end Store

theorem Service.Operation.valid_of_mem_writes {store : Store} {op : Service.Operation} {w : Write}
    (h : w ∈ op.writes store) : w.Valid := by
  cases w with
  | saved a => exact op.errors_of_saved h
  | deleted uid => trivial

theorem Web.Request.valid_of_mem_writes {s : Surroundings} {store : Store} {r : Web.Request}
    {w : Write} (h : w ∈ r.writes s store) : w.Valid := by
  unfold Web.Request.writes at h
  split at h
  · rename_i c _
    unfold Web.Change.writes at h
    cases hop : c.operation? s store r.body with
    | none =>
      rw [hop] at h
      cases h
    | some op =>
      rw [hop] at h
      exact Service.Operation.valid_of_mem_writes h
  · cases h

/-- No step stores errors, whatever the store, the files and the body of a request are. -/
theorem Step.valid_after {store : Store} (h : store.Valid) (step : Step) :
    (step.after store).Valid := by
  cases step with
  | operation op =>
    have hwritten : (store.applyAll (op.writes store)).Valid :=
      h.applyAll fun w hw => Service.Operation.valid_of_mem_writes hw
    rwa [← op.after_eq] at hwritten
  | request s now r =>
    have hwritten : (store.applyAll (r.writes s store)).Valid :=
      h.applyAll fun w hw => Web.Request.valid_of_mem_writes hw
    rwa [← Web.store_answer s now] at hwritten

theorem valid_run {store : Store} (h : store.Valid) (steps : List Step) :
    (run store steps).Valid := by
  induction steps generalizing store with
  | nil => exact h
  | cons step steps ih => exact ih (step.valid_after h)

/-- Whatever the run, the stored architectures are valid, their validation says so unless it finds
something else that cannot be sent, and no request is told that validation failed. -/
theorem run_stores_valid (steps : List Step) :
    (∀ a ∈ (run .empty steps).all, a.validate.errors = []) ∧
    (∀ s now r a (id : String), (run .empty steps).find? (id : Text) = some a →
      Web.Destination.find r.method r.address = .endpoint (.question (.validation id)) →
      (Web.answer s now (run .empty steps) r).response.status = 200 ∧
          (Web.answer s now (run .empty steps) r).response.member? "isValid" = some (.bool true) ∧
          (Web.answer s now (run .empty steps) r).response.member? "errors" = some (.array []) ∨
        a.validate.toJson.shown.canBeSent = false ∧
          (Web.answer s now (run .empty steps) r).response = .internalError) ∧
    ∀ s now r, (Web.answer s now (run .empty steps) r).response.status = 422 →
      (Web.answer s now (run .empty steps) r).response.member? "error" = none := by
  have hvalid := valid_run Store.valid_empty steps
  refine ⟨fun a ha => hvalid.errors_of_mem_all ha, ?_,
    fun s now r => Web.member?_error_of_status s now _ r⟩
  intro s now r a id hfound hquestion
  exact Web.response_validation s now hquestion hfound (hvalid id a hfound)

def shopValidation : Web.Request := ⟨.post, .read "/api/v1/architectures/arch-Shop/validate", ""⟩

theorem run_stores_valid_shop :
    (run .empty shopBefore).find? "arch-Shop" = some Web.shop ∧
      (∀ a ∈ (run .empty shopBefore).all, a.validate.errors = []) ∧
      (Web.answer Web.bareSurroundings "" (run .empty shopBefore)
        shopValidation).response.member? "isValid" = some (.bool true) := by
  have hfound : (run .empty shopBefore).find? "arch-Shop" = some Web.shop := by
    rw [run_shopBefore]
    decide +kernel
  have hsent : Web.shop.validate.toJson.shown.canBeSent = true := by decide +kernel
  obtain ⟨hvalid, hvalidation, -⟩ := run_stores_valid shopBefore
  rcases hvalidation Web.bareSurroundings "" shopValidation _ "arch-Shop" hfound
    (by decide +kernel) with ⟨-, hisValid, -⟩ | ⟨hunsent, -⟩
  · exact ⟨hfound, hvalid, hisValid⟩
  · rw [hsent] at hunsent
    cases hunsent

/-- Two elements whose uid is half of a surrogate pair. -/
def halvesCreation : Web.Request where
  method := .post
  address := .read "/api/v1/architectures"
  body := "\x7b\"content\":\"a: BusinessDomain = new \x7b\\n uid = \\\"\\ud800\\\"\\n\x7d\\n" ++
    "b: BusinessDomain = new \x7b\\n uid = \\\"\\ud800\\\"\\n\x7d\"\x7d"

def unknownValidation : Web.Request where
  method := .post
  address := .read "/api/v1/architectures/arch-Unknown/validate"
  body := ""

theorem halvesCreation_validation_fails :
    ("arch-Unknown" : Text) ∈
        (run .empty [.request Web.bareSurroundings "" halvesCreation]).keys ∧
      (Web.answer Web.bareSurroundings ""
        (run .empty [.request Web.bareSurroundings "" halvesCreation])
        unknownValidation).response.status = 500 := by
  decide +kernel

end Archimate
