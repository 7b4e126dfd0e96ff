import Archimate.Proofs.Store.History
import Archimate.Proofs.Web.Question

namespace Archimate

open Store (Write)

namespace Web

open Service (Operation)

variable {s : Surroundings} {now : String} {store : Store} {r : Request} {c : Change}
  {a : Architecture} {ws : List Write} {body : String}

namespace Change

def asks (s : Surroundings) (body : String) : Change → List Write
  | .create => (declared? body).toList.map .saved
  | .reload => s.source.loadAll.value.toList.map .saved
  | .replace id => (declared? body).toList.map fun a => .saved { a with uid := id }
  | .delete id => [.deleted id]

theorem writes_save_of_success {status : Nat} (hvalid : a.errors = [])
    (h : (save s store status a).response.isSuccess = true) :
    (Operation.save s a).writes store = [.saved a] := by
  rcases save_of_valid s store status hvalid with ⟨hwrites, -⟩ | ⟨-, message, hsave⟩
  · exact hwrites
  · rw [hsave] at h
    cases h

theorem asks_create (h : (create.answer s store body).response.isSuccess = true) :
    create.asks s body = create.writes s store body := by
  rcases declared?_cases body with ⟨text, hread, hdeclared⟩ | ⟨e, hread, hdeclared⟩
  · simp only [asks, writes, operation?, answer, withText, answerCreate, hread, hdeclared] at h ⊢
    rcases architectureOf_cases text with ⟨a, ha, hvalid⟩ | ⟨e, he⟩
    · rw [ha] at h ⊢
      exact (writes_save_of_success hvalid h).symm
    · rw [he] at h
      cases h
  · simp only [answer, withText, hread] at h
    rw [e.refusal_response.isSuccess_eq_false] at h
    cases h

theorem asks_replace {id : String}
    (h : ((replace id).answer s store body).response.isSuccess = true) :
    (replace id).asks s body = (replace id).writes s store body := by
  rcases declared?_cases body with ⟨text, hread, hdeclared⟩ | ⟨e, hread, hdeclared⟩
  · simp only [asks, writes, operation?, answer, withText, answerReplace, hread, hdeclared] at h ⊢
    rcases Service.require_cases store id with ⟨old, -, hin, hrequire⟩ | ⟨-, hout, hrequire⟩
    · rw [hrequire] at h
      rw [if_pos (Dictionary.contains_iff.mpr hin)]
      rcases architectureOf_cases text with ⟨a, ha, hvalid⟩ | ⟨e, he⟩
      · rw [ha] at h ⊢
        exact (writes_save_of_success (a := { a with uid := id }) hvalid h).symm
      · rw [he] at h
        cases h
    · rw [hrequire] at h
      cases h
  · simp only [answer, withText, hread] at h
    rw [e.refusal_response.isSuccess_eq_false] at h
    cases h

theorem asks_delete {id : String}
    (h : ((delete id).answer s store body).response.isSuccess = true) :
    (delete id).asks s body = (delete id).writes s store body := by
  simp only [asks, writes, operation?, answer, answerDelete, Option.elim_some,
    Operation.writes] at h ⊢
  rcases Service.delete_cases store id with ⟨-, hdelete⟩ | ⟨-, hdelete⟩
  · rw [hdelete]
    rfl
  · rw [hdelete] at h
    cases h

theorem asks_reload (h : (reload.answer s store body).response.isSuccess = true) :
    reload.asks s body = reload.writes s store body := by
  simp only [asks, writes, operation?, answer, answerReload, Option.elim_some,
    Operation.writes, Service.reload, Service.write] at h ⊢
  cases hloaded : s.source.loadAll.value with
  | none => rfl
  | some a =>
    rw [hloaded] at h
    cases hfault : s.saveFault with
    | none => rfl
    | some message =>
      rw [hfault] at h
      cases h

/-- A change that succeeds has written what it asks for. -/
theorem asks_eq_writes (c : Change) (h : (c.answer s store body).response.isSuccess = true) :
    c.asks s body = c.writes s store body := by
  cases c with
  | create => exact asks_create h
  | reload => exact asks_reload h
  | replace id => exact asks_replace h
  | delete id => exact asks_delete h

end Change

namespace Request

/-- What the answer to a request tells of its writes: a request that fails has written nothing,
unless it stored what it cannot show. -/
inductive Tells (s : Surroundings) (now : String) (store : Store) (r : Request) :
    List Write → Prop where
  | succeeded (c : Change) (hfound : Destination.find r.method r.address = .endpoint (.change c))
    (hsuccess : (answer s now store r).response.isSuccess = true) :
    Tells s now store r (c.asks s r.body)
  | unsent (c : Change) (a : Architecture) (h : r.StoredUnsent store (answer s now store r) c a) :
    Tells s now store r [.saved a]
  | failed (hfailed : (answer s now store r).response.isSuccess = false)
    (h : ∀ c a, ¬r.StoredUnsent store (answer s now store r) c a) : Tells s now store r []
  | read (h : ∀ c, Destination.find r.method r.address ≠ .endpoint (.change c)) :
    Tells s now store r []

theorem asks_eq_writes (h : Destination.find r.method r.address = .endpoint (.change c))
    (hsuccess : (answer s now store r).response.isSuccess = true) :
    c.asks s r.body = r.writes s store := by
  rw [response_of_change s now store h, fullAnswer_of_change s now store h] at hsuccess
  rw [writes_of_change h]
  exact c.asks_eq_writes (Response.isSuccess_of_sealed hsuccess)

theorem Tells.store_eq (h : r.Tells s now store ws) :
    (answer s now store r).store = store.applyAll ws := by
  cases h with
  | succeeded c hfound hsuccess => rw [asks_eq_writes hfound hsuccess, store_answer]
  | unsent c a h => exact h.store_eq
  | failed hfailed hnot =>
    by_cases hchange : ∃ c, Destination.find r.method r.address = .endpoint (.change c)
    · obtain ⟨c, hc⟩ := hchange
      rcases keeps_or_storedUnsent s now store hc hfailed with hstore | ⟨a, hunsent⟩
      · exact hstore
      · exact absurd hunsent (hnot c a)
    · exact (keeps_of_no_change s now store (not_exists.mp hchange)).2
  | read h => exact (keeps_of_no_change s now store h).2

theorem exists_tells (s : Surroundings) (now : String) (store : Store) (r : Request) :
    ∃ ws, r.Tells s now store ws := by
  by_cases hchange : ∃ c, Destination.find r.method r.address = .endpoint (.change c)
  · obtain ⟨c, hc⟩ := hchange
    cases hsuccess : (answer s now store r).response.isSuccess with
    | true => exact ⟨_, .succeeded c hc hsuccess⟩
    | false =>
      by_cases hunsent : ∃ c a, r.StoredUnsent store (answer s now store r) c a
      · obtain ⟨c, a, h⟩ := hunsent
        exact ⟨_, .unsent c a h⟩
      · exact ⟨_, .failed hsuccess fun c a h => hunsent ⟨c, a, h⟩⟩
  · exact ⟨_, .read (not_exists.mp hchange)⟩

theorem shown_of_success (status : Nat) (a : Architecture)
    (h : (Response.sealed ⟨status, .json a.toJson⟩).isSuccess = true) :
    a.toJson.shown.canBeSent = true ∧
      (Response.sealed ⟨status, .json a.toJson⟩).content = .json a.toJson.shown := by
  rcases sealed_saved status a with ⟨hsent, hsealed⟩ | ⟨-, hsealed⟩
  · exact ⟨hsent, congrArg Response.content hsealed⟩
  · rw [hsealed] at h
    cases h

theorem Tells.shown (h : r.Tells s now store [.saved a])
    (hfound : Destination.find r.method r.address = .endpoint (.change c)) (hsaves : c.Saves a.uid)
    (hsuccess : (answer s now store r).response.isSuccess = true) :
    a.toJson.shown.canBeSent = true ∧
      (answer s now store r).response.content = .json a.toJson.shown := by
  have hasked : c.asks s r.body = [.saved a] := by
    generalize hws : [Write.saved a] = ws at h
    cases h with
    | succeeded c' hfound' =>
      rw [hfound] at hfound'
      cases hfound'
      rfl
    | unsent c' a' hunsent =>
      rw [hunsent.response] at hsuccess
      cases hsuccess
    | failed hfailed =>
      rw [hsuccess] at hfailed
      cases hfailed
    | read hnone => exact absurd hfound (hnone c)
  have heffect := effect_fullAnswer s now store hfound
  rw [← asks_eq_writes hfound hsuccess, hasked] at heffect
  rw [response_of_change s now store hfound] at hsuccess ⊢
  generalize fullAnswer s now store r = reply at heffect hsuccess
  cases heffect with
  | created => exact shown_of_success 201 a hsuccess
  | replaced => exact shown_of_success 200 a hsuccess
  | reloaded => cases hsaves

theorem Tells.unsendable (h : r.Tells s now store [.saved a])
    (hfailed : (answer s now store r).response.isSuccess = false) :
    a.toJson.shown.canBeSent = false := by
  generalize hws : [Write.saved a] = ws at h
  cases h with
  | succeeded c hfound hsuccess =>
    rw [hfailed] at hsuccess
    cases hsuccess
  | unsent c b hunsent =>
    cases hws
    exact hunsent.unsendable
  | _ => cases hws

end Request

end Web

inductive Step where
  | operation (op : Service.Operation)
  | request (s : Surroundings) (now : String) (r : Web.Request)

namespace Step

variable {store : Store} {step : Step} {ws : List Write}

def after (store : Store) : Step → Store
  | .operation op => op.after store
  | .request s now r => (Web.answer s now store r).store

/-- What a step tells of its writes: an operation by its result, a request by its answer. -/
inductive Tells (store : Store) : Step → List Write → Prop where
  | operation (op : Service.Operation) : Tells store (.operation op) (op.writes store)
  | request {s : Surroundings} {now : String} {r : Web.Request} {ws : List Write}
    (h : r.Tells s now store ws) : Tells store (.request s now r) ws

theorem Tells.after_eq (h : step.Tells store ws) : step.after store = store.applyAll ws := by
  cases h with
  | operation op => exact op.after_eq store
  | request h => exact h.store_eq

theorem exists_tells (store : Store) (step : Step) : ∃ ws, step.Tells store ws := by
  cases step with
  | operation op => exact ⟨_, .operation op⟩
  | request s now r =>
    obtain ⟨ws, h⟩ := r.exists_tells s now store
    exact ⟨ws, .request h⟩

end Step

def run (store : Store) (steps : List Step) : Store := steps.foldl Step.after store

theorem run_append (store : Store) (steps steps' : List Step) :
    run store (steps ++ steps') = run (run store steps) steps' :=
  List.foldl_append

namespace History

/-- The history that the steps of a run tell. -/
inductive Told : Store → List Step → History → Prop where
  | nil (store : Store) : Told store [] []
  | cons {store : Store} {step : Step} {steps : List Step} {ws : List Write} {h : History}
    (htells : step.Tells store ws) (hrest : Told (step.after store) steps h) :
    Told store (step :: steps) (ws ++ h)

variable {store : Store} {steps : List Step} {h : History}

theorem Told.run_eq (ht : Told store steps h) : run store steps = store.applyAll h := by
  induction ht with
  | nil store => rfl
  | @cons store step steps ws h htells hrest ih =>
    calc run store (step :: steps)
      _ = run (step.after store) steps := rfl
      _ = (step.after store).applyAll h := ih
      _ = store.applyAll (ws ++ h) := by rw [Store.applyAll_append, ← htells.after_eq]

theorem exists_told (store : Store) (steps : List Step) : ∃ h, Told store steps h := by
  induction steps generalizing store with
  | nil => exact ⟨[], .nil store⟩
  | cons step steps ih =>
    obtain ⟨ws, htells⟩ := step.exists_tells store
    obtain ⟨h, hrest⟩ := ih (step.after store)
    exact ⟨ws ++ h, .cons htells hrest⟩

end History

/-- What the store answers, told by the writes alone. -/
structure Store.AnswersLike (store : Store) (h : History) : Prop where
  find? : ∀ uid a, store.find? uid = some a ↔ h.last? uid = some (.saved a)
  uid : ∀ uid a, store.find? uid = some a → a.uid = uid
  contains : ∀ uid, store.contains uid = true ↔ ∃ a, h.last? uid = some (.saved a)
  require : ∀ uid a, Service.require store uid = .ok a ↔ h.last? uid = some (.saved a)
  notFound : ∀ uid, Service.require store uid = .error (.notFound uid) ↔
    ∀ a, h.last? uid ≠ some (.saved a)
  deletes : ∀ uid, (Service.delete store uid).1 = true ↔ ∃ a, h.last? uid = some (.saved a)
  all : ∀ a, a ∈ store.all ↔ h.last? a.uid = some (.saved a)
  nodup : (store.all.map Architecture.uid).Nodup
  born : ∀ a ∈ store.all, ∃ i, h.Born a.uid i ∧ ∀ j, h.Born a.uid j → j = i
  ordered : store.all.Pairwise fun a b => ∃ i j, h.Born a.uid i ∧ h.Born b.uid j ∧ i < j
  size : store.size = store.all.length

namespace History

theorem mem_keys_replay_iff (h : History) (uid : Text) :
    uid ∈ h.replay.keys ↔ ∃ a, h.last? uid = some (.saved a) := by
  rw [Dictionary.mem_keys_iff]
  exact exists_congr fun a => find?_replay h uid a

theorem require_replay (h : History) (uid : Text) (a : Architecture) :
    Service.require h.replay uid = .ok a ↔ h.last? uid = some (.saved a) := by
  rw [← find?_replay]
  rcases Service.require_cases h.replay uid with
    ⟨b, hfound, -, hrequire⟩ | ⟨hnone, -, hrequire⟩
  · rw [hrequire, hfound, Except.ok.injEq, Option.some.injEq]
  · rw [hrequire, hnone]
    exact ⟨nofun, nofun⟩

theorem require_replay_notFound (h : History) (uid : Text) :
    Service.require h.replay uid = .error (.notFound uid) ↔
      ∀ a, h.last? uid ≠ some (.saved a) := by
  rw [← not_exists, ← mem_keys_replay_iff]
  rcases Service.require_cases h.replay uid with ⟨b, -, hin, hrequire⟩ | ⟨-, hout, hrequire⟩
  · rw [hrequire]
    exact ⟨nofun, fun hout => absurd hin hout⟩
  · rw [hrequire]
    exact ⟨fun _ => hout, fun _ => rfl⟩

theorem replay_answersLike (h : History) : h.replay.AnswersLike h where
  find? := find?_replay h
  uid := named_replay h
  contains uid := Dictionary.contains_iff.trans (mem_keys_replay_iff h uid)
  require := require_replay h
  notFound := require_replay_notFound h
  deletes uid := Dictionary.contains_iff.trans (mem_keys_replay_iff h uid)
  all a := (named_replay h).mem_all.trans (find?_replay h a.uid a)
  nodup := (named_replay h).map_uid_all ▸ h.replay.nodup_keys
  born a ha := by
    have hkey : a.uid ∈ h.replay.keys := (named_replay h).map_uid_all ▸ List.mem_map_of_mem ha
    obtain ⟨i, hborn⟩ := (mem_keys_replay h a.uid).mp hkey
    exact ⟨i, hborn, fun j hj => hj.unique hborn⟩
  ordered := by
    have hpairs := keys_replay_pairwise h
    rw [← (named_replay h).map_uid_all] at hpairs
    exact List.pairwise_map.mp hpairs
  size := (List.length_map _).symm

end History

/-- The last write under the uid of the architecture is that of a request which created it or put it
there; the rest of the run writes elsewhere. -/
structure SavedLastBy (steps before : List Step) (s : Surroundings) (now : String) (r : Web.Request)
    (a : Architecture) : Prop where
  found : ∃ c : Web.Change, Web.Destination.find r.method r.address = .endpoint (.change c) ∧
    c.Saves a.uid
  tells : r.Tells s now (run .empty before) [.saved a]
  rest : ∃ after h, steps = before ++ .request s now r :: after ∧
    History.Told (run .empty (before ++ [.request s now r])) after h ∧ ∀ w ∈ h, w.uid ≠ a.uid

theorem SavedLastBy.find? {steps before : List Step} {s : Surroundings} {now : String}
    {r : Web.Request} {a : Architecture} (h : SavedLastBy steps before s now r a) :
    (run .empty steps).find? a.uid = some a := by
  obtain ⟨after, h', rfl, htold, helsewhere⟩ := h.rest
  have hsaved : run .empty (before ++ [.request s now r]) = (run .empty before).save a := by
    rw [run_append]
    exact h.tells.store_eq
  rw [List.append_cons, run_append, htold.run_eq, Store.find?_applyAll_of_ne helsewhere, hsaved,
    Store.find?_save, if_pos rfl]

/-- The store answers like any history that a run tells, and so do the questions of the service that
are answered from it. What a creation or a replacement answered is answered again; where it could
not be sent, it still cannot. -/
theorem run_answers_like_history (steps : List Step) :
    (∃ h, History.Told .empty steps h) ∧
    (∀ h, History.Told .empty steps h → (run .empty steps).AnswersLike h) ∧
    (∀ s now r, Web.Destination.find r.method r.address = .endpoint (.question .health) →
      (Web.answer s now (run .empty steps) r).response.member? "architectures_loaded" =
        some (.ofNat (run .empty steps).size)) ∧
    (∀ s now r, Web.Destination.find r.method r.address = .endpoint (.question .architectures) →
      (Web.answer s now (run .empty steps) r).response =
        (Web.Response.ok (.array ((run .empty steps).all.map Architecture.toJson))).sealed) ∧
    ∀ before s now r a, SavedLastBy steps before s now r a →
      ∀ s' now' r' (id : String), (id : Text) = a.uid →
        Web.Destination.find r'.method r'.address = .endpoint (.question (.architecture id)) →
        ((Web.answer s now (run .empty before) r).response.isSuccess = true →
          (Web.answer s' now' (run .empty steps) r').response =
            ⟨200, (Web.answer s now (run .empty before) r).response.content⟩) ∧
        ((Web.answer s now (run .empty before) r).response.isSuccess = false →
          (Web.answer s' now' (run .empty steps) r').response = .internalError) := by
  refine ⟨History.exists_told .empty steps, ?_, fun s now r => Web.member?_health s now _,
    fun s now r => Web.response_architectures s now _, ?_⟩
  · intro h htold
    rw [htold.run_eq]
    exact History.replay_answersLike h
  · intro before s now r a hlast s' now' r' id hid hquestion
    obtain ⟨c, hfound, hsaves⟩ := hlast.found
    have hstored : (run .empty steps).find? (id : Text) = some a := hid ▸ hlast.find?
    rw [Web.response_architecture s' now' hquestion hstored]
    refine ⟨fun hsuccess => ?_, fun hfailed => ?_⟩
    · obtain ⟨hsent, hcontent⟩ := hlast.tells.shown hfound hsaves hsuccess
      rw [Web.Response.sealed_ok hsent, hcontent]
      rfl
    · rw [Web.Response.ok, Web.Response.sealed_json,
        if_neg (Bool.eq_false_iff.mp (hlast.tells.unsendable hfailed))]

/-- One architecture is saved and another one is created. -/
def shopBefore : List Step :=
  [.operation (.save Web.bareSurroundings Web.bank),
    .request Web.bareSurroundings "" Web.shopCreation]

def shopStore : Store := Web.bankStore.save Web.shop

theorem run_shopBefore : run .empty shopBefore = shopStore := by decide +kernel

def shopReplacement : Web.Request where
  method := .put
  address := .read "/api/v1/architectures/arch-Shop"
  body := "\x7b\"content\":\"s: Application = new \x7b\\n uid = \\\"sales\\\"\\n\x7d\"\x7d"

def shopReplaced : Architecture :=
  { Architecture.ofDocument ⟨none, Web.ModelText.defaultFilename,
      [⟨"s", "Application", .ofList [("uid", .text "sales")]⟩]⟩ with uid := "arch-Shop" }

/-- There is nothing to replace it with. -/
def emptyReplacement : Web.Request := { shopReplacement with body := "" }

def shopQuestion : Web.Request := { shopReplacement with method := .get }

/-- What was created is replaced, the next replacement fails, and the other architecture goes. -/
def shopSteps : List Step :=
  shopBefore ++ .request Web.bareSurroundings "" shopReplacement ::
    [.request Web.bareSurroundings "" emptyReplacement,
      .request Web.bareSurroundings "" Web.bankDeletion]

theorem run_answers_like_history_shop :
    (run .empty shopSteps).keys = [("arch-Shop" : Text)] ∧
      (∃ h, History.Told .empty shopSteps h ∧ (run .empty shopSteps).AnswersLike h) ∧
      (Web.answer Web.bareSurroundings "" (run .empty shopSteps) shopQuestion).response =
        ⟨200, (Web.answer Web.bareSurroundings "" (run .empty shopBefore)
          shopReplacement).response.content⟩ := by
  have hreplace : Web.Destination.find shopReplacement.method shopReplacement.address =
      .endpoint (.change (.replace "arch-Shop")) := by decide +kernel
  have hdelete : Web.Destination.find Web.bankDeletion.method Web.bankDeletion.address =
      .endpoint (.change (.delete "arch-Bank")) := by decide +kernel
  have hdeclared : Web.Change.declared? shopReplacement.body =
      some (.ofDocument ⟨none, Web.ModelText.defaultFilename,
        [⟨"s", "Application", .ofList [("uid", .text "sales")]⟩]⟩) := by
    decide +kernel
  have hsuccess : (Web.answer Web.bareSurroundings "" (run .empty shopBefore)
      shopReplacement).response.isSuccess = true := by
    rw [run_shopBefore]
    decide +kernel
  have hreplaced : shopReplacement.Tells Web.bareSurroundings "" (run .empty shopBefore)
      [.saved shopReplaced] := by
    have htells := Web.Request.Tells.succeeded _ hreplace hsuccess
    rwa [Web.Change.asks, hdeclared] at htells
  have hstore : run .empty (shopBefore ++ [.request Web.bareSurroundings "" shopReplacement]) =
      shopStore.save shopReplaced := by
    rw [run_append, ← run_shopBefore]
    exact hreplaced.store_eq
  have hfailed : emptyReplacement.Tells Web.bareSurroundings "" (shopStore.save shopReplaced)
      [] := by
    have hstatus : (Web.answer Web.bareSurroundings "" (shopStore.save shopReplaced)
        emptyReplacement).response.status = 422 := by decide +kernel
    refine .failed (by rw [Web.Response.isSuccess, hstatus]; rfl) fun c a hunsent => ?_
    rw [hunsent.response] at hstatus
    cases hstatus
  have hdeleted : Web.bankDeletion.Tells Web.bareSurroundings "" (shopStore.save shopReplaced)
      [.deleted "arch-Bank"] :=
    .succeeded _ hdelete (by decide +kernel)
  have hafter : History.Told (shopStore.save shopReplaced)
      [.request Web.bareSurroundings "" emptyReplacement,
        .request Web.bareSurroundings "" Web.bankDeletion] [.deleted "arch-Bank"] := by
    refine .cons (.request hfailed) ?_
    rw [(Step.Tells.request hfailed).after_eq]
    exact .cons (.request hdeleted) (.nil _)
  have hlast : SavedLastBy shopSteps shopBefore Web.bareSurroundings "" shopReplacement
      shopReplaced :=
    ⟨⟨_, hreplace, .replace "arch-Shop"⟩, hreplaced, _, _, rfl, hstore ▸ hafter, by decide⟩
  have hrun : run .empty shopSteps = (shopStore.save shopReplaced).delete "arch-Bank" := by
    rw [shopSteps, List.append_cons, run_append, hstore]
    exact hafter.run_eq
  have hkeys : ((shopStore.save shopReplaced).delete "arch-Bank").keys =
      [("arch-Shop" : Text)] := by decide +kernel
  obtain ⟨⟨h, htold⟩, hlike, -, -, hanswer⟩ := run_answers_like_history shopSteps
  obtain ⟨hsaved, -⟩ := hanswer _ _ _ _ _ hlast Web.bareSurroundings "" shopQuestion "arch-Shop"
    (by decide) (by decide +kernel)
  exact ⟨hrun ▸ hkeys, ⟨h, htold, hlike h htold⟩, hsaved hsuccess⟩

/-- No request for the uid has succeeded, and it is there. -/
theorem unsentCreation_present_unsuccessfully :
    (Web.answer Web.bareSurroundings "" .empty Web.unsentCreation).response.isSuccess = false ∧
      ("arch-Unknown" : Text) ∈
        (run .empty [.request Web.bareSurroundings "" Web.unsentCreation]).keys := by
  decide +kernel

end Archimate
