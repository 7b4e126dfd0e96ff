import Archimate.Proofs.Service.Operation
import Archimate.Web.Answer

namespace Archimate.Web

open Service (Operation)
open Store (Write)

/-- An answer that finds fault with a request says what is wrong with its body. -/
def Response.Explained (r : Response) : Prop :=
  r.status = 422 → ∃ problems, r.content = .json (.named [("detail", problems)])

structure Response.Refusal (r : Response) : Prop where
  failed : 400 ≤ r.status
  explained : r.Explained

theorem Response.explained_of_ne {r : Response} (h : r.status ≠ 422) : r.Explained :=
  fun hstatus => absurd hstatus h

theorem Response.refusal_of_status (status : Nat) (content : Content) (hfailed : 400 ≤ status)
    (hne : status ≠ 422) : Refusal ⟨status, content⟩ :=
  ⟨hfailed, explained_of_ne hne⟩

theorem Response.refusal_detail (problems : Json) :
    Refusal ⟨422, .json (.named [("detail", problems)])⟩ :=
  ⟨Nat.le_of_ble_eq_true rfl, fun _ => ⟨problems, rfl⟩⟩

theorem refusal_failureResponse {e : ServiceError} (h : ∀ findings, e ≠ .invalid findings) :
    (failureResponse e).Refusal := by
  cases e with
  | invalid findings => exact absurd rfl (h findings)
  | notFound uid => exact Response.refusal_of_status 404 _ (by decide) (by decide)
  | notStored uid => exact Response.refusal_of_status 500 _ (by decide) (by decide)
  | unreadable error => exact Response.refusal_of_status 500 _ (by decide) (by decide)
  | fault message => exact Response.refusal_of_status 500 _ (by decide) (by decide)

theorem BodyError.refusal_response (e : BodyError) : e.response.Refusal := by
  cases e with
  | unreadable => exact Response.refusal_of_status 400 _ (by decide) (by decide)
  | missing => exact Response.refusal_detail _
  | malformed position => exact Response.refusal_detail _
  | notObject value => exact Response.refusal_detail _
  | members errors => exact Response.refusal_detail _

namespace Change

def declared? (body : String) : Option Architecture :=
  match ModelText.read body with
  | .ok text => (architectureOf text).toOption
  | .error _ => none

/-- The operation that a change comes to, unless it is refused before. -/
def operation? (s : Surroundings) (store : Store) (body : String) : Change → Option Operation
  | .create => (declared? body).map (.save s)
  | .reload => some (.reload s)
  | .replace id =>
    if store.contains id then (declared? body).map fun a => .save s { a with uid := id } else none
  | .delete id => some (.delete id)

def writes (s : Surroundings) (store : Store) (body : String) (c : Change) : List Write :=
  (c.operation? s store body).elim [] fun op => op.writes store

inductive Effect (store : Store) : Change → List Write → Reply → Prop where
  | refused (c : Change) (r : Response) (logs : List LogRecord) (h : r.Refusal) :
    Effect store c [] ⟨r, store, logs⟩
  | created (a : Architecture) (hvalid : a.errors = []) :
    Effect store .create [.saved a] ⟨.created a.toJson, store.save a, []⟩
  | replaced (id : String) (a : Architecture) (hvalid : a.errors = []) (huid : a.uid = id)
    (hin : a.uid ∈ store.keys) :
    Effect store (.replace id) [.saved a] ⟨.ok a.toJson, store.save a, []⟩
  | deleted (id : String) (hin : (id : Text) ∈ store.keys) :
    Effect store (.delete id) [.deleted id] ⟨.deleted, store.delete id, []⟩
  | reloadedNone (logs : List LogRecord) :
    Effect store .reload [] ⟨.ok (reloadJson []), store, logs⟩
  | reloaded (source : ModelSource) (logs : List LogRecord) :
    Effect store .reload [.saved source.readable]
      ⟨.ok (reloadJson [source.readable]), store.save source.readable, logs⟩

/-- The uid under which a change writes; a new architecture brings its own. -/
def target? : Change → Option Text
  | .create => none
  | .reload => some conventions.mergedUid
  | .replace id => some id
  | .delete id => some id

variable {s : Surroundings} {store : Store} {body : String} {a : Architecture}

theorem architectureOf_cases (text : ModelText) :
    (∃ a, architectureOf text = .ok a ∧ a.errors = []) ∨
      ∃ error, architectureOf text = .error (.unreadable error) := by
  unfold architectureOf
  cases Document.parse text.content text.filename with
  | ok document => exact Or.inl ⟨_, rfl, Architecture.errors_ofDocument document⟩
  | error e => exact Or.inr ⟨e, rfl⟩

theorem declared?_cases (body : String) :
    (∃ text, ModelText.read body = .ok text ∧ declared? body = (architectureOf text).toOption) ∨
      ∃ error, ModelText.read body = .error error ∧ declared? body = none := by
  unfold declared?
  cases ModelText.read body with
  | ok text => exact Or.inl ⟨text, rfl, rfl⟩
  | error e => exact Or.inr ⟨e, rfl, rfl⟩

theorem save_of_valid (s : Surroundings) (store : Store) (status : Nat) (hvalid : a.errors = []) :
    (Operation.save s a).writes store = [.saved a] ∧
        save s store status a = ⟨⟨status, .json a.toJson⟩, store.save a, []⟩ ∨
      (Operation.save s a).writes store = [] ∧
        ∃ message, save s store status a = ⟨failureResponse (.fault message), store, []⟩ := by
  unfold Operation.writes save
  rcases Service.save_cases s store a with ⟨-, h⟩ | ⟨-, message, h⟩ | ⟨herrors, -⟩
  · exact Or.inl (by simp [h])
  · exact Or.inr ⟨by simp [h], message, by simp [h]⟩
  · exact absurd hvalid herrors

/-- Whatever a valid architecture is saved for, it is stored and shown, or nothing is written. -/
theorem effect_save {c : Change} {status : Nat} (hvalid : a.errors = [])
    (hdone : Effect store c [.saved a] ⟨⟨status, .json a.toJson⟩, store.save a, []⟩) :
    Effect store c ((Operation.save s a).writes store) (save s store status a) := by
  rcases save_of_valid s store status hvalid with ⟨hwrites, hsave⟩ | ⟨hwrites, message, hsave⟩
  · rw [hwrites, hsave]
    exact hdone
  · rw [hwrites, hsave]
    exact .refused _ _ _ (refusal_failureResponse (by simp))

theorem effect_create (s : Surroundings) (store : Store) (body : String) :
    Effect store .create (create.writes s store body) (create.answer s store body) := by
  rcases declared?_cases body with ⟨text, hread, hdeclared⟩ | ⟨e, hread, hdeclared⟩
  · simp only [writes, operation?, answer, withText, answerCreate, hread, hdeclared]
    rcases architectureOf_cases text with ⟨a, ha, hvalid⟩ | ⟨e, he⟩
    · rw [ha]
      exact effect_save hvalid (.created a hvalid)
    · rw [he]
      exact .refused _ _ _ (refusal_failureResponse (by simp))
  · simp only [writes, operation?, answer, withText, hread, hdeclared]
    exact .refused _ _ _ e.refusal_response

theorem effect_replace (s : Surroundings) (store : Store) (body : String) (id : String) :
    Effect store (.replace id) ((replace id).writes s store body)
      ((replace id).answer s store body) := by
  rcases declared?_cases body with ⟨text, hread, hdeclared⟩ | ⟨e, hread, hdeclared⟩
  · simp only [writes, operation?, answer, withText, answerReplace, hread, hdeclared]
    -- An id that is not there is refused whatever the text is; only behind it the text is parsed.
    rcases Service.require_cases store id with ⟨old, -, hin, hrequire⟩ | ⟨-, hout, hrequire⟩
    · rw [hrequire, if_pos (Dictionary.contains_iff.mpr hin)]
      rcases architectureOf_cases text with ⟨a, ha, hvalid⟩ | ⟨e, he⟩
      · rw [ha]
        exact effect_save hvalid (.replaced id { a with uid := id } hvalid rfl hin)
      · rw [he]
        exact .refused _ _ _ (refusal_failureResponse (by simp))
    · rw [hrequire, if_neg (mt Dictionary.contains_iff.mp hout)]
      exact .refused _ _ _ (refusal_failureResponse (by simp))
  · simp only [writes, operation?, answer, withText, hread, hdeclared, Option.map_none, ite_self]
    exact .refused _ _ _ e.refusal_response

theorem effect_delete (s : Surroundings) (store : Store) (body : String) (id : String) :
    Effect store (.delete id) ((delete id).writes s store body)
      ((delete id).answer s store body) := by
  simp only [writes, operation?, answer, answerDelete, Option.elim_some, Operation.writes]
  rcases Service.delete_cases store id with ⟨hin, hdelete⟩ | ⟨-, hdelete⟩
  · rw [hdelete]
    exact .deleted id hin
  · rw [hdelete]
    exact .refused _ _ _ (refusal_failureResponse (by simp))

theorem effect_reload (s : Surroundings) (store : Store) (body : String) :
    Effect store .reload (reload.writes s store body) (reload.answer s store body) := by
  simp only [writes, operation?, answer, answerReload, Option.elim_some, Operation.writes]
  rcases Service.reload_cases s store with ⟨logs, hload⟩ | ⟨logs, hload⟩ | ⟨uid, logs, hload⟩
  · rw [hload]
    exact .reloadedNone logs
  · rw [hload]
    exact .reloaded s.source logs
  · rw [hload]
    exact .refused _ _ _ (refusal_failureResponse (by simp))

theorem effect_answer (s : Surroundings) (store : Store) (body : String) (c : Change) :
    Effect store c (c.writes s store body) (c.answer s store body) := by
  cases c with
  | create => exact effect_create s store body
  | reload => exact effect_reload s store body
  | replace id => exact effect_replace s store body id
  | delete id => exact effect_delete s store body id

theorem Effect.store_eq {c : Change} {ws : List Write} {reply : Reply}
    (h : Effect store c ws reply) : reply.store = store.applyAll ws := by
  cases h <;> rfl

theorem Effect.uid_of_mem {c : Change} {ws : List Write} {reply : Reply} {uid : Text}
    (h : Effect store c ws reply) (htarget : c.target? = some uid) : ∀ w ∈ ws, w.uid = uid := by
  cases h with
  | refused => exact List.forall_mem_nil _
  | created => cases htarget
  | replaced id a hvalid huid hin =>
    cases htarget
    exact List.forall_mem_singleton.mpr huid
  | deleted id hin =>
    cases htarget
    exact List.forall_mem_singleton.mpr rfl
  | reloadedNone => exact List.forall_mem_nil _
  | reloaded =>
    cases htarget
    exact List.forall_mem_singleton.mpr rfl

end Change

end Archimate.Web
