import Archimate.Proofs.Document.Grammar
import Archimate.Proofs.Text.Pieces
import Archimate.Proofs.Web.SentFile

namespace Archimate

theorem Text.isWritable_of_isWord {t : Text} (h : IsWord t) : t.isWritable = true := by
  refine isWritable_iff.mpr fun c hc => ?_
  have hchar := h.isWordChar c hc
  cases c with
  | char c => rfl
  | half offset => cases hchar

theorem Form.exists_read_of_first? {α : Type} {form : Form α} {t : Text} {a : α}
    (h : form.first? t = some a) : ∃ u rest, form.read? u = some (a, rest) := by
  induction t with
  | nil => cases h
  | cons c t ih =>
    unfold first? at h
    split at h
    · rename_i hread
      cases h
      exact ⟨_, _, hread⟩
    · exact ih h

namespace Document

theorem isWord_moduleName {text source name : Text} {d : Document}
    (h : parse text source = .ok d) (hname : d.moduleName = some name) : name.IsWord := by
  unfold parse at h
  cases hrecords : recordsOf (declarations text) with
  | error e => rw [hrecords] at h; cases h
  | ok objects =>
    rw [hrecords] at h
    cases h
    obtain ⟨header, rest, hread⟩ := Form.exists_read_of_first? hname
    obtain ⟨-, -, -, -, hword, -⟩ := Declaration.readHeader?_eq_some_iff.mp hread
    exact hword

theorem isWritable_uid_ofDocument {text source : Text} {d : Document}
    (h : parse text source = .ok d) : (Architecture.ofDocument d).uid.isWritable = true := by
  show Text.isWritable ("arch-" ++ d.moduleName.getD conventions.unknownModule) = true
  rw [Text.isWritable_append, Text.isWritable_ofString, Bool.true_and]
  cases hname : d.moduleName with
  | none => exact Text.isWritable_ofString _
  | some name => exact Text.isWritable_of_isWord (isWord_moduleName h hname)

end Document

namespace Architecture
open Json

/-- What the JSON of an architecture has behind the uid. -/
def membersBehindUid (a : Architecture) : List (String × Json) :=
  [("name", .string a.name), ("description", .string a.description),
    ("version", .string a.version), ("business_layer", a.layerJson .business),
    ("application_layer", a.layerJson .application),
    ("technology_layer", a.layerJson .technology),
    ("relationships", relationshipsJson a.relationships), ("metadata", a.provenance.toJson)]

/-- The uid is shown in front, and nothing else that is shown depends on it. -/
theorem exists_shown (a : Architecture) : ∃ members : List (Text × Json), ∀ uid : Text,
    { a with uid := uid }.toJson.shown = .object (("uid", .string uid) :: members) := by
  have hname : isInternal ("uid" : Text) = false := by decide
  refine ⟨shownMembers (a.membersBehindUid.map fun member => (member.1, member.2)), fun uid => ?_⟩
  have hjson : { a with uid := uid }.toJson =
      named (("uid", .string uid) :: a.membersBehindUid) := rfl
  rw [hjson, named, List.map_cons, shown, shownMembers, hname, shown_string]
  rfl

theorem canBeSent_rename {uid uid' : Text} (a : Architecture) (h : uid.isWritable = true)
    (h' : uid'.isWritable = true) :
    { a with uid := uid }.toJson.shown.canBeSent =
      { a with uid := uid' }.toJson.shown.canBeSent := by
  obtain ⟨members, hshown⟩ := a.exists_shown
  rw [hshown, hshown, canBeSent, canBeSent, fits, fits, membersFit, membersFit, fits, fits, h, h']

end Architecture

namespace Web

variable {s : Surroundings} {store : Store} {r r' : Request} {a : Architecture}
  {text : ModelText} {id : String}

namespace Change

/-- Saving again what was saved, or what could not be saved, answers the same. -/
theorem save_repeated (s : Surroundings) (store : Store) (status : Nat) (a : Architecture) :
    save s (save s store status a).store status a = save s store status a := by
  unfold save Service.save Service.write
  cases a.validate.isValid with
  | false => rfl
  | true =>
    cases s.saveFault with
    | none => simp only [if_true, Store.save_save]
    | some message => rfl

theorem answerCreate_repeated (s : Surroundings) (store : Store) (text : ModelText) :
    answerCreate s (answerCreate s store text).store text = answerCreate s store text := by
  unfold answerCreate
  cases architectureOf text with
  | ok a => exact save_repeated s store 201 a
  | error e => rfl

theorem store_save_cases (s : Surroundings) (store : Store) (status : Nat) (a : Architecture) :
    (save s store status a).store = store ∨ (save s store status a).store = store.save a := by
  unfold save
  rcases Service.save_cases s store a with ⟨-, h⟩ | ⟨-, message, h⟩ | ⟨-, h⟩
  · exact Or.inr (by rw [h])
  · exact Or.inl (by rw [h])
  · exact Or.inl (by rw [h])

section Replace

variable {e : ServiceError}

theorem answerReplace_of_ok (hin : store.contains id = true) (ha : architectureOf text = .ok a) :
    answerReplace s store id text = save s store 200 { a with uid := id } := by
  obtain ⟨old, -, -, hrequire⟩ | ⟨-, hout, -⟩ := Service.require_cases store id
  · unfold answerReplace
    rw [hrequire, ha]
  · exact absurd (Dictionary.contains_iff.mp hin) hout

theorem answerReplace_of_error (hin : store.contains id = true)
    (he : architectureOf text = .error e) :
    answerReplace s store id text = ⟨failureResponse e, store, []⟩ := by
  obtain ⟨old, -, -, hrequire⟩ | ⟨-, hout, -⟩ := Service.require_cases store id
  · unfold answerReplace
    rw [hrequire, he]
  · exact absurd (Dictionary.contains_iff.mp hin) hout

theorem answerReplace_of_not_contains (hout : store.contains id = false) :
    answerReplace s store id text = ⟨failureResponse (.notFound id), store, []⟩ := by
  obtain ⟨-, -, hin, -⟩ | ⟨-, -, hrequire⟩ := Service.require_cases store id
  · rw [Dictionary.contains_iff.mpr hin] at hout
    cases hout
  · unfold answerReplace
    rw [hrequire]

end Replace

theorem answerReplace_repeated (s : Surroundings) (store : Store) (id : String)
    (text : ModelText) :
    answerReplace s (answerReplace s store id text).store id text =
      answerReplace s store id text := by
  cases hin : store.contains id with
  | false => rw [answerReplace_of_not_contains hin, answerReplace_of_not_contains hin]
  | true =>
    cases hbuilt : architectureOf text with
    | error e => rw [answerReplace_of_error hin hbuilt, answerReplace_of_error hin hbuilt]
    | ok a =>
      -- Whether or not the first write was made, the id is still there.
      have hstill : (save s store 200 { a with uid := (id : Text) }).store.contains id = true := by
        rcases store_save_cases s store 200 { a with uid := (id : Text) } with h | h
        · rw [h, hin]
        · rw [h, Dictionary.contains, Store.find?_save, if_pos rfl]
          rfl
      rw [answerReplace_of_ok hin hbuilt, answerReplace_of_ok hstill hbuilt]
      exact save_repeated s store 200 { a with uid := id }

theorem reload_repeated (s : Surroundings) (store : Store) :
    Service.reload s (Service.reload s store).store = Service.reload s store := by
  unfold Service.reload Service.write
  dsimp only
  cases s.source.loadAll.value with
  | none => rfl
  | some a =>
    cases s.saveFault with
    | none => dsimp only; rw [Store.save_save]
    | some message => rfl

theorem answerReload_repeated (s : Surroundings) (store : Store) :
    answerReload s (answerReload s store).store = answerReload s store := by
  have hstore : (answerReload s store).store = (Service.reload s store).store := by
    unfold answerReload
    dsimp only
    split <;> rfl
  rw [hstore]
  unfold answerReload
  rw [reload_repeated]

theorem answerDelete_repeated (store : Store) (id : String) :
    answerDelete (answerDelete store id).store id =
      ⟨failureResponse (.notFound id), (answerDelete store id).store, []⟩ := by
  have hgone : (id : Text) ∉ (answerDelete store id).store.keys := by
    unfold answerDelete
    rcases Service.delete_cases store id with ⟨-, hdelete⟩ | ⟨hout, hdelete⟩
    · rw [hdelete]
      exact Dictionary.find?_eq_none_iff.mp ((Store.find?_delete store id id).trans (if_pos rfl))
    · rw [hdelete]
      exact hout
  generalize (answerDelete store id).store = left at hgone
  unfold answerDelete
  rcases Service.delete_cases left id with ⟨hin, -⟩ | ⟨-, hdelete⟩
  · exact absurd hin hgone
  · rw [hdelete]

/-- Everything but a deletion answers the same over the store that it leaves. -/
theorem answer_repeated (s : Surroundings) (store : Store) (body : String) {c : Change}
    (hc : ∀ id, c ≠ .delete id) :
    c.answer s (c.answer s store body).store body = c.answer s store body := by
  cases c with
  | reload => exact answerReload_repeated s store
  | delete id => exact absurd rfl (hc id)
  | create =>
    unfold answer withText
    cases ModelText.read body with
    | ok text => exact answerCreate_repeated s store text
    | error e => rfl
  | replace id =>
    unfold answer withText
    cases ModelText.read body with
    | ok text => exact answerReplace_repeated s store id text
    | error e => rfl

end Change

theorem sealed_notFound (id : String) :
    (failureResponse (.notFound id)).sealed = failureResponse (.notFound id) := by
  have hname : Json.isInternal ("error" : Text) = false := by decide
  have hmessage : (ServiceError.notFound id).failure.message.isWritable = true := by
    show Text.isWritable (_ ++ (id : Text)) = true
    simp only [Text.isWritable_append, Text.isWritable_ofString, Bool.and_self]
  have hshown : (Json.named [("error", .string (ServiceError.notFound id).failure.message)]).shown =
      .named [("error", .string (ServiceError.notFound id).failure.message)] :=
    Json.shown_named (List.forall_mem_singleton.mpr ⟨hname, Json.shown_string _⟩)
  have hsent : (Json.named [("error",
      .string (ServiceError.notFound id).failure.message)]).shown.canBeSent = true := by
    refine Json.canBeSent_named (List.forall_mem_singleton.mpr ?_)
    rw [Json.shown_string]
    exact hmessage
  rw [failureResponse, Response.sealed_json, if_pos hsent, hshown]

theorem answer_repeated {c : Change} (s : Surroundings) (now now' : String) (store : Store)
    (h : Destination.find r.method r.address = .endpoint (.change c))
    (hc : ∀ id, c ≠ .delete id) :
    answer s now' (answer s now store r).store r = answer s now store r := by
  rw [answer_of_change s now' _ h, answer_of_change s now store h]
  exact congrArg Reply.sent (Change.answer_repeated s store r.body hc)

/-- What was deleted is not there to be deleted again. -/
theorem answer_deleted_again (s : Surroundings) (now now' : String) (store : Store)
    (h : Destination.find r.method r.address = .endpoint (.change (.delete id)))
    (h' : Destination.find r'.method r'.address = .endpoint (.change (.delete id))) :
    answer s now' (answer s now store r).store r' =
      ⟨failureResponse (.notFound id), (answer s now store r).store, []⟩ := by
  rw [answer_of_change s now' _ h', answer_of_change s now store h]
  show (Change.answerDelete (Change.answerDelete store id).store id).sent = _
  rw [Change.answerDelete_repeated, Reply.sent, sealed_notFound]
  rfl

/-- A creation and a replacement from one text. Both store and show what the text declares, under
its own uid or under the id in the address; or neither can show it; or both fail before they
write. -/
inductive Alike (s : Surroundings) (store : Store) (id : Text) (text : ModelText)
    (created replaced : Reply) : Prop where
  | shown (a : Architecture) (members : List (Text × Json))
    (declared : Change.architectureOf text = .ok a)
    (stores : created.store = store.save a ∧ replaced.store = store.save { a with uid := id })
    (responses : created.response = ⟨201, .json (.object (("uid", .string a.uid) :: members))⟩ ∧
      replaced.response = ⟨200, .json (.object (("uid", .string id) :: members))⟩)
  | unsent (a : Architecture) (declared : Change.architectureOf text = .ok a)
    (unsendable : a.toJson.shown.canBeSent = false)
    (stores : created.store = store.save a ∧ replaced.store = store.save { a with uid := id })
    (responses : created.response = .internalError ∧ replaced.response = .internalError)
  | unsaved (fault : s.saveFault ≠ none ∨ ∃ e, Change.architectureOf text = .error e)
    (stores : created.store = store ∧ replaced.store = store)
    (responses : created.response = .internalError ∧ replaced.response = .internalError)

namespace Change

theorem isWritable_uid_of_architectureOf (h : architectureOf text = .ok a) :
    a.uid.isWritable = true := by
  unfold architectureOf at h
  cases hparse : Document.parse text.content text.filename with
  | error e => rw [hparse] at h; cases h
  | ok d =>
    rw [hparse] at h
    cases h
    exact Document.isWritable_uid_ofDocument hparse

theorem save_of_fault (hfault : s.saveFault ≠ none) (status : Nat) (hvalid : a.errors = []) :
    save s store status a = ⟨.internalError, store, []⟩ := by
  obtain ⟨message, hmessage⟩ := Option.ne_none_iff_exists'.mp hfault
  unfold save Service.save Service.write
  rw [if_pos (Architecture.isValid_validate_iff.mpr hvalid), hmessage]
  rfl

theorem alike_of_fault (hfault : s.saveFault ≠ none) (hin : store.contains id = true) :
    Alike s store id text (answerCreate s store text).sent
      (answerReplace s store id text).sent := by
  have hcreate : answerCreate s store text = ⟨.internalError, store, []⟩ := by
    unfold answerCreate
    rcases architectureOf_cases text with ⟨a, ha, hvalid⟩ | ⟨e, he⟩
    · rw [ha]
      exact save_of_fault hfault 201 hvalid
    · rw [he]
      rfl
  have hreplace : answerReplace s store id text = ⟨.internalError, store, []⟩ := by
    rcases architectureOf_cases text with ⟨a, ha, hvalid⟩ | ⟨e, he⟩
    · rw [answerReplace_of_ok hin ha]
      exact save_of_fault hfault 200 hvalid
    · rw [answerReplace_of_error hin he]
      rfl
  rw [hcreate, hreplace]
  exact .unsaved (Or.inl hfault) ⟨rfl, rfl⟩ ⟨rfl, rfl⟩

theorem alike (s : Surroundings) (text : ModelText) (hin : store.contains id = true) :
    Alike s store id text (answerCreate s store text).sent
      (answerReplace s store id text).sent := by
  by_cases hfault : s.saveFault = none
  · rw [answerCreate_eq store text hfault, answerReplace_eq text hfault hin]
    cases hbuilt : architectureOf text with
    | error e => exact .unsaved (Or.inr ⟨e, hbuilt⟩) ⟨rfl, rfl⟩ ⟨rfl, rfl⟩
    | ok a =>
      have huid := isWritable_uid_of_architectureOf hbuilt
      have hsendable : { a with uid := (id : Text) }.toJson.shown.canBeSent =
          a.toJson.shown.canBeSent := a.canBeSent_rename (Text.isWritable_ofString id) huid
      cases hsent : a.toJson.shown.canBeSent with
      | true =>
        obtain ⟨members, hshown⟩ := a.exists_shown
        refine .shown a members hbuilt ⟨rfl, rfl⟩ ⟨?_, ?_⟩
        · show Response.sealed ⟨201, .json a.toJson⟩ = _
          rw [Response.sealed_json, if_pos hsent]
          exact congrArg (fun json => Response.mk 201 (.json json)) (hshown a.uid)
        · show Response.sealed ⟨200, .json { a with uid := (id : Text) }.toJson⟩ = _
          rw [Response.sealed_json, if_pos (hsendable.trans hsent), hshown]
      | false =>
        refine .unsent a hbuilt hsent ⟨rfl, rfl⟩ ⟨?_, ?_⟩
        · show Response.sealed ⟨201, .json a.toJson⟩ = _
          rw [Response.sealed_json, if_neg (by rw [hsent]; nofun)]
        · show Response.sealed ⟨200, .json { a with uid := (id : Text) }.toJson⟩ = _
          rw [Response.sealed_json, if_neg (by rw [hsendable, hsent]; nofun)]
  · exact alike_of_fault hfault hin

end Change

/-- Over every store a change that is made twice has done its work the first time, a second deletion
finds nothing, and replacing a stored architecture does what creating one from the same text
does. -/
theorem changes_repeat_and_agree (s : Surroundings) (now now' : String) (store : Store) :
    (∀ r c, Destination.find r.method r.address = .endpoint (.change c) →
      (∀ id, c ≠ .delete id) →
      answer s now' (answer s now store r).store r = answer s now store r) ∧
    (∀ r r' id, Destination.find r.method r.address = .endpoint (.change (.delete id)) →
      Destination.find r'.method r'.address = .endpoint (.change (.delete id)) →
      (failureResponse (.notFound id)).status = 404 ∧
      answer s now' (answer s now store r).store r' =
        ⟨failureResponse (.notFound id), (answer s now store r).store, []⟩) ∧
    ∀ r r' (id : String) text, Destination.find r.method r.address = .endpoint (.change .create) →
      Destination.find r'.method r'.address = .endpoint (.change (.replace id)) →
      ModelText.read r.body = .ok text → ModelText.read r'.body = .ok text →
      store.contains id = true →
      Alike s store id text (answer s now store r) (answer s now' store r') := by
  refine ⟨fun r c => answer_repeated s now now' store, ?_, ?_⟩
  · intro r r' id h h'
    exact ⟨rfl, answer_deleted_again s now now' store h h'⟩
  · intro r r' id text hcreate hreplace hread hread' hin
    have hsent (body : String) (hbody : ModelText.read body = .ok text)
        (respond : ModelText → Reply) : Change.withText store body respond = respond text := by
      unfold Change.withText
      rw [hbody]
    rw [answer_of_change s now store hcreate, answer_of_change s now' store hreplace, Change.answer,
      Change.answer, hsent _ hread, hsent _ hread']
    exact Change.alike s text hin

def deleteReturns : Request := ⟨.delete, .read "/api/v1/architectures/arch-m", ""⟩

/-- Created twice, replaced under the id that the creation gave it, and deleted twice. -/
theorem changes_repeat_and_agree_returns :
    ∃ store, (answer bareSurroundings "" .empty createReturns).store = store ∧
      store.contains ("arch-m" : String) = true ∧
      answer bareSurroundings "later" store createReturns =
        answer bareSurroundings "" .empty createReturns ∧
      Alike bareSurroundings store ("arch-m" : String) ⟨returnsFile, "m.pkl"⟩
        (answer bareSurroundings "" store createReturns)
        (answer bareSurroundings "later" store replaceReturns) ∧
      answer bareSurroundings "later" (answer bareSurroundings "" store deleteReturns).store
          deleteReturns =
        ⟨failureResponse (.notFound ("arch-m" : String)),
          (answer bareSurroundings "" store deleteReturns).store, []⟩ := by
  have hcreate : Destination.find createReturns.method createReturns.address =
      .endpoint (.change .create) := by decide +kernel
  have hreplace : Destination.find replaceReturns.method replaceReturns.address =
      .endpoint (.change (.replace "arch-m")) := by decide +kernel
  have hdelete : Destination.find deleteReturns.method deleteReturns.address =
      .endpoint (.change (.delete "arch-m")) := by decide +kernel
  have hread : ModelText.read returnsBody = .ok ⟨returnsFile, "m.pkl"⟩ := by
    rw [← toOption_eq_some_iff]
    decide +kernel
  have hin : (answer bareSurroundings "" .empty createReturns).store.contains
      ("arch-m" : String) = true := by decide +kernel
  obtain ⟨hrepeat, -, -⟩ := changes_repeat_and_agree bareSurroundings "" "later" .empty
  obtain ⟨-, hagain, hagree⟩ := changes_repeat_and_agree bareSurroundings "" "later"
    (answer bareSurroundings "" .empty createReturns).store
  refine ⟨_, rfl, hin, ?_, ?_, ?_⟩
  · exact hrepeat createReturns .create hcreate nofun
  · exact hagree createReturns replaceReturns "arch-m" _ hcreate hreplace hread hread hin
  · exact (hagain deleteReturns deleteReturns "arch-m" hdelete hdelete).2

end Web

end Archimate
